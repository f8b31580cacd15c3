import RcDiscover.Gvcp.Retries

/-!
# Whose reply a request takes

Any host can send to the socket of a `GvcpIPConfig`, and acknowledges of earlier requests may come
late.  `sendAndReceive` compares the status, the command, the id and the length of what it receives,
and the id is that of no other request of the process.  The address of the sender is fetched from
`recvfrom` and looked at nowhere.

* `Usable`: a datagram that the loop takes for the reply;
* `Call`: a call of `sendAndReceive` with everything that happens around it, `Accepted`: every
  payload that the calls of a process return comes from the addressed device and answers the
  current request.

`accepted_iff` (**main result**): this holds exactly when no other host sends a usable datagram.
-/

namespace RcDiscover
namespace Gvcp

open Program GigERequestCounter

/-! ### Usable datagrams -/

/-- `d` acknowledges the request with the id `id`, and the receive buffer holds all of it. -/
def Usable (expectedAckCmd : UInt16) (id : RequestId) (d : Datagram) (body : Bytes) : Prop :=
  IsAck expectedAckCmd id d.data body ∧ 8 + body.length ≤ 600

theorem IsAck.append {ack : UInt16} {id : RequestId} {p body : Bytes} (h : IsAck ack id p body)
    (rest : Bytes) : IsAck ack id (p ++ rest) body := by
  obtain ⟨lenHi, lenLo, rest', rfl, hlen⟩ := h
  exact ⟨lenHi, lenLo, rest' ++ rest, by simp, hlen⟩

/-- An acknowledge answers the request with one id only. -/
theorem IsAck.id_eq {ack ack' : UInt16} {id id' : RequestId} {p body body' : Bytes}
    (h : IsAck ack id p body) (h' : IsAck ack' id' p body') : id = id' := by
  obtain ⟨lenHi, lenLo, rest, rfl, -⟩ := h
  obtain ⟨lenHi', lenLo', rest', hp, -⟩ := h'
  simp only [List.cons.injEq] at hp
  exact Prod.ext hp.2.2.2.2.2.2.1 hp.2.2.2.2.2.2.2.1

/-- The loop takes the body of a datagram exactly when it is usable. -/
theorem checkReply_take_eq_ok_iff (cmd ack : UInt16) (address : UInt32) (id : RequestId)
    (d : Datagram) (body : Bytes) :
    checkReply cmd ack address id (d.data.take 600) = some (.ok body) ↔ Usable ack id d body := by
  constructor
  · intro h
    have hack : IsAck ack id (d.data.take 600) body :=
      (checkReply_eq_ok_iff_header cmd ack address id _ body).1 h
    have hdata := hack.append (d.data.drop 600)
    rw [List.take_append_drop] at hdata
    exact ⟨hdata, (length_of_checkReply h).trans (List.length_take_le 600 d.data)⟩
  · rintro ⟨hack, hfit⟩
    rw [checkReply_isAck hack, if_pos hfit]

/-! ### What a call receives -/

/-- How the result of a call depends on what it receives: it is the body of the last datagram, if
that is usable, and no other one is. -/
structure SettledBy (ack : UInt16) (id : RequestId) (events : List Event)
    (res : Except GvcpException Bytes) : Prop where
  ok : ∀ body, res = .ok body →
    ∃ d, events.getLast? = some (.received (some d)) ∧ Usable ack id d body
  received : ∀ d body, .received (some d) ∈ events → Usable ack id d body →
    events.getLast? = some (.received (some d)) ∧ res = .ok body

section SettledBy

variable {ack : UInt16} {id : RequestId} {before events : List Event}
  {res : Except GvcpException Bytes}

/-- A call that receives no datagram. -/
theorem settledBy_error (e : GvcpException) (h : ∀ d, .received (some d) ∉ events) :
    SettledBy ack id events (.error e) where
  ok _ hbody := nomatch hbody
  received d _ hd _ := absurd hd (h d)

/-- An attempt without a usable datagram in front of the other ones. -/
theorem SettledBy.append (h : SettledBy ack id events res)
    (hbefore : ∀ d body, .received (some d) ∈ before → ¬ Usable ack id d body) :
    SettledBy ack id (before ++ events) res where
  ok body hbody := by
    obtain ⟨d, hd, husable⟩ := h.ok body hbody
    exact ⟨d, by rw [List.getLast?_append, hd, Option.some_or], husable⟩
  received d body hd husable := by
    rcases List.mem_append.1 hd with hd | hd
    · exact absurd husable (hbefore d body hd)
    · obtain ⟨hlast, hres⟩ := h.received d body hd husable
      exact ⟨by rw [List.getLast?_append, hlast, Option.some_or], hres⟩

end SettledBy

variable {σ : Type}

/-- **What the attempts receive settles the result.** -/
theorem attemptLoop_settledBy (env : SocketEnv σ) (cmd ack : UInt16) (address : UInt32)
    (id : RequestId) (p : Bytes) (n : ℕ) (s : σ) (log : List Event) :
    ∃ res t events,
      exec (attemptLoop env.logged cmd ack address id p n) (s, log) = (res, (t, log ++ events)) ∧
        SettledBy ack id events res := by
  induction n generalizing s log with
  | zero =>
    exact ⟨.error (noResponse cmd address), s, [], by simp [attemptLoop],
      settledBy_error _ (by simp)⟩
  | succ n ih =>
    rw [exec_attemptLoop_succ, logged_send]
    rcases env.send p s with ⟨e | _, s₁⟩
    · exact ⟨.error (.socket e), s₁, [.sent p (some e)], rfl, settledBy_error _ (by simp)⟩
    simp only [logged_select]
    rcases env.select s₁ with ⟨_ | _, s₂⟩
    · obtain ⟨res, t, events, hrun, hsettled⟩ := ih s₂ (log ++ [.sent p none] ++ [.timedOut])
      exact ⟨res, t, [.sent p none, .timedOut] ++ events, by simpa using hrun,
        hsettled.append (by simp)⟩
    simp only [if_true, logged_recvfrom]
    rcases env.recvfrom s₂ with ⟨_ | d, s₃⟩
    · obtain ⟨res, t, events, hrun, hsettled⟩ := ih s₃ (log ++ [.sent p none] ++ [.received none])
      exact ⟨res, t, [.sent p none, .received none] ++ events, by simpa using hrun,
        hsettled.append (by simp)⟩
    simp only
    rcases hreply : checkReply cmd ack address id (d.data.take 600) with _ | e | body
    · -- a datagram that is not the reply uses up the attempt
      obtain ⟨res, t, events, hrun, hsettled⟩ :=
        ih s₃ (log ++ [.sent p none] ++ [.received (some d)])
      refine ⟨res, t, [.sent p none, .received (some d)] ++ events, by simpa using hrun,
        hsettled.append fun x body hx husable => ?_⟩
      obtain rfl : x = d := by simpa using hx
      rw [← checkReply_take_eq_ok_iff cmd ack address, hreply] at husable
      cases husable
    · refine ⟨.error e, s₃, [.sent p none, .received (some d)], by simp, ?_, ?_⟩
      · rintro _ ⟨⟩
      intro x body hx husable
      obtain rfl : x = d := by simpa using hx
      rw [← checkReply_take_eq_ok_iff cmd ack address, hreply] at husable
      cases husable
    · have husable := (checkReply_take_eq_ok_iff cmd ack address id d body).1 hreply
      refine ⟨.ok body, s₃, [.sent p none, .received (some d)], by simp, ?_, ?_⟩
      · rintro _ ⟨⟩
        exact ⟨d, rfl, husable⟩
      · intro x body' hx hx'
        obtain rfl : x = d := by simpa using hx
        rw [← checkReply_take_eq_ok_iff cmd ack address, hreply] at hx'
        exact ⟨rfl, by simpa using hx'⟩

/-! ### The calls of a process -/

/-- A call of `sendAndReceive` on the object for the device at `ip`.  All that happens around it, in
other threads and on the network, is in the environment. -/
structure Call (σ : Type) where
  ip : UInt32
  cmd : UInt16
  expectedAckCmd : UInt16
  address : UInt32
  payload : Bytes
  env : SocketEnv σ
  start : σ

/-- The call with the id that it gets: its result and what it does on the socket. -/
def Call.run (c : Call σ) (id : RequestId) : Except GvcpException Bytes × List Event :=
  let env := { c.env with getNext := fun s => (id, s) }
  let r := exec (sendAndReceive env.logged c.cmd c.expectedAckCmd c.address c.payload) (c.start, [])
  (r.1, r.2.2)

theorem Call.run_settledBy (c : Call σ) (id : RequestId) :
    SettledBy c.expectedAckCmd id (c.run id).2 (c.run id).1 := by
  obtain ⟨res, t, events, hrun, hsettled⟩ :=
    attemptLoop_settledBy { c.env with getNext := fun s => (id, s) } c.cmd c.expectedAckCmd
      c.address id (packet c.cmd id c.payload) 3 c.start []
  have hcall : c.run id = (res, events) := by
    simp only [Call.run, sendAndReceive, exec_bind, exec_ofState, logged_getNext, hrun,
      List.nil_append]
  rw [hcall]
  exact hsettled

/-- A payload is accepted only from the addressed device and only for the current request.  The
process uses its request counter for these calls, and for requests of other kinds (`none`). -/
def Accepted (uses : List (Option (Call σ))) : Prop :=
  ∀ k c body, uses[k]? = some (some c) → (c.run (idOfDraw k)).1 = .ok body →
    ∃ d, (c.run (idOfDraw k)).2.getLast? = some (.received (some d)) ∧
      IsAck c.expectedAckCmd (idOfDraw k) d.data body ∧ d.source = c.ip ∧
      ∀ j < uses.length, j ≠ k → ∀ ack body', ¬ IsAck ack (idOfDraw j) d.data body'

/-- The usable datagrams that the calls receive come from the devices that are addressed. -/
def FromDevices (uses : List (Option (Call σ))) : Prop :=
  ∀ k c d body, uses[k]? = some (some c) → .received (some d) ∈ (c.run (idOfDraw k)).2 →
    Usable c.expectedAckCmd (idOfDraw k) d body → d.source = c.ip

/-- What `readRegister` returns is the beginning of the payload of its request. -/
theorem exec_readRegister_eq_ok_iff (env : SocketEnv σ) (address v : UInt32) (s : σ) :
    (exec (readRegister env address) s).1 = .ok v ↔
      ∃ body, (exec (sendAndReceive env readregCmd readregAck address (appendUint32 [] address))
        s).1 = .ok body ∧ 4 ≤ body.length ∧ extractUint32 body = v := by
  rw [readRegister, exec_bind]
  rcases exec (sendAndReceive env readregCmd readregAck address (appendUint32 [] address)) s
    with ⟨e | body, t⟩
  · simp
  · by_cases hlen : body.length < 4
    · simp [hlen]
    · simp [hlen, show 4 ≤ body.length by omega]

/-- `writeRegister` reports success when its request returns a payload. -/
theorem exec_writeRegister_eq_ok_iff (env : SocketEnv σ) (address value : UInt32) (s : σ) :
    (exec (writeRegister env address value) s).1 = .ok () ↔
      ∃ body, (exec (sendAndReceive env writeregCmd writeregAck address
        (appendUint32 (appendUint32 [] address) value)) s).1 = .ok body := by
  rw [writeRegister, exec_bind]
  rcases exec (sendAndReceive env writeregCmd writeregAck address
    (appendUint32 (appendUint32 [] address) value)) s with ⟨e | body, t⟩ <;> simp

/-- **The replies of a process come from the addressed devices exactly when nobody else sends a
usable one.** -/
theorem accepted_iff (uses : List (Option (Call σ))) (huses : uses.length < 65535) :
    (Accepted uses ↔ FromDevices uses) ∧
      (∀ (env : SocketEnv σ) (address v : UInt32) (s : σ),
        (exec (readRegister env address) s).1 = .ok v →
          ∃ body, (exec (sendAndReceive env readregCmd readregAck address
            (appendUint32 [] address)) s).1 = .ok body ∧ extractUint32 body = v) ∧
      ∀ (env : SocketEnv σ) (address value : UInt32) (s : σ),
        (exec (writeRegister env address value) s).1 = .ok () →
          ∃ body, (exec (sendAndReceive env writeregCmd writeregAck address
            (appendUint32 (appendUint32 [] address) value)) s).1 = .ok body := by
  refine ⟨⟨?_, ?_⟩, ?_, ?_⟩
  · intro h k c d body hk hd husable
    obtain ⟨hlast, hres⟩ := (c.run_settledBy (idOfDraw k)).received d body hd husable
    obtain ⟨d', hlast', -, hsource, -⟩ := h k c body hk hres
    obtain rfl : d = d' := by simpa [hlast] using hlast'
    exact hsource
  · intro h k c body hk hres
    obtain ⟨d, hlast, husable⟩ := (c.run_settledBy (idOfDraw k)).ok body hres
    refine ⟨d, hlast, husable.1,
      h k c d body hk (List.mem_of_getLast? hlast) husable, fun j hj hne ack body' hack => ?_⟩
    have hklt : k < uses.length := (List.getElem?_eq_some_iff.1 hk).1
    have hmod := mod_eq_of_idOfDraw_eq (hack.id_eq husable.1)
    exact hne (by omega)
  · intro env address v s h
    obtain ⟨body, hbody, -, hv⟩ := (exec_readRegister_eq_ok_iff env address v s).1 h
    exact ⟨body, hbody, hv⟩
  · intro env address value s h
    exact (exec_writeRegister_eq_ok_iff env address value s).1 h

/-! ### Two calls -/

/-- A WRITEREG to the device at 192.168.0.1, on a socket in which the datagrams lie already. -/
def bufferedCall (buffer : List Datagram) : Call (List Datagram) where
  ip := 0xC0A80001
  cmd := writeregCmd
  expectedAckCmd := writeregAck
  address := 0
  payload := []
  env := bufferEnv (0, 0)
  start := buffer

/-- A late acknowledge of the first request comes before that of the second one. -/
theorem accepted_behind_late :
    Accepted [none, some (bufferedCall
      [⟨0xC0A80001, [0, 0, 0, 0x83, 0, 0, 0, 1]⟩, ⟨0xC0A80001, [0, 0, 0, 0x83, 0, 0, 0, 2]⟩])] := by
  refine (accepted_iff _ (by decide)).1.2 fun k c d body hk hd _ => ?_
  obtain rfl : k = 1 := by
    match k, hk with
    | 1, _ => rfl
    | k + 2, hk => simp at hk
  obtain rfl := Option.some.inj (Option.some.inj hk)
  have hlog : (Call.run (bufferedCall
      [⟨0xC0A80001, [0, 0, 0, 0x83, 0, 0, 0, 1]⟩, ⟨0xC0A80001, [0, 0, 0, 0x83, 0, 0, 0, 2]⟩])
      (idOfDraw 1)).2 =
        [.sent (packet writeregCmd (0, 2) []) none,
          .received (some ⟨0xC0A80001, [0, 0, 0, 0x83, 0, 0, 0, 1]⟩),
          .sent (packet writeregCmd (0, 2) []) none,
          .received (some ⟨0xC0A80001, [0, 0, 0, 0x83, 0, 0, 0, 2]⟩)] := by
    decide
  rw [hlog] at hd
  simp only [List.mem_cons, reduceCtorEq, Event.received.injEq, Option.some.injEq, List.not_mem_nil,
    false_or, or_false] at hd
  rcases hd with rfl | rfl <;> rfl

/-- A host at 10.0.0.1 answers in the place of the device. -/
theorem not_accepted_foreign :
    ¬ Accepted [some (bufferedCall [⟨0x0A000001, [0, 0, 0, 0x83, 0, 0, 0, 1]⟩])] := by
  intro h
  obtain ⟨d, hlast, -, hsource, -⟩ := h 0 _ [] rfl (by decide)
  have hd : (⟨0x0A000001, [0, 0, 0, 0x83, 0, 0, 0, 1]⟩ : Datagram) = d := by
    simpa using (show some (Event.received (some ⟨0x0A000001, [0, 0, 0, 0x83, 0, 0, 0, 1]⟩)) =
      some (.received (some d)) from hlast)
  subst hd
  exact absurd hsource (by decide)

end Gvcp
end RcDiscover
