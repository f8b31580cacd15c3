import RcDiscover.Discover
import RcDiscover.Lib.BigEndian

/-!
# `rcdiscover/force_ip.cc`

`sendCommand` fills a buffer of 64 bytes with the four parameters and sends it on every socket, each
time with a new request id in the same buffer.

* `Surroundings`: what happens around a call in a process whose other threads draw ids, too;
* `forceIpCommand_eq`: the layout of the buffer;
* `sendLoop_logged`: every run of the loop, by the list of what was `Sent`.
-/

namespace RcDiscover

open Program BigEndian GigERequestCounter
open Discover (Tolerated)

/-! ### Drawing ids among other threads -/

/-- What happens around a call: how many ids other threads draw before the next one of this thread,
and `send` on the socket at a position. -/
structure Surroundings (σ : Type) where
  othersDraw : σ → ℕ × σ
  send : ℕ → Bytes → σ → Except SocketException Unit × σ

/-- The environment on the request counter of the process.  Its state has the number of ids that
have been drawn so far. -/
def Surroundings.env {σ : Type} (x : Surroundings σ) : SendEnv (ℕ × σ) where
  getNext s :=
    let (others, t) := x.othersDraw s.2
    (idOfDraw (s.1 + others), (s.1 + others + 1, t))
  send k p s :=
    let (r, t) := x.send k p s.2
    (r, (s.1, t))

/-! ### The datagram -/

/-- `ForceIP`, with the interface name of every socket. -/
structure ForceIP where
  sockets : List Str

namespace ForceIP

/-- `force_ip_command` in front of the loop. -/
def forceIpCommand (mac : UInt64) (ip subnet gateway : UInt32) : Bytes :=
  List.replicate 64 (0 : UInt8)
    |>.set 0 0x42
    |>.set 1 0x00 -- flags
    |>.set 2 0x00 |>.set 3 0x04 -- command: FORCEIP_CMD
    |>.set 4 0x00 |>.set 5 (64 - 8) -- length
    |>.set 10 (mac >>> 40).toUInt8 |>.set 11 (mac >>> 32).toUInt8 |>.set 12 (mac >>> 24).toUInt8
    |>.set 13 (mac >>> 16).toUInt8 |>.set 14 (mac >>> 8).toUInt8 |>.set 15 (mac >>> 0).toUInt8
    |>.set 28 (ip >>> 24).toUInt8 |>.set 29 (ip >>> 16).toUInt8 |>.set 30 (ip >>> 8).toUInt8
    |>.set 31 (ip >>> 0).toUInt8
    |>.set 44 (subnet >>> 24).toUInt8 |>.set 45 (subnet >>> 16).toUInt8
    |>.set 46 (subnet >>> 8).toUInt8 |>.set 47 (subnet >>> 0).toUInt8
    |>.set 60 (gateway >>> 24).toUInt8 |>.set 61 (gateway >>> 16).toUInt8
    |>.set 62 (gateway >>> 8).toUInt8 |>.set 63 (gateway >>> 0).toUInt8

/-- `std::tie(force_ip_command[6], force_ip_command[7]) = id`. -/
def withId (p : Bytes) (id : RequestId) : Bytes := (p.set 6 id.1).set 7 id.2

section Sending

variable {σ : Type} (env : SendEnv σ)

/-- The loop of `sendCommand` over the sockets from position `k` on, with the buffer. -/
def sendLoop : ℕ → List Str → Bytes → Program σ SocketException Unit
  | _, [], _ => pure ()
  | k, _ :: sockets, p => do
    let id ← ofState env.getNext
    let p := withId p id
    tryCatch (ofExcept (env.send k p)) fun
      | .networkUnreachableException _ _ => pure ()
      | e => throw e
    sendLoop (k + 1) sockets p

/-- `sendCommand`. -/
def sendCommand (obj : ForceIP) (mac : UInt64) (ip subnet gateway : UInt32) :
    Program σ SocketException Unit :=
  sendLoop env 0 obj.sockets (forceIpCommand mac ip subnet gateway)

end Sending

/-! ### The layout -/

/-- **The buffer with an id**: header, and the parameters in front of which zeros stand. -/
theorem withId_forceIpCommand (mac : UInt64) (ip subnet gateway : UInt32) (id : RequestId) :
    withId (forceIpCommand mac ip subnet gateway) id =
      [0x42, 0x00, 0x00, 0x04, 0x00, 0x38, id.1, id.2] ++
        (List.replicate 2 0 ++ digits 6 mac.toNat ++ (List.replicate 12 0 ++ digits 4 ip.toNat) ++
          (List.replicate 12 0 ++ digits 4 subnet.toNat) ++
          (List.replicate 12 0 ++ digits 4 gateway.toNat)) := by
  rw [← shiftRight_uint64_eq_digits, ← shiftRight_uint32_eq_digits, ← shiftRight_uint32_eq_digits,
    ← shiftRight_uint32_eq_digits]
  simp [withId, forceIpCommand, List.replicate]

theorem withId_withId (p : Bytes) (id id' : RequestId) :
    withId (withId p id) id' = withId p id' := by
  rw [withId, withId, withId, List.set_comm _ _ (by decide : 6 ≠ 7), List.set_set,
    List.set_comm _ _ (by decide : 7 ≠ 6), List.set_set]

/-- `p` is a FORCEIP datagram with these parameters. -/
structure Carries (mac : UInt64) (ip subnet gateway : UInt32) (p : Bytes) : Prop where
  length_eq : p.length = 64
  command_eq : p.take 6 = [0x42, 0x00, 0x00, 0x04, 0x00, 0x38]
  body_eq : (byteAt p 4).toNat * 256 + (byteAt p 5).toNat = (p.drop 8).length
  mac_eq : value ((p.drop 10).take 6) = mac.toNat % 2 ^ 48
  ip_eq : value ((p.drop 28).take 4) = ip.toNat
  subnet_eq : value ((p.drop 44).take 4) = subnet.toNat
  gateway_eq : value ((p.drop 60).take 4) = gateway.toNat
  zero : ∀ i, 8 ≤ i → i < 64 →
    ¬ (10 ≤ i ∧ i < 16 ∨ 28 ≤ i ∧ i < 32 ∨ 44 ≤ i ∧ i < 48 ∨ 60 ≤ i) → byteAt p i = 0

section Layout

variable (mac : UInt64) (ip subnet gateway : UInt32) (id : RequestId)

theorem carries_forceIpCommand :
    Carries mac ip subnet gateway (withId (forceIpCommand mac ip subnet gateway) id) := by
  have hip : value (digits 4 ip.toNat) = ip.toNat := value_digits_of_lt ip.toNat_lt
  have hsubnet : value (digits 4 subnet.toNat) = subnet.toNat := value_digits_of_lt subnet.toNat_lt
  have hgateway : value (digits 4 gateway.toNat) = gateway.toNat :=
    value_digits_of_lt gateway.toNat_lt
  rw [withId_forceIpCommand]
  refine ⟨by simp, by simp, by simp [byteAt], ?_, ?_, ?_, ?_, ?_⟩
  · exact value_digits 6 mac.toNat
  · exact hip
  · exact hsubnet
  · exact hgateway
  · intro i h8 h64 hi
    obtain h | h | h | h : i < 10 ∨ 16 ≤ i ∧ i < 28 ∨ 32 ≤ i ∧ i < 44 ∨ 48 ≤ i ∧ i < 60 := by omega
    · interval_cases i <;> rfl
    · obtain ⟨hle, hlt⟩ := h
      interval_cases i <;> rfl
    · obtain ⟨hle, hlt⟩ := h
      interval_cases i <;> rfl
    · obtain ⟨hle, hlt⟩ := h
      interval_cases i <;> rfl

end Layout

/-- The id takes the bytes 6 and 7. -/
theorem byteAt_withId {p : Bytes} (hp : 8 ≤ p.length) (id : RequestId) :
    (byteAt (withId p id) 6, byteAt (withId p id) 7) = id := by
  simp [byteAt, withId, List.getD_eq_getElem?_getD,
    show 6 < p.length by omega, show 7 < p.length by omega]

theorem byteAt_withId_of_ne (p : Bytes) (id : RequestId) {i : ℕ} (h6 : i ≠ 6) (h7 : i ≠ 7) :
    byteAt (withId p id) i = byteAt p i := by
  simp [byteAt, withId, List.getD_eq_getElem?_getD, h6.symm, h7.symm]

/-! ### Every run of the loop -/

/-- A socket on which the buffer was sent, the number of the id in the process, and what `send`
threw. -/
structure Sent where
  socket : ℕ
  draw : ℕ
  thrown : Option SocketException

/-- The call of `send` for the socket. -/
def Sent.call (p : Bytes) (a : Sent) : SendCall := ⟨a.socket, withId p (idOfDraw a.draw), a.thrown⟩

theorem Sent.packet_call (p : Bytes) (a : Sent) :
    (a.call p).packet = withId p (idOfDraw a.draw) := rfl

theorem Sent.call_withId (p : Bytes) (id : RequestId) (a : Sent) :
    a.call (withId p id) = a.call p := by
  rw [Sent.call, Sent.call, withId_withId]

section Runs

variable {σ : Type} (x : Surroundings σ)

section Socket

variable {k n others : ℕ} {p : Bytes} {s s₁ t : σ} {r : Except SocketException Unit}

/-- One socket: the loop goes on when `send` has succeeded or the network was unreachable. -/
theorem exec_sendLoop_cons (hothers : x.othersDraw s = (others, s₁))
    (hsend : x.send k (withId p (idOfDraw (n + others))) s₁ = (r, t)) (name : Str)
    (sockets : List Str) (log : List SendCall) :
    (Tolerated (thrownBy r) →
      exec (sendLoop x.env.logged k (name :: sockets) p) ((n, s), log) =
        exec (sendLoop x.env.logged (k + 1) sockets (withId p (idOfDraw (n + others))))
          ((n + others + 1, t), log ++ [(Sent.mk k (n + others) (thrownBy r)).call p])) ∧
    (¬ Tolerated (thrownBy r) →
      exec (sendLoop x.env.logged k (name :: sockets) p) ((n, s), log) =
        (r, ((n + others + 1, t), log ++ [(Sent.mk k (n + others) (thrownBy r)).call p]))) := by
  have hid : x.env.logged.getNext ((n, s), log) =
      (idOfDraw (n + others), ((n + others + 1, s₁), log)) := by
    simp [SendEnv.logged, Surroundings.env, hothers]
  have hcall : x.env.logged.send k (withId p (idOfDraw (n + others))) ((n + others + 1, s₁), log) =
      (r, ((n + others + 1, t), log ++ [(Sent.mk k (n + others) (thrownBy r)).call p])) := by
    simp [SendEnv.logged, Surroundings.env, hsend, Sent.call]
  rw [sendLoop, exec_bind, exec_ofState, hid]
  simp only [exec_bind, exec_tryCatch, exec_ofExcept, hcall]
  rcases r with (_ | _) | _
  · exact ⟨fun h => h.elim, fun _ => rfl⟩
  · exact ⟨fun _ => rfl, fun h => absurd trivial h⟩
  · exact ⟨fun _ => rfl, fun h => absurd trivial h⟩

end Socket

/-- **Every run of the loop**: the sockets in order, with the buffer and ids that are drawn one
after the other. -/
theorem sendLoop_logged (k : ℕ) (sockets : List Str) (p : Bytes) (n : ℕ) (s : σ)
    (log : List SendCall) :
    ∃ (sents : List Sent) (res : Except SocketException Unit) (n' : ℕ) (t : σ),
      exec (sendLoop x.env.logged k sockets p) ((n, s), log) =
        (res, ((n', t), log ++ sents.map (Sent.call p))) ∧
      Drawn n n' (sents.map Sent.draw) ∧
      ((∀ a ∈ sents, Tolerated a.thrown) →
        res = .ok () ∧ sents.map Sent.socket = List.range' k sockets.length) := by
  induction sockets generalizing k p n s log with
  | nil => exact ⟨[], .ok (), n, s, by simp [sendLoop], drawn_nil n, by simp⟩
  | cons name sockets ih =>
    rcases hothers : x.othersDraw s with ⟨others, s₁⟩
    rcases hsend : x.send k (withId p (idOfDraw (n + others))) s₁ with ⟨r, t⟩
    obtain ⟨hgo, hstop⟩ := exec_sendLoop_cons x hothers hsend name sockets log
    by_cases hr : Tolerated (thrownBy r)
    · obtain ⟨sents, res, n', u, hrun, hdrawn, hok⟩ := ih (k + 1)
        (withId p (idOfDraw (n + others))) (n + others + 1) t
        (log ++ [(Sent.mk k (n + others) (thrownBy r)).call p])
      refine ⟨⟨k, n + others, thrownBy r⟩ :: sents, res, n', u, ?_, hdrawn.cons, fun h => ?_⟩
      · rw [hgo hr, hrun]
        simp [Sent.call_withId]
      · obtain ⟨hres, hsockets⟩ := hok fun a ha => h a (List.mem_cons_of_mem _ ha)
        refine ⟨hres, ?_⟩
        rw [List.map_cons, hsockets, List.length_cons, List.range'_succ]
    · refine ⟨[⟨k, n + others, thrownBy r⟩], r, n + others + 1, t, ?_, (drawn_nil _).cons,
        fun h => ?_⟩
      · rw [hstop hr, List.map_singleton]
      · exact absurd (h _ List.mem_cons_self) hr

end Runs

/-! ### Every run of `sendCommand` -/

/-- A run of `sendCommand` over so many sockets that ends with `res`, with these calls of `send`
and so many ids drawn in the process meanwhile, has sent the parameters on every socket. -/
structure Intact (mac : UInt64) (ip subnet gateway : UInt32) (sockets draws : ℕ)
    (res : Except SocketException Unit) (calls : List SendCall) : Prop where
  returns : res = .ok ()
  once : calls.map SendCall.socket = List.range sockets
  carries : ∀ c ∈ calls, Carries mac ip subnet gateway c.packet
  agree : ∀ c ∈ calls, ∀ c' ∈ calls, ∀ i, i ≠ 6 → i ≠ 7 → byteAt c.packet i = byteAt c'.packet i
  distinct : draws < 65536 → (calls.map fun c => (byteAt c.packet 6, byteAt c.packet 7)).Nodup

/-- **The parameters are sent on every socket**, whichever networks are unreachable. -/
theorem sendCommand_intact {σ : Type} (x : Surroundings σ) (obj : ForceIP) (mac : UInt64)
    (ip subnet gateway : UInt32) (n : ℕ) (s : σ) :
    let run := exec (obj.sendCommand x.env.logged mac ip subnet gateway) ((n, s), [])
    (∀ c ∈ run.2.2, Tolerated c.thrown) →
      Intact mac ip subnet gateway obj.sockets.length (run.2.1.1 - n) run.1 run.2.2 := by
  intro run htolerated
  obtain ⟨sents, res, n', t, hrun, hdrawn, hok⟩ :=
    sendLoop_logged x 0 obj.sockets (forceIpCommand mac ip subnet gateway) n s []
  have hrun' : run = (res, ((n', t), sents.map (Sent.call (forceIpCommand mac ip subnet gateway))))
    := hrun
  rw [hrun'] at htolerated ⊢
  obtain ⟨hres, hsockets⟩ := hok fun a ha => htolerated _ (List.mem_map_of_mem ha)
  have hcarries := carries_forceIpCommand mac ip subnet gateway
  have hlen : (forceIpCommand mac ip subnet gateway).length = 64 := by simp [forceIpCommand]
  generalize forceIpCommand mac ip subnet gateway = p at hcarries hlen
  refine ⟨hres, ?_, ?_, ?_, fun hn => ?_⟩
  · rw [List.map_map, List.range_eq_range', ← hsockets]
    rfl
  · rintro c hc
    obtain ⟨a, -, rfl⟩ := List.mem_map.1 hc
    rw [Sent.packet_call]
    exact hcarries _
  · rintro c hc c' hc' i h6 h7
    obtain ⟨a, -, rfl⟩ := List.mem_map.1 hc
    obtain ⟨a', -, rfl⟩ := List.mem_map.1 hc'
    rw [Sent.packet_call, Sent.packet_call, byteAt_withId_of_ne p _ h6 h7,
      byteAt_withId_of_ne p _ h6 h7]
  · rw [List.map_map]
    have hid : (fun c : SendCall => (byteAt c.packet 6, byteAt c.packet 7)) ∘ Sent.call p =
        idOfDraw ∘ Sent.draw := funext fun a => byteAt_withId (by omega) _
    rw [hid, ← List.map_map]
    exact hdrawn.nodup_ids hn

end ForceIP
end RcDiscover
