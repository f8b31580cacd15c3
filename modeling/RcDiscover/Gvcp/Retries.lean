import RcDiscover.Gvcp.Exchange

/-!
# The attempts of a request

`sendAndReceive` makes three attempts, and an attempt that receives a datagram of something else
is over.  So a request survives unrelated datagrams in front of its acknowledge as long as there
are two of them at most, however quickly they arrive: `sendAndReceive_eq_ok_iff`.

* `Unrelated`, `IsAck`: the datagrams that do not match a request, and those that answer it;
* `Delivers`: from a state, the environment hands out the given datagrams, one in each wait.
-/

namespace RcDiscover
namespace Gvcp

open Program

/-! ### Datagrams -/

/-- `p` is no answer to a request with the id `id`: it is shorter than a header, or its command
or its id is another one. -/
def Unrelated (expectedAckCmd : UInt16) (id : RequestId) (p : Bytes) : Prop :=
  p.length < 8 ∨ (byteAt p 2).toUInt16 <<< 8 ||| (byteAt p 3).toUInt16 ≠ expectedAckCmd ∨
    byteAt p 6 ≠ id.1 ∨ byteAt p 7 ≠ id.2

/-- `p` is an acknowledge with status 0 that carries all of its `body`. -/
def IsAck (expectedAckCmd : UInt16) (id : RequestId) (p body : Bytes) : Prop :=
  ∃ (lenHi lenLo : UInt8) (rest : Bytes),
    p = (0 : UInt8) :: 0 :: (expectedAckCmd >>> 8).toUInt8 :: expectedAckCmd.toUInt8 :: lenHi ::
      lenLo :: id.1 :: id.2 :: (body ++ rest) ∧
    body.length = lenHi.toNat * 256 + lenLo.toNat

section Check

variable {cmd ack : UInt16} {address : UInt32} {id : RequestId} {p body : Bytes}

/-- The receive buffer does not cut the header. -/
theorem byteAt_take {i n : ℕ} (h : i < n) (p : Bytes) : byteAt (p.take n) i = byteAt p i := by
  simp only [byteAt, List.getD_eq_getElem?_getD, List.getElem?_take_of_lt h]

theorem checkReply_unrelated (h : Unrelated ack id p) :
    checkReply cmd ack address id (p.take 600) = none := by
  rw [checkReply]
  split_ifs with h8
  · rw [List.length_take] at h8
    rw [byteAt_take (show 2 < 600 by decide), byteAt_take (show 3 < 600 by decide),
      byteAt_take (show 6 < 600 by decide), byteAt_take (show 7 < 600 by decide)]
    rcases h with h | h | h | h
    · omega
    · exact if_neg fun hid => h hid.1
    · exact if_neg fun hid => h hid.2.1
    · exact if_neg fun hid => h hid.2.2
  · rfl

/-- An acknowledge is taken when it fits into the receive buffer. -/
theorem checkReply_isAck (h : IsAck ack id p body) :
    checkReply cmd ack address id (p.take 600) =
      if 8 + body.length ≤ 600 then some (.ok body) else none := by
  obtain ⟨lenHi, lenLo, rest, rfl, hlen⟩ := h
  simp only [List.take_succ_cons]
  rw [checkReply_header, if_pos ⟨⟨rfl, rfl⟩, rfl, rfl⟩, if_neg (by decide), ← hlen,
    List.length_take, List.length_append]
  by_cases hfit : body.length ≤ 592
  · rw [if_pos (by omega), if_pos (by omega), List.take_take, min_eq_left hfit, List.take_left' rfl]
  · rw [if_neg (by omega), if_neg (by omega)]

/-- What is taken of a datagram lies in it, behind the header. -/
theorem length_of_checkReply (h : checkReply cmd ack address id p = some (.ok body)) :
    8 + body.length ≤ p.length := by
  have h8 : 8 ≤ p.length := by
    by_contra hlt
    simp [checkReply, hlt] at h
  obtain ⟨b0, b1, b2, b3, b4, b5, b6, b7, rest, rfl⟩ := exists_header h8
  rw [checkReply_header] at h
  split_ifs at h with hid hstatus hbody
  · simp at h
  · simp only [Option.some.injEq, Except.ok.injEq] at h
    subst h
    rw [List.length_take]
    simp only [List.length_cons]
    omega

end Check

/-! ### Environments that deliver -/

variable {σ : Type}

/-- From the state `s` on, each attempt to send `p` and to wait for an answer receives the next
one of the datagrams. -/
def Delivers (env : SocketEnv σ) (p : Bytes) : List Datagram → σ → Prop
  | [], _ => True
  | d :: ds, s => ∃ t u v, env.send p s = (.ok (), t) ∧ env.select t = (true, u) ∧
      env.recvfrom u = (some d, v) ∧ Delivers env p ds v

section Attempts

variable {env : SocketEnv σ} {cmd ack : UInt16} {address : UInt32} {id : RequestId}
  {p body : Bytes}

variable (cmd ack address id) in
/-- One attempt that receives a datagram. -/
theorem exec_attemptLoop_delivers {d : Datagram} {ds : List Datagram} {s : σ}
    (h : Delivers env p (d :: ds) s) (n : ℕ) :
    ∃ t, Delivers env p ds t ∧
      exec (attemptLoop env cmd ack address id p (n + 1)) s =
        match checkReply cmd ack address id (d.data.take 600) with
        | none => exec (attemptLoop env cmd ack address id p n) t
        | some (.error e) => (.error e, t)
        | some (.ok body) => (.ok body, t) := by
  obtain ⟨t, u, v, hsend, hselect, hrecv, hrest⟩ := h
  refine ⟨v, hrest, ?_⟩
  rw [exec_attemptLoop_succ, hsend]
  rcases hreply : checkReply cmd ack address id (d.data.take 600) with _ | e | body <;>
    simp only [hselect, hrecv, hreply]

variable (cmd address) in
/-- Each unrelated datagram uses up one attempt. -/
theorem exec_attemptLoop_unrelated {ds rest : List Datagram} {s : σ}
    (hds : ∀ d ∈ ds, Unrelated ack id d.data) (h : Delivers env p (ds ++ rest) s) (n : ℕ) :
    ∃ t, Delivers env p rest t ∧
      exec (attemptLoop env cmd ack address id p (n + ds.length)) s =
        exec (attemptLoop env cmd ack address id p n) t := by
  induction ds generalizing s with
  | nil => exact ⟨s, h, rfl⟩
  | cons d ds ih =>
    obtain ⟨t, ht, hexec⟩ := exec_attemptLoop_delivers cmd ack address id h (n + ds.length)
    rw [checkReply_unrelated (hds d List.mem_cons_self)] at hexec
    obtain ⟨v, hv, hloop⟩ := ih (fun x hx => hds x (List.mem_cons_of_mem d hx)) ht
    exact ⟨v, hv, hexec.trans hloop⟩

/-- As many unrelated datagrams as attempts: the request fails. -/
theorem exec_attemptLoop_exhausted {ds : List Datagram} {s : σ} {n : ℕ}
    (hds : ∀ d ∈ ds, Unrelated ack id d.data) (h : Delivers env p ds s) (hn : n ≤ ds.length) :
    (exec (attemptLoop env cmd ack address id p n) s).1 = .error (noResponse cmd address) := by
  rw [← List.take_append_drop n ds] at h
  obtain ⟨t, -, hexec⟩ := exec_attemptLoop_unrelated cmd address
    (fun d hd => hds d (List.mem_of_mem_take hd)) h 0
  rw [zero_add, List.length_take, min_eq_left hn] at hexec
  rw [hexec]
  rfl

/-- What the loop returns fits into the receive buffer. -/
theorem length_of_attemptLoop (n : ℕ) (s : σ) :
    (exec (attemptLoop env cmd ack address id p n) s).1 = .ok body → 8 + body.length ≤ 600 := by
  induction n generalizing s with
  | zero => exact fun h => nomatch h
  | succ n ih =>
    rw [exec_attemptLoop_succ]
    rcases env.send p s with ⟨e | _, s₁⟩
    · exact fun h => nomatch h
    simp only
    rcases env.select s₁ with ⟨_ | _, s₂⟩
    · exact ih s₂
    simp only
    rcases env.recvfrom s₂ with ⟨_ | d, s₃⟩
    · exact ih s₃
    simp only
    rcases hreply : checkReply cmd ack address id (d.data.take 600) with _ | e | b
    · exact ih s₃
    · exact fun h => nomatch h
    · rintro ⟨⟩
      exact (length_of_checkReply hreply).trans (List.length_take_le 600 d.data)

end Attempts

/-! ### Requests -/

variable {env : SocketEnv σ} {cmd ack : UInt16} {address : UInt32} {payload body : Bytes}
  {id : RequestId} {ds : List Datagram} {d : Datagram} {s t : σ}

theorem Delivers.of_append {p : Bytes} {rest : List Datagram}
    (h : Delivers env p (ds ++ rest) s) : Delivers env p ds s := by
  induction ds generalizing s with
  | nil => trivial
  | cons x ds ih =>
    obtain ⟨t, u, v, hsend, hselect, hrecv, hrest⟩ := h
    exact ⟨t, u, v, hsend, hselect, hrecv, ih hrest⟩

/-- **A request finds its acknowledge** behind two unrelated datagrams at most. -/
theorem sendAndReceive_eq_ok_iff (hid : env.getNext s = (id, t))
    (hds : ∀ x ∈ ds, Unrelated ack id x.data) (hd : IsAck ack id d.data body)
    (hdel : Delivers env (packet cmd id payload) (ds ++ [d]) t) :
    (exec (sendAndReceive env cmd ack address payload) s).1 = .ok body ↔
      ds.length ≤ 2 ∧ 8 + body.length ≤ 600 := by
  have hrun : exec (sendAndReceive env cmd ack address payload) s =
      exec (attemptLoop env cmd ack address id (packet cmd id payload) 3) t := by
    rw [sendAndReceive, exec_bind, exec_ofState, hid]
  rw [hrun]
  constructor
  · intro h
    refine ⟨?_, length_of_attemptLoop 3 t h⟩
    by_contra hlen
    rw [exec_attemptLoop_exhausted hds hdel.of_append (by omega)] at h
    simp at h
  · rintro ⟨hlen, hfit⟩
    obtain ⟨n, hn⟩ : ∃ n, 3 = n + 1 + ds.length := ⟨2 - ds.length, by omega⟩
    rw [hn]
    obtain ⟨v, hv, hexec⟩ := exec_attemptLoop_unrelated cmd address hds hdel (n + 1)
    obtain ⟨w, -, hlast⟩ := exec_attemptLoop_delivers cmd _ address _ hv n
    rw [hexec, hlast, checkReply_isAck hd, if_pos hfit]

/-! ### A socket in which the datagrams lie already -/

/-- The environment whose state is the receive buffer of the socket. -/
def bufferEnv (id : RequestId) : SocketEnv (List Datagram) where
  getNext buffer := (id, buffer)
  send _ buffer := (.ok (), buffer)
  select buffer := (!buffer.isEmpty, buffer)
  recvfrom buffer := (buffer.head?, buffer.tail)

theorem delivers_bufferEnv (id : RequestId) (p : Bytes) (ds : List Datagram) :
    Delivers (bufferEnv id) p ds ds := by
  induction ds with
  | nil => trivial
  | cons d ds ih => exact ⟨d :: ds, d :: ds, ds, rfl, rfl, rfl, ih⟩

/-- The acknowledge of a WRITEREG behind two datagrams that are too short. -/
theorem sendAndReceive_behind_two :
    (exec (sendAndReceive (bufferEnv (0, 1)) writeregCmd writeregAck 0 [])
      [⟨0, []⟩, ⟨0, []⟩, ⟨0, [0, 0, 0, 0x83, 0, 0, 0, 1]⟩]).1 = .ok [] := by
  have hshort : ∀ x ∈ [(⟨0, []⟩ : Datagram), ⟨0, []⟩], Unrelated writeregAck (0, 1) x.data := by
    intro x hx
    have hx : x = ⟨0, []⟩ := by simpa using hx
    exact .inl (by simp [hx])
  have hack : IsAck writeregAck (0, 1) [0, 0, 0, 0x83, 0, 0, 0, 1] [] :=
    ⟨0, 0, [], by decide, by decide⟩
  have hdel := delivers_bufferEnv (0, 1) (packet writeregCmd (0, 1) [])
    ([⟨0, []⟩, ⟨0, []⟩] ++ [⟨0, [0, 0, 0, 0x83, 0, 0, 0, 1]⟩])
  exact (sendAndReceive_eq_ok_iff rfl hshort hack hdel).2 ⟨by decide, by decide⟩

/-- A third one defeats the request. -/
theorem not_sendAndReceive_behind_three :
    ¬ (exec (sendAndReceive (bufferEnv (0, 1)) writeregCmd writeregAck 0 [])
      [⟨0, []⟩, ⟨0, []⟩, ⟨0, []⟩, ⟨0, [0, 0, 0, 0x83, 0, 0, 0, 1]⟩]).1 = .ok [] := by
  intro h
  cases h

end Gvcp
end RcDiscover
