import RcDiscover.Gvcp.Client

/-!
# Register requests on the wire

An `Exchange` is one register request together with its retransmissions: the attempts that
were made for it, what came of each, and hence how the request ended.  `SocketEnv.logged`
records every call on the socket of an environment; `attemptLoop_logged` says that a run of
the retry loop leaves exactly the events of one exchange behind and ends as that exchange
does.  This is the only fact about `sendAndReceive` that the results on `writeConfig` use.
-/

namespace RcDiscover
namespace Gvcp

open Program

/-! ### Requests -/

/-- A request to read or to write one bootstrap register. -/
inductive RegisterRequest
  | read (address : UInt32)
  | write (address value : UInt32)
  deriving DecidableEq, Repr

namespace RegisterRequest

/-- The command of the request. -/
def cmd : RegisterRequest → UInt16
  | read _ => readregCmd
  | write _ _ => writeregCmd

/-- The acknowledge command that answers the request. -/
def ackCmd : RegisterRequest → UInt16
  | read _ => readregAck
  | write _ _ => writeregAck

/-- The register of the request. -/
def address : RegisterRequest → UInt32
  | read a => a
  | write a _ => a

/-- The body of the request datagram. -/
def payload : RegisterRequest → Bytes
  | read a => appendUint32 [] a
  | write a v => appendUint32 (appendUint32 [] a) v

/-- The request datagram with the given id. -/
def datagram (r : RegisterRequest) (id : RequestId) : Bytes := packet r.cmd id r.payload

/-- What `readRegister` and `writeRegister` make of the body of the acknowledge. -/
def accept : RegisterRequest → Bytes → Except GvcpException UInt32
  | read _, body =>
    if body.length < 4 then
      .error (.runtimeError "Invalid response to READREG command".toList)
    else .ok (extractUint32 body)
  | write _ _, _ => .ok 0

end RegisterRequest

theorem extractUint32_append (x : UInt32) (rest : Bytes) :
    extractUint32 (appendUint32 [] x ++ rest) = x := by
  rw [← UInt32.toNat_inj]
  simp only [extractUint32, appendUint32, byteAt, List.nil_append, List.cons_append,
    List.getD_cons_zero, List.getD_cons_succ]
  rw [BigEndian.toNat_or_uint32, BigEndian.shiftRight_uint32_eq_digits]
  exact BigEndian.value_digits_of_lt x.toNat_lt

/-- The request that a device reads in a datagram, with its id. -/
def RegisterRequest.decode : Bytes → Option (RegisterRequest × RequestId)
  | key :: flag :: cmdHi :: cmdLo :: lenHi :: lenLo :: idHi :: idLo :: body =>
    if key = 0x42 ∧ flag = 0x01 ∧ lenHi.toNat * 256 + lenLo.toNat = body.length then
      let cmd := cmdHi.toUInt16 <<< 8 ||| cmdLo.toUInt16
      if cmd = readregCmd ∧ body.length = 4 then some (.read (extractUint32 body), (idHi, idLo))
      else if cmd = writeregCmd ∧ body.length = 8 then
        some (.write (extractUint32 body) (extractUint32 (body.drop 4)), (idHi, idLo))
      else none
    else none
  | _ => none

/-- **The request and its id are recovered from the datagram.** -/
theorem RegisterRequest.decode_datagram (r : RegisterRequest) (id : RequestId) :
    decode (r.datagram id) = some (r, id) := by
  have hcmd : ∀ x : UInt16, (x >>> 8).toUInt8.toUInt16 <<< 8 ||| x.toUInt8.toUInt16 = x :=
    fun x => (BigEndian.or_uint16_eq_iff _ _ x).2 ⟨rfl, rfl⟩
  cases r with
  | read a =>
    have hlen : (appendUint32 [] a).length = 4 := rfl
    have hval := extractUint32_append a []
    rw [List.append_nil] at hval
    simp only [datagram, packet, decode, payload, cmd, hlen, hcmd]
    simp [hval]
  | write a v =>
    have hlen : (appendUint32 (appendUint32 [] a) v).length = 8 := rfl
    have haddr : extractUint32 (appendUint32 (appendUint32 [] a) v) = a :=
      extractUint32_append a (appendUint32 [] v)
    have hval := extractUint32_append v []
    have hdrop : (appendUint32 (appendUint32 [] a) v).drop 4 = appendUint32 [] v ++ [] := rfl
    rw [← hdrop] at hval
    simp only [datagram, packet, decode, payload, cmd, hlen, hcmd]
    simp [haddr, hval, show writeregCmd ≠ readregCmd by decide]

/-- `p` is an acknowledge of `r` under `id` with status 0 that carries all of its `body`. -/
def Acknowledges (r : RegisterRequest) (id : RequestId) (p body : Bytes) : Prop :=
  ∃ (lenHi lenLo : UInt8) (rest : Bytes),
    p = (0 : UInt8) :: 0 :: (r.ackCmd >>> 8).toUInt8 :: r.ackCmd.toUInt8 :: lenHi :: lenLo ::
      id.1 :: id.2 :: (body ++ rest) ∧
    body.length = lenHi.toNat * 256 + lenLo.toNat

/-- `checkReply` on a datagram whose header is spelled out. -/
theorem checkReply_header (cmd ack : UInt16) (address : UInt32) (id : RequestId)
    (b0 b1 b2 b3 b4 b5 b6 b7 : UInt8) (rest : Bytes) :
    checkReply cmd ack address id (b0 :: b1 :: b2 :: b3 :: b4 :: b5 :: b6 :: b7 :: rest) =
      if (b2 = (ack >>> 8).toUInt8 ∧ b3 = ack.toUInt8) ∧ b6 = id.1 ∧ b7 = id.2 then
        if b0.toUInt16 <<< 8 ||| b1.toUInt16 ≠ 0 then
          some (.error (statusError (b0.toUInt16 <<< 8 ||| b1.toUInt16) cmd address))
        else if b4.toNat * 256 + b5.toNat ≤ rest.length then
          some (.ok (rest.take (b4.toNat * 256 + b5.toNat)))
        else none
      else none := by
  simp only [checkReply, byteAt, List.getD_cons_zero, List.getD_cons_succ, List.length_cons,
    BigEndian.or_uint16_eq_iff, BigEndian.shiftLeft_or_eq, List.drop_succ_cons, List.drop_zero]
  rw [if_pos (by omega)]
  simp only [Nat.add_le_add_iff_right]

/-- The client takes the body of a datagram exactly when the header is the expected one and the
body is complete. -/
theorem checkReply_eq_ok_iff_header (cmd ack : UInt16) (address : UInt32) (id : RequestId)
    (p body : Bytes) :
    checkReply cmd ack address id p = some (.ok body) ↔
      ∃ (lenHi lenLo : UInt8) (rest : Bytes),
        p = (0 : UInt8) :: 0 :: (ack >>> 8).toUInt8 :: ack.toUInt8 :: lenHi :: lenLo ::
          id.1 :: id.2 :: (body ++ rest) ∧
        body.length = lenHi.toNat * 256 + lenLo.toNat := by
  constructor
  · intro h
    have hlen : 8 ≤ p.length := by
      by_contra hlt
      simp [checkReply, hlt] at h
    obtain ⟨b0, b1, b2, b3, b4, b5, b6, b7, rest, rfl⟩ := exists_header hlen
    rw [checkReply_header] at h
    split_ifs at h with hid hstatus hbody
    · simp at h
    · obtain ⟨⟨rfl, rfl⟩, rfl, rfl⟩ := hid
      obtain ⟨rfl, rfl⟩ := (BigEndian.or_uint16_eq_iff _ _ _).1 (not_not.1 hstatus)
      simp only [Option.some.injEq, Except.ok.injEq] at h
      subst h
      refine ⟨b4, b5, rest.drop (b4.toNat * 256 + b5.toNat), ?_, ?_⟩
      · rw [List.take_append_drop]
        rfl
      · rw [List.length_take, min_eq_left hbody]
  · rintro ⟨lenHi, lenLo, rest, rfl, hlen⟩
    rw [checkReply_header, if_pos ⟨⟨rfl, rfl⟩, rfl, rfl⟩, if_neg (by decide), ← hlen,
      if_pos (by simp), List.take_left' rfl]

/-- The client takes the body of a datagram exactly when it acknowledges the request. -/
theorem checkReply_eq_ok_iff (r : RegisterRequest) (id : RequestId) (p body : Bytes) :
    checkReply r.cmd r.ackCmd r.address id p = some (.ok body) ↔ Acknowledges r id p body :=
  checkReply_eq_ok_iff_header _ _ _ _ _ _

/-! ### Attempts and exchanges -/

/-- What came of one attempt at a request: `send` threw, no datagram came in time, or
`recvfrom` delivered something. -/
inductive Attempt
  | refused (e : SocketException)
  | unanswered
  | answered (d : Option Datagram)
  deriving DecidableEq, Repr

/-- A call on the socket with its outcome.  Waiting is recorded when it was in vain. -/
inductive Event
  | sent (p : Bytes) (thrown : Option SocketException)
  | timedOut
  | received (d : Option Datagram)
  deriving DecidableEq, Repr

/-- The events of an attempt that sends the datagram `p`. -/
def Attempt.events (p : Bytes) : Attempt → List Event
  | refused e => [.sent p (some e)]
  | unanswered => [.sent p none, .timedOut]
  | answered d => [.sent p none, .received d]

/-- How the request ends with this attempt, if it does. -/
def Attempt.conclusion (r : RegisterRequest) (id : RequestId) :
    Attempt → Option (Except GvcpException Bytes)
  | refused e => some (.error (.socket e))
  | unanswered => none
  | answered none => none
  | answered (some d) => checkReply r.cmd r.ackCmd r.address id (d.data.take 600)

/-- A sequence of attempts as the protocol makes them when `n` are allowed: it goes on until
one is conclusive or none is left. -/
def Conducted (r : RegisterRequest) (id : RequestId) : ℕ → List Attempt → Prop
  | 0, as => as = []
  | _ + 1, [] => False
  | n + 1, a :: as => if (a.conclusion r id).isSome then as = [] else Conducted r id n as

/-- How a sequence of attempts ends: as its conclusive attempt, or without a response. -/
def outcomeOf (r : RegisterRequest) (id : RequestId) : List Attempt → Except GvcpException Bytes
  | [] => .error (noResponse r.cmd r.address)
  | a :: as => (a.conclusion r id).getD (outcomeOf r id as)

/-- One register request with all its retransmissions. -/
structure Exchange where
  request : RegisterRequest
  id : RequestId
  attempts : List Attempt
  conducted : Conducted request id 3 attempts

namespace Exchange

/-- The calls on the socket that the exchange consists of. -/
def events (x : Exchange) : List Event :=
  x.attempts.flatMap (Attempt.events (x.request.datagram x.id))

/-- The value that the request returns or the exception that it throws. -/
def result (x : Exchange) : Except GvcpException UInt32 :=
  (outcomeOf x.request x.id x.attempts).bind x.request.accept

/-- The request was acknowledged with status 0 (and with a register value, if it reads). -/
def Succeeded (x : Exchange) : Prop := ∃ v, x.result = .ok v

/-- The request failed with the exception `e`. -/
def FailedWith (x : Exchange) (e : GvcpException) : Prop := x.result = .error e

theorem attempts_ne_nil (x : Exchange) : x.attempts ≠ [] := by
  intro h
  have := x.conducted
  rw [h] at this
  exact this

end Exchange

/-! ### The log of an environment -/

/-- The environment that also records the calls on its socket. -/
def SocketEnv.logged {σ : Type} (env : SocketEnv σ) : SocketEnv (σ × List Event) where
  getNext s := ((env.getNext s.1).1, ((env.getNext s.1).2, s.2))
  send p s :=
    let r := env.send p s.1
    (r.1, (r.2, s.2 ++ [.sent p (match r.1 with | .ok _ => none | .error e => some e)]))
  select s :=
    let r := env.select s.1
    (r.1, (r.2, if r.1 then s.2 else s.2 ++ [.timedOut]))
  recvfrom s :=
    let r := env.recvfrom s.1
    (r.1, (r.2, s.2 ++ [.received r.1]))

section Logged

variable {σ : Type} (env : SocketEnv σ) (s : σ) (log : List Event)

@[simp] theorem logged_getNext :
    env.logged.getNext (s, log) = ((env.getNext s).1, ((env.getNext s).2, log)) := rfl

@[simp] theorem logged_send (p : Bytes) :
    env.logged.send p (s, log) = ((env.send p s).1, ((env.send p s).2,
      log ++ [.sent p (match (env.send p s).1 with | .ok _ => none | .error e => some e)])) := rfl

@[simp] theorem logged_select :
    env.logged.select (s, log) = ((env.select s).1, ((env.select s).2,
      if (env.select s).1 then log else log ++ [.timedOut])) := rfl

@[simp] theorem logged_recvfrom :
    env.logged.recvfrom (s, log) = ((env.recvfrom s).1, ((env.recvfrom s).2,
      log ++ [.received (env.recvfrom s).1])) := rfl

end Logged

variable {σ : Type} (env : SocketEnv σ)

/-- **One run of the retry loop is one exchange**, and recording it changes nothing. -/
theorem attemptLoop_logged (r : RegisterRequest) (id : RequestId) (n : ℕ) (s : σ)
    (log : List Event) :
    ∃ as t, Conducted r id n as ∧
      exec (attemptLoop env r.cmd r.ackCmd r.address id (r.datagram id) n) s =
        (outcomeOf r id as, t) ∧
      exec (attemptLoop env.logged r.cmd r.ackCmd r.address id (r.datagram id) n) (s, log) =
        (outcomeOf r id as, (t, log ++ as.flatMap (Attempt.events (r.datagram id)))) := by
  induction n generalizing s log with
  | zero => exact ⟨[], s, rfl, by simp [attemptLoop, outcomeOf], by simp [attemptLoop, outcomeOf]⟩
  | succ n ih =>
    rw [exec_attemptLoop_succ, exec_attemptLoop_succ, logged_send]
    rcases env.send (r.datagram id) s with ⟨e | _, s₁⟩
    · refine ⟨[.refused e], s₁, by simp [Conducted, Attempt.conclusion], ?_, ?_⟩ <;>
        simp [outcomeOf, Attempt.conclusion, Attempt.events]
    simp only [logged_select]
    rcases env.select s₁ with ⟨_ | _, s₂⟩
    · -- the wait was in vain
      obtain ⟨as, t, hc, hr, hlog⟩ := ih s₂ (log ++ [.sent (r.datagram id) none] ++ [.timedOut])
      refine ⟨.unanswered :: as, t, by simpa [Conducted, Attempt.conclusion] using hc, hr, ?_⟩
      simpa [outcomeOf, Attempt.conclusion, Attempt.events] using hlog
    simp only [if_true, logged_recvfrom]
    rcases env.recvfrom s₂ with ⟨_ | d, s₃⟩
    · obtain ⟨as, t, hc, hr, hlog⟩ :=
        ih s₃ (log ++ [.sent (r.datagram id) none] ++ [.received none])
      refine ⟨.answered none :: as, t, by simpa [Conducted, Attempt.conclusion] using hc, hr, ?_⟩
      simpa [outcomeOf, Attempt.conclusion, Attempt.events] using hlog
    simp only
    rcases hreply : checkReply r.cmd r.ackCmd r.address id (d.data.take 600) with _ | e | body
    · -- a datagram that does not settle the request uses up the attempt
      obtain ⟨as, t, hc, hr, hlog⟩ :=
        ih s₃ (log ++ [.sent (r.datagram id) none] ++ [.received (some d)])
      refine ⟨.answered (some d) :: as, t,
        by simpa [Conducted, Attempt.conclusion, hreply] using hc,
        by simpa [outcomeOf, Attempt.conclusion, hreply] using hr, ?_⟩
      simpa [outcomeOf, Attempt.conclusion, Attempt.events, hreply] using hlog
    · refine ⟨[.answered (some d)], s₃, by simp [Conducted, Attempt.conclusion, hreply], ?_, ?_⟩ <;>
        simp [outcomeOf, Attempt.conclusion, Attempt.events, hreply]
    · refine ⟨[.answered (some d)], s₃, by simp [Conducted, Attempt.conclusion, hreply], ?_, ?_⟩ <;>
        simp [outcomeOf, Attempt.conclusion, Attempt.events, hreply]

end Gvcp
end RcDiscover
