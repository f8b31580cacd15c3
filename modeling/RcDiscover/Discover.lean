import RcDiscover.DeviceInfo
import RcDiscover.Lib.Program
import RcDiscover.Lib.Runs
import RcDiscover.RequestCounter

/-!
# `rcdiscover/discover.cc`

A `Discover` object asks on its sockets for devices and collects their acknowledgements.

* `broadcastRequest` is a program over an environment `SendEnv σ`, which says what the request
  counter returns and whether `send` throws;
* `listenOnSocket` is one pass of the loop of a listener thread, over what `recvfrom` left in
  the buffer of 600 bytes;
* `getResponse` is the part that runs under the mutex once the wait is over.

`broadcastRequest_logged` describes every run of `broadcastRequest` by the list of its `Ask`s;
`received_iff_acknowledges` says which datagrams the object accepts after it, over any sequence of
datagrams received and records collected in between.
-/

namespace RcDiscover

open Program

/-- The calls that leave `broadcastRequest`: the request counter, and `send` on the socket at a
position. -/
structure SendEnv (σ : Type) where
  getNext : σ → RequestId × σ
  send : ℕ → Bytes → σ → Except SocketException Unit × σ

/-- A call of `send` with the exception that it threw. -/
structure SendCall where
  socket : ℕ
  packet : Bytes
  thrown : Option SocketException
  deriving DecidableEq, Repr

/-- The exception among the outcomes of `send`. -/
def thrownBy : Except SocketException Unit → Option SocketException
  | .ok _ => none
  | .error e => some e

/-- The environment that also records the calls of `send`. -/
def SendEnv.logged {σ : Type} (env : SendEnv σ) :
    SendEnv (σ × List SendCall) where
  getNext s := ((env.getNext s.1).1, ((env.getNext s.1).2, s.2))
  send k p s :=
    let r := env.send k p s.1
    (r.1, (r.2, s.2 ++ [⟨k, p, thrownBy r.1⟩]))

/-- `Discover`: the interface name of every socket, `req_nums_`, the socket of every listener
thread, and `pending_`. -/
structure Discover where
  sockets : List Str
  reqNums : List RequestId
  listeners : List ℕ
  pending : List DeviceInfo

namespace Discover

/-! ### Asking -/

/-- The discovery command with its request id. -/
def discoveryCmd (id : RequestId) : Bytes := [0x42, 0x11, 0, 0x02, 0, 0, id.1, id.2]

section Asking

variable {σ : Type} (env : SendEnv σ)

/-- `req_nums_.push_back(GigERequestCounter::getNext())`. -/
def pushRequest : Program (Discover × σ) SocketException RequestId :=
  ofState fun x =>
    let r := env.getNext x.2
    (r.1, ({ x.1 with reqNums := x.1.reqNums ++ [r.1] }, r.2))

/-- `socket.send(p)` for the socket at position `k`. -/
def sendOn (k : ℕ) (p : Bytes) : Program (Discover × σ) SocketException Unit :=
  ofExcept fun x =>
    let r := env.send k p x.2
    (r.1, (x.1, r.2))

/-- The loop of `broadcastRequest` over the sockets from position `k` on. -/
def broadcastLoop (iface : List Str) :
    ℕ → List Str → Program (Discover × σ) SocketException Unit
  | _, [] => pure ()
  | k, name :: sockets => do
    if iface.length = 0 ∨ name ∈ iface then
      let id ← pushRequest env
      -- an unreachable network is skipped, but its id stays in `req_nums_`
      tryCatch (sendOn env k (discoveryCmd id)) fun
        | .networkUnreachableException _ _ => pure ()
        | e => throw e
      broadcastLoop iface (k + 1) sockets
    else broadcastLoop iface (k + 1) sockets

/-- `startListening`: one thread for each socket. -/
def startListening : Program (Discover × σ) SocketException Unit :=
  ofState fun x =>
    ((), ({ x.1 with listeners := x.1.listeners ++ List.range x.1.sockets.length }, x.2))

/-- `broadcastRequest`. -/
def broadcastRequest (iface : List Str) : Program (Discover × σ) SocketException Unit := do
  let sockets ← ofState fun x => (x.1.sockets, ({ x.1 with reqNums := [] }, x.2))
  broadcastLoop env iface 0 sockets
  startListening

end Asking

/-! ### Listening -/

/-- What `recvfrom` leaves in `p[600]` and returns, for a datagram or for a failure.  The bytes
behind the datagram are what was there before. -/
def recvfrom (junk : ℕ → UInt8) : Option Bytes → (ℕ → UInt8) × ℤ
  | some d => (fun i => (d.take 600).getD i (junk i), (d.take 600).length)
  | none => (junk, -1)

section Check

variable {m : Type → Type} [Monad m] (read : ℕ → m UInt8)

/-- The nested tests of `listenOnSocket`: the record that the datagram contributes, if any. -/
def checkAck (reqNums : List RequestId) (ifaceName : Str) (n : ℤ) : m (Option DeviceInfo) := do
  if n < 8 then return none
  if (← read 0) ≠ 0 then return none
  if (← read 1) ≠ 0 then return none
  if (← read 2) ≠ 0 then return none
  if (← read 3) ≠ 0x03 then return none
  -- any request of the last broadcast will do, not only the one on this socket
  let id := (← read 6, ← read 7)
  if id ∉ reqNums then return none
  let len := (← read 4).toNat <<< 8 ||| (← read 5).toNat
  if n < len + 8 then return none
  let deviceInfo ← (DeviceInfo.ofIfaceName ifaceName).set (fun i => read (8 + i)) len
  return if deviceInfo.isValid then some deviceInfo else none

end Check

/-- One pass of the loop of `listenOnSocket` in which `select` has seen a datagram. -/
def listenOnSocket (obj : Discover) (ifaceName : Str) (received : (ℕ → UInt8) × ℤ) : Discover :=
  match Id.run (checkAck (fun i => pure (received.1 i)) obj.reqNums ifaceName received.2) with
  | some deviceInfo => { obj with pending := obj.pending ++ [deviceInfo] }
  | none => obj

/-- `getResponse` after the wait: the result and the extended vector `info`. -/
def getResponse (obj : Discover) (info : List DeviceInfo) : (Bool × List DeviceInfo) × Discover :=
  ((obj.pending ≠ [], info ++ obj.pending), { obj with pending := [] })

/-- What happens to an object between two other calls of its owner: a listener thread gets
something from its socket, or the owner takes what is pending. -/
inductive Event
  | received (socket : ℕ) (junk : ℕ → UInt8) (d : Option Bytes)
  | collected

/-- The object after an event. -/
def step (obj : Discover) : Event → Discover
  | .received k junk d =>
    match obj.sockets[k]? with
    | some ifaceName =>
      if k ∈ obj.listeners then obj.listenOnSocket ifaceName (recvfrom junk d) else obj
    | none => obj
  | .collected => (obj.getResponse []).2

/-! ### Every run of `broadcastRequest` -/

/-- A socket that was asked, the id drawn for it, and what `send` threw. -/
structure Ask where
  socket : ℕ
  id : RequestId
  thrown : Option SocketException

/-- The call of `send` for the socket. -/
def Ask.call (a : Ask) : SendCall := ⟨a.socket, discoveryCmd a.id, a.thrown⟩

/-- The loop goes on after such a call: it succeeded, or the network was unreachable. -/
def Tolerated : Option SocketException → Prop
  | some (.socketException _ _) => False
  | _ => True

/-- The positions of the sockets that `iface` selects, counted from `k`. -/
def selected (iface : List Str) (k : ℕ) (sockets : List Str) : List ℕ :=
  (sockets.zipIdx k).filterMap fun x =>
    if iface.length = 0 ∨ x.1 ∈ iface then some x.2 else none

theorem selected_cons (iface : List Str) (k : ℕ) (name : Str) (sockets : List Str) :
    selected iface k (name :: sockets) =
      if iface.length = 0 ∨ name ∈ iface then k :: selected iface (k + 1) sockets
      else selected iface (k + 1) sockets := by
  rw [selected, List.zipIdx_cons, List.filterMap_cons]
  split_ifs <;> rfl

theorem mem_selected {iface sockets : List Str} {k : ℕ} :
    k ∈ selected iface 0 sockets ↔
      ∃ name, sockets[k]? = some name ∧ (iface.length = 0 ∨ name ∈ iface) := by
  simp only [selected, List.mem_filterMap, Prod.exists, List.mem_zipIdx_iff_getElem?]
  constructor
  · rintro ⟨name, i, hi, hk⟩
    split_ifs at hk with hsel
    obtain rfl := Option.some.inj hk
    exact ⟨name, hi, hsel⟩
  · rintro ⟨name, hname, hsel⟩
    exact ⟨name, k, hname, if_pos hsel⟩

section Runs

variable {σ : Type} (env : SendEnv σ)

section Asked

variable {iface : List Str} {name : Str} {k : ℕ} {id : RequestId} {obj : Discover} {s s₁ t : σ}
  {r : Except SocketException Unit}

/-- The loop goes on after a socket that was asked. -/
theorem exec_broadcastLoop_of_tolerated (hsel : iface.length = 0 ∨ name ∈ iface)
    (hid : env.getNext s = (id, s₁)) (hsend : env.send k (discoveryCmd id) s₁ = (r, t))
    (hr : Tolerated (thrownBy r)) (sockets : List Str) :
    exec (broadcastLoop env iface k (name :: sockets)) (obj, s) =
      exec (broadcastLoop env iface (k + 1) sockets)
        ({ obj with reqNums := obj.reqNums ++ [id] }, t) := by
  rw [broadcastLoop, if_pos hsel, exec_bind, pushRequest, exec_ofState]
  simp only [exec_bind, exec_tryCatch, sendOn, exec_ofExcept, hid, hsend]
  rcases r with (_ | _) | _
  · exact hr.elim
  · rfl
  · rfl

/-- The loop ends with a socket on which `send` throws for another reason. -/
theorem exec_broadcastLoop_of_not_tolerated (hsel : iface.length = 0 ∨ name ∈ iface)
    (hid : env.getNext s = (id, s₁)) (hsend : env.send k (discoveryCmd id) s₁ = (r, t))
    (hr : ¬ Tolerated (thrownBy r)) (sockets : List Str) :
    exec (broadcastLoop env iface k (name :: sockets)) (obj, s) =
      (r, ({ obj with reqNums := obj.reqNums ++ [id] }, t)) := by
  rw [broadcastLoop, if_pos hsel, exec_bind, pushRequest, exec_ofState]
  simp only [exec_bind, exec_tryCatch, sendOn, exec_ofExcept, hid, hsend]
  rcases r with (_ | _) | _
  · rfl
  · exact absurd trivial hr
  · exact absurd trivial hr

end Asked

/-- **Every run of the loop**: the sockets that were asked, in order, and the ids in `req_nums_`. -/
theorem broadcastLoop_logged (iface : List Str) (k : ℕ) (sockets : List Str) (obj : Discover)
    (s : σ) (log : List SendCall) :
    ∃ (asks : List Ask) (res : Except SocketException Unit) (t : σ),
      exec (broadcastLoop env.logged iface k sockets) (obj, (s, log)) =
        (res, ({ obj with reqNums := obj.reqNums ++ asks.map Ask.id },
          (t, log ++ asks.map Ask.call))) ∧
      exec (broadcastLoop env iface k sockets) (obj, s) =
        (res, ({ obj with reqNums := obj.reqNums ++ asks.map Ask.id }, t)) ∧
      (res = .ok () ↔ ∀ a ∈ asks, Tolerated a.thrown) ∧
      (res = .ok () → asks.map Ask.socket = selected iface k sockets) := by
  induction sockets generalizing k obj s log with
  | nil =>
    exact ⟨[], .ok (), s, by simp [broadcastLoop], by simp [broadcastLoop], by simp,
      by simp [selected]⟩
  | cons name sockets ih =>
    by_cases hsel : iface.length = 0 ∨ name ∈ iface
    · rcases hid : env.getNext s with ⟨id, s₁⟩
      rcases hsend : env.send k (discoveryCmd id) s₁ with ⟨r, t⟩
      have hid' : env.logged.getNext (s, log) = (id, (s₁, log)) := by simp [SendEnv.logged, hid]
      have hsend' : env.logged.send k (discoveryCmd id) (s₁, log) =
          (r, (t, log ++ [⟨k, discoveryCmd id, thrownBy r⟩])) := by simp [SendEnv.logged, hsend]
      by_cases hr : Tolerated (thrownBy r)
      · rw [exec_broadcastLoop_of_tolerated env hsel hid hsend hr,
          exec_broadcastLoop_of_tolerated env.logged hsel hid' hsend' hr]
        obtain ⟨asks, res, u, hlog, hrun, hres, hasks⟩ := ih (k + 1)
          { obj with reqNums := obj.reqNums ++ [id] } t
          (log ++ [⟨k, discoveryCmd id, thrownBy r⟩])
        refine ⟨⟨k, id, thrownBy r⟩ :: asks, res, u, ?_, ?_, ?_, fun h => ?_⟩
        · simp [hlog, Ask.call]
        · simp [hrun]
        · simp [hres, hr]
        · rw [List.map_cons, hasks h, selected_cons, if_pos hsel]
      · rw [exec_broadcastLoop_of_not_tolerated env hsel hid hsend hr,
          exec_broadcastLoop_of_not_tolerated env.logged hsel hid' hsend' hr]
        have hne : r ≠ .ok () := by
          rintro rfl
          exact hr trivial
        exact ⟨[⟨k, id, thrownBy r⟩], r, t, by simp [Ask.call], by simp, by simp [hne, hr],
          fun h => absurd h hne⟩
    · obtain ⟨asks, res, t, hlog, hrun, hres, hasks⟩ := ih (k + 1) obj s log
      refine ⟨asks, res, t, ?_, ?_, hres, fun h => ?_⟩
      · rw [broadcastLoop, if_neg hsel, hlog]
      · rw [broadcastLoop, if_neg hsel, hrun]
      · rw [hasks h, selected_cons, if_neg hsel]

/-- **Every run of `broadcastRequest`.**  It returns exactly when all failures of `send` were
unreachable networks, and then it has asked the selected sockets once each. -/
theorem broadcastRequest_logged (iface : List Str) (obj : Discover) (s : σ)
    (log : List SendCall) :
    ∃ (asks : List Ask) (res : Except SocketException Unit) (t : σ) (obj' : Discover),
      exec (broadcastRequest env.logged iface) (obj, (s, log)) =
        (res, (obj', (t, log ++ asks.map Ask.call))) ∧
      exec (broadcastRequest env iface) (obj, s) = (res, (obj', t)) ∧
      obj'.sockets = obj.sockets ∧ obj'.pending = obj.pending ∧
      obj'.reqNums = asks.map Ask.id ∧
      (res = .ok () ↔ ∀ a ∈ asks, Tolerated a.thrown) ∧
      (res = .ok () → asks.map Ask.socket = selected iface 0 obj.sockets ∧
        obj'.listeners = obj.listeners ++ List.range obj.sockets.length) := by
  obtain ⟨asks, res, t, hlog, hrun, hres, hasks⟩ :=
    broadcastLoop_logged env iface 0 obj.sockets { obj with reqNums := [] } s log
  simp only [List.nil_append] at hlog hrun
  rcases res with e | ⟨⟩
  · refine ⟨asks, .error e, t, { obj with reqNums := asks.map Ask.id }, ?_, ?_, rfl, rfl, rfl, hres,
      fun h => by simp at h⟩
    · simp only [broadcastRequest, exec_bind, exec_ofState, hlog]
    · simp only [broadcastRequest, exec_bind, exec_ofState, hrun]
  · refine ⟨asks, .ok (), t, { obj with
      reqNums := asks.map Ask.id
      listeners := obj.listeners ++ List.range obj.sockets.length }, ?_, ?_, rfl, rfl, rfl, hres,
      fun h => ⟨hasks h, rfl⟩⟩
    · simp only [broadcastRequest, startListening, exec_bind, exec_ofState, hlog]
    · simp only [broadcastRequest, startListening, exec_bind, exec_ofState, hrun]

end Runs

/-! ### What a listener accepts -/

/-- The length that the header of a datagram announces. -/
def announced (d : Bytes) : ℕ := 256 * (byteAt d 4).toNat + (byteAt d 5).toNat

/-- The body of the announced length. -/
def ackBody (d : Bytes) : Bytes := (d.drop 8).take (announced d)

/-- `d` is a complete DISCOVERY_ACK for one of the requests with an assigned id, and its body
contains a MAC address. -/
structure Acknowledges (assigned : RequestId → Prop) (d : Bytes) : Prop where
  header : 8 ≤ d.length
  type : d.take 4 = [0, 0, 0, 3]
  request : assigned (byteAt d 6, byteAt d 7)
  body : announced d + 8 ≤ d.length
  macSlot : 16 ≤ announced d
  mac : ∃ b ∈ DeviceInfo.slot (ackBody d) 10 6, b ≠ 0

/-- `checkAck` on a buffer. -/
theorem checkAck_eq_some_iff (p : ℕ → UInt8) (reqNums : List RequestId) (ifaceName : Str) (n : ℤ)
    (info : DeviceInfo) :
    Id.run (checkAck (fun i => pure (p i)) reqNums ifaceName n) = some info ↔
      8 ≤ n ∧ (p 0 = 0 ∧ p 1 = 0 ∧ p 2 = 0 ∧ p 3 = 0x03) ∧ (p 6, p 7) ∈ reqNums ∧
        (((p 4).toNat <<< 8 ||| (p 5).toNat : ℕ) : ℤ) + 8 ≤ n ∧ info.isValid = true ∧
        info = Id.run ((DeviceInfo.ofIfaceName ifaceName).set (fun i => pure (p (8 + i)))
          ((p 4).toNat <<< 8 ||| (p 5).toNat)) := by
  generalize hlen : (p 4).toNat <<< 8 ||| (p 5).toNat = len
  by_cases h8 : 8 ≤ n
  · by_cases h0 : p 0 = 0 ∧ p 1 = 0 ∧ p 2 = 0 ∧ p 3 = 0x03
    · by_cases hid : (p 6, p 7) ∈ reqNums
      · by_cases hn : (len : ℤ) + 8 ≤ n
        · simp only [checkAck, pure_bind, h8.not_gt, h0, hid, hlen, hn.not_gt, if_false, ne_eq,
            not_true_eq_false, Id.run_bind]
          generalize Id.run (DeviceInfo.set _ _ len) = set
          by_cases hvalid : set.isValid = true
          · simp only [hvalid, if_true, Id.run_pure, Option.some.injEq]
            constructor
            · rintro rfl
              exact ⟨h8, ⟨trivial, trivial, trivial, trivial⟩, trivial, hn, hvalid, rfl⟩
            · exact fun h => h.2.2.2.2.2.symm
          · simp only [hvalid, Bool.false_eq_true, if_false, Id.run_pure, reduceCtorEq, false_iff]
            rintro ⟨-, -, -, -, hinfo, rfl⟩
            exact hvalid hinfo
        · simp [checkAck, h8.not_gt, h0, hid, hlen, hn, not_le.1 hn]
      · simp [checkAck, h8.not_gt, h0, hid]
    · simp only [checkAck, h8.not_gt, h0, false_and, and_false, if_false, pure_bind]
      split_ifs <;> first | rfl | simp_all
  · simp [checkAck, h8, not_le.1 h8]

/-- What a datagram that fits leaves in the buffer. -/
theorem recvfrom_of_length_le (junk : ℕ → UInt8) {d : Bytes} (hd : d.length ≤ 600) :
    (recvfrom junk (some d)).2 = d.length ∧
      ∀ i < d.length, (recvfrom junk (some d)).1 i = byteAt d i := by
  constructor
  · simp [recvfrom, List.take_of_length_le hd]
  · intro i hi
    simp [recvfrom, List.take_of_length_le hd, byteAt, hi]

theorem length_ackBody {d : Bytes} (hbody : announced d + 8 ≤ d.length) :
    (ackBody d).length = announced d := by
  rw [ackBody, List.length_take, List.length_drop]
  omega

/-- `set` reads the body out of the buffer. -/
theorem set_ackBody {p : ℕ → UInt8} {d : Bytes} (hp : ∀ i < d.length, p i = byteAt d i)
    (hbody : announced d + 8 ≤ d.length) (ifaceName : Str) :
    Id.run ((DeviceInfo.ofIfaceName ifaceName).set (fun i => pure (p (8 + i))) (announced d)) =
      DeviceInfo.decode ifaceName (ackBody d) := by
  have hblen := length_ackBody hbody
  rw [← hblen]
  refine DeviceInfo.set_eq_decode (fun i hi => ?_) _
  rw [Id.run_pure, hp (8 + i) (by omega), byteAt, ackBody, List.getD_eq_getElem?_getD,
    List.getD_eq_getElem?_getD, List.getElem?_take_of_lt (by omega), List.getElem?_drop]

/-- **The tests of `listenOnSocket` accept exactly the acknowledgements**, whatever the buffer
held before. -/
theorem checkAck_recvfrom (reqNums : List RequestId) (ifaceName : Str) (junk : ℕ → UInt8)
    {d : Bytes} (hd : d.length ≤ 600) (info : DeviceInfo) :
    Id.run (checkAck (fun i => pure ((recvfrom junk (some d)).1 i)) reqNums ifaceName
        (recvfrom junk (some d)).2) = some info ↔
      Acknowledges (· ∈ reqNums) d ∧ info = DeviceInfo.decode ifaceName (ackBody d) := by
  obtain ⟨hn, hp⟩ := recvfrom_of_length_le junk hd
  rw [hn]
  generalize (recvfrom junk (some d)).1 = p at hp ⊢
  by_cases h8 : 8 ≤ d.length
  · have htype : d.take 4 = [0, 0, 0, 3] ↔
        byteAt d 0 = 0 ∧ byteAt d 1 = 0 ∧ byteAt d 2 = 0 ∧ byteAt d 3 = 0x03 := by
      obtain ⟨b0, b1, b2, b3, b4, b5, b6, b7, rest, rfl⟩ := exists_header h8
      simp [byteAt]
    have hlen : (byteAt d 4).toNat <<< 8 ||| (byteAt d 5).toNat = announced d := by
      rw [BigEndian.shiftLeft_or_eq, announced, Nat.mul_comm]
    by_cases hbody : announced d + 8 ≤ d.length
    · have hblen := length_ackBody hbody
      have hset := set_ackBody hp hbody ifaceName
      rw [checkAck_eq_some_iff, hp 0 (by omega), hp 1 (by omega), hp 2 (by omega), hp 3 (by omega),
        hp 4 (by omega), hp 5 (by omega), hp 6 (by omega), hp 7 (by omega), hlen, hset, ← htype]
      constructor
      · rintro ⟨-, ht, hid, -, hvalid, rfl⟩
        rw [DeviceInfo.isValid_decode_iff, hblen] at hvalid
        exact ⟨⟨h8, ht, hid, hbody, hvalid.1, hvalid.2⟩, rfl⟩
      · rintro ⟨hack, rfl⟩
        refine ⟨by omega, hack.type, hack.request, by omega, ?_, rfl⟩
        rw [DeviceInfo.isValid_decode_iff, hblen]
        exact ⟨hack.macSlot, hack.mac⟩
    · rw [checkAck_eq_some_iff, hp 4 (by omega), hp 5 (by omega), hlen]
      constructor
      · rintro ⟨-, -, -, hn, -⟩
        omega
      · exact fun h => absurd h.1.body hbody
  · rw [checkAck_eq_some_iff]
    constructor
    · rintro ⟨hn, -⟩
      omega
    · exact fun h => absurd h.1.header h8

/-! ### A listening object -/

/-- The ids of the discovery commands that were handed to `send`. -/
def AssignedIn (log : List SendCall) (id : RequestId) : Prop :=
  ∃ call ∈ log, call.packet = discoveryCmd id

theorem discoveryCmd_injective {id id' : RequestId} (h : discoveryCmd id = discoveryCmd id') :
    id = id' := by
  simpa [discoveryCmd, Prod.ext_iff] using h

theorem assignedIn_map_call (asks : List Ask) (id : RequestId) :
    AssignedIn (asks.map Ask.call) id ↔ id ∈ asks.map Ask.id := by
  constructor
  · rintro ⟨call, hcall, hid⟩
    obtain ⟨a, ha, rfl⟩ := List.mem_map.1 hcall
    exact List.mem_map.2 ⟨a, ha, discoveryCmd_injective hid⟩
  · intro hid
    obtain ⟨a, ha, rfl⟩ := List.mem_map.1 hid
    exact ⟨a.call, List.mem_map_of_mem ha, rfl⟩

/-- An event changes nothing but `pending_`. -/
theorem step_frame (obj : Discover) (e : Event) :
    step obj e = { obj with pending := (step obj e).pending } := by
  cases e with
  | received k junk d =>
    simp only [step, listenOnSocket]
    split
    · split_ifs
      · split <;> rfl
      · rfl
    · rfl
  | collected => rfl

theorem run_frame (obj : Discover) (events : List Event) :
    Runs.run step obj events = { obj with pending := (Runs.run step obj events).pending } := by
  refine Runs.run_invariant (I := fun o : Discover => o = { obj with pending := o.pending })
    ?_ rfl events
  intro o e ho
  rw [step_frame, ho]

/-- A datagram on a socket with a listener, while the object waits. -/
theorem step_received {obj : Discover} {k : ℕ} {ifaceName : Str}
    (hk : obj.sockets[k]? = some ifaceName) (hlisten : k ∈ obj.listeners) (junk : ℕ → UInt8)
    {d : Bytes} (hd : d.length ≤ 600) :
    (Acknowledges (· ∈ obj.reqNums) d →
      (step obj (.received k junk (some d))).pending =
        obj.pending ++ [DeviceInfo.decode ifaceName (ackBody d)]) ∧
    (¬ Acknowledges (· ∈ obj.reqNums) d →
      (step obj (.received k junk (some d))).pending = obj.pending) := by
  have hiff := checkAck_recvfrom obj.reqNums ifaceName junk hd
  simp only [step, hk, if_pos hlisten, listenOnSocket]
  constructor
  · intro hack
    rw [(hiff _).2 ⟨hack, rfl⟩]
  · intro hack
    split
    · next info hinfo => exact absurd ((hiff info).1 hinfo).1 hack
    · rfl

/-- **Discovery accepts exactly the acknowledgements of its own requests.**  After a call of
`broadcastRequest` that returned, and whatever was received and collected since, a datagram adds a
record exactly when it acknowledges a request of that call; the record is what the body says. -/
theorem received_iff_acknowledges {σ : Type} (env : SendEnv σ) (iface : List Str)
    {obj obj' : Discover} {s t : σ} {log : List SendCall}
    (hrun : exec (broadcastRequest env.logged iface) (obj, (s, [])) = (.ok (), (obj', (t, log))))
    (events : List Event) {k : ℕ} {ifaceName : Str} (hk : obj.sockets[k]? = some ifaceName)
    (junk : ℕ → UInt8) {d : Bytes} (hd : d.length ≤ 600) :
    let before := Runs.run step obj' events
    let after := step before (.received k junk (some d))
    ((∃ info, after.pending = before.pending ++ [info]) ↔ Acknowledges (AssignedIn log) d) ∧
    (Acknowledges (AssignedIn log) d →
      after.pending = before.pending ++ [DeviceInfo.decode ifaceName (ackBody d)]) ∧
    (¬ Acknowledges (AssignedIn log) d → after.pending = before.pending) := by
  intro before after
  obtain ⟨asks, res, t', obj'', hlog, -, hsockets, -, hids, -, hok⟩ :=
    broadcastRequest_logged env iface obj s []
  obtain ⟨rfl, rfl, rfl, rfl⟩ : res = .ok () ∧ obj'' = obj' ∧ t' = t ∧ asks.map Ask.call = log := by
    simpa using hlog.symm.trans hrun
  have hassigned : AssignedIn (asks.map Ask.call) = (· ∈ before.reqNums) := by
    funext id
    rw [assignedIn_map_call, ← hids]
    simp only [before]
    rw [run_frame]
  have hbefore : before.sockets[k]? = some ifaceName := by
    simp only [before]
    rw [run_frame, ← hk, hsockets]
  have hlisten : k ∈ before.listeners := by
    simp only [before]
    rw [run_frame, (hok rfl).2]
    have hlt := (List.getElem?_eq_some_iff.1 hk).1
    simp [hlt]
  obtain ⟨hyes, hno⟩ := step_received hbefore hlisten junk hd
  rw [hassigned]
  refine ⟨⟨fun ⟨info, hinfo⟩ => ?_, fun hack => ⟨_, hyes hack⟩⟩, hyes, hno⟩
  by_contra hack
  have hlen := congrArg List.length (hinfo.symm.trans (hno hack))
  simp at hlen

/-- The process-wide counter with a `send` that finds the network of the socket at position 0
unreachable. -/
def firstUnreachable : SendEnv ℕ where
  getNext := GigERequestCounter.getNext
  send k _ s :=
    (if k = 0 then
      .error (.networkUnreachableException
        "Error while sending data - network unreachable".toList 101)
    else .ok (), s)

/-- An acknowledgement of the request on the second of two sockets, with a byte too many. -/
theorem received_acknowledgement :
    let d : Bytes := [0, 0, 0, 3, 0, 16, 0, 2] ++
      [0, 1, 0, 2, 0, 0, 0, 0, 0, 0, 0x00, 0x14, 0x2D, 0, 0, 1] ++ [0xFF]
    let listening := (exec (broadcastRequest firstUnreachable [])
      (⟨["eth0".toList, "eth1".toList], [], [], []⟩, 0)).2.1
    (step listening (.received 1 (fun _ => 0) (some d))).pending =
      listening.pending ++ [DeviceInfo.decode "eth1".toList (ackBody d)] := by
  have hrun : exec (broadcastRequest firstUnreachable.logged [])
      (⟨["eth0".toList, "eth1".toList], [], [], []⟩, (0, [])) = (.ok (), _, _, _) := rfl
  refine (received_iff_acknowledges firstUnreachable [] hrun [] (k := 1) rfl (fun _ => 0)
    (by decide)).2.1 ⟨by decide, rfl, ?_, by decide, by decide, ?_⟩
  · exact ⟨⟨1, discoveryCmd (0, 2), none⟩, by decide, rfl⟩
  · exact ⟨0x14, by decide, by decide⟩

end Discover

end RcDiscover
