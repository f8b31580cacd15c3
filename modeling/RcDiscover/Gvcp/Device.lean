import RcDiscover.Gvcp.Exchange

/-!
# A device behind a lossy network

The other end of `GvcpIPConfig`: a device that is a register map, executes the requests it
receives in order and acknowledges each with status 0, and a network that keeps the order of
the datagrams in each direction but may lose or delay any of them.  A `World` is the device
together with the datagrams under way, the socket buffer of the client and the request counter;
what the network does while the client waits in `select` is a schedule of `NetStep`s that is
part of the world.

* `Device.env`: the world as the environment of the client;
* `InFlight.netRun`: what holds of the registers and of the datagrams under way, whatever the
  network does;
* `checkReply_acknowledge`: the client takes the acknowledge of its own request;
* `replyId_eq_of_checkReply`: it takes nothing with another id.
-/

namespace RcDiscover
namespace Gvcp

open GigERequestCounter

/-- The contents of the bootstrap registers. -/
abbrev Registers := UInt32 → UInt32

/-- The effect of a request on the registers. -/
def RegisterRequest.execute : RegisterRequest → Registers → Registers
  | read _, regs => regs
  | write a v, regs => Function.update regs a v

/-- A request can be executed again without effect. -/
@[simp] theorem execute_execute (r : RegisterRequest) (regs : Registers) :
    r.execute (r.execute regs) = r.execute regs := by
  cases r <;> simp [RegisterRequest.execute]

/-- A device: its address, and the body of its acknowledges of WRITEREG, which GVCP keeps
within 576 bytes. -/
structure Device where
  address : UInt32
  writeAck : Bytes
  length_writeAck : 8 + writeAck.length ≤ 576

namespace Device

variable (dev : Device)

/-- The body of the acknowledge of a request. -/
def reply (regs : Registers) : RegisterRequest → Bytes
  | .read a => appendUint32 [] (regs a)
  | .write _ _ => dev.writeAck

/-- The acknowledge of a request, with status 0. -/
def acknowledge (regs : Registers) (r : RegisterRequest) (id : RequestId) : Bytes :=
  0 :: 0 :: (r.ackCmd >>> 8).toUInt8 :: r.ackCmd.toUInt8 ::
    UInt8.ofNat ((dev.reply regs r).length >>> 8) :: UInt8.ofNat (dev.reply regs r).length ::
    id.1 :: id.2 :: dev.reply regs r

end Device

/-- A step of the network.  Each concerns the datagram that was sent first. -/
inductive NetStep
  | deliverRequest
  | loseRequest
  | deliverAck
  | loseAck
  deriving DecidableEq, Repr

/-- The device, the datagrams under way, and the client's side of the socket. -/
structure World where
  registers : Registers
  toDevice : List Bytes
  toClient : List Bytes
  inbox : List Bytes
  counter : ℕ
  /-- What the network does during the waits of the client. -/
  schedule : ℕ → List NetStep
  ticks : ℕ

/-- The world in which nothing is under way yet. -/
def World.start (regs : Registers) (counter : UInt16) (schedule : ℕ → List NetStep) : World where
  registers := regs
  toDevice := []
  toClient := []
  inbox := []
  counter := counter.toNat
  schedule := schedule
  ticks := 0

namespace Device

variable (dev : Device)

/-- The device receives a datagram. -/
def receive (p : Bytes) (w : World) : World :=
  match RegisterRequest.decode p with
  | some (r, id) =>
    { w with
      registers := r.execute w.registers
      toClient := w.toClient ++ [dev.acknowledge (r.execute w.registers) r id] }
  | none => w

/-- One step of the network. -/
def netStep (w : World) : NetStep → World
  | .deliverRequest =>
    match w.toDevice with
    | [] => w
    | p :: rest => dev.receive p { w with toDevice := rest }
  | .loseRequest => { w with toDevice := w.toDevice.tail }
  | .deliverAck =>
    match w.toClient with
    | [] => w
    | p :: rest => { w with toClient := rest, inbox := w.inbox ++ [p] }
  | .loseAck => { w with toClient := w.toClient.tail }

/-- A sequence of steps of the network. -/
def netRun (w : World) (steps : List NetStep) : World := steps.foldl dev.netStep w

/-- The world as the client sees it through its socket. -/
def env : SocketEnv World where
  getNext w := ((getNext w.counter).1, { w with counter := (getNext w.counter).2 })
  send p w := (.ok (), { w with toDevice := w.toDevice ++ [p] })
  select w :=
    let w' := dev.netRun { w with ticks := w.ticks + 1 } (w.schedule w.ticks)
    (!w'.inbox.isEmpty, w')
  recvfrom w :=
    match w.inbox with
    | [] => (none, w)
    | p :: rest => (some ⟨dev.address, p⟩, { w with inbox := rest })

@[simp] theorem env_getNext (w : World) : dev.env.getNext w =
    ((getNext w.counter).1, { w with counter := (getNext w.counter).2 }) := rfl

@[simp] theorem env_send (p : Bytes) (w : World) :
    dev.env.send p w = (.ok (), { w with toDevice := w.toDevice ++ [p] }) := rfl

@[simp] theorem env_select (w : World) : dev.env.select w =
    (!(dev.netRun { w with ticks := w.ticks + 1 } (w.schedule w.ticks)).inbox.isEmpty,
      dev.netRun { w with ticks := w.ticks + 1 } (w.schedule w.ticks)) := rfl

theorem env_recvfrom_cons {w : World} {p : Bytes} {rest : List Bytes} (h : w.inbox = p :: rest) :
    dev.env.recvfrom w = (some ⟨dev.address, p⟩, { w with inbox := rest }) := by
  simp only [env, h]

end Device

/-! ### Invariants of the network -/

/-- `R` holds of the registers, `Q` of the requests under way, and `K` of the acknowledges under
way or in the socket buffer. -/
structure InFlight (Q : RegisterRequest → RequestId → Prop) (R : Registers → Prop)
    (K : Registers → Bytes → Prop) (w : World) : Prop where
  registers : R w.registers
  requests : ∀ p ∈ w.toDevice, ∀ r id, RegisterRequest.decode p = some (r, id) → Q r id
  replies : ∀ p ∈ w.toClient ++ w.inbox, K w.registers p

/-- The execution of a request with `Q` keeps `R` and `K`, and its acknowledge has `K`. -/
def Device.Keeps (dev : Device) (Q : RegisterRequest → RequestId → Prop) (R : Registers → Prop)
    (K : Registers → Bytes → Prop) : Prop :=
  ∀ r id regs, Q r id → R regs →
    R (r.execute regs) ∧ K (r.execute regs) (dev.acknowledge (r.execute regs) r id) ∧
      ∀ p, K regs p → K (r.execute regs) p

section InFlight

variable {dev : Device} {Q : RegisterRequest → RequestId → Prop} {R : Registers → Prop}
  {K : Registers → Bytes → Prop} {w : World}

theorem InFlight.netStep (hk : dev.Keeps Q R K) (h : InFlight Q R K w) (s : NetStep) :
    InFlight Q R K (dev.netStep w s) := by
  obtain ⟨hR, hQ, hK⟩ := h
  cases s with
  | deliverRequest =>
    rcases hdev : w.toDevice with _ | ⟨p, rest⟩
    · simpa only [Device.netStep, hdev] using ⟨hR, hQ, hK⟩
    have hrest : ∀ q ∈ rest, q ∈ w.toDevice := fun q hq => hdev ▸ List.mem_cons_of_mem _ hq
    rcases hp : RegisterRequest.decode p with _ | ⟨r, id⟩
    · simp only [Device.netStep, hdev, Device.receive, hp]
      exact ⟨hR, fun q hq => hQ q (hrest q hq), hK⟩
    obtain ⟨hR', hack, hK'⟩ := hk r id w.registers (hQ p (by simp [hdev]) r id hp) hR
    simp only [Device.netStep, hdev, Device.receive, hp]
    refine ⟨hR', fun q hq => hQ q (hrest q hq), fun q hq => ?_⟩
    simp only [List.mem_append, List.mem_singleton] at hq hK
    rcases hq with (hq | rfl) | hq
    · exact hK' q (hK q (.inl hq))
    · exact hack
    · exact hK' q (hK q (.inr hq))
  | loseRequest => exact ⟨hR, fun q hq => hQ q (List.mem_of_mem_tail hq), hK⟩
  | deliverAck =>
    rcases hcl : w.toClient with _ | ⟨p, rest⟩
    · simpa only [Device.netStep, hcl] using ⟨hR, hQ, hK⟩
    simp only [Device.netStep, hcl]
    refine ⟨hR, hQ, fun q hq => hK q ?_⟩
    simp only [hcl, List.mem_append, List.mem_cons] at hq ⊢
    tauto
  | loseAck =>
    refine ⟨hR, hQ, fun q hq => hK q ?_⟩
    rcases List.mem_append.1 hq with hq | hq
    · exact List.mem_append_left _ (List.mem_of_mem_tail hq)
    · exact List.mem_append_right _ hq

/-- **Invariants of the network** hold whatever it loses or delays. -/
theorem InFlight.netRun (hk : dev.Keeps Q R K) (h : InFlight Q R K w) (steps : List NetStep) :
    InFlight Q R K (dev.netRun w steps) := by
  unfold Device.netRun
  induction steps generalizing w with
  | nil => exact h
  | cons s steps ih => exact ih (h.netStep hk s)

end InFlight

@[simp] theorem Device.netStep_counter (dev : Device) (w : World) (s : NetStep) :
    (dev.netStep w s).counter = w.counter := by
  cases s <;> simp only [Device.netStep, Device.receive] <;> split <;> (try split) <;> rfl

@[simp] theorem Device.netRun_counter (dev : Device) (w : World) (steps : List NetStep) :
    (dev.netRun w steps).counter = w.counter := by
  unfold Device.netRun
  induction steps generalizing w with
  | nil => rfl
  | cons s steps ih => rw [List.foldl_cons, ih, Device.netStep_counter]

/-! ### Acknowledges at the client -/

/-- The id in a datagram that the client receives. -/
def replyId (p : Bytes) : RequestId := (byteAt p 6, byteAt p 7)

@[simp] theorem replyId_acknowledge (dev : Device) (regs : Registers) (r : RegisterRequest)
    (id : RequestId) : replyId (dev.acknowledge regs r id) = id := rfl

/-- What the client does not ignore has the id of its request. -/
theorem replyId_eq_of_checkReply {cmd ack : UInt16} {address : UInt32} {id : RequestId} {p : Bytes}
    (h : checkReply cmd ack address id (p.take 600) ≠ none) : replyId p = id := by
  have htake : ∀ i < 600, byteAt (p.take 600) i = byteAt p i := by
    intro i hi
    simp [byteAt, List.getD_eq_getElem?_getD, hi]
  by_contra hne
  have hid : ¬ (byteAt (p.take 600) 6 = id.1 ∧ byteAt (p.take 600) 7 = id.2) := by
    rw [htake 6 (by omega), htake 7 (by omega)]
    exact fun hid => hne (Prod.ext hid.1 hid.2)
  refine h ?_
  simp only [checkReply, hid, and_false, if_false, ite_self]

namespace Device

variable (dev : Device)

theorem length_reply_le (regs : Registers) (r : RegisterRequest) :
    (dev.reply regs r).length ≤ 568 := by
  cases r with
  | read a => simp [reply, appendUint32]
  | write a v =>
    have := dev.length_writeAck
    simp only [reply]
    omega

/-- The client takes the body of the acknowledge of its own request. -/
theorem checkReply_acknowledge (regs : Registers) (r : RegisterRequest) (id : RequestId) :
    checkReply r.cmd r.ackCmd r.address id ((dev.acknowledge regs r id).take 600) =
      some (.ok (dev.reply regs r)) := by
  have hlen := dev.length_reply_le regs r
  rw [List.take_of_length_le (by simp only [acknowledge, List.length_cons]; omega),
    checkReply_eq_ok_iff]
  refine ⟨_, _, [], by rw [List.append_nil]; rfl, ?_⟩
  simp only [UInt8.toNat_ofNat', Nat.shiftRight_eq_div_pow]
  omega

/-- A request takes its value from the body that the device returns. -/
theorem accept_reply (regs : Registers) (r : RegisterRequest) :
    r.accept (dev.reply regs r) = .ok (match r with | .read a => regs a | .write _ _ => 0) := by
  cases r with
  | read a =>
    have hval := extractUint32_append (regs a) []
    rw [List.append_nil] at hval
    simp only [reply, RegisterRequest.accept, hval]
    rfl
  | write a v => rfl

end Device

end Gvcp
end RcDiscover
