import RcDiscover.ForceIP
import RcDiscover.Socket.Elements

/-!
# What goes on the wire

`Discover`, `ForceIP` and `WOL` hand their packets to all of their sockets, and `SocketLinux` sends
them: one of the three sockets of an interface only receives, and sends nothing.

* `Network`: what the system calls on a socket return;
* `sendImpl`, `enableBroadcastImpl` and `enableNonBlockingImpl` of `SocketLinux`;
* `deliver`: the datagrams that leave when packets are handed to sockets;
* `Reaches`: datagrams for both broadcast addresses of some interfaces.

`discover_reaches`, `forceIP_reaches` and `wol_reaches` (**main results**): a call that returns has
sent its packet to the limited broadcast address and to the broadcast address of each interface.
The ids are those of the request counter, from which other threads draw as well.
-/

namespace RcDiscover
namespace Sockets

open Program Runs GigERequestCounter
open Discover (Tolerated)

/-! ### The calls on a socket -/

/-- `ENETUNREACH`. -/
def enetunreach : ℤ := 101

/-- `O_RDWR | O_NONBLOCK`. -/
def rdwrNonblock : UInt32 := 0x802

/-- What the system calls on a socket return, with `errno` of one that fails. -/
structure Network (σ : Type) where
  sendto : ℤ → SockAddrIn → Bytes → σ → Option ℤ × σ
  /-- `setsockopt` for `SO_BROADCAST` -/
  setBroadcast : ℤ → σ → Option ℤ × σ
  /-- `fcntl` for `F_GETFL` and `F_SETFL` -/
  getfl : ℤ → σ → Except ℤ UInt32 × σ
  setfl : ℤ → UInt32 → σ → Option ℤ × σ

/-- A call of `::sendto`. -/
structure Transmission where
  sock : ℤ
  dst : SockAddrIn
  data : Bytes
  deriving DecidableEq, Repr

/-- The network that also records the calls of `::sendto`. -/
def Network.logged {σ : Type} (net : Network σ) : Network (σ × List Transmission) where
  sendto sock dst data s :=
    let r := net.sendto sock dst data s.1
    (r.1, (r.2, s.2 ++ [⟨sock, dst, data⟩]))
  setBroadcast sock s :=
    let r := net.setBroadcast sock s.1
    (r.1, (r.2, s.2))
  getfl sock s :=
    let r := net.getfl sock s.1
    (r.1, (r.2, s.2))
  setfl sock flags s :=
    let r := net.setfl sock flags s.1
    (r.1, (r.2, s.2))

namespace SocketObject

variable {σ : Type} (net : Network σ) (obj : SocketObject ℤ)

/-- `SocketLinux::sendImpl`. -/
def sendImpl (sendbuf : Bytes) (s : σ) : Except SocketException Unit × σ :=
  if obj.dstAddr.sAddr ≠ inaddrAny then
    match net.sendto obj.sock obj.dstAddr sendbuf s with
    | (some errno, t) =>
      if errno = enetunreach then
        (.error (.networkUnreachableException
          "Error while sending data - network unreachable".toList errno), t)
      else (.error (.socketException "Error while sending data".toList errno), t)
    | (none, t) => (.ok (), t)
  else (.ok (), s)

/-- `SocketLinux::enableBroadcastImpl`. -/
def enableBroadcastImpl (s : σ) : Except SocketException Unit × σ :=
  match net.setBroadcast obj.sock s with
  | (some errno, t) =>
    (.error (.socketException "Error while setting socket options".toList errno), t)
  | (none, t) => (.ok (), t)

/-- `SocketLinux::enableNonBlockingImpl`. -/
def enableNonBlockingImpl (s : σ) : Except SocketException Unit × σ :=
  match net.getfl obj.sock s with
  | (.error errno, t) =>
    (.error (.socketException "Error while setting socket non-blocking".toList errno), t)
  | (.ok flags, t) =>
    match net.setfl obj.sock (flags ||| rdwrNonblock) t with
    | (some errno, t) =>
      (.error (.socketException "Error while setting socket non-blocking".toList errno), t)
    | (none, t) => (.ok (), t)

/-- The datagram that leaves for a packet, unless the socket only receives. -/
def transmission (data : Bytes) : Option Transmission :=
  if obj.dstAddr.sAddr ≠ inaddrAny then some ⟨obj.sock, obj.dstAddr, data⟩ else none

/-- What leaves does not depend on the outcome. -/
theorem sendImpl_logged (data : Bytes) (s : σ) (wire : List Transmission) :
    ∃ r t, obj.sendImpl net.logged data (s, wire) =
      (r, (t, wire ++ (obj.transmission data).toList)) := by
  unfold sendImpl transmission
  split_ifs
  · rcases hcall : net.sendto obj.sock obj.dstAddr data s with ⟨_ | errno, t⟩
    · exact ⟨.ok (), t, by simp [Network.logged, hcall]⟩
    · by_cases herrno : errno = enetunreach
      · exact ⟨_, t, by simp [Network.logged, hcall, herrno]; rfl⟩
      · exact ⟨_, t, by simp [Network.logged, hcall, herrno]; rfl⟩
  · exact ⟨.ok (), s, by simp⟩

theorem enableBroadcastImpl_logged (s : σ) (wire : List Transmission) :
    ∃ r t, obj.enableBroadcastImpl net.logged (s, wire) = (r, (t, wire)) := by
  unfold enableBroadcastImpl
  rcases hcall : net.setBroadcast obj.sock s with ⟨_ | errno, t⟩
  · exact ⟨.ok (), t, by simp [Network.logged, hcall]⟩
  · exact ⟨_, t, by simp [Network.logged, hcall]; rfl⟩

theorem enableNonBlockingImpl_logged (s : σ) (wire : List Transmission) :
    ∃ r t, obj.enableNonBlockingImpl net.logged (s, wire) = (r, (t, wire)) := by
  unfold enableNonBlockingImpl
  rcases hget : net.getfl obj.sock s with ⟨errno | flags, t⟩
  · exact ⟨_, t, by simp [Network.logged, hget]; rfl⟩
  · rcases hset : net.setfl obj.sock (flags ||| rdwrNonblock) t with ⟨_ | errno, u⟩
    · exact ⟨.ok (), u, by simp [Network.logged, hget, hset]⟩
    · exact ⟨_, u, by simp [Network.logged, hget, hset]; rfl⟩

end SocketObject

/-! ### Packets for all sockets -/

/-- The datagrams that leave when packets are handed to sockets one after the other. -/
def deliver (objs : List (SocketObject ℤ)) (packets : List Bytes) : List Transmission :=
  (objs.zip packets).filterMap fun x => x.1.transmission x.2

@[simp] theorem deliver_nil_right (objs : List (SocketObject ℤ)) : deliver objs [] = [] := by
  rw [deliver, List.zip_nil_right, List.filterMap_nil]

theorem deliver_cons (obj : SocketObject ℤ) (objs : List (SocketObject ℤ)) (data : Bytes)
    (packets : List Bytes) : deliver (obj :: objs) (data :: packets) =
      (obj.transmission data).toList ++ deliver objs packets := by
  rw [deliver, List.zip_cons_cons, List.filterMap_cons]
  cases obj.transmission data <;> rfl

section Callers

variable {σ : Type} (othersDraw : σ → ℕ × σ) (net : Network σ)

/-- A call on the socket at a position. -/
def onObject (objs : List (SocketObject ℤ)) (k : ℕ)
    (call : SocketObject ℤ → Except SocketException Unit × σ) (s : σ) :
    Except SocketException Unit × σ :=
  match objs[k]? with
  | some obj => call obj
  | none => (.ok (), s)

/-- The sockets of a `Discover` or a `ForceIP`, with the ids that other threads draw. -/
def surroundings (objs : List (SocketObject ℤ)) : Surroundings (σ × List Transmission) where
  othersDraw s :=
    let r := othersDraw s.1
    (r.1, (r.2, s.2))
  send k data s := onObject objs k (fun obj => obj.sendImpl net.logged data s) s

/-- The calls that leave `discover.cc` and `force_ip.cc`. -/
def sendEnv (objs : List (SocketObject ℤ)) : SendEnv (ℕ × (σ × List Transmission)) :=
  (surroundings othersDraw net objs).env

theorem onObject_length (pre rest : List (SocketObject ℤ)) (obj : SocketObject ℤ)
    (call : SocketObject ℤ → Except SocketException Unit × σ) (s : σ) :
    onObject (pre ++ obj :: rest) pre.length call s = call obj := by
  unfold onObject
  rw [List.getElem?_append_right le_rfl, Nat.sub_self]
  rfl

theorem sendEnv_getNext {others : ℕ} {s s₁ : σ} (hothers : othersDraw s = (others, s₁))
    (objs : List (SocketObject ℤ)) (n : ℕ) (wire : List Transmission) :
    (sendEnv othersDraw net objs).getNext (n, (s, wire)) =
      (idOfDraw (n + others), (n + others + 1, (s₁, wire))) := by
  simp [sendEnv, surroundings, Surroundings.env, hothers]

/-- The socket behind those that had their turn. -/
theorem sendEnv_send {obj : SocketObject ℤ} {data : Bytes} {s t : σ × List Transmission}
    {r : Except SocketException Unit} (hsend : obj.sendImpl net.logged data s = (r, t))
    (pre rest : List (SocketObject ℤ)) (n : ℕ) :
    (sendEnv othersDraw net (pre ++ obj :: rest)).send pre.length data (n, s) = (r, (n, t)) := by
  simp [sendEnv, surroundings, Surroundings.env, onObject_length, hsend]

/-- The next socket has its turn. -/
theorem append_cons_eq (pre rest : List (SocketObject ℤ)) (obj : SocketObject ℤ) :
    pre ++ obj :: rest = (pre ++ [obj]) ++ rest := by
  rw [List.append_assoc]
  rfl

/-- The interface is asked for devices. -/
def selects (iface : List Str) (name : Str) : Bool := iface.length = 0 ∨ name ∈ iface

/-- The sockets of these interfaces. -/
def asked (iface : List Str) (objs : List (SocketObject ℤ)) : List (SocketObject ℤ) :=
  objs.filter fun obj => selects iface obj.ifaceName

theorem asked_cons (iface : List Str) (obj : SocketObject ℤ) (objs : List (SocketObject ℤ)) :
    asked iface (obj :: objs) =
      if iface.length = 0 ∨ obj.ifaceName ∈ iface then obj :: asked iface objs
      else asked iface objs := by
  unfold asked selects
  rw [List.filter_cons]
  simp only [decide_eq_true_eq]

/-- **The loop of `broadcastRequest`** hands a discovery command of its own to every socket that
is selected, until one of them throws. -/
theorem broadcastLoop_wire (iface : List Str) (pre rest : List (SocketObject ℤ)) (obj : Discover)
    (n : ℕ) (s : σ) (wire : List Transmission) :
    ∃ (draws : List ℕ) (res : Except SocketException Unit) (n' : ℕ) (t : σ),
      exec (Discover.broadcastLoop (sendEnv othersDraw net (pre ++ rest)) iface pre.length
          (rest.map SocketObject.ifaceName)) (obj, (n, (s, wire))) =
        (res, ({ obj with reqNums := obj.reqNums ++ draws.map idOfDraw }, (n', (t, wire ++
          deliver (asked iface rest) ((draws.map idOfDraw).map Discover.discoveryCmd))))) ∧
      Drawn n n' draws ∧ (res = .ok () → draws.length = (asked iface rest).length) := by
  induction rest generalizing pre obj n s wire with
  | nil => exact ⟨[], .ok (), n, s, by simp [Discover.broadcastLoop], drawn_nil n, fun _ => rfl⟩
  | cons o rest ih =>
    rw [asked_cons]
    by_cases hsel : iface.length = 0 ∨ o.ifaceName ∈ iface
    · rw [if_pos hsel]
      rcases hothers : othersDraw s with ⟨others, s₁⟩
      obtain ⟨r, t, hsend⟩ :=
        o.sendImpl_logged net (Discover.discoveryCmd (idOfDraw (n + others))) s₁ wire
      have hid := sendEnv_getNext othersDraw net hothers (pre ++ o :: rest) n wire
      have hsend' := sendEnv_send othersDraw net hsend pre rest (n + others + 1)
      by_cases hr : Tolerated (thrownBy r)
      · obtain ⟨draws, res, n', u, hrun, hdrawn, hok⟩ := ih (pre ++ [o])
          { obj with reqNums := obj.reqNums ++ [idOfDraw (n + others)] } (n + others + 1) t
          (wire ++ (o.transmission (Discover.discoveryCmd (idOfDraw (n + others)))).toList)
        refine ⟨(n + others) :: draws, res, n', u, ?_, hdrawn.cons, fun h => ?_⟩
        · rw [List.map_cons, Discover.exec_broadcastLoop_of_tolerated _ hsel hid hsend' hr,
            append_cons_eq, ← List.length_concat (a := o), List.concat_eq_append, hrun]
          simp [deliver_cons]
        · rw [List.length_cons, List.length_cons, hok h]
      · refine ⟨[n + others], r, n + others + 1, t, ?_, (drawn_nil _).cons, fun h => ?_⟩
        · rw [List.map_cons, Discover.exec_broadcastLoop_of_not_tolerated _ hsel hid hsend' hr,
            List.map_singleton, List.map_singleton, deliver_cons, deliver_nil_right,
            List.append_nil]
        · rw [h] at hr
          exact absurd trivial hr
    · obtain ⟨draws, res, n', t, hrun, hdrawn, hok⟩ := ih (pre ++ [o]) obj n s wire
      rw [if_neg hsel]
      refine ⟨draws, res, n', t, ?_, hdrawn, hok⟩
      rw [← hrun, List.map_cons, Discover.broadcastLoop, if_neg hsel, append_cons_eq,
        List.length_append, List.length_singleton]

/-- **The loop of `sendCommand`** hands the buffer with an id of its own to every socket, until one
of them throws. -/
theorem forceIPLoop_wire (pre rest : List (SocketObject ℤ)) (p : Bytes) (n : ℕ) (s : σ)
    (wire : List Transmission) :
    ∃ (draws : List ℕ) (res : Except SocketException Unit) (n' : ℕ) (t : σ),
      exec (ForceIP.sendLoop (sendEnv othersDraw net (pre ++ rest)) pre.length
          (rest.map SocketObject.ifaceName) p) (n, (s, wire)) =
        (res, (n', (t, wire ++ deliver rest ((draws.map idOfDraw).map (ForceIP.withId p))))) ∧
      Drawn n n' draws ∧ (res = .ok () → draws.length = rest.length) := by
  induction rest generalizing pre p n s wire with
  | nil => exact ⟨[], .ok (), n, s, by simp [ForceIP.sendLoop], drawn_nil n, fun _ => rfl⟩
  | cons o rest ih =>
    rcases hothers : othersDraw s with ⟨others, s₁⟩
    have hid := sendEnv_getNext othersDraw net hothers (pre ++ o :: rest) n wire
    generalize hdraw : n + others = draw at hid
    obtain ⟨r, t, hsend⟩ := o.sendImpl_logged net (ForceIP.withId p (idOfDraw draw)) s₁ wire
    have hsend' := sendEnv_send othersDraw net hsend pre rest (draw + 1)
    have hbuffer : ForceIP.withId (ForceIP.withId p (idOfDraw draw)) = ForceIP.withId p :=
      funext fun id => ForceIP.withId_withId p (idOfDraw draw) id
    obtain ⟨draws, res, n', u, hrun, hdrawn, hok⟩ := ih (pre ++ [o])
      (ForceIP.withId p (idOfDraw draw)) (draw + 1) t
      (wire ++ (o.transmission (ForceIP.withId p (idOfDraw draw))).toList)
    rw [hbuffer, ← append_cons_eq, List.length_append, List.length_singleton] at hrun
    subst hdraw
    have hgo : ∃ (draws : List ℕ) (res : Except SocketException Unit) (n' : ℕ) (t' : σ),
        exec (ForceIP.sendLoop (sendEnv othersDraw net (pre ++ o :: rest)) (pre.length + 1)
            (rest.map SocketObject.ifaceName) (ForceIP.withId p (idOfDraw (n + others))))
            (n + others + 1,
              (t, wire ++ (o.transmission (ForceIP.withId p (idOfDraw (n + others)))).toList)) =
          (res, (n', (t', wire ++
            deliver (o :: rest) ((draws.map idOfDraw).map (ForceIP.withId p))))) ∧
        Drawn n n' draws ∧ (res = .ok () → draws.length = (o :: rest).length) := by
      refine ⟨(n + others) :: draws, res, n', u, ?_, hdrawn.cons,
        fun h => by rw [List.length_cons, List.length_cons, hok h]⟩
      rw [hrun, List.map_cons, List.map_cons, deliver_cons, List.append_assoc]
    simp only [List.map_cons, ForceIP.sendLoop, exec_bind, exec_tryCatch, exec_ofState,
      exec_ofExcept, hid, hsend']
    rcases r with (⟨msg, errnum⟩ | ⟨msg, errnum⟩) | _
    · refine ⟨[n + others], .error (.socketException msg errnum), n + others + 1, t, ?_,
        (drawn_nil _).cons, by simp⟩
      rw [List.map_singleton, List.map_singleton, deliver_cons, deliver_nil_right, List.append_nil]
      rfl
    · exact hgo
    · exact hgo

end Callers

section Wol

variable {σ : Type} (movedFrom : Str → Str) (env : InterfaceEnv) (net : Network σ)
  (addrs : List IfAddrs) (w : World ℤ)

/-- The objects of the elements of a vector. -/
def objectsOf (w : World ℤ) (sockets : List ℕ) : List (SocketObject ℤ) :=
  sockets.filterMap w.objects

/-- A call on a socket of `WOL::sendImpl`. -/
def onSocketOf (k : ℕ)
    (call : SocketObject ℤ → σ × List Transmission →
      Except SocketException Unit × (σ × List Transmission))
    (s : List (SocketObject ℤ) × (σ × List Transmission)) :
    Except SocketException Unit × (List (SocketObject ℤ) × (σ × List Transmission)) :=
  let r := onObject s.1 k (fun obj => call obj s.2) s.2
  (r.1, (s.1, r.2))

/-- The calls that leave `wol.cc`, in a process with some objects on a machine with some interfaces.
The state has the sockets of the call. -/
def wolEnv : WolEnv (List (SocketObject ℤ) × (σ × List Transmission)) where
  createAndBindForAllInterfaces port s :=
    let r := exec (createAndBindForAllInterfaces movedFrom env port addrs) (Frame.entry w)
    match r.1 with
    | .ok sockets => (.ok sockets.length, (objectsOf r.2.world sockets, s.2))
    | .error e => (.error e, s)
  enableBroadcast k s := onSocketOf k (SocketObject.enableBroadcastImpl net.logged) s
  enableNonBlocking k s := onSocketOf k (SocketObject.enableNonBlockingImpl net.logged) s
  send k data s := onSocketOf k (fun obj => obj.sendImpl net.logged data) s

theorem onSocketOf_length {pre rest : List (SocketObject ℤ)} {obj : SocketObject ℤ}
    {call : SocketObject ℤ → σ × List Transmission →
      Except SocketException Unit × (σ × List Transmission)} {s t : σ × List Transmission}
    {r : Except SocketException Unit} (h : call obj s = (r, t)) :
    onSocketOf pre.length call (pre ++ obj :: rest, s) = (r, (pre ++ obj :: rest, t)) := by
  unfold onSocketOf
  rw [onObject_length, h]

/-- **The loop of `sendImpl`** hands the magic packet to every socket, until one of them throws. -/
theorem wolLoop_wire (wol : WOL) (password : Option (Vector UInt8 4))
    (pre rest : List (SocketObject ℤ)) (s : σ) (wire : List Transmission) :
    ∃ (n : ℕ) (res : Except WolException Unit) (t : σ),
      exec (WOL.sendLoop (wolEnv movedFrom env net addrs w) wol password pre.length rest.length)
          (pre ++ rest, (s, wire)) =
        (res, (pre ++ rest, (t, wire ++
          deliver rest (List.replicate n (wol.appendMagicPacket [] password))))) ∧
      (res = .ok () → n = rest.length) := by
  induction rest generalizing pre s wire with
  | nil => exact ⟨0, .ok (), s, by simp [WOL.sendLoop], fun _ => rfl⟩
  | cons o rest ih =>
    obtain ⟨r₁, s₁, hbroadcast⟩ := o.enableBroadcastImpl_logged net s wire
    obtain ⟨r₂, s₂, hblocking⟩ := o.enableNonBlockingImpl_logged net s₁ wire
    obtain ⟨r₃, s₃, hsend⟩ :=
      o.sendImpl_logged net (wol.appendMagicPacket [] password) s₂ wire
    obtain ⟨n, res, t, hrun, hok⟩ := ih (pre ++ [o]) s₃
      (wire ++ (o.transmission (wol.appendMagicPacket [] password)).toList)
    rw [← append_cons_eq, List.length_append, List.length_singleton] at hrun
    have hbroadcast' : (wolEnv movedFrom env net addrs w).enableBroadcast pre.length
        (pre ++ o :: rest, (s, wire)) = _ := onSocketOf_length hbroadcast
    have hblocking' : (wolEnv movedFrom env net addrs w).enableNonBlocking pre.length
        (pre ++ o :: rest, (s₁, wire)) = _ := onSocketOf_length hblocking
    have hsend' : (wolEnv movedFrom env net addrs w).send pre.length
        (wol.appendMagicPacket [] password) (pre ++ o :: rest, (s₂, wire)) = _ :=
      onSocketOf_length hsend
    rw [List.length_cons, WOL.exec_sendLoop_succ, hbroadcast']
    have hgo : ∃ (n : ℕ) (res : Except WolException Unit) (t : σ),
        exec (WOL.sendLoop (wolEnv movedFrom env net addrs w) wol password (pre.length + 1)
            rest.length) (pre ++ o :: rest, (s₃, wire ++
              (o.transmission (wol.appendMagicPacket [] password)).toList)) =
          (res, (pre ++ o :: rest, (t, wire ++
            deliver (o :: rest) (List.replicate n (wol.appendMagicPacket [] password))))) ∧
        (res = .ok () → n = rest.length + 1) := by
      refine ⟨n + 1, res, t, ?_, fun h => by rw [hok h]⟩
      rw [hrun, List.replicate_succ, deliver_cons, List.append_assoc]
    rcases r₁ with e | _
    · exact ⟨0, .error (.socket e), s₁, by simp, by simp⟩
    simp only [hblocking']
    rcases r₂ with e | _
    · exact ⟨0, .error (.socket e), s₂, by simp, by simp⟩
    simp only [hsend']
    rcases r₃ with (⟨msg, errnum⟩ | ⟨msg, errnum⟩) | _
    · refine ⟨1, .error (.socket (.socketException msg errnum)), s₃, ?_, by simp⟩
      rw [List.replicate_one, deliver_cons, deliver_nil_right, List.append_nil]
    · exact hgo
    · exact hgo

end Wol

/-! ### The addresses that are reached -/

/-- An interface that gets sockets: its name, its address and its broadcast address. -/
abbrev Iface := Str × SockAddrIn × SockAddrIn

/-- Where the packets for an interface go: the limited broadcast address, and the broadcast address
of the interface, if it has one. -/
def broadcasts (port : UInt16) (iface : Iface) : List SockAddrIn :=
  destination getBroadcastAddr port ::
    if iface.2.2.sAddr ≠ inaddrAny then [destination iface.2.2.sAddr port] else []

/-- One datagram for each broadcast address of the interfaces, each of its own socket, with a
packet of its own among those that there were for the sockets, three for each interface. -/
structure Reaches (port : UInt16) (ifaces : List Iface) (packets : List Bytes)
    (wire : List Transmission) : Prop where
  dst : wire.map Transmission.dst = ifaces.flatMap (broadcasts port)
  sock : (wire.map Transmission.sock).Nodup
  data : (wire.map Transmission.data).Sublist packets
  packets : packets.length = 3 * ifaces.length

/-- The destinations of what is sent. -/
def isSent (a : SockAddrIn) : Bool := a.sAddr ≠ inaddrAny

theorem map_dst_deliver {objs : List (SocketObject ℤ)} {packets : List Bytes}
    (hlen : packets.length = objs.length) :
    (deliver objs packets).map Transmission.dst =
      (objs.map SocketObject.dstAddr).filter isSent := by
  induction objs generalizing packets with
  | nil => rfl
  | cons obj objs ih =>
    obtain ⟨data, packets, rfl⟩ := List.exists_cons_of_length_eq_add_one hlen
    have hrest := @ih packets (by simpa using hlen)
    rw [deliver_cons, List.map_append, hrest, List.map_cons, List.filter_cons]
    unfold SocketObject.transmission isSent
    split_ifs <;> simp_all

theorem map_sock_deliver_sublist (objs : List (SocketObject ℤ)) (packets : List Bytes) :
    ((deliver objs packets).map Transmission.sock).Sublist (objs.map SocketObject.sock) := by
  induction objs generalizing packets with
  | nil => exact List.Sublist.refl []
  | cons obj objs ih =>
    cases packets with
    | nil =>
      rw [deliver_nil_right]
      exact List.nil_sublist _
    | cons data packets =>
      rw [deliver_cons, List.map_append, List.map_cons]
      unfold SocketObject.transmission
      split_ifs
      · exact (ih packets).cons_cons _
      · exact (ih packets).cons _

theorem map_data_deliver_sublist (objs : List (SocketObject ℤ)) (packets : List Bytes) :
    ((deliver objs packets).map Transmission.data).Sublist packets := by
  induction packets generalizing objs with
  | nil =>
    rw [deliver_nil_right]
    exact List.Sublist.refl []
  | cons data packets ih =>
    cases objs with
    | nil => exact List.nil_sublist _
    | cons obj objs =>
      rw [deliver_cons, List.map_append]
      unfold SocketObject.transmission
      split_ifs
      · exact (ih objs).cons_cons _
      · exact (ih objs).cons _

/-- The interfaces that are taken. -/
def ifacesOf (addrs : List IfAddrs) : List Iface := addrs.filterMap IfAddrs.taken

section Plan

variable (env : InterfaceEnv) (port : UInt16) (c : Str → Bool)

/-- What the plan sends to. -/
theorem dst_plan (n : ℕ) (addrs : List IfAddrs) :
    ((((plan env port n addrs).filter fun p => c p.ifaceName).map Planned.dstAddr).filter isSent) =
      ((ifacesOf addrs).filter fun iface => c iface.1).flatMap (broadcasts port) := by
  induction addrs generalizing n with
  | nil => rfl
  | cons entry addrs ih =>
    rw [plan, ifacesOf, List.filterMap_cons]
    rcases entry.taken with _ | ⟨name, addr, baddr⟩
    · exact ih n
    · dsimp only
      rw [List.filter_append, List.map_append, List.filter_append, ih (n + 3), List.filter_cons]
      cases hc : c name with
      | false => simp [planFor, hc, ifacesOf]
      | true =>
        have hany : isSent (destination inaddrAny port) = false := rfl
        have hall : isSent (destination getBroadcastAddr port) = true := rfl
        simp only [planFor, hc, List.filter_cons_of_pos, List.filter_nil, List.map_cons,
          List.map_nil, List.filter_cons, hany, hall, if_true, List.flatMap_cons, ifacesOf,
          broadcasts, Bool.false_eq_true, if_false, List.cons_append]
        congr 2
        by_cases hbaddr : baddr.sAddr = inaddrAny <;> simp [isSent, destination, hbaddr]

theorem length_plan (n : ℕ) (addrs : List IfAddrs) :
    ((plan env port n addrs).filter fun p => c p.ifaceName).length =
      3 * ((ifacesOf addrs).filter fun iface => c iface.1).length := by
  induction addrs generalizing n with
  | nil => rfl
  | cons entry addrs ih =>
    rw [plan, ifacesOf, List.filterMap_cons]
    rcases entry.taken with _ | ⟨name, addr, baddr⟩
    · exact ih n
    · dsimp only
      rw [List.filter_append, List.length_append, ih (n + 3), List.filter_cons]
      cases hc : c name with
      | false => simp [planFor, hc, ifacesOf]
      | true =>
        simp only [planFor, hc, List.filter_cons_of_pos, List.filter_nil, List.length_cons,
          List.length_nil, if_true, ifacesOf]
        omega

variable {env port c}

/-- **Packets for the sockets of some interfaces** reach their broadcast addresses. -/
theorem Returned.reaches {addrs : List IfAddrs} {w : World ℤ} {sockets : List ℕ}
    {objs : List (SocketObject ℤ)} (h : Returned env (plan env port 0 addrs) w sockets objs)
    {packets : List Bytes}
    (hlen : packets.length = (objs.filter fun obj => c obj.ifaceName).length) :
    Reaches port ((ifacesOf addrs).filter fun iface => c iface.1) packets
      (deliver (objs.filter fun obj => c obj.ifaceName) packets) := by
  have hserves : List.Forall₂ Serves
      ((plan env port 0 addrs).filter fun p => c p.ifaceName)
      (objs.filter fun obj => c obj.ifaceName) := by
    refine List.rel_filter (fun p obj hp => ?_) h.serves
    show c p.ifaceName = true ↔ c obj.ifaceName = true
    rw [hp.ifaceName]
  have hdst : (objs.filter fun obj => c obj.ifaceName).map SocketObject.dstAddr =
      ((plan env port 0 addrs).filter fun p => c p.ifaceName).map Planned.dstAddr := by
    refine List.forall₂_eq_eq_eq ▸ ?_
    exact List.rel_map (fun obj p hp => hp.dstAddr) hserves.flip
  refine ⟨?_, ?_, map_data_deliver_sublist _ _, ?_⟩
  · rw [map_dst_deliver hlen, hdst, dst_plan]
  · have hsub : (objs.filter fun obj => c obj.ifaceName).Sublist objs := List.filter_sublist
    exact h.handles.sublist ((map_sock_deliver_sublist _ _).trans (hsub.map SocketObject.sock))
  · rw [hlen, ← hserves.length_eq, length_plan]

/-- **Packets for all sockets** reach the broadcast addresses of all interfaces. -/
theorem Returned.reaches_all {addrs : List IfAddrs} {w : World ℤ} {sockets : List ℕ}
    {objs : List (SocketObject ℤ)} (h : Returned env (plan env port 0 addrs) w sockets objs)
    {packets : List Bytes} (hlen : packets.length = objs.length) :
    Reaches port (ifacesOf addrs) packets (deliver objs packets) := by
  have hall : objs.filter (fun _ => true) = objs := List.filter_true objs
  have hreaches := h.reaches (c := fun _ => true) (hlen.trans (congrArg List.length hall.symm))
  rwa [hall, List.filter_true] at hreaches

end Plan

/-! ### The constructors -/

section Constructors

variable {σ : Type}

/-- The loop in the constructors of `Discover` and `ForceIP`. -/
def setUp (net : Network σ) : List (SocketObject ℤ) → Program σ SocketException Unit
  | [] => pure ()
  | obj :: objs => do
    ofExcept (obj.enableBroadcastImpl net)
    ofExcept (obj.enableNonBlockingImpl net)
    setUp net objs

/-- The constructors of `Discover` and `ForceIP`, in a process with some objects. -/
def openSockets (movedFrom : Str → Str) (env : InterfaceEnv) (net : Network σ)
    (addrs : List IfAddrs) (w : World ℤ) (s : σ) :
    Except WolException (List ℕ) × (World ℤ × σ) :=
  match exec (createAndBindForAllInterfaces movedFrom env 3956 addrs) (Frame.entry w) with
  | (.error e, fr) => (.error e, (fr.world, s))
  | (.ok sockets, fr) =>
    match exec (setUp net (objectsOf fr.world sockets)) s with
    | (.ok _, t) => (.ok sockets, (fr.world, t))
    | (.error e, t) =>
      -- the member `sockets_` is destroyed
      let fr := (exec (destroyAll movedFrom sockets) { fr with sockets := [] }).2
      (.error (.socket e), (fr.world, t))

/-- The new `Discover`. -/
def Discover.ofSockets (objs : List (SocketObject ℤ)) : Discover :=
  ⟨objs.map SocketObject.ifaceName, [], [], []⟩

/-- The new `ForceIP`. -/
def ForceIP.ofSockets (objs : List (SocketObject ℤ)) : ForceIP :=
  ⟨objs.map SocketObject.ifaceName⟩

/-- Nothing is sent while the sockets are set up. -/
theorem setUp_logged (net : Network σ) (objs : List (SocketObject ℤ)) (s : σ)
    (wire : List Transmission) :
    ∃ r t, exec (setUp net.logged objs) (s, wire) = (r, (t, wire)) := by
  induction objs generalizing s with
  | nil => exact ⟨.ok (), s, rfl⟩
  | cons obj objs ih =>
    obtain ⟨r₁, s₁, hbroadcast⟩ := obj.enableBroadcastImpl_logged net s wire
    obtain ⟨r₂, s₂, hblocking⟩ := obj.enableNonBlockingImpl_logged net s₁ wire
    obtain ⟨r, t, hrun⟩ := ih s₂
    rw [setUp, exec_bind, exec_ofExcept, hbroadcast]
    rcases r₁ with e | _
    · exact ⟨.error e, s₁, rfl⟩
    simp only [exec_bind, exec_ofExcept, hblocking]
    rcases r₂ with e | _
    · exact ⟨.error e, s₂, rfl⟩
    · exact ⟨r, t, hrun⟩

theorem Returned.objectsOf_eq {env : InterfaceEnv} {planned : List Planned} {w : World ℤ}
    {sockets : List ℕ} {objs : List (SocketObject ℤ)} (h : Returned env planned w sockets objs) :
    objectsOf w sockets = objs := by
  have hsome : ∀ l : List (SocketObject ℤ), (l.map some).filterMap id = l := by
    intro l
    rw [List.filterMap_map]
    exact List.filterMap_some
  rw [← hsome objs, ← h.objects, List.filterMap_map]
  rfl

/-- The member `sockets_` is destroyed with its elements. -/
theorem alive_destroyAll {movedFrom : Str → Str} {w : World ℤ} {sockets : List ℕ} {fr : Frame}
    (h : Within (socketLinux movedFrom) w sockets [] fr) (i : ℕ) :
    (exec (destroyAll movedFrom sockets) { fr with sockets := [] }).2.world.Alive i ↔
      w.Alive i := by
  have hmoved : Within (socketLinux movedFrom) w [] (sockets ++ []) { fr with sockets := [] } :=
    h.perm (List.Perm.refl _)
  have hspec : Ensures (Within (socketLinux movedFrom) w [] (sockets ++ []))
      (destroyAll movedFrom sockets) (fun _ => Within (socketLinux movedFrom) w [] [])
      fun _ => Within (socketLinux movedFrom) w [] [] := destroyAll_spec movedFrom sockets
  have hgone : Within (socketLinux movedFrom) w [] []
      (exec (destroyAll movedFrom sockets) { fr with sockets := [] }).2 := hspec.always hmoved
  exact (hgone.alive i).trans (or_iff_left List.not_mem_nil)

/-- **The constructors** have the sockets of the plan, or throw with all sockets destroyed. -/
theorem openSockets_spec (movedFrom : Str → Str) (env : InterfaceEnv) (net : Network σ)
    (addrs : List IfAddrs) (ops : List (Op ℤ)) (s : σ) (wire : List Transmission) :
    let w := run (World.step (socketLinux movedFrom)) World.start ops
    let r := openSockets movedFrom env net.logged addrs w (s, wire)
    r.2.2.2 = wire ∧
    match r.1 with
    | .ok sockets => Returned env (plan env 3956 0 addrs) r.2.1 sockets (objectsOf r.2.1 sockets)
    | .error _ => ∀ i, r.2.1.Alive i ↔ w.Alive i := by
  intro w r
  have hw : World.Valid (socketLinux movedFrom) w :=
    run_invariant (fun _ op h => h.step op) World.valid_start ops
  have hspec := createAndBind_elements movedFrom env ops 3956 addrs
  have hr : r = openSockets movedFrom env net.logged addrs w (s, wire) := rfl
  have hwithin := createAndBindForAllInterfaces_spec movedFrom env w 3956 addrs
  rw [openSockets] at hr
  rcases hrun : exec (createAndBindForAllInterfaces movedFrom env 3956 addrs) (Frame.entry w) with
    ⟨e | sockets, fr⟩
  · simp only [hrun] at hr
    simp only [show run (World.step (socketLinux movedFrom)) World.start ops = w from rfl,
      hrun] at hspec
    rw [hr]
    exact ⟨rfl, hspec.2⟩
  · simp only [hrun] at hr
    simp only [show run (World.step (socketLinux movedFrom)) World.start ops = w from rfl,
      hrun] at hspec
    obtain ⟨objs, hreturned⟩ := hspec
    obtain ⟨r', t, hsetup⟩ := setUp_logged net (objectsOf fr.world sockets) s wire
    rw [hsetup] at hr
    rcases r' with e | _
    · rw [hr]
      have hentry : Between movedFrom w (Frame.entry w) :=
        ⟨[], rfl, hw.fresh, rfl, List.nodup_nil, fun i => by simp [Frame.entry], by simp⟩
      exact ⟨rfl, alive_destroyAll (hwithin.ok hentry hrun)⟩
    · rw [hr]
      refine ⟨rfl, ?_⟩
      show Returned env _ fr.world sockets (objectsOf fr.world sockets)
      rw [hreturned.objectsOf_eq]
      exact hreturned

end Constructors

/-! ### What is reached -/

section Reached

variable {σ : Type} (movedFrom : Str → Str) (env : InterfaceEnv) (othersDraw : σ → ℕ × σ)
  (net : Network σ) (ops : List (Op ℤ)) (addrs : List IfAddrs) (s : σ)
  {sockets : List ℕ} {w' : World ℤ} {t u : σ} {n n' : ℕ} {wire wire' : List Transmission}

/-- Discovery commands with different ids differ. -/
theorem discoveryCmd_injective : Function.Injective Discover.discoveryCmd := by
  intro id id' h
  simp only [Discover.discoveryCmd, List.cons.injEq, true_and, and_true] at h
  exact Prod.ext h.1 h.2

/-- **Discovery reaches the interfaces.**  An object that was constructed and whose
`broadcastRequest` returned has sent a discovery command to the limited broadcast address and to the
broadcast address of each interface that it was asked for, and nothing else: every datagram is from
a socket of its own, and while the process draws fewer than 65536 ids it has an id of its own. -/
theorem discover_reaches (iface : List Str) {obj : Discover}
    (hnew : openSockets movedFrom env net.logged addrs
      (run (World.step (socketLinux movedFrom)) World.start ops) (s, []) =
        (.ok sockets, (w', (t, wire))))
    (hrun : exec (Discover.broadcastRequest (sendEnv othersDraw net (objectsOf w' sockets)) iface)
      (Discover.ofSockets (objectsOf w' sockets), (n, (t, wire))) =
        (.ok (), (obj, (n', (u, wire'))))) :
    Reaches 3956 ((ifacesOf addrs).filter fun i => selects iface i.1)
      (obj.reqNums.map Discover.discoveryCmd) wire' ∧
    (n' - n < 65536 → obj.reqNums.Nodup ∧ (wire'.map Transmission.data).Nodup) := by
  obtain ⟨hwire, hreturned⟩ := openSockets_spec movedFrom env net addrs ops s []
  rw [hnew] at hwire hreturned
  obtain rfl : wire = [] := hwire
  obtain ⟨draws, res, m, v, hloop, hdrawn, hok⟩ := broadcastLoop_wire othersDraw net iface []
    (objectsOf w' sockets) (Discover.ofSockets (objectsOf w' sockets)) n t []
  have hloop' : exec (Discover.broadcastLoop (sendEnv othersDraw net (objectsOf w' sockets)) iface 0
      (Discover.ofSockets (objectsOf w' sockets)).sockets)
      (Discover.ofSockets (objectsOf w' sockets), (n, (t, []))) = _ := hloop
  rw [Discover.broadcastRequest, exec_bind, exec_ofState] at hrun
  dsimp only at hrun
  rw [show { Discover.ofSockets (objectsOf w' sockets) with reqNums := [] } =
    Discover.ofSockets (objectsOf w' sockets) from rfl, exec_bind, hloop'] at hrun
  rcases res with e | _
  · cases hrun
  · obtain ⟨rfl, rfl, rfl, rfl⟩ : _ = obj ∧ m = n' ∧ v = u ∧ _ = wire' := by
      simpa [Discover.startListening, -List.map_map] using hrun
    have hlength : ((draws.map idOfDraw).map Discover.discoveryCmd).length =
        ((objectsOf w' sockets).filter fun object => selects iface object.ifaceName).length := by
      rw [List.length_map, List.length_map]
      exact hok rfl
    have hreaches := hreturned.reaches hlength
    refine ⟨hreaches, fun hn => ?_⟩
    have hids := hdrawn.nodup_ids hn
    exact ⟨hids, (hids.map discoveryCmd_injective).sublist hreaches.data⟩

/-- The loopback interface and one of a sensor network. -/
def sensorNetwork : List IfAddrs :=
  [⟨0x1003, some "lo".toList, some ⟨afInet, 0, 0x7F000001⟩, some ⟨afInet, 0, 0x7FFFFFFF⟩⟩,
    ⟨0x1003, some "eth0".toList, some ⟨afInet, 0, 0xC0A80005⟩, some ⟨afInet, 0, 0xC0A800FF⟩⟩]

/-- No call fails; the second element needs new storage. -/
def working : InterfaceEnv where
  construct k := ⟨3 + k, 0, 0⟩
  bind _ _ := none
  getsockname _ := ⟨afInet, 40000, 0xC0A80005⟩
  grows k := k = 1

/-- The limited broadcast address is unreachable. -/
def noDefaultRoute : Network ℕ where
  sendto _ dst _ s := (if dst.sAddr = getBroadcastAddr then some enetunreach else none, s)
  setBroadcast _ s := (none, s)
  getfl _ s := (.ok 2, s)
  setfl _ _ s := (none, s)

/-- Two datagrams leave although the first is lost, with the first and the last of three ids.
Another thread draws an id in front of each of them. -/
theorem discover_reaches_sensorNetwork :
    Reaches 3956 ((ifacesOf sensorNetwork).filter fun i => selects [] i.1)
        ([(0, 2), (0, 4), (0, 6)].map Discover.discoveryCmd)
        [⟨3, destination 0xFFFFFFFF 3956, Discover.discoveryCmd (0, 2)⟩,
          ⟨5, destination 0xC0A800FF 3956, Discover.discoveryCmd (0, 6)⟩] ∧
      [((0 : UInt8), (2 : UInt8)), (0, 4), (0, 6)].Nodup := by
  let new :=
    openSockets (fun _ => []) working noDefaultRoute.logged sensorNetwork World.start (0, [])
  have hobjects : objectsOf new.2.1 [4, 3, 6] =
      [⟨"eth0".toList, 3, destination 0xFFFFFFFF 3956⟩, ⟨"eth0".toList, 4, destination 0 3956⟩,
        ⟨"eth0".toList, 5, destination 0xC0A800FF 3956⟩] := rfl
  have hnew : new = (.ok [4, 3, 6], (new.2.1, (0, []))) := rfl
  have hrun : exec (Discover.broadcastRequest (sendEnv (fun s => (1, s)) noDefaultRoute
        (objectsOf new.2.1 [4, 3, 6])) [])
      (Discover.ofSockets (objectsOf new.2.1 [4, 3, 6]), (0, (0, []))) =
        (.ok (), (⟨List.replicate 3 "eth0".toList, [(0, 2), (0, 4), (0, 6)], [0, 1, 2], []⟩,
          (6, (0, [⟨3, destination 0xFFFFFFFF 3956, Discover.discoveryCmd (0, 2)⟩,
            ⟨5, destination 0xC0A800FF 3956, Discover.discoveryCmd (0, 6)⟩])))) := by
    rw [hobjects]
    rfl
  obtain ⟨hreaches, hids⟩ := discover_reaches (fun _ => []) working (fun s => (1, s))
    noDefaultRoute [] sensorNetwork 0 [] hnew hrun
  exact ⟨hreaches, (hids (by decide)).1⟩

/-- **The FORCEIP command reaches all interfaces.**  When `sendCommand` returns, every datagram
carries the same parameters. -/
theorem forceIP_reaches (mac : UInt64) (ip subnet gateway : UInt32)
    (hnew : openSockets movedFrom env net.logged addrs
      (run (World.step (socketLinux movedFrom)) World.start ops) (s, []) =
        (.ok sockets, (w', (t, wire))))
    (hrun : exec ((ForceIP.ofSockets (objectsOf w' sockets)).sendCommand
      (sendEnv othersDraw net (objectsOf w' sockets)) mac ip subnet gateway) (n, (t, wire)) =
        (.ok (), (n', (u, wire')))) :
    ∃ packets, Reaches 3956 (ifacesOf addrs) packets wire' ∧
      ∀ p ∈ packets, ForceIP.Carries mac ip subnet gateway p := by
  obtain ⟨hwire, hreturned⟩ := openSockets_spec movedFrom env net addrs ops s []
  rw [hnew] at hwire hreturned
  obtain rfl : wire = [] := hwire
  obtain ⟨draws, res, m, v, hloop, -, hok⟩ := forceIPLoop_wire othersDraw net []
    (objectsOf w' sockets) (ForceIP.forceIpCommand mac ip subnet gateway) n t []
  obtain ⟨rfl, -, -, rfl⟩ : res = .ok () ∧ m = n' ∧ v = u ∧ _ = wire' := by
    simpa [-List.map_map] using hloop.symm.trans hrun
  refine ⟨_, hreturned.reaches_all (by rw [List.length_map, List.length_map]; exact hok rfl),
    fun p hp => ?_⟩
  obtain ⟨id, -, rfl⟩ := List.mem_map.mp hp
  exact ForceIP.carries_forceIpCommand mac ip subnet gateway id

/-- **The magic packet reaches all interfaces** when `sendImpl` returns, whatever objects the
process had before. -/
theorem wol_reaches (wol : WOL) (password : Option (Vector UInt8 4))
    {objs : List (SocketObject ℤ)}
    (hrun : exec (wol.sendImpl (wolEnv movedFrom env net addrs
      (run (World.step (socketLinux movedFrom)) World.start ops)) password) ([], (s, [])) =
        (.ok (), (objs, (u, wire')))) :
    ∃ packets, Reaches wol.port (ifacesOf addrs) packets wire' ∧
      ∀ p ∈ packets, p = wol.appendMagicPacket [] password := by
  have hspec := createAndBind_elements movedFrom env ops wol.port addrs
  rw [WOL.sendImpl, exec_bind, exec_ofExcept] at hrun
  rcases hcreate : exec (createAndBindForAllInterfaces movedFrom env wol.port addrs)
    (Frame.entry (run (World.step (socketLinux movedFrom)) World.start ops)) with ⟨e | ids, fr⟩
  · simp [wolEnv, hcreate] at hrun
  · simp only [hcreate] at hspec
    obtain ⟨all, hreturned⟩ := hspec
    have hlength : ids.length = all.length := by
      simpa using congrArg List.length hreturned.objects
    obtain ⟨n, res, v, hloop, hok⟩ := wolLoop_wire movedFrom env net addrs
      (run (World.step (socketLinux movedFrom)) World.start ops) wol password [] all s []
    have hnew : (wolEnv movedFrom env net addrs
        (run (World.step (socketLinux movedFrom)) World.start ops)).createAndBindForAllInterfaces
          wol.port ([], (s, [])) = (.ok all.length, (all, (s, []))) := by
      simp only [wolEnv, hcreate, hlength, hreturned.objectsOf_eq]
    rw [hnew] at hrun
    obtain ⟨rfl, -, -, rfl⟩ : res = .ok () ∧ _ = objs ∧ v = u ∧ _ = wire' := by
      simpa using hloop.symm.trans hrun
    refine ⟨_, hreturned.reaches_all ?_, fun p hp => List.eq_of_mem_replicate hp⟩
    rw [List.length_replicate]
    exact hok rfl

/-- One datagram to each address. -/
theorem wol_reaches_sensorNetwork :
    ∃ packets, Reaches 9 (ifacesOf sensorNetwork) packets
        [⟨3, destination 0xFFFFFFFF 9, (WOL.mk (.replicate 6 7) 9).appendMagicPacket [] none⟩,
          ⟨5, destination 0xC0A800FF 9, (WOL.mk (.replicate 6 7) 9).appendMagicPacket [] none⟩] ∧
      ∀ p ∈ packets, p = (WOL.mk (.replicate 6 7) 9).appendMagicPacket [] none :=
  wol_reaches (fun _ => []) working noDefaultRoute [] sensorNetwork 0 (.mk (.replicate 6 7) 9) none
    rfl

end Reached

end Sockets
end RcDiscover
