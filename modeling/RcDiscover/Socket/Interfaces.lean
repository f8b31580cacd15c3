import RcDiscover.Lib.Program
import RcDiscover.Socket.Objects

/-!
# Sockets for all interfaces

`SocketLinux::createAndBindForAllInterfaces` with the operations that it performs on its objects:
the temporaries of `create`, the elements of the vector, and those that take their place when the
vector grows.  What the system calls return comes from an `InterfaceEnv`, and so does when the
vector grows.

* `Frame`: the world with the vector `sockets`;
* `createAndBindForAllInterfaces`: the function, whose vector is destroyed when it throws;
* `Within`: the objects that are alive besides those from before.

`createAndBind_run`: every run is one of operations on objects; when it throws, the objects that
are alive are those from before.
-/

namespace RcDiscover
namespace Sockets

open Program

/-- An entry of the list of `getifaddrs`, with its addresses as those of the internet. -/
structure IfAddrs where
  ifaFlags : UInt32
  ifaName : Option Str
  ifaAddr : Option SockAddrIn
  ifaBroadaddr : Option SockAddrIn

/-- `IFF_UP`. -/
def iffUp : UInt32 := 1

/-- `INADDR_ANY`. -/
def inaddrAny : UInt32 := 0

/-- `SocketLinux::getBroadcastAddr`. -/
def getBroadcastAddr : UInt32 := 0xFFFFFFFF

/-- What the system calls for a socket return, by the number of sockets made before it, and whether
the vector allocates new storage for another element. -/
structure InterfaceEnv where
  construct : ℕ → Answers ℤ
  /-- `errno` of a call of `::bind` that fails -/
  bind : ℕ → SockAddrIn → Option ℤ
  getsockname : ℕ → SockAddrIn
  grows : ℕ → Bool

/-- The world, the operations performed so far, the vector `sockets`, and the number of sockets that
were asked for so far. -/
structure Frame where
  world : World ℤ
  ops : List (Op ℤ)
  sockets : List ℕ
  made : ℕ

/-- On entry. -/
def Frame.entry (w : World ℤ) : Frame := ⟨w, [], [], 0⟩

section Code

variable (movedFrom : Str → Str) (env : InterfaceEnv)

/-- An operation on an object. -/
def Frame.perform (fr : Frame) (op : Op ℤ) : Frame :=
  { fr with world := fr.world.step (socketLinux movedFrom) op, ops := fr.ops ++ [op] }

/-- `SocketLinux::create`, whose result is made in place as the temporary object of its caller. -/
def create (dstIp : UInt32) (port : UInt16) (ifaceName : Str) : Program Frame WolException ℕ :=
  ofExcept fun fr =>
    let a := env.construct fr.made
    ((fr.world.construct (socketLinux movedFrom) dstIp port ifaceName a).1,
      { fr.perform movedFrom (.construct dstIp port ifaceName a) with made := fr.made + 1 })

/-- A move constructor is called for a new object. -/
def moveConstruct (j : ℕ) : Program Frame WolException ℕ :=
  ofState fun fr => (fr.world.constructed, fr.perform movedFrom (.moveConstruct j))

/-- A destructor is called. -/
def destroy (i : ℕ) : Program Frame WolException Unit :=
  ofState fun fr => ((), fr.perform movedFrom (.destroy i))

/-- The elements of the vector. -/
def getSockets : Program Frame WolException (List ℕ) := ofState fun fr => (fr.sockets, fr)

/-- The vector has these elements from now on. -/
def setSockets (ids : List ℕ) : Program Frame WolException Unit :=
  ofState fun fr => ((), { fr with sockets := ids })

/-- Elements are moved into new storage. -/
def moveAll : List ℕ → Program Frame WolException (List ℕ)
  | [] => pure []
  | j :: ids => do
    let i ← moveConstruct movedFrom j
    let moved ← moveAll ids
    return i :: moved

/-- Elements are destroyed. -/
def destroyAll : List ℕ → Program Frame WolException Unit
  | [] => pure ()
  | i :: ids => do
    destroy movedFrom i
    destroyAll ids

/-- `sockets.emplace_back` with a temporary object. -/
def emplaceBack (tmp : ℕ) : Program Frame WolException Unit := do
  let sockets ← getSockets
  let i ← moveConstruct movedFrom tmp
  if env.grows sockets.length then
    let moved ← moveAll movedFrom sockets
    setSockets (moved ++ [i])
    destroyAll movedFrom sockets
  else setSockets (sockets ++ [i])

/-- `sockets.back().bind(addr)`. -/
def bindBack (addr : SockAddrIn) : Program Frame WolException Unit :=
  ofExcept fun fr =>
    match env.bind (fr.made - 1) addr with
    | none => (.ok (), fr)
    | some errno =>
      (.error (.socket (.socketException "Error while binding to socket".toList errno)), fr)

/-- `getsockname` on `sockets.back()`. -/
def getsocknameBack : Program Frame WolException SockAddrIn :=
  ofState fun fr => (env.getsockname (fr.made - 1), fr)

/-- A socket is made, put into the vector and bound. -/
def createAndBind (dstIp : UInt32) (port : UInt16) (name : Str) (addr : SockAddrIn) :
    Program Frame WolException Unit := do
  let tmp ← create movedFrom env dstIp port name
  emplaceBack movedFrom env tmp
  destroy movedFrom tmp
  bindBack env addr

/-- The sockets for an interface. -/
def createForInterface (port : UInt16) (name : Str) (addr baddr : SockAddrIn) :
    Program Frame WolException Unit := do
  -- limited broadcast
  createAndBind movedFrom env getBroadcastAddr port name ⟨afInet, 0, addr.sAddr⟩
  let localAddress ← getsocknameBack env
  -- limited broadcast receiver
  createAndBind movedFrom env inaddrAny port name ⟨afInet, localAddress.sinPort, inaddrAny⟩
  -- directed broadcast
  createAndBind movedFrom env baddr.sAddr port name ⟨afInet, localAddress.sinPort, inaddrAny⟩

/-- One pass of the loop over the interfaces. -/
def createForEntry (port : UInt16) (entry : IfAddrs) : Program Frame WolException Unit :=
  match entry.ifaName, entry.ifaAddr, entry.ifaBroadaddr with
  | some name, some addr, some baddr =>
    if entry.ifaFlags &&& iffUp ≠ 0 ∧ addr.sinFamily = afInet ∧ name.length ≠ 0 ∧
        name ≠ "lo".toList then
      createForInterface movedFrom env port name addr baddr
    else pure ()
  | _, _, _ => pure ()

/-- The loop over the interfaces. -/
def createLoop (port : UInt16) : List IfAddrs → Program Frame WolException Unit
  | [] => pure ()
  | entry :: addrs => do
    createForEntry movedFrom env port entry
    createLoop port addrs

/-- `SocketLinux::createAndBindForAllInterfaces`. -/
def createAndBindForAllInterfaces (port : UInt16) (addrs : List IfAddrs) :
    Program Frame WolException (List ℕ) :=
  tryCatch (do createLoop movedFrom env port addrs; getSockets) fun e => do
    -- the vector goes out of scope
    let sockets ← getSockets
    setSockets []
    destroyAll movedFrom sockets
    throw e

end Code

/-! ### The objects that are alive -/

namespace World

variable {H : Type}

/-- There is an object of this number. -/
def Alive (w : World H) (i : ℕ) : Prop := (w.objects i).isSome = true

variable {api : SocketApi H} {w : World H}

theorem Fresh.lt_of_alive (h : w.Fresh) {i : ℕ} (hi : w.Alive i) : i < w.constructed := by
  obtain ⟨obj, hobj⟩ := Option.isSome_iff_exists.mp hi
  exact h.lt hobj

theorem alive_add (obj : SocketObject H) (i : ℕ) :
    (w.add obj).Alive i ↔ w.Alive i ∨ i = w.constructed := by
  by_cases heq : i = w.constructed <;> simp [Alive, add, heq]

theorem alive_moveConstruct {j : ℕ} (hj : w.Alive j) (i : ℕ) :
    (w.moveConstruct api j).Alive i ↔ w.Alive i ∨ i = w.constructed := by
  obtain ⟨other, hother⟩ := Option.isSome_iff_exists.mp hj
  rw [moveConstruct, hother]
  have hsame : World.Alive
      { w with objects := Function.update w.objects j (some (other.moveConstruct api).2) } i ↔
        w.Alive i := by
    by_cases heq : i = j <;> simp [Alive, heq, hother]
  exact (alive_add _ i).trans (or_congr hsame Iff.rfl)

variable [DecidableEq H]

theorem objects_destroy (i : ℕ) :
    (w.destroy api i).objects = Function.update w.objects i none := by
  rw [destroy]
  split
  · split_ifs <;> rfl
  · next hnone => exact (Function.update_eq_self_iff.mpr hnone.symm).symm

theorem alive_destroy (i k : ℕ) : (w.destroy api i).Alive k ↔ w.Alive k ∧ k ≠ i := by
  rw [Alive, objects_destroy, Alive]
  by_cases heq : k = i <;> simp [heq]

theorem alive_opened (sock : H) (dstIp : UInt32) (port : UInt16) (ifaceName : Str) (i : ℕ) :
    (w.opened api sock dstIp port ifaceName).Alive i ↔ w.Alive i := by
  rw [opened]
  split_ifs <;> exact Iff.rfl

variable (api w) in
/-- What a constructor leaves. -/
theorem alive_construct (dstIp : UInt32) (port : UInt16) (ifaceName : Str) (a : Answers H) :
    (∃ e, (w.construct api dstIp port ifaceName a).1 = .error e ∧
      ∀ i, (w.construct api dstIp port ifaceName a).2.Alive i ↔ w.Alive i) ∨
    ((w.construct api dstIp port ifaceName a).1 = .ok w.constructed ∧
      ∀ i, (w.construct api dstIp port ifaceName a).2.Alive i ↔
        w.Alive i ∨ i = w.constructed) := by
  rcases construct_cases api w dstIp port ifaceName a with
    ⟨-, hrun⟩ | ⟨hsock, -, hrun⟩ | ⟨hsock, -, hrun⟩
  · rw [hrun]
    exact .inl ⟨_, rfl, fun _ => Iff.rfl⟩
  · rw [hrun]
    exact .inl ⟨_, rfl, alive_opened _ _ _ _⟩
  · rw [hrun]
    refine .inr ⟨rfl, fun i => ?_⟩
    have hconstructed : (w.opened api (w.socket api a.socket) dstIp port ifaceName).constructed =
        w.constructed := by
      rw [opened, if_neg hsock]
    rw [alive_add, alive_opened, hconstructed]

end World

/-- Beside the objects from before there are those of the vector and some temporaries. -/
structure Within (api : SocketApi ℤ) (w : World ℤ) (ids temps : List ℕ) (fr : Frame) : Prop where
  logged : fr.world = Runs.run (World.step api) w fr.ops
  fresh : fr.world.Fresh
  sockets : fr.sockets = ids
  nodup : (ids ++ temps).Nodup
  alive : ∀ i, fr.world.Alive i ↔ w.Alive i ∨ i ∈ ids ++ temps
  new : ∀ i ∈ ids ++ temps, ¬ w.Alive i

section Spec

variable {movedFrom : Str → Str} {env : InterfaceEnv} {w : World ℤ} {ids temps : List ℕ}
  {fr : Frame}

/-- Which of the objects are temporaries is a matter of the vector. -/
theorem Within.perm (h : Within (socketLinux movedFrom) w ids temps fr) {ids' temps' : List ℕ}
    (hperm : (ids ++ temps).Perm (ids' ++ temps')) :
    Within (socketLinux movedFrom) w ids' temps' { fr with sockets := ids' } where
  logged := h.logged
  fresh := h.fresh
  sockets := rfl
  nodup := hperm.nodup_iff.mp h.nodup
  alive i := by rw [← hperm.mem_iff]; exact h.alive i
  new i hi := h.new i (hperm.mem_iff.mpr hi)

/-- The order of the temporaries does not matter. -/
theorem Within.perm_temps (h : Within (socketLinux movedFrom) w ids temps fr)
    {temps' : List ℕ} (hperm : temps.Perm temps') :
    Within (socketLinux movedFrom) w ids temps' fr := by
  have hsame : { fr with sockets := ids } = fr := by rw [← h.sockets]
  exact hsame ▸ h.perm (hperm.append_left ids)

/-- A new number is none of theirs. -/
theorem Within.nodup_cons (h : Within (socketLinux movedFrom) w ids temps fr) :
    (ids ++ fr.world.constructed :: temps).Nodup := by
  rw [List.perm_middle.nodup_iff, List.nodup_cons]
  refine ⟨fun hmem => ?_, h.nodup⟩
  exact absurd (h.fresh.lt_of_alive ((h.alive _).mpr (.inr hmem))) (Nat.lt_irrefl _)

theorem Within.logged_perform (h : Within (socketLinux movedFrom) w ids temps fr)
    (op : Op ℤ) : (fr.perform movedFrom op).world =
      Runs.run (World.step (socketLinux movedFrom)) w (fr.perform movedFrom op).ops := by
  rw [Frame.perform, Runs.run_append, ← h.logged]
  rfl

/-- A new object is a temporary. -/
theorem Within.add (h : Within (socketLinux movedFrom) w ids temps fr) (op : Op ℤ) (made : ℕ)
    (halive : ∀ i, (fr.perform movedFrom op).world.Alive i ↔
      fr.world.Alive i ∨ i = fr.world.constructed) :
    Within (socketLinux movedFrom) w ids (fr.world.constructed :: temps)
      { fr.perform movedFrom op with made := made } where
  logged := h.logged_perform op
  fresh := h.fresh.step op
  sockets := h.sockets
  nodup := h.nodup_cons
  alive i := by
    refine (halive i).trans ?_
    rw [h.alive i, List.perm_middle.mem_iff, List.mem_cons, or_assoc]
    exact or_congr Iff.rfl or_comm
  new i hi := by
    rcases List.mem_cons.mp (List.perm_middle.mem_iff.mp hi) with rfl | hi
    · intro hold
      exact absurd (h.fresh.lt_of_alive ((h.alive _).mpr (.inl hold))) (Nat.lt_irrefl _)
    · exact h.new i hi

/-- An operation that makes no object and destroys none. -/
theorem Within.keep (h : Within (socketLinux movedFrom) w ids temps fr) (op : Op ℤ) (made : ℕ)
    (halive : ∀ i, (fr.perform movedFrom op).world.Alive i ↔ fr.world.Alive i) :
    Within (socketLinux movedFrom) w ids temps { fr.perform movedFrom op with made := made } where
  logged := h.logged_perform op
  fresh := h.fresh.step op
  sockets := h.sockets
  nodup := h.nodup
  alive i := (halive i).trans (h.alive i)
  new := h.new

/-- A temporary is destroyed. -/
theorem Within.destroy {i : ℕ} (h : Within (socketLinux movedFrom) w ids (i :: temps) fr) :
    Within (socketLinux movedFrom) w ids temps (fr.perform movedFrom (.destroy i)) := by
  have hnodup := h.nodup
  rw [List.perm_middle.nodup_iff, List.nodup_cons] at hnodup
  have hmem : ∀ k, k ∈ ids ++ i :: temps ↔ k = i ∨ k ∈ ids ++ temps := fun k =>
    List.perm_middle.mem_iff.trans List.mem_cons
  refine ⟨h.logged_perform _, h.fresh.step _, h.sockets, hnodup.2, fun k => ?_, fun k hk => ?_⟩
  · have halive : (fr.perform movedFrom (.destroy i)).world.Alive k ↔ fr.world.Alive k ∧ k ≠ i :=
      World.alive_destroy i k
    rw [halive, h.alive k, hmem k]
    constructor
    · rintro ⟨hold | hki | hk, hne⟩
      · exact .inl hold
      · exact absurd hki hne
      · exact .inr hk
    · rintro (hold | hk)
      · refine ⟨.inl hold, ?_⟩
        rintro rfl
        exact h.new k ((hmem k).mpr (.inl rfl)) hold
      · refine ⟨.inr (.inr hk), ?_⟩
        rintro rfl
        exact hnodup.1 hk
  · exact h.new k ((hmem k).mpr (.inr hk))

/-! ### Every run -/

variable (movedFrom env) in
theorem create_spec (dstIp : UInt32) (port : UInt16) (name : Str) :
    Ensures (Within (socketLinux movedFrom) w ids temps) (create movedFrom env dstIp port name)
      (fun tmp => Within (socketLinux movedFrom) w ids (tmp :: temps))
      (fun _ => Within (socketLinux movedFrom) w ids temps) := by
  intro fr h
  rw [create, exec_ofExcept]
  rcases World.alive_construct (socketLinux movedFrom) fr.world dstIp port name
    (env.construct fr.made) with ⟨e, hrun, halive⟩ | ⟨hrun, halive⟩
  · simp only [hrun]
    exact h.keep _ _ halive
  · simp only [hrun]
    exact h.add _ _ halive

section Elements

variable {E : WolException → Frame → Prop}

variable (movedFrom) in
theorem moveConstruct_spec {j : ℕ} (hj : j ∈ ids ++ temps) :
    Ensures (Within (socketLinux movedFrom) w ids temps) (moveConstruct movedFrom j)
      (fun i => Within (socketLinux movedFrom) w ids (i :: temps)) E :=
  ensures_ofState fun fr h =>
    h.add (.moveConstruct j) fr.made (World.alive_moveConstruct ((h.alive j).mpr (.inr hj)))

variable (movedFrom) in
theorem destroy_spec (i : ℕ) :
    Ensures (Within (socketLinux movedFrom) w ids (i :: temps)) (destroy movedFrom i)
      (fun _ => Within (socketLinux movedFrom) w ids temps) E :=
  ensures_ofState fun _ h => h.destroy

variable (movedFrom) in
theorem setSockets_spec {ids' temps' : List ℕ} (hperm : (ids ++ temps).Perm (ids' ++ temps')) :
    Ensures (Within (socketLinux movedFrom) w ids temps) (setSockets ids')
      (fun _ => Within (socketLinux movedFrom) w ids' temps') E :=
  ensures_ofState fun _ h => h.perm hperm

variable (movedFrom) in
theorem moveAll_spec (l : List ℕ) (hl : ∀ j ∈ l, j ∈ ids) :
    Ensures (Within (socketLinux movedFrom) w ids temps) (moveAll movedFrom l)
      (fun moved => Within (socketLinux movedFrom) w ids (moved ++ temps)) E := by
  induction l generalizing temps with
  | nil => exact ensures_pure fun _ h => h
  | cons j l ih =>
    have hj : j ∈ ids ++ temps := List.mem_append_left _ (hl j List.mem_cons_self)
    refine (moveConstruct_spec movedFrom hj).bind fun i => ?_
    refine (ih fun j' hj' => hl j' (List.mem_cons_of_mem _ hj')).bind fun moved => ?_
    exact ensures_pure fun _ h => h.perm_temps List.perm_middle

variable (movedFrom) in
theorem destroyAll_spec (l : List ℕ) :
    Ensures (Within (socketLinux movedFrom) w ids (l ++ temps)) (destroyAll movedFrom l)
      (fun _ => Within (socketLinux movedFrom) w ids temps) E := by
  induction l with
  | nil => exact ensures_pure fun _ h => h
  | cons i l ih => exact (destroy_spec movedFrom i).bind fun _ => ih

variable (movedFrom env) in
/-- After `emplace_back` the elements are others, but the temporary is still there. -/
theorem emplaceBack_spec (tmp : ℕ) :
    Ensures (Within (socketLinux movedFrom) w ids [tmp]) (emplaceBack movedFrom env tmp)
      (fun _ fr => ∃ ids', Within (socketLinux movedFrom) w ids' [tmp] fr) E := by
  have hget : Ensures (Within (socketLinux movedFrom) w ids [tmp]) getSockets
      (fun sockets fr => sockets = ids ∧ Within (socketLinux movedFrom) w ids [tmp] fr) E :=
    ensures_ofState fun _ h => ⟨h.sockets, h⟩
  refine hget.bind fun sockets => Ensures.of_and ?_
  rintro rfl
  refine (moveConstruct_spec movedFrom (by simp)).bind fun i => ?_
  refine Ensures.ite (fun _ => ?_) fun _ => ?_
  · -- the elements move into new storage
    refine (moveAll_spec movedFrom sockets fun _ h => h).bind fun moved => ?_
    have hperm : (sockets ++ (moved ++ [i, tmp])).Perm ((moved ++ [i]) ++ (sockets ++ [tmp])) := by
      have hassoc : sockets ++ (moved ++ [i, tmp]) = sockets ++ (moved ++ [i]) ++ [tmp] := by simp
      rw [hassoc, ← List.append_assoc (moved ++ [i])]
      exact List.perm_append_comm.append_right [tmp]
    refine (setSockets_spec movedFrom hperm).bind fun _ => ?_
    exact (destroyAll_spec movedFrom sockets).conseq (fun _ h => h) (fun _ _ h => ⟨_, h⟩)
      fun _ _ h => h
  · have hperm : (sockets ++ [i, tmp]).Perm ((sockets ++ [i]) ++ [tmp]) := by simp
    exact (setSockets_spec movedFrom hperm).conseq (fun _ h => h) (fun _ _ h => ⟨_, h⟩)
      fun _ _ h => h

end Elements

/-- Between the statements of the function: the vector has some elements, and there is no
temporary. -/
def Between (movedFrom : Str → Str) (w : World ℤ) (fr : Frame) : Prop :=
  ∃ ids, Within (socketLinux movedFrom) w ids [] fr

variable (movedFrom env w) in
theorem bindBack_spec (addr : SockAddrIn) :
    Ensures (Between movedFrom w) (bindBack env addr) (fun _ => Between movedFrom w)
      fun _ => Between movedFrom w := by
  intro fr h
  rw [bindBack, exec_ofExcept]
  cases env.bind (fr.made - 1) addr with
  | none => exact h
  | some errno => exact h

variable (movedFrom env w) in
/-- When the constructor throws, there is no new object, and when `bind` throws, it is an
element. -/
theorem createAndBind_spec (dstIp : UInt32) (port : UInt16) (name : Str) (addr : SockAddrIn) :
    Ensures (Between movedFrom w) (createAndBind movedFrom env dstIp port name addr)
      (fun _ => Between movedFrom w) fun _ => Between movedFrom w := by
  rintro fr ⟨ids, h⟩
  have hcreate : Ensures (Within (socketLinux movedFrom) w ids [])
      (create movedFrom env dstIp port name) (fun tmp => Within (socketLinux movedFrom) w ids [tmp])
      fun _ => Between movedFrom w :=
    (create_spec movedFrom env dstIp port name).conseq (fun _ h => h) (fun _ _ h => h)
      fun _ _ h => ⟨ids, h⟩
  refine (hcreate.bind fun tmp => ?_) fr h
  refine (emplaceBack_spec movedFrom env tmp).bind fun _ => ?_
  have hdestroy : Ensures (fun fr => ∃ ids', Within (socketLinux movedFrom) w ids' [tmp] fr)
      (destroy movedFrom tmp) (fun _ => Between movedFrom w) fun _ => Between movedFrom w := by
    rintro fr ⟨ids', h⟩
    exact ⟨ids', h.destroy⟩
  exact hdestroy.bind fun _ => bindBack_spec movedFrom env w addr

variable (movedFrom env w) in
theorem createForEntry_spec (port : UInt16) (entry : IfAddrs) :
    Ensures (Between movedFrom w) (createForEntry movedFrom env port entry)
      (fun _ => Between movedFrom w) fun _ => Between movedFrom w := by
  rw [createForEntry]
  split
  · next name addr baddr _ _ _ =>
    refine Ensures.ite (fun _ => ?_) fun _ => ensures_pure fun _ h => h
    have hget : Ensures (Between movedFrom w) (getsocknameBack env) (fun _ => Between movedFrom w)
        fun _ => Between movedFrom w := ensures_ofState fun _ h => h
    refine (createAndBind_spec movedFrom env w getBroadcastAddr port name _).bind fun _ => ?_
    refine hget.bind fun localAddress => ?_
    refine (createAndBind_spec movedFrom env w inaddrAny port name _).bind fun _ => ?_
    exact createAndBind_spec movedFrom env w baddr.sAddr port name _
  · exact ensures_pure fun _ h => h

variable (movedFrom env w) in
theorem createLoop_spec (port : UInt16) (addrs : List IfAddrs) :
    Ensures (Between movedFrom w) (createLoop movedFrom env port addrs)
      (fun _ => Between movedFrom w) fun _ => Between movedFrom w := by
  induction addrs with
  | nil => exact ensures_pure fun _ h => h
  | cons entry addrs ih => exact (createForEntry_spec movedFrom env w port entry).bind fun _ => ih

variable (movedFrom env w) in
/-- **The function** returns its elements, or throws with all of its objects destroyed. -/
theorem createAndBindForAllInterfaces_spec (port : UInt16) (addrs : List IfAddrs) :
    Ensures (Between movedFrom w) (createAndBindForAllInterfaces movedFrom env port addrs)
      (fun sockets => Within (socketLinux movedFrom) w sockets [])
      fun _ => Within (socketLinux movedFrom) w [] [] := by
  have hget : ∀ E, Ensures (Between movedFrom w) getSockets
      (fun sockets => Within (socketLinux movedFrom) w sockets []) E := by
    rintro E fr ⟨ids, h⟩
    show Within _ w fr.sockets [] fr
    rw [h.sockets]
    exact h
  have hloop := (createLoop_spec movedFrom env w port addrs).bind fun _ => hget _
  refine hloop.tryCatch fun e => ?_
  refine (hget _).bind fun sockets => ?_
  have hperm : (sockets ++ []).Perm ([] ++ (sockets ++ [])) := List.Perm.refl _
  refine (setSockets_spec movedFrom hperm).bind fun _ => ?_
  exact (destroyAll_spec movedFrom sockets).bind fun _ => ensures_throw fun _ h => h

/-- **Every call of the function** is a sequence of operations on objects.  The objects that are
alive afterwards are those from before, and the elements that it returns. -/
theorem createAndBind_run (movedFrom : Str → Str) (env : InterfaceEnv) (hfresh : w.Fresh)
    (port : UInt16) (addrs : List IfAddrs) :
    let r := exec (createAndBindForAllInterfaces movedFrom env port addrs) (Frame.entry w)
    r.2.world = Runs.run (World.step (socketLinux movedFrom)) w r.2.ops ∧
      (∀ sockets, r.1 = .ok sockets →
        ∀ i, r.2.world.Alive i ↔ w.Alive i ∨ i ∈ sockets) ∧
      (∀ e, r.1 = .error e → ∀ i, r.2.world.Alive i ↔ w.Alive i) := by
  intro r
  have hentry : Between movedFrom w (Frame.entry w) :=
    ⟨[], rfl, hfresh, rfl, List.nodup_nil, fun i => by simp [Frame.entry], by simp⟩
  have hspec := createAndBindForAllInterfaces_spec movedFrom env w port addrs
  cases hr : r.1 with
  | ok sockets =>
    have hwithin := hspec.ok hentry (show r = (.ok sockets, r.2) by rw [← hr])
    refine ⟨hwithin.logged, fun sockets' h i => ?_, nofun⟩
    obtain rfl := Except.ok.inj h
    simpa using hwithin.alive i
  | error e =>
    have hwithin := hspec.error hentry (show r = (.error e, r.2) by rw [← hr])
    exact ⟨hwithin.logged, nofun, fun _ _ i => by simpa using hwithin.alive i⟩

end Spec

end Sockets
end RcDiscover
