import RcDiscover.Lib.Ownership
import RcDiscover.Lib.Runs
import RcDiscover.Wol

/-!
# Socket objects

`SocketLinux` and `SocketWindows` manage their handles in the same way: an object has the interface
name of its base `Socket`, a handle, and the address that it sends to.

* `SocketApi`: in what the two classes differ;
* `SocketObject`: the constructor and the moves;
* `World`: the objects of a process with the handles that are open, and the steps `Op` that
  construct, move and destroy objects in any order.

`step_ownership`: the steps are those of objects that own handles, and a handle leaks exactly when
its constructor throws.
-/

namespace RcDiscover
namespace Sockets

open Ownership (Event)

/-- `sockaddr_in`, with the port and the address as numbers. -/
structure SockAddrIn where
  sinFamily : UInt16
  sinPort : UInt16
  sAddr : UInt32
  deriving DecidableEq, Repr

/-- `AF_INET`. -/
def afInet : UInt16 := 2

/-- `EPERM`. -/
def eperm : ℤ := 1

/-- In what the classes differ, and what `std::move` leaves behind of a string. -/
structure SocketApi (H : Type) where
  invalid : H
  /-- what the constructor throws without a handle -/
  creationError : ℤ → WolException
  /-- the constructor sets `SO_REUSEPORT` -/
  reusePort : Bool
  movedFrom : Str → Str

/-- `SocketLinux`. -/
def socketLinux (movedFrom : Str → Str) : SocketApi ℤ where
  invalid := -1
  creationError errno :=
    if errno = eperm then .operationNotPermitted
    else .socket (.socketException "Error while creating socket".toList errno)
  reusePort := true
  movedFrom := movedFrom

/-- `SocketWindows`, with `INVALID_SOCKET`. -/
def socketWindows (movedFrom : Str → Str) : SocketApi UInt64 where
  invalid := 0xFFFFFFFFFFFFFFFF
  creationError errno := .socket (.socketException "Error while creating socket".toList errno)
  reusePort := false
  movedFrom := movedFrom

/-! ### The special member functions -/

/-- `SocketLinux` or `SocketWindows`, with `iface_name_` of the base. -/
structure SocketObject (H : Type) where
  ifaceName : Str
  sock : H
  dstAddr : SockAddrIn
  deriving DecidableEq

/-- What the system calls of the constructor return, and `errno` of the one that fails. -/
structure Answers (H : Type) where
  socket : H
  setsockopt : ℤ
  errno : ℤ

section Members

variable {H : Type} (api : SocketApi H)

/-- `dst_addr_` of a new object. -/
def destination (dstIp : UInt32) (port : UInt16) : SockAddrIn := ⟨afInet, port, dstIp⟩

/-- The constructor.  When it throws, there is no object and no destructor. -/
def SocketObject.construct [DecidableEq H] (dstIp : UInt32) (port : UInt16) (ifaceName : Str)
    (a : Answers H) : Except WolException (SocketObject H) :=
  if a.socket = api.invalid then .error (api.creationError a.errno)
  else if api.reusePort ∧ a.setsockopt = -1 then
    .error (.socket (.socketException "Error while setting socket options".toList a.errno))
  else .ok ⟨ifaceName, a.socket, destination dstIp port⟩

/-- The move constructor: the new object, and what `other` is then. -/
def SocketObject.moveConstruct (other : SocketObject H) : SocketObject H × SocketObject H :=
  let self : SocketObject H := ⟨other.ifaceName, api.invalid, other.dstAddr⟩
  let other := { other with ifaceName := api.movedFrom other.ifaceName }
  -- `std::swap(sock_, other.sock_)`
  ({ self with sock := other.sock }, { other with sock := self.sock })

/-- The move assignment, which only has `std::swap(sock_, other.sock_)`. -/
def SocketObject.moveAssign (self other : SocketObject H) : SocketObject H × SocketObject H :=
  ({ self with sock := other.sock }, { other with sock := self.sock })

end Members

/-! ### The objects of a process -/

/-- The objects that are alive, numbered in the order of their construction, with the destination
and the interface name that each open handle was created with, and the calls that open and close
handles. -/
structure World (H : Type) where
  objects : ℕ → Option (SocketObject H)
  constructed : ℕ
  created : H → Option (SockAddrIn × Str)
  trace : List (Event H)

/-- What can happen to the objects. -/
inductive Op (H : Type)
  | construct (dstIp : UInt32) (port : UInt16) (ifaceName : Str) (a : Answers H)
  | moveConstruct (other : ℕ)
  | moveAssign (self other : ℕ)
  | destroy (i : ℕ)

namespace World

variable {H : Type} (api : SocketApi H)

/-- Before the first object. -/
def start : World H where
  objects _ := none
  constructed := 0
  created _ := none
  trace := []

/-- What `::socket` returns: a handle that is open is not handed out again. -/
def socket (w : World H) (h : H) : H := if (w.created h).isSome then api.invalid else h

/-- An object is there from now on. -/
def add (w : World H) (obj : SocketObject H) : World H :=
  { w with
    objects := Function.update w.objects w.constructed (some obj)
    constructed := w.constructed + 1 }

/-- A move constructor is called. -/
def moveConstruct (w : World H) (j : ℕ) : World H :=
  match w.objects j with
  | some other =>
    let r := other.moveConstruct api
    { w with objects := Function.update w.objects j (some r.2) }.add r.1
  | none => w

/-- A move assignment is called. -/
def moveAssign (w : World H) (i j : ℕ) : World H :=
  match w.objects i, w.objects j with
  | some self, some other =>
    let r := self.moveAssign other
    { w with objects := Function.update (Function.update w.objects i (some r.1)) j (some r.2) }
  | _, _ => w

/-- No object has a number that is not used yet. -/
def Fresh (w : World H) : Prop := ∀ i, w.constructed ≤ i → w.objects i = none

section Fresh

variable {w : World H}

theorem Fresh.lt (h : w.Fresh) {i : ℕ} {obj : SocketObject H} (hi : w.objects i = some obj) :
    i < w.constructed := by
  by_contra hle
  rw [h i (Nat.le_of_not_lt hle)] at hi
  cases hi

theorem Fresh.update (h : w.Fresh) {i : ℕ} (hi : i < w.constructed)
    (o : Option (SocketObject H)) :
    World.Fresh { w with objects := Function.update w.objects i o } := by
  intro k hk
  show Function.update w.objects i o k = none
  rw [Function.update_of_ne (hi.trans_le hk).ne', h k hk]

theorem Fresh.add (h : w.Fresh) (obj : SocketObject H) : (w.add obj).Fresh := by
  intro k hk
  have hlt : w.constructed < k := hk
  show Function.update w.objects w.constructed (some obj) k = none
  rw [Function.update_of_ne hlt.ne', h k hlt.le]

end Fresh

variable [DecidableEq H]

/-- The call of `::socket` has returned `h`. -/
def opened (w : World H) (h : H) (dstIp : UInt32) (port : UInt16) (ifaceName : Str) : World H :=
  if h = api.invalid then w
  else { w with
    created := Function.update w.created h (some (destination dstIp port, ifaceName))
    trace := w.trace ++ [.opened h] }

/-- A constructor is called. -/
def construct (w : World H) (dstIp : UInt32) (port : UInt16) (ifaceName : Str) (a : Answers H) :
    Except WolException ℕ × World H :=
  let a := { a with socket := w.socket api a.socket }
  let w := w.opened api a.socket dstIp port ifaceName
  match SocketObject.construct api dstIp port ifaceName a with
  | .ok obj => (.ok w.constructed, w.add obj)
  | .error e => (.error e, w)

/-- A destructor is called. -/
def destroy (w : World H) (i : ℕ) : World H :=
  match w.objects i with
  | some obj =>
    let w := { w with objects := Function.update w.objects i none }
    if obj.sock ≠ api.invalid then
      { w with
        created := Function.update w.created obj.sock none
        trace := w.trace ++ [.closed obj.sock] }
    else w
  | none => w

/-- One step.  What cannot be done to the objects that are there does nothing. -/
def step (w : World H) : Op H → World H
  | .construct dstIp port ifaceName a => (w.construct api dstIp port ifaceName a).2
  | .moveConstruct j => w.moveConstruct api j
  | .moveAssign i j => w.moveAssign i j
  | .destroy i => w.destroy api i

/-! ### Handles and their owners -/

/-- The handle that is closed with an object, if there is one. -/
def owned (obj : Option (SocketObject H)) : Option H :=
  obj.bind fun obj => if obj.sock = api.invalid then none else some obj.sock

/-- The world as one in which objects own handles. -/
def ownership (w : World H) : Ownership.State ℕ H where
  holds := owned api ∘ w.objects
  isOpen h := (w.created h).isSome
  trace := w.trace

/-- A constructor throws although it has its handle. -/
def leaks (w : World H) : Op H → Bool
  | .construct _ _ _ a => w.socket api a.socket ≠ api.invalid ∧ api.reusePort ∧ a.setsockopt = -1
  | _ => false

variable {api} {w : World H}

/-- A handle that is handed out was not open. -/
theorem isOpen_socket (h : H) (hne : w.socket api h ≠ api.invalid) :
    (w.ownership api).isOpen (w.socket api h) = false := by
  show (w.created (w.socket api h)).isSome = false
  unfold socket at hne ⊢
  split_ifs at hne ⊢ with hopen
  · exact absurd rfl hne
  · exact Bool.eq_false_of_not_eq_true hopen

theorem owned_some {obj : SocketObject H} :
    owned api (some obj) = if obj.sock = api.invalid then none else some obj.sock := rfl

variable (api w) in
/-- The three outcomes of a constructor. -/
theorem construct_cases (dstIp : UInt32) (port : UInt16) (ifaceName : Str) (a : Answers H) :
    (w.socket api a.socket = api.invalid ∧
      w.construct api dstIp port ifaceName a = (.error (api.creationError a.errno), w)) ∨
    (w.socket api a.socket ≠ api.invalid ∧ (api.reusePort = true ∧ a.setsockopt = -1) ∧
      w.construct api dstIp port ifaceName a =
        (.error (.socket (.socketException "Error while setting socket options".toList a.errno)),
          w.opened api (w.socket api a.socket) dstIp port ifaceName)) ∨
    (w.socket api a.socket ≠ api.invalid ∧ ¬ (api.reusePort = true ∧ a.setsockopt = -1) ∧
      w.construct api dstIp port ifaceName a =
        (.ok w.constructed, (w.opened api (w.socket api a.socket) dstIp port ifaceName).add
          ⟨ifaceName, w.socket api a.socket, destination dstIp port⟩)) := by
  unfold construct SocketObject.construct
  by_cases hsock : w.socket api a.socket = api.invalid
  · refine .inl ⟨hsock, ?_⟩
    simp only [if_pos hsock, opened]
  by_cases hopt : api.reusePort = true ∧ a.setsockopt = -1
  · refine .inr (.inl ⟨hsock, hopt, ?_⟩)
    simp only [if_neg hsock, if_pos hopt]
  · refine .inr (.inr ⟨hsock, hopt, ?_⟩)
    simp only [if_neg hsock, if_neg hopt, opened]

theorem ownership_opened {h : H} (hh : h ≠ api.invalid) (dstIp : UInt32) (port : UInt16)
    (ifaceName : Str) :
    (w.opened api h dstIp port ifaceName).ownership api =
      ⟨owned api ∘ w.objects, Function.update (w.ownership api).isOpen h true,
        w.trace ++ [.opened h]⟩ := by
  rw [opened, if_neg hh, ownership]
  congr 1
  exact Function.comp_update Option.isSome w.created h _

theorem ownership_add (obj : SocketObject H) :
    (w.add obj).ownership api =
      ⟨Function.update (owned api ∘ w.objects) w.constructed (owned api (some obj)),
        (w.ownership api).isOpen, w.trace⟩ := by
  rw [add, ownership, Function.comp_update]
  rfl

theorem Fresh.holds (h : w.Fresh) : (w.ownership api).holds w.constructed = none := by
  show owned api (w.objects w.constructed) = none
  rw [h _ le_rfl]
  rfl

/-- **A constructor** acquires its handle, leaks it, or has none. -/
theorem ownership_construct (hfresh : w.Fresh) (dstIp : UInt32) (port : UInt16) (ifaceName : Str)
    (a : Answers H) :
    Ownership.Step (w.leaks api (.construct dstIp port ifaceName a)) (w.ownership api)
      ((w.construct api dstIp port ifaceName a).2.ownership api) := by
  rcases construct_cases api w dstIp port ifaceName a with
    ⟨hsock, hw⟩ | ⟨hsock, hopt, hw⟩ | ⟨hsock, hopt, hw⟩
  · rw [hw, leaks, decide_eq_false fun h => h.1 hsock]
    exact .keep _
  · rw [hw, leaks, decide_eq_true ⟨hsock, hopt⟩, ownership_opened hsock]
    exact .leak _ _ (isOpen_socket a.socket hsock)
  · rw [hw, leaks, decide_eq_false fun h => hopt h.2, ownership_add, ownership_opened hsock,
      owned_some, if_neg hsock, opened, if_neg hsock]
    exact .acquire _ _ _ hfresh.holds (isOpen_socket a.socket hsock)

/-- **A move constructor** exchanges the handle with an object that has none. -/
theorem ownership_moveConstruct (hfresh : w.Fresh) (j : ℕ) :
    Ownership.Step false (w.ownership api) ((w.moveConstruct api j).ownership api) := by
  rw [moveConstruct]
  split
  · next other hother =>
    have hnew : owned api (some (other.moveConstruct api).1) = owned api (w.objects j) := by
      rw [hother]
      rfl
    have hold : owned api (some (other.moveConstruct api).2) =
        owned api (w.objects w.constructed) := by
      rw [hfresh _ le_rfl]
      exact if_pos rfl
    have hswap : Function.update (Function.update (owned api ∘ w.objects) j
        (owned api (some (other.moveConstruct api).2))) w.constructed
          (owned api (some (other.moveConstruct api).1)) =
        (owned api ∘ w.objects) ∘ Equiv.swap w.constructed j := by
      rw [hnew, hold]
      exact (Equiv.comp_swap_eq_update w.constructed j (owned api ∘ w.objects)).symm
    rw [ownership_add, Function.comp_update, hswap]
    exact .swap _ _ _
  · exact .keep _

/-- **A move assignment** exchanges the handles. -/
theorem ownership_moveAssign (i j : ℕ) :
    Ownership.Step false (w.ownership api) ((w.moveAssign i j).ownership api) := by
  rw [moveAssign]
  split
  · next self other hself hother =>
    have hswap : Function.update (Function.update (owned api ∘ w.objects) i
        (owned api (some (self.moveAssign other).1))) j
          (owned api (some (self.moveAssign other).2)) =
        (owned api ∘ w.objects) ∘ Equiv.swap j i := by
      have hi : owned api (some (self.moveAssign other).1) = owned api (w.objects j) := by
        rw [hother]
        rfl
      have hj : owned api (some (self.moveAssign other).2) = owned api (w.objects i) := by
        rw [hself]
        rfl
      rw [hi, hj]
      exact (Equiv.comp_swap_eq_update j i (owned api ∘ w.objects)).symm
    simp only [ownership, Function.comp_update, hswap]
    exact .swap (w.ownership api) j i
  · exact .keep _

/-- **A destructor** releases the handle, if there is one. -/
theorem ownership_destroy (i : ℕ) :
    Ownership.Step false (w.ownership api) ((w.destroy api i).ownership api) := by
  rw [destroy]
  split
  · next obj hobj =>
    have hholds : (w.ownership api).holds i = owned api (some obj) := by rw [← hobj]; rfl
    by_cases hsock : obj.sock = api.invalid
    · rw [owned_some, if_pos hsock] at hholds
      have hsame : Function.update (owned api ∘ w.objects) i (owned api none) =
          owned api ∘ w.objects := Function.update_eq_self_iff.mpr hholds.symm
      simp only [if_neg (not_not.mpr hsock), ownership, Function.comp_update, hsame]
      exact .keep (w.ownership api)
    · rw [owned_some, if_neg hsock] at hholds
      have hopen : (fun h => (Function.update w.created obj.sock none h).isSome) =
          Function.update (w.ownership api).isOpen obj.sock false :=
        Function.comp_update Option.isSome w.created obj.sock none
      simp only [ne_eq, if_pos hsock, ownership, Function.comp_update, hopen]
      exact .release (w.ownership api) i obj.sock hholds
  · exact .keep _

/-- **Every step of the world** is one of objects that own handles. -/
theorem step_ownership (hfresh : w.Fresh) (op : Op H) :
    Ownership.Step (w.leaks api op) (w.ownership api) ((w.step api op).ownership api) := by
  cases op with
  | construct dstIp port ifaceName a => exact ownership_construct hfresh dstIp port ifaceName a
  | moveConstruct j => exact ownership_moveConstruct hfresh j
  | moveAssign i j => exact ownership_moveAssign i j
  | destroy i => exact ownership_destroy i

theorem Fresh.opened (h : w.Fresh) (sock : H) (dstIp : UInt32) (port : UInt16)
    (ifaceName : Str) : (w.opened api sock dstIp port ifaceName).Fresh := by
  rw [World.opened]
  split_ifs <;> exact h

theorem Fresh.step (h : w.Fresh) (op : Op H) : (w.step api op).Fresh := by
  cases op with
  | construct dstIp port ifaceName a =>
    rw [World.step]
    rcases construct_cases api w dstIp port ifaceName a with
      ⟨-, hw⟩ | ⟨-, -, hw⟩ | ⟨-, -, hw⟩
    · rw [hw]
      exact h
    · rw [hw]
      exact h.opened _ _ _ _
    · rw [hw]
      exact (h.opened _ _ _ _).add _
  | moveConstruct j =>
    rw [World.step, moveConstruct]
    split
    · next other hother => exact (h.update (h.lt hother) _).add _
    · exact h
  | moveAssign i j =>
    rw [World.step, moveAssign]
    split
    · next self other hself hother =>
      exact (h.update (h.lt hself) _).update (h.lt hother) _
    · exact h
  | destroy i =>
    rw [World.step, destroy]
    split
    · next obj hobj => split_ifs <;> exact h.update (h.lt hobj) none
    · exact h

/-- What holds in every state. -/
structure Valid (api : SocketApi H) (w : World H) : Prop where
  fresh : w.Fresh
  owned : Ownership.Owned (w.ownership api)

theorem valid_start : Valid api (start : World H) where
  fresh _ _ := rfl
  owned := ⟨nofun, nofun, fun _ => ⟨0, rfl⟩⟩

/-- An object with a handle owns it. -/
theorem holds_of_objects {i : ℕ} {obj : SocketObject H} (hi : w.objects i = some obj)
    (hsock : obj.sock ≠ api.invalid) : (w.ownership api).holds i = some obj.sock := by
  show owned api (w.objects i) = some obj.sock
  rw [hi, owned_some, if_neg hsock]

/-- **A handle has one owner.** -/
theorem Valid.unique (hw : Valid api w) {i j : ℕ} {a b : SocketObject H}
    (hi : w.objects i = some a) (hj : w.objects j = some b) (hsock : a.sock ≠ api.invalid)
    (hsame : a.sock = b.sock) : i = j := by
  refine hw.owned.unique i j a.sock (holds_of_objects hi hsock) ?_
  rw [hsame] at hsock ⊢
  exact holds_of_objects hj hsock

/-- The handle of an object is open. -/
theorem Valid.isSome_created (hw : Valid api w) {i : ℕ} {obj : SocketObject H}
    (hi : w.objects i = some obj) (hsock : obj.sock ≠ api.invalid) :
    (w.created obj.sock).isSome = true :=
  hw.owned.isOpen i obj.sock (holds_of_objects hi hsock)

theorem Valid.step (h : Valid api w) (op : Op H) : Valid api (w.step api op) :=
  ⟨h.fresh.step op, h.owned.step (step_ownership h.fresh op)⟩

end World

end Sockets
end RcDiscover
