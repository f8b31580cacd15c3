import RcDiscover.Socket.Objects

/-!
# The destination of a socket handle

A handle is created for a destination and an interface.  The move constructors transfer all three;
the move assignments exchange the handles and leave the rest where it is.

* `Associated`: the objects have the destination and the interface that their handles were created
  with;
* `Transfers`: a move makes its object what the other one was;
* `Agrees`: what a move assignment needs for that.

`destination_kept_iff` (**main result**): the handles keep their destination and interface through a
run exactly when every move assignment of it is between objects that agree in both.
-/

namespace RcDiscover
namespace Sockets

open Runs World

variable {H : Type} (api : SocketApi H)

/-- Every object with a handle has the destination and the interface that it was created with. -/
def Associated (w : World H) : Prop :=
  ∀ i obj, w.objects i = some obj → obj.sock ≠ api.invalid →
    w.created obj.sock = some (obj.dstAddr, obj.ifaceName)

/-- A move assignment is between objects that agree in destination and interface, or none of which
has a handle. -/
def Agrees (w : World H) : Op H → Prop
  | .moveAssign i j => ∀ self other, w.objects i = some self → w.objects j = some other →
    (self.sock = api.invalid ∧ other.sock = api.invalid) ∨
      (self.dstAddr = other.dstAddr ∧ self.ifaceName = other.ifaceName)
  | _ => True

/-- Behind a move the object is what the other one was before: it sends to the destination of the
other object and reports its interface. -/
def Transfers (w : World H) : Op H → Prop
  | .moveConstruct j => ∀ other, w.objects j = some other →
    (w.moveConstruct api j).objects w.constructed = some other
  | .moveAssign i j => ∀ self other, w.objects i = some self → w.objects j = some other →
    other.sock ≠ api.invalid → (w.moveAssign i j).objects i = some other
  | _ => True

variable {api} {w : World H}

/-- A new object with the destination and interface of its handle. -/
theorem Associated.add (h : Associated api w) {obj : SocketObject H}
    (hobj : obj.sock ≠ api.invalid → w.created obj.sock = some (obj.dstAddr, obj.ifaceName)) :
    Associated api (w.add obj) := by
  intro i o hi hsock
  by_cases heq : i = w.constructed
  · subst heq
    obtain rfl : obj = o := by simpa [World.add] using hi
    exact hobj hsock
  · exact h i o (by simpa [World.add, heq] using hi) hsock

/-- An object is replaced by one without handle, or is gone. -/
theorem Associated.update (h : Associated api w) (i : ℕ) {o : Option (SocketObject H)}
    (ho : ∀ obj, o = some obj → obj.sock = api.invalid) :
    Associated api { w with objects := Function.update w.objects i o } := by
  intro k obj hk hsock
  by_cases heq : k = i
  · subst heq
    exact absurd (ho obj (by simpa using hk)) hsock
  · exact h k obj (by simpa [heq] using hk) hsock

theorem Associated.moveConstruct (h : Associated api w) (j : ℕ) :
    Associated api (w.moveConstruct api j) := by
  rw [World.moveConstruct]
  split
  · next other hother =>
    refine (h.update j fun obj hobj => ?_).add fun hsock => h j other hother hsock
    obtain rfl := Option.some.inj hobj
    rfl
  · exact h

/-- Two objects after they have exchanged their handles. -/
theorem Associated.exchange_iff (h : Associated api w) {i j : ℕ} {self other : SocketObject H}
    (hself : w.objects i = some self) (hother : w.objects j = some other) :
    Associated api (w.moveAssign i j) ↔
      (self.sock = api.invalid ∧ other.sock = api.invalid) ∨
        (self.dstAddr = other.dstAddr ∧ self.ifaceName = other.ifaceName) := by
  have hassign : w.moveAssign i j = { w with
      objects := Function.update (Function.update w.objects i
        (some { self with sock := other.sock })) j (some { other with sock := self.sock }) } := by
    rw [World.moveAssign, hself, hother]
    rfl
  rw [hassign]
  constructor
  · intro hafter
    by_cases hne : i = j
    · subst hne
      obtain rfl : self = other := Option.some.inj (hself.symm.trans hother)
      exact .inr ⟨rfl, rfl⟩
    by_cases hsock : other.sock = api.invalid
    · by_cases hsock' : self.sock = api.invalid
      · exact .inl ⟨hsock', hsock⟩
      · have hcreated := hafter j { other with sock := self.sock } (by simp) hsock'
        rw [h i self hself hsock'] at hcreated
        exact .inr (by simpa using hcreated)
    · have hcreated := hafter i { self with sock := other.sock } (by simp [hne]) hsock
      rw [h j other hother hsock] at hcreated
      exact .inr (by simpa [eq_comm] using hcreated)
  · rintro (⟨hsock, hsock'⟩ | ⟨hdst, hiface⟩)
    · refine (h.update i fun obj hobj => ?_).update j fun obj hobj => ?_
      · obtain rfl := Option.some.inj hobj
        exact hsock'
      · obtain rfl := Option.some.inj hobj
        exact hsock
    · intro k obj hk hsock
      by_cases hkj : k = j
      · subst hkj
        obtain rfl : { other with sock := self.sock } = obj := by simpa using hk
        rw [← hdst, ← hiface]
        exact h i self hself hsock
      by_cases hki : k = i
      · subst hki
        obtain rfl : { self with sock := other.sock } = obj := by simpa [hkj] using hk
        rw [hdst, hiface]
        exact h j other hother hsock
      · exact h k obj (by simpa [hkj, hki] using hk) hsock

/-- **A move assignment** keeps the associations exactly when its objects agree. -/
theorem Associated.moveAssign_iff (h : Associated api w) (i j : ℕ) :
    Associated api (w.moveAssign i j) ↔ Agrees api w (.moveAssign i j) := by
  cases hself : w.objects i with
  | none =>
    rw [World.moveAssign, hself]
    exact iff_of_true h fun self other hi _ => by simp [hself] at hi
  | some self =>
    cases hother : w.objects j with
    | none =>
      rw [World.moveAssign, hself, hother]
      exact iff_of_true h fun self other _ hj => by simp [hother] at hj
    | some other =>
      rw [h.exchange_iff hself hother]
      simp [Agrees, hself, hother]

/-- **A move** makes its object what the other one was, when the two agree. -/
theorem Agrees.transfers {op : Op H} (h : Agrees api w op) : Transfers api w op := by
  cases op with
  | construct | destroy => exact trivial
  | moveConstruct j =>
    intro other hother
    rw [World.moveConstruct, hother]
    exact Function.update_self _ _ _
  | moveAssign i j =>
    intro self other hself hother hsock
    rcases h self other hself hother with ⟨-, hinvalid⟩ | ⟨hdst, hiface⟩
    · exact absurd hinvalid hsock
    · have hmoved : (self.moveAssign other).1 = other := by
        simp [SocketObject.moveAssign, hdst, hiface]
      simp only [World.moveAssign, hself, hother, hmoved]
      by_cases hij : i = j
      · subst hij
        obtain rfl : self = other := Option.some.inj (hself.symm.trans hother)
        exact Function.update_self _ _ _
      · rw [Function.update_of_ne hij, Function.update_self]

section Handles

variable [DecidableEq H]

/-- The destination of a handle is forgotten with its owner. -/
theorem Associated.destroy (h : Associated api w) (hw : Valid api w) (i : ℕ) :
    Associated api (w.destroy api i) := by
  rw [World.destroy]
  split
  · next obj hobj =>
    have hrest := h.update i (o := none) fun _ hnone => absurd hnone (Option.some_ne_none _).symm
    split_ifs with hsock
    · intro k o hk hko
      have hne : o.sock ≠ obj.sock := by
        intro hsame
        by_cases hki : k = i
        · simp [hki] at hk
        · exact hki (hw.unique (by simpa [hki] using hk) hobj hko hsame)
      show Function.update w.created obj.sock none o.sock = _
      rw [Function.update_of_ne hne]
      exact hrest k o hk hko
    · exact hrest
  · exact h

/-- A handle that is handed out is not that of an object. -/
theorem Associated.opened (h : Associated api w) (hw : Valid api w) {sock : H}
    (hsock : (w.ownership api).isOpen sock = false) (dstIp : UInt32) (port : UInt16)
    (ifaceName : Str) : Associated api (w.opened api sock dstIp port ifaceName) := by
  rw [World.opened]
  split_ifs with hinvalid
  · exact h
  · intro k o hk hko
    have hne : o.sock ≠ sock := by
      rintro rfl
      exact Bool.false_ne_true (hsock.symm.trans (hw.isSome_created hk hko))
    show Function.update w.created sock _ o.sock = _
    rw [Function.update_of_ne hne]
    exact h k o hk hko

theorem Associated.construct (h : Associated api w) (hw : Valid api w) (dstIp : UInt32)
    (port : UInt16) (ifaceName : Str) (a : Answers H) :
    Associated api (w.construct api dstIp port ifaceName a).2 := by
  rcases construct_cases api w dstIp port ifaceName a with
    ⟨-, hrun⟩ | ⟨hsock, -, hrun⟩ | ⟨hsock, -, hrun⟩
  · rw [hrun]
    exact h
  · rw [hrun]
    exact h.opened hw (isOpen_socket a.socket hsock) dstIp port ifaceName
  · rw [hrun]
    refine (h.opened hw (isOpen_socket a.socket hsock) dstIp port ifaceName).add fun _ => ?_
    rw [World.opened, if_neg hsock]
    exact Function.update_self _ _ _

/-- **One step** keeps the associations unless it is a move assignment of objects that differ. -/
theorem Associated.step_iff (h : Associated api w) (hw : Valid api w) (op : Op H) :
    Associated api (w.step api op) ↔ Agrees api w op := by
  cases op with
  | construct dstIp port ifaceName a =>
    exact iff_of_true (h.construct hw dstIp port ifaceName a) trivial
  | moveConstruct j => exact iff_of_true (h.moveConstruct j) trivial
  | moveAssign i j => exact h.moveAssign_iff i j
  | destroy i => exact iff_of_true (h.destroy hw i) trivial

variable (api) in
/-- Throughout a run the objects have the destination and the interface of their handles, and every
move makes its object what the other one was. -/
def Kept (ops : List (Op H)) : Prop :=
  Always (World.step api) (Associated api) start ops ∧
    Along (World.step api) (Transfers api) start ops

/-- A run keeps them exactly when its move assignments do. -/
theorem kept_iff (api : SocketApi H) (ops : List (Op H)) :
    Kept api ops ↔ Along (World.step api) (Agrees api) start ops := by
  have halways : Always (World.step api) (Associated api) start ops ↔
      Along (World.step api) (Agrees api) start ops :=
    always_iff_along (fun _ op hw => hw.step op) (fun _ op hw h => h.step_iff hw op) valid_start
      nofun ops
  constructor
  · rintro ⟨hassociated, -⟩
    exact halways.mp hassociated
  · intro hagrees
    exact ⟨halways.mpr hagrees, hagrees.imp fun _ _ h => h.transfers⟩

end Handles

/-- **Socket handles keep their destination and interface** through a run of `SocketLinux` objects,
and of `SocketWindows` objects, exactly when every move assignment is between objects that agree in
both, or none of which has a handle. -/
theorem destination_kept_iff (movedFrom : Str → Str) :
    (∀ ops : List (Op ℤ), Kept (socketLinux movedFrom) ops ↔
      Along (World.step (socketLinux movedFrom)) (Agrees (socketLinux movedFrom)) start ops) ∧
    ∀ ops : List (Op UInt64), Kept (socketWindows movedFrom) ops ↔
      Along (World.step (socketWindows movedFrom)) (Agrees (socketWindows movedFrom)) start ops :=
  ⟨kept_iff (socketLinux movedFrom), kept_iff (socketWindows movedFrom)⟩

/-- Sockets for two interfaces, the second of which is assigned to the first. -/
def assignSecond {H : Type} (first second : H) : List (Op H) :=
  [.construct 0xC0A800FF 3956 "eth0".toList ⟨first, 0, 0⟩,
    .construct 0xC0A801FF 3956 "eth1".toList ⟨second, 0, 0⟩, .moveAssign 0 1]

/-- The first object has the handle for `eth1` then, but still sends to the network of `eth0`. -/
theorem not_kept_assigned :
    ¬ Kept (socketLinux fun _ => []) (assignSecond 3 4) ∧
      ¬ Kept (socketWindows fun _ => []) (assignSecond 3 4) := by
  constructor
  · rintro ⟨h, -⟩
    have hkept := h.2.2.2 0 ⟨"eth0".toList, 4, destination 0xC0A800FF 3956⟩ rfl (by decide)
    exact absurd hkept (by decide)
  · rintro ⟨h, -⟩
    have hkept := h.2.2.2 0 ⟨"eth0".toList, 4, destination 0xC0A800FF 3956⟩ rfl (by decide)
    exact absurd hkept (by decide)

end Sockets
end RcDiscover
