import RcDiscover.Socket.Interfaces

/-!
# Socket handles are closed once

Any sequence of operations on `SocketLinux` objects and of calls of
`createAndBindForAllInterfaces`, which are sequences of operations themselves.

`closedOnce_iff_along` (**main result**): no two objects ever have the same handle, and once all
objects are destroyed every handle was closed once for each time that it was handed out, exactly
when no constructor has thrown after it got its handle.
-/

namespace RcDiscover
namespace Sockets

open Runs World
open Ownership (ClosedOnce)

/-- No two objects have the same handle. -/
def UniqueOwner {H : Type} (api : SocketApi H) (w : World H) : Prop :=
  ∀ i j a b, w.objects i = some a → w.objects j = some b → a.sock ≠ api.invalid →
    a.sock = b.sock → i = j

/-- What a process does with its sockets. -/
inductive Call
  | perform (op : Op ℤ)
  | createAndBindForAllInterfaces (env : InterfaceEnv) (port : UInt16) (addrs : List IfAddrs)

section Calls

variable (movedFrom : Str → Str)

/-- The run of a call of the function. -/
def Call.outcome (w : World ℤ) (env : InterfaceEnv) (port : UInt16) (addrs : List IfAddrs) :
    Except WolException (List ℕ) × Frame :=
  Program.exec (Sockets.createAndBindForAllInterfaces movedFrom env port addrs) (Frame.entry w)

/-- The operations of a call. -/
def Call.ops (w : World ℤ) : Call → List (Op ℤ)
  | .perform op => [op]
  | .createAndBindForAllInterfaces env port addrs =>
    (Call.outcome movedFrom w env port addrs).2.ops

/-- The operations of some calls. -/
def opsOf : World ℤ → List Call → List (Op ℤ)
  | _, [] => []
  | w, call :: calls =>
    call.ops movedFrom w ++
      opsOf (run (World.step (socketLinux movedFrom)) w (call.ops movedFrom w)) calls

end Calls

section Generic

variable {H : Type} [DecidableEq H] (api : SocketApi H)

theorem World.Valid.uniqueOwner {w : World H} (hw : Valid api w) : UniqueOwner api w :=
  fun _ _ _ _ hi hj hsock hsame => hw.unique hi hj hsock hsame

theorem always_uniqueOwner (ops : List (Op H)) :
    Always (World.step api) (UniqueOwner api) start ops := by
  rw [always_iff_forall_run]
  intro pre _
  have hvalid : Valid api (run (World.step api) start pre) :=
    run_invariant (fun _ op hw => hw.step op) valid_start pre
  exact hvalid.uniqueOwner

/-- **At the end of a run** all handles were closed once exactly when none has leaked. -/
theorem closedOnce_run_iff (ops : List (Op H))
    (hend : ∀ i, (run (World.step api) start ops).objects i = none) :
    ClosedOnce (run (World.step api) start ops).trace ↔
      Along (World.step api) (fun w op => w.leaks api op = false) start ops := by
  have hvalid : Valid api (run (World.step api) start ops) :=
    run_invariant (fun _ op hw => hw.step op) valid_start ops
  have hnone : ∀ i, ((run (World.step api) start ops).ownership api).holds i = none := by
    intro i
    show owned api ((run (World.step api) start ops).objects i) = none
    rw [hend i]
    rfl
  have hstart : Ownership.Covered ((start : World H).ownership api) := nofun
  have hcovered := run_iff_along (P := fun w : World H => Ownership.Covered (w.ownership api))
    (C := fun (w : World H) op => w.leaks api op = false) (I := Valid api)
    (fun _ op hw => hw.step op)
    (fun _ op hw => Ownership.covered_iff hw.owned (step_ownership hw.fresh op)) valid_start ops
  exact (Ownership.closedOnce_iff hvalid.owned hnone).trans
    (hcovered.trans (and_iff_right hstart))

end Generic

/-- **Every socket handle is closed once.**  For every sequence of calls: no two objects ever have
the same handle; when all objects are destroyed in the end, every handle was closed once for each
time it was handed out, exactly when no constructor has thrown after it got its handle; and a call
of `createAndBindForAllInterfaces` that throws leaves no object behind. -/
theorem closedOnce_iff_along (movedFrom : Str → Str) (calls : List Call) :
    Always (World.step (socketLinux movedFrom)) (UniqueOwner (socketLinux movedFrom)) start
        (opsOf movedFrom start calls) ∧
      ((∀ i, (run (World.step (socketLinux movedFrom)) start
          (opsOf movedFrom start calls)).objects i = none) →
        (ClosedOnce (run (World.step (socketLinux movedFrom)) start
            (opsOf movedFrom start calls)).trace ↔
          Along (World.step (socketLinux movedFrom))
            (fun w op => w.leaks (socketLinux movedFrom) op = false) start
            (opsOf movedFrom start calls))) ∧
      ∀ env port addrs,
        let w := run (World.step (socketLinux movedFrom)) start (opsOf movedFrom start calls)
        let r := Call.outcome movedFrom w env port addrs
        r.2.world = run (World.step (socketLinux movedFrom)) w r.2.ops ∧
          ∀ e, r.1 = .error e → ∀ i, r.2.world.Alive i ↔ w.Alive i := by
  refine ⟨always_uniqueOwner _ _, closedOnce_run_iff _ _, fun env port addrs => ?_⟩
  have hvalid : Valid (socketLinux movedFrom)
      (run (World.step (socketLinux movedFrom)) start (opsOf movedFrom start calls)) :=
    run_invariant (fun _ op hw => hw.step op) valid_start _
  have hrun := createAndBind_run movedFrom env hvalid.fresh port addrs
  exact ⟨hrun.1, hrun.2.2⟩

/-- An interface of a sensor network. -/
def eth0 : IfAddrs where
  ifaFlags := 0x1003
  ifaName := some "eth0".toList
  ifaAddr := some ⟨afInet, 0, 0xC0A80005⟩
  ifaBroadaddr := some ⟨afInet, 0, 0xC0A800FF⟩

/-- The handles are 3, 4 and 5, the second element needs new storage, and the last `::bind`
fails. -/
def failingBind : InterfaceEnv where
  construct k := ⟨3 + k, 0, 0⟩
  bind k _ := if k = 2 then some 98 else none
  getsockname _ := ⟨afInet, 40000, 0xC0A80005⟩
  grows k := k = 1

/-- The three handles of a call that throws are closed. -/
theorem closedOnce_failingBind :
    ClosedOnce (run (World.step (socketLinux fun _ => [])) start (opsOf (fun _ => []) start
      [.createAndBindForAllInterfaces failingBind 3956 [eth0]])).trace := by
  obtain ⟨hrun, hthrow⟩ := (closedOnce_iff_along (fun _ => []) []).2.2 failingBind 3956 [eth0]
  have halive := hthrow (.socket (.socketException "Error while binding to socket".toList 98)) rfl
  refine ((closedOnce_iff_along (fun _ => [])
    [.createAndBindForAllInterfaces failingBind 3956 [eth0]]).2.1 fun i => ?_).mpr (by decide)
  rw [opsOf, opsOf, List.append_nil]
  rw [hrun] at halive
  refine Option.not_isSome_iff_eq_none.mp fun hi => ?_
  exact Bool.false_ne_true ((halive i).mp hi)

/-- When `::setsockopt` fails, the handle stays open. -/
theorem not_closedOnce_setsockopt :
    (∀ i, (run (World.step (socketLinux fun _ => [])) start (opsOf (fun _ => []) start
        [.perform (.construct 0xFFFFFFFF 3956 "eth0".toList ⟨3, -1, 92⟩)])).objects i = none) ∧
      ¬ ClosedOnce (run (World.step (socketLinux fun _ => [])) start (opsOf (fun _ => []) start
        [.perform (.construct 0xFFFFFFFF 3956 "eth0".toList ⟨3, -1, 92⟩)])).trace := by
  refine ⟨fun _ => rfl, fun h => ?_⟩
  obtain ⟨k, hk⟩ := h 3
  have hlength := congrArg List.length hk
  rw [Ownership.length_lives] at hlength
  change 1 = 2 * k at hlength
  omega

end Sockets
end RcDiscover
