import Mathlib.Logic.Function.Basic
import Mathlib.Order.Basic
import Mathlib.Data.Nat.Basic

/-!
# Recursive locks

A lock that the party which has it may take again, and has to give back as often.  `acquire` is
`none` while another party has it.

`depth l p` says how often `p` has it.  `depth_acquire` and `depth_release` are all that the
operations do, and `eq_of_depth_pos` is mutual exclusion.
-/

/-- A recursive lock: free, or held by a party which has taken it `again` more times. -/
inductive RecursiveLock (ι : Type*)
  | free
  | held (owner : ι) (again : ℕ)

namespace RecursiveLock

variable {ι : Type*} [DecidableEq ι] {l l' : RecursiveLock ι} {p q : ι}

/-- How often `p` has the lock. -/
def depth (l : RecursiveLock ι) (p : ι) : ℕ :=
  match l with
  | free => 0
  | held owner again => if p = owner then again + 1 else 0

/-- The lock after `p` has taken it; `none` when `p` has to wait. -/
def acquire (l : RecursiveLock ι) (p : ι) : Option (RecursiveLock ι) :=
  match l with
  | free => some (held p 0)
  | held owner again => if p = owner then some (held owner (again + 1)) else none

/-- The lock after `p` has given it back once. -/
def release (l : RecursiveLock ι) (p : ι) : RecursiveLock ι :=
  match l with
  | free => free
  | held owner 0 => if p = owner then free else held owner 0
  | held owner (again + 1) => if p = owner then held owner again else held owner (again + 1)

theorem exists_held_of_depth_pos (h : 0 < l.depth p) : ∃ again, l = held p again := by
  cases l with
  | free => exact absurd h (Nat.lt_irrefl 0)
  | held owner again =>
    obtain rfl : p = owner := by
      by_contra hne
      rw [depth, if_neg hne] at h
      exact Nat.lt_irrefl 0 h
    exact ⟨again, rfl⟩

/-- **Mutual exclusion.** -/
theorem eq_of_depth_pos (hp : 0 < l.depth p) (hq : 0 < l.depth q) : p = q := by
  obtain ⟨again, rfl⟩ := exists_held_of_depth_pos hp
  obtain ⟨again', heq⟩ := exists_held_of_depth_pos hq
  exact (RecursiveLock.held.inj heq).1

theorem depth_acquire (h : l.acquire p = some l') :
    l'.depth = Function.update l.depth p (l.depth p + 1) := by
  funext r
  cases l with
  | free =>
    obtain rfl : held p 0 = l' := Option.some.inj h
    by_cases hr : r = p
    · simp [depth, hr]
    · simp [depth, hr]
  | held owner again =>
    by_cases hp : p = owner
    · subst hp
      rw [acquire, if_pos rfl] at h
      obtain rfl : held p (again + 1) = l' := Option.some.inj h
      by_cases hr : r = p
      · simp [depth, hr]
      · simp [depth, hr]
    · rw [acquire, if_neg hp] at h
      cases h

theorem depth_release (h : 0 < l.depth p) :
    (l.release p).depth = Function.update l.depth p (l.depth p - 1) := by
  funext r
  obtain ⟨again, rfl⟩ := exists_held_of_depth_pos h
  by_cases hr : r = p
  · cases again <;> simp [release, depth, hr]
  · cases again <;> simp [release, depth, hr]

/-- A party that has the lock keeps all others waiting. -/
theorem acquire_eq_none (hp : 0 < l.depth p) (hne : q ≠ p) : l.acquire q = none := by
  obtain ⟨again, rfl⟩ := exists_held_of_depth_pos hp
  exact if_neg hne

end RecursiveLock
