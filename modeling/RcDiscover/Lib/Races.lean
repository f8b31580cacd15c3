import Mathlib.Tactic

/-!
# Data races

Parties that share locations.  A state has a data race when two parties are about to access the same
location and one of them is about to write it.

* `RaceFree`: there is none;
* `Permission`: who may access a location in a state, one party for all accesses or all parties for
  reading;
* `Guarded`: a lock is held by the party that is inside the section that it guards, if there is one.

`raceFree_of_permissions` is the rule: where every access that is about to happen is permitted,
there is no race.
-/

namespace Races

/-- An access to a location. -/
structure Access (L : Type*) where
  location : L
  write : Bool
  deriving DecidableEq, Repr

/-- Reading a location. -/
def Access.reads {L : Type*} (l : L) : Access L := ⟨l, false⟩

/-- Writing a location. -/
def Access.writes {L : Type*} (l : L) : Access L := ⟨l, true⟩

variable {ι L : Type*}

/-- Two accesses are to the same location, and one of them writes. -/
def Access.Conflicts (a b : Access L) : Prop :=
  a.location = b.location ∧ (a.write = true ∨ b.write = true)

/-- No two parties are about to make conflicting accesses. -/
def RaceFree (next : ι → List (Access L)) : Prop :=
  ∀ i j, i ≠ j → ∀ a ∈ next i, ∀ b ∈ next j, ¬ a.Conflicts b

/-- Who may access a location: nobody, one party, or all parties for reading. -/
inductive Permission (ι : Type*)
  | nobody
  | exclusive (i : ι)
  | shared
  deriving DecidableEq, Repr

/-- The party may make such an access. -/
def Permission.Allows (i : ι) (write : Bool) : Permission ι → Prop
  | nobody => False
  | exclusive j => i = j
  | shared => write = false

/-- The location is in the hands of the party that holds a lock. -/
def Permission.ofHolder : Option ι → Permission ι
  | none => nobody
  | some i => exclusive i

theorem Permission.allows_ofHolder {i : ι} {write : Bool} {holder : Option ι} :
    (ofHolder holder).Allows i write ↔ holder = some i := by
  cases holder with
  | none => exact iff_of_false id (Option.some_ne_none i).symm
  | some j => exact eq_comm.trans (Option.some.injEq j i).symm.to_iff

/-- Two parties may both access a location only if both read it. -/
theorem Permission.Allows.reads {p : Permission ι} {i j : ι} {w w' : Bool} (h : p.Allows i w)
    (h' : p.Allows j w') (hne : i ≠ j) : w = false ∧ w' = false := by
  cases p with
  | nobody => exact h.elim
  | exclusive k => exact absurd (h.trans h'.symm) hne
  | shared => exact ⟨h, h'⟩

/-- **Permitted accesses do not race.** -/
theorem raceFree_of_permissions {next : ι → List (Access L)} (permission : L → Permission ι)
    (h : ∀ i, ∀ a ∈ next i, (permission a.location).Allows i a.write) : RaceFree next := by
  rintro i j hne a ha b hb ⟨hlocation, hwrite⟩
  have hb' := h j b hb
  rw [← hlocation] at hb'
  obtain ⟨hread, hread'⟩ := (h i a ha).reads hb' hne
  rw [hread, hread'] at hwrite
  simp at hwrite

/-! ### Locks -/

/-- The party that holds the lock is the one inside the section. -/
def Guarded (holder : Option ι) (inside : ι → Prop) : Prop := ∀ i, holder = some i ↔ inside i

section Guarded

variable {holder : Option ι} {inside inside' : ι → Prop} {i : ι}

/-- Nobody enters and nobody leaves. -/
theorem Guarded.keep (h : Guarded holder inside) (hsame : ∀ j, inside' j ↔ inside j) :
    Guarded holder inside' := by
  intro j
  rw [hsame j]
  exact h j

/-- A party takes the lock and enters. -/
theorem Guarded.acquire (h : Guarded none inside) (hi : inside' i)
    (hrest : ∀ j, j ≠ i → (inside' j ↔ inside j)) : Guarded (some i) inside' := by
  intro j
  by_cases hj : j = i
  · subst hj
    exact iff_of_true rfl hi
  · rw [hrest j hj, ← h j]
    exact iff_of_false (fun heq => hj (Option.some.inj heq).symm) (Option.some_ne_none j).symm

/-- A party leaves and gives the lock back. -/
theorem Guarded.release (h : Guarded holder inside) (hholder : inside i) (hi : ¬ inside' i)
    (hrest : ∀ j, j ≠ i → (inside' j ↔ inside j)) : Guarded none inside' := by
  intro j
  refine iff_of_false (Option.some_ne_none j).symm fun hj => ?_
  by_cases heq : j = i
  · exact hi (heq ▸ hj)
  · have hheld := (h j).mpr ((hrest j heq).mp hj)
    rw [(h i).mpr hholder] at hheld
    exact heq (Option.some.inj hheld).symm

end Guarded

end Races
