import Mathlib.Tactic
import Mathlib.Logic.Equiv.Basic

/-!
# Handles and their owners

A system hands out handles and takes them back; a handle that was closed may be handed out again.
Objects own handles: they acquire them, exchange them and release them, and a handle that is handed
out may come to no owner at all.

* `State`: what each object owns, which handles are open, and the trace of the calls;
* `Step`: the steps, with the mark of a leak;
* `Owned`: no two objects own the same handle, handles with an owner are open, and each handle is
  closed once after it was handed out, unless it is still open;
* `Covered`: every open handle has an owner.

`covered_iff`: a handle without owner never finds one.  `closedOnce_iff`: when no object owns
anything any more, all handles were closed once exactly when all of them were covered.
-/

namespace Ownership

/-- A call of the system: a handle is handed out, or is closed. -/
inductive Event (H : Type*)
  | opened (h : H)
  | closed (h : H)
  deriving DecidableEq, Repr

/-- The handle of a call. -/
def Event.handle {H : Type*} : Event H → H
  | .opened h | .closed h => h

/-- What the objects own, the open handles, and the calls so far. -/
structure State (ι H : Type*) where
  holds : ι → Option H
  isOpen : H → Bool
  trace : List (Event H)

section Lives

variable {H : Type*}

/-- A handle that was handed out and closed so many times. -/
def lives (h : H) (k : ℕ) : List (Event H) := (List.replicate k [.opened h, .closed h]).flatten

theorem lives_succ (h : H) (k : ℕ) : lives h (k + 1) = lives h k ++ [.opened h, .closed h] := by
  rw [lives, List.replicate_succ', List.flatten_append, lives]
  rfl

theorem length_lives (h : H) (k : ℕ) : (lives h k).length = 2 * k := by
  induction k with
  | zero => rfl
  | succ k ih =>
    rw [lives_succ, List.length_append, ih]
    rfl

end Lives

variable {ι H : Type*}

/-- The steps; those that leave a handle without owner are marked. -/
inductive Step [DecidableEq ι] [DecidableEq H] : Bool → State ι H → State ι H → Prop
  | keep (s : State ι H) : Step false s s
  | acquire (s : State ι H) (i : ι) (h : H) (hi : s.holds i = none) (hh : s.isOpen h = false) :
    Step false s ⟨Function.update s.holds i (some h), Function.update s.isOpen h true,
      s.trace ++ [.opened h]⟩
  | leak (s : State ι H) (h : H) (hh : s.isOpen h = false) :
    Step true s ⟨s.holds, Function.update s.isOpen h true, s.trace ++ [.opened h]⟩
  | swap (s : State ι H) (i j : ι) : Step false s ⟨s.holds ∘ Equiv.swap i j, s.isOpen, s.trace⟩
  | release (s : State ι H) (i : ι) (h : H) (hi : s.holds i = some h) :
    Step false s ⟨Function.update s.holds i none, Function.update s.isOpen h false,
      s.trace ++ [.closed h]⟩

/-- Whenever a handle was handed out, it was closed once before it was handed out again. -/
def ClosedOnce [DecidableEq H] (trace : List (Event H)) : Prop :=
  ∀ h, ∃ k, trace.filter (·.handle = h) = lives h k

/-- Every open handle has an owner. -/
def Covered (s : State ι H) : Prop := ∀ h, s.isOpen h = true → ∃ i, s.holds i = some h

/-- The handles with an owner have one, and are open. -/
structure Owned [DecidableEq H] (s : State ι H) : Prop where
  unique : ∀ i j h, s.holds i = some h → s.holds j = some h → i = j
  isOpen : ∀ i h, s.holds i = some h → s.isOpen h = true
  trace : ∀ h, ∃ k, s.trace.filter (·.handle = h) =
    lives h k ++ if s.isOpen h then [.opened h] else []

section Updates

variable {i : ι} {h : H}

theorem update_some_iff [DecidableEq ι] {f : ι → Option H} {o : Option H} {j : ι} :
    Function.update f i o j = some h ↔ (j = i ∧ o = some h) ∨ (j ≠ i ∧ f j = some h) := by
  by_cases heq : j = i
  · subst heq
    simp
  · simp [heq]

theorem update_true_iff [DecidableEq H] {f : H → Bool} {h' : H} {b : Bool} :
    Function.update f h b h' = true ↔ (h' = h ∧ b = true) ∨ (h' ≠ h ∧ f h' = true) := by
  by_cases heq : h' = h
  · subst heq
    simp
  · simp [heq]

end Updates

section Steps

variable [DecidableEq H] {s t : State ι H} {i : ι} {h : H} {l : Bool}

/-- A handle that was not open is handed out. -/
theorem Owned.trace_opened (hs : Owned s) (hh : s.isOpen h = false) (h' : H) :
    ∃ k, (s.trace ++ [Event.opened h]).filter (·.handle = h') =
      lives h' k ++ if Function.update s.isOpen h true h' then [.opened h'] else [] := by
  obtain ⟨k, hk⟩ := hs.trace h'
  refine ⟨k, ?_⟩
  rw [List.filter_append, hk]
  by_cases heq : h' = h
  · subst heq
    simp [hh, Event.handle]
  · simp [Event.handle, Function.update_of_ne heq, Ne.symm heq]

/-- A handle with an owner is closed. -/
theorem Owned.trace_closed (hs : Owned s) (hi : s.holds i = some h) (h' : H) :
    ∃ k, (s.trace ++ [Event.closed h]).filter (·.handle = h') =
      lives h' k ++ if Function.update s.isOpen h false h' then [.opened h'] else [] := by
  obtain ⟨k, hk⟩ := hs.trace h'
  by_cases heq : h' = h
  · subst heq
    refine ⟨k + 1, ?_⟩
    rw [List.filter_append, hk, lives_succ]
    simp [hs.isOpen i h' hi, Event.handle]
  · refine ⟨k, ?_⟩
    rw [List.filter_append, hk]
    simp [Event.handle, Function.update_of_ne heq, Ne.symm heq]

/-- **Once no object owns anything**, all handles were closed once exactly when all of them are
covered, so that none is open. -/
theorem closedOnce_iff (hs : Owned s) (hnone : ∀ i, s.holds i = none) :
    ClosedOnce s.trace ↔ Covered s := by
  constructor
  · intro hclosed h hopen
    obtain ⟨k, hk⟩ := hclosed h
    obtain ⟨k', hk'⟩ := hs.trace h
    rw [hk', hopen] at hk
    have hlength := congrArg List.length hk
    rw [List.length_append, length_lives, length_lives, if_pos rfl,
      List.length_singleton] at hlength
    omega
  · intro hc h
    obtain ⟨k, hk⟩ := hs.trace h
    refine ⟨k, ?_⟩
    cases hopen : s.isOpen h with
    | false => rw [hk, hopen, if_neg Bool.false_ne_true, List.append_nil]
    | true =>
      obtain ⟨i, hi⟩ := hc h hopen
      rw [hnone i] at hi
      cases hi

variable [DecidableEq ι]

/-- **Every step keeps the owners apart.** -/
theorem Owned.step (hs : Owned s) (hstep : Step l s t) : Owned t := by
  cases hstep with
  | keep => exact hs
  | acquire _ i h hi hh =>
    -- nothing that was open is the new handle
    have hnew : ∀ j, s.holds j ≠ some h := by
      intro j hj
      rw [hs.isOpen j h hj] at hh
      cases hh
    refine ⟨?_, ?_, hs.trace_opened hh⟩
    · intro j k h' hj hk
      rcases update_some_iff.mp hj with ⟨hji, hh'⟩ | ⟨-, hj'⟩
      · rcases update_some_iff.mp hk with ⟨hki, -⟩ | ⟨-, hk'⟩
        · exact hji.trans hki.symm
        · exact absurd (hk'.trans hh'.symm) (hnew k)
      · rcases update_some_iff.mp hk with ⟨-, hh'⟩ | ⟨-, hk'⟩
        · exact absurd (hj'.trans hh'.symm) (hnew j)
        · exact hs.unique j k h' hj' hk'
    · intro j h' hj
      rcases update_some_iff.mp hj with ⟨-, hh'⟩ | ⟨-, hj'⟩
      · exact update_true_iff.mpr (.inl ⟨(Option.some.inj hh').symm, rfl⟩)
      · refine update_true_iff.mpr (.inr ⟨fun heq => ?_, hs.isOpen j h' hj'⟩)
        exact hnew j (heq ▸ hj')
  | leak _ h hh =>
    refine ⟨hs.unique, fun j h' hj => ?_, hs.trace_opened hh⟩
    by_cases heq : h' = h
    · exact update_true_iff.mpr (.inl ⟨heq, rfl⟩)
    · exact update_true_iff.mpr (.inr ⟨heq, hs.isOpen j h' hj⟩)
  | swap _ i j =>
    refine ⟨fun a b h' ha hb => ?_, fun a h' ha => hs.isOpen _ h' ha, hs.trace⟩
    exact (Equiv.swap i j).injective (hs.unique _ _ h' ha hb)
  | release _ i h hi =>
    have hrest : ∀ j h', Function.update s.holds i none j = some h' →
        j ≠ i ∧ s.holds j = some h' := by
      intro j h' hj
      rcases update_some_iff.mp hj with ⟨-, hnone⟩ | hj'
      · cases hnone
      · exact hj'
    refine ⟨?_, ?_, hs.trace_closed hi⟩
    · intro j k h' hj hk
      exact hs.unique j k h' (hrest j h' hj).2 (hrest k h' hk).2
    · intro j h' hj
      obtain ⟨hne, hj'⟩ := hrest j h' hj
      refine update_true_iff.mpr (.inr ⟨fun heq => hne ?_, hs.isOpen j h' hj'⟩)
      exact hs.unique j i h (heq ▸ hj') hi

/-- **Handles are covered unless one leaked**, now or before. -/
theorem covered_iff (hs : Owned s) (hstep : Step l s t) : Covered t ↔ Covered s ∧ l = false := by
  cases hstep with
  | keep => simp
  | acquire _ i h hi hh =>
    rw [and_iff_left rfl]
    constructor
    · intro ht h' hopen
      have hne : h' ≠ h := by
        rintro rfl
        rw [hopen] at hh
        cases hh
      obtain ⟨j, hj⟩ := ht h' (update_true_iff.mpr (.inr ⟨hne, hopen⟩))
      rcases update_some_iff.mp hj with ⟨-, hj⟩ | ⟨-, hj⟩
      · exact absurd (Option.some.inj hj).symm hne
      · exact ⟨j, hj⟩
    · intro hc h' hopen
      rcases update_true_iff.mp hopen with ⟨rfl, -⟩ | ⟨-, hopen⟩
      · exact ⟨i, update_some_iff.mpr (.inl ⟨rfl, rfl⟩)⟩
      · obtain ⟨j, hj⟩ := hc h' hopen
        refine ⟨j, update_some_iff.mpr (.inr ⟨?_, hj⟩)⟩
        rintro rfl
        rw [hi] at hj
        cases hj
  | leak _ h hh =>
    refine iff_of_false (fun ht => ?_) fun hc => Bool.noConfusion hc.2
    obtain ⟨i, hi⟩ := ht h (update_true_iff.mpr (.inl ⟨rfl, rfl⟩))
    rw [hs.isOpen i h hi] at hh
    cases hh
  | swap _ i j =>
    rw [and_iff_left rfl]
    constructor
    · intro ht h' hopen
      obtain ⟨a, ha⟩ := ht h' hopen
      exact ⟨Equiv.swap i j a, ha⟩
    · intro hc h' hopen
      obtain ⟨a, ha⟩ := hc h' hopen
      refine ⟨Equiv.swap i j a, ?_⟩
      simpa using ha
  | release _ i h hi =>
    rw [and_iff_left rfl]
    constructor
    · intro ht h' hopen
      by_cases heq : h' = h
      · exact ⟨i, heq ▸ hi⟩
      · obtain ⟨j, hj⟩ := ht h' (update_true_iff.mpr (.inr ⟨heq, hopen⟩))
        rcases update_some_iff.mp hj with ⟨-, hj⟩ | ⟨-, hj⟩
        · cases hj
        · exact ⟨j, hj⟩
    · intro hc h' hopen
      rcases update_true_iff.mp hopen with ⟨-, hfalse⟩ | ⟨hne, hopen⟩
      · cases hfalse
      · obtain ⟨j, hj⟩ := hc h' hopen
        refine ⟨j, update_some_iff.mpr (.inr ⟨?_, hj⟩)⟩
        rintro rfl
        exact hne (Option.some.inj (hj.symm.trans hi))

end Steps

end Ownership
