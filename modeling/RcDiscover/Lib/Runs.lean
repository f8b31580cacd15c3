import Mathlib.Tactic

/-!
# Runs of a deterministic machine

A machine is a function `step : σ → ω → σ`; a run is a list of operations.

* `run step s ops`: the state after the operations;
* `Always step P s ops`: `P` holds in every state of the run, the first one included;
* `Along step C s ops`: `C` holds of every step of the run, as a condition on the state before
  the step and the operation;
* `count step C s ops`: the number of steps of the run of which `C` holds.

`run_invariant` is the rule for an invariant.  `always_iff_along` is the rule for a property
that some steps break: when `C` says exactly which steps keep it, then it holds throughout a
run exactly when all steps of the run meet `C`, and `run_iff_along` when such a property is never
regained, so that its holding at the end says the same.  `run_count` is the rule for a number that
grows with some steps, `run_countP` for an invariant that speaks of the number of certain
operations, and `count_le` for the number of steps that make something smaller.
-/

namespace Runs

variable {σ ω : Type*} (step : σ → ω → σ)

/-- The state after the operations. -/
def run (s : σ) (ops : List ω) : σ := ops.foldl step s

/-- `P` holds in every state of the run. -/
def Always (P : σ → Prop) : σ → List ω → Prop
  | s, [] => P s
  | s, op :: ops => P s ∧ Always P (step s op) ops

/-- `C` holds of every step of the run. -/
def Along (C : σ → ω → Prop) : σ → List ω → Prop
  | _, [] => True
  | s, op :: ops => C s op ∧ Along C (step s op) ops

instance decidableAlong {step : σ → ω → σ} {C : σ → ω → Prop} [∀ s op, Decidable (C s op)] :
    ∀ s ops, Decidable (Along step C s ops)
  | _, [] => isTrue trivial
  | s, op :: ops =>
    have : Decidable (Along step C (step s op) ops) := decidableAlong (step s op) ops
    inferInstanceAs (Decidable (C s op ∧ Along step C (step s op) ops))

/-- The number of steps of the run of which `C` holds. -/
def count (C : σ → ω → Bool) : σ → List ω → ℕ
  | _, [] => 0
  | s, op :: ops => (C s op).toNat + count C (step s op) ops

variable {step} {P I : σ → Prop} {C : σ → ω → Prop} {s : σ} {ops : List ω}

@[simp] theorem run_nil : run step s [] = s := rfl

@[simp] theorem run_cons (op : ω) : run step s (op :: ops) = run step (step s op) ops := rfl

@[simp] theorem run_append (ops' : List ω) :
    run step s (ops ++ ops') = run step (run step s ops) ops' := List.foldl_append

/-- **An invariant holds after every run.** -/
theorem run_invariant (hstep : ∀ s op, I s → I (step s op)) (h : I s) (ops : List ω) :
    I (run step s ops) := by
  induction ops generalizing s with
  | nil => exact h
  | cons op ops ih => exact ih (hstep s op h)

/-- An invariant of the operations of the run. -/
theorem run_invariant_of_mem (hstep : ∀ s, ∀ op ∈ ops, I s → I (step s op)) (h : I s) :
    I (run step s ops) := by
  induction ops generalizing s with
  | nil => exact h
  | cons op ops ih =>
    exact ih (fun s op' hop => hstep s op' (List.mem_cons_of_mem _ hop))
      (hstep s op List.mem_cons_self h)

/-- `Always` speaks of the states after all beginnings of the run. -/
theorem always_iff_forall_run :
    Always step P s ops ↔ ∀ pre, pre <+: ops → P (run step s pre) := by
  induction ops generalizing s with
  | nil => simp [Always]
  | cons op ops ih =>
    simp only [Always, ih, List.prefix_cons_iff]
    constructor
    · rintro ⟨h, hall⟩ pre (rfl | ⟨pre, rfl, hpre⟩)
      · exact h
      · exact hall pre hpre
    · intro hall
      exact ⟨hall [] (.inl rfl), fun pre hpre => hall (op :: pre) (.inr ⟨pre, rfl, hpre⟩)⟩

/-- What every step of the run meets, when a condition on it is enough. -/
theorem Along.imp {D : σ → ω → Prop} (hstep : ∀ s op, C s op → D s op)
    (h : Along step C s ops) : Along step D s ops := by
  induction ops generalizing s with
  | nil => exact trivial
  | cons op ops ih => exact ⟨hstep s op h.1, ih h.2⟩

/-- **A property that some steps break** holds throughout a run exactly when every step of the
run is one that keeps it. -/
theorem always_iff_along (hI : ∀ s op, I s → I (step s op))
    (hstep : ∀ s op, I s → P s → (P (step s op) ↔ C s op)) (h : I s) (hP : P s) (ops : List ω) :
    Always step P s ops ↔ Along step C s ops := by
  induction ops generalizing s with
  | nil => exact ⟨fun _ => trivial, fun _ => hP⟩
  | cons op ops ih =>
    simp only [Always, Along]
    constructor
    · rintro ⟨-, hall⟩
      have hP' : P (step s op) := by
        cases ops with
        | nil => exact hall
        | cons => exact hall.1
      exact ⟨(hstep s op h hP).1 hP', (ih (hI s op h) hP').1 hall⟩
    · rintro ⟨hC, halong⟩
      exact ⟨hP, (ih (hI s op h) ((hstep s op h hP).2 hC)).2 halong⟩

/-- **A property that is never regained** holds at the end exactly when all steps kept it. -/
theorem run_iff_along (hI : ∀ s op, I s → I (step s op))
    (hstep : ∀ s op, I s → (P (step s op) ↔ P s ∧ C s op)) (h : I s) (ops : List ω) :
    P (run step s ops) ↔ P s ∧ Along step C s ops := by
  induction ops generalizing s with
  | nil => exact (and_iff_left trivial).symm
  | cons op ops ih => rw [run_cons, ih (hI s op h), hstep s op h, Along, and_assoc]

/-- **A number that grows by one with some steps.** -/
theorem run_count {f : σ → ℕ} {C : σ → ω → Bool} (hI : ∀ s op, I s → I (step s op))
    (hstep : ∀ s op, I s → f (step s op) = f s + (C s op).toNat) (h : I s) (ops : List ω) :
    f (run step s ops) = f s + count step C s ops := by
  induction ops generalizing s with
  | nil => rfl
  | cons op ops ih => rw [run_cons, ih (hI s op h), hstep s op h, count, Nat.add_assoc]

/-- **An invariant with the number of certain operations** so far. -/
theorem run_countP {J : ℕ → σ → Prop} {C : ω → Bool}
    (hstep : ∀ n s op, J n s → J (n + (C op).toNat) (step s op)) {n : ℕ} (h : J n s)
    (ops : List ω) : J (n + ops.countP C) (run step s ops) := by
  induction ops generalizing s n with
  | nil => exact h
  | cons op ops ih =>
    have hcount : n + (op :: ops).countP C = n + (C op).toNat + ops.countP C := by
      rw [List.countP_cons]
      cases C op with
      | false => rfl
      | true =>
        simp only [if_true, Bool.toNat_true]
        omega
    rw [hcount]
    exact ih (hstep n s op h)

/-- **Steps that make a number smaller** are at most so many. -/
theorem count_le {f : σ → ℕ} {C : σ → ω → Bool} (hI : ∀ s op, I s → I (step s op))
    (hstep : ∀ s op, I s → f (step s op) + (C s op).toNat ≤ f s) (h : I s) (ops : List ω) :
    count step C s ops ≤ f s := by
  induction ops generalizing s with
  | nil => exact Nat.zero_le _
  | cons op ops ih =>
    have hrest := ih (hI s op h)
    have hone := hstep s op h
    rw [count]
    omega

theorem count_eq_zero_iff {C : σ → ω → Bool} :
    count step C s ops = 0 ↔ Along step (fun s op => C s op = false) s ops := by
  induction ops generalizing s with
  | nil => simp [count, Along]
  | cons op ops ih => simp [count, Along, ih]

end Runs
