import Mathlib.Tactic

/-!
# Stateful programs that may throw

A `Program σ ε α` changes a state of type `σ` and ends by returning an `α` or by throwing an
`ε`; the state survives an exception, as the effects of a C++ function do.  It is `ExceptT`
over `StateM`, so that `do`, `throw` and `try … catch …` are those of Lean.

* `exec m s`: the outcome of a run from `s`, with one equation for each construct;
* `Ensures P m Q E`: from a state with `P`, the program returns into `Q` or throws into `E`
  (total correctness, since a `Program` is a function), with one rule for each construct.
-/

/-- A program over the state `σ` that returns an `α` or throws an `ε`. -/
abbrev Program (σ ε α : Type) := ExceptT ε (StateM σ) α

namespace Program

variable {σ ε α β : Type}

/-- The outcome of running `m` from `s`. -/
def exec (m : Program σ ε α) (s : σ) : Except ε α × σ := m.run.run s

/-- A state transformer that does not throw, as a program. -/
def ofState (f : σ → α × σ) : Program σ ε α := ExceptT.mk fun s => ((.ok (f s).1, (f s).2))

/-- A state transformer with its own outcome, as a program. -/
def ofExcept (f : σ → Except ε α × σ) : Program σ ε α := ExceptT.mk f

/-! ### Equations of `exec` -/

@[simp] theorem exec_pure (a : α) (s : σ) : exec (pure a : Program σ ε α) s = (.ok a, s) := rfl

@[simp] theorem exec_throw (e : ε) (s : σ) : exec (throw e : Program σ ε α) s = (.error e, s) := rfl

@[simp] theorem exec_ofState (f : σ → α × σ) (s : σ) :
    exec (ofState f : Program σ ε α) s = (.ok (f s).1, (f s).2) := rfl

@[simp] theorem exec_ofExcept (f : σ → Except ε α × σ) (s : σ) :
    exec (ofExcept f : Program σ ε α) s = f s := rfl

theorem exec_bind (m : Program σ ε α) (f : α → Program σ ε β) (s : σ) :
    exec (m >>= f) s = match exec m s with
      | (.ok a, t) => exec (f a) t
      | (.error e, t) => (.error e, t) := by
  change (match exec m s with | (r, t) => (ExceptT.bindCont f r : StateM σ (Except ε β)) t) = _
  rcases exec m s with ⟨e | a, t⟩
  · rfl
  · rfl

theorem exec_bind_ok {m : Program σ ε α} {f : α → Program σ ε β} {s t : σ} {a : α}
    (h : exec m s = (.ok a, t)) : exec (m >>= f) s = exec (f a) t := by
  rw [exec_bind, h]

theorem exec_bind_error {m : Program σ ε α} {f : α → Program σ ε β} {s t : σ} {e : ε}
    (h : exec m s = (.error e, t)) : exec (m >>= f) s = (.error e, t) := by
  rw [exec_bind, h]

theorem exec_tryCatch (m : Program σ ε α) (h : ε → Program σ ε α) (s : σ) :
    exec (tryCatch m h) s = match exec m s with
      | (.ok a, t) => (.ok a, t)
      | (.error e, t) => exec (h e) t := by
  change (match exec m s with
    | (r, t) =>
      (match r with | .ok a => pure (.ok a) | .error e => h e : StateM σ (Except ε α)) t) = _
  rcases exec m s with ⟨e | a, t⟩
  · rfl
  · rfl

/-! ### Pre- and postconditions -/

/-- From a state with `P`, the program returns into `Q` or throws into `E`. -/
def Ensures (P : σ → Prop) (m : Program σ ε α) (Q : α → σ → Prop) (E : ε → σ → Prop) : Prop :=
  ∀ s, P s → match exec m s with
    | (.ok a, t) => Q a t
    | (.error e, t) => E e t

section Rules

variable {P P' : σ → Prop} {Q Q' : α → σ → Prop} {R : β → σ → Prop} {E E' F : ε → σ → Prop}

theorem Ensures.ok {m : Program σ ε α} (h : Ensures P m Q E) {s t : σ} {a : α} (hs : P s)
    (hm : exec m s = (.ok a, t)) : Q a t := by
  have := h s hs
  rwa [hm] at this

theorem Ensures.error {m : Program σ ε α} (h : Ensures P m Q E) {s t : σ} {e : ε} (hs : P s)
    (hm : exec m s = (.error e, t)) : E e t := by
  have := h s hs
  rwa [hm] at this

/-- However the program ends. -/
theorem Ensures.always {m : Program σ ε α} {J : σ → Prop} (h : Ensures P m (fun _ => J) fun _ => J)
    {s : σ} (hs : P s) : J (exec m s).2 := by
  rcases hm : exec m s with ⟨e | a, t⟩
  · exact h.error hs hm
  · exact h.ok hs hm

/-- A program that does not throw. -/
theorem Ensures.exists_ok {m : Program σ ε α} (h : Ensures P m Q fun _ _ => False) {s : σ}
    (hs : P s) : ∃ a t, exec m s = (.ok a, t) ∧ Q a t := by
  rcases hm : exec m s with ⟨e | a, t⟩
  · exact (h.error hs hm).elim
  · exact ⟨a, t, rfl, h.ok hs hm⟩

theorem ensures_pure {a : α} (h : ∀ s, P s → Q a s) :
    Ensures P (pure a : Program σ ε α) Q E := h

theorem ensures_throw {e : ε} (h : ∀ s, P s → E e s) :
    Ensures P (throw e : Program σ ε α) Q E := h

theorem ensures_ofState {f : σ → α × σ} (h : ∀ s, P s → Q (f s).1 (f s).2) :
    Ensures P (ofState f : Program σ ε α) Q E := h

theorem Ensures.conseq {m : Program σ ε α} (h : Ensures P m Q E) (hP : ∀ s, P' s → P s)
    (hQ : ∀ a s, Q a s → Q' a s) (hE : ∀ e s, E e s → E' e s) : Ensures P' m Q' E' := by
  intro s hs
  rcases hm : exec m s with ⟨e | a, t⟩
  · exact hE e t (h.error (hP s hs) hm)
  · exact hQ a t (h.ok (hP s hs) hm)

theorem Ensures.bind {m : Program σ ε α} {f : α → Program σ ε β} (hm : Ensures P m Q E)
    (hf : ∀ a, Ensures (Q a) (f a) R E) : Ensures P (m >>= f) R E := by
  intro s hs
  rcases h : exec m s with ⟨e | a, t⟩
  · rw [exec_bind_error h]
    exact hm.error hs h
  · rw [exec_bind_ok h]
    exact hf a t (hm.ok hs h)

theorem Ensures.tryCatch {m : Program σ ε α} {h : ε → Program σ ε α} (hm : Ensures P m Q F)
    (hh : ∀ e, Ensures (F e) (h e) Q E) : Ensures P (tryCatch m h) Q E := by
  intro s hs
  rw [exec_tryCatch]
  rcases hr : exec m s with ⟨e | a, t⟩
  · exact hh e t (hm.error hs hr)
  · exact hm.ok hs hr

theorem Ensures.ite {c : Prop} [Decidable c] {m m' : Program σ ε α}
    (ht : c → Ensures P m Q E) (he : ¬ c → Ensures P m' Q E) :
    Ensures P (if c then m else m') Q E := by
  split_ifs with h
  · exact ht h
  · exact he h

/-- Programs with the same runs have the same triples. -/
theorem Ensures.congr {m n : Program σ ε α} (h : Ensures P n Q E)
    (hm : ∀ s, exec m s = exec n s) : Ensures P m Q E := by
  intro s hs
  rw [hm]
  exact h s hs

/-- A fact in the precondition that is not about the state. -/
theorem Ensures.of_and {φ : Prop} {m : Program σ ε α} (h : φ → Ensures P m Q E) :
    Ensures (fun s => φ ∧ P s) m Q E := fun s hs => h hs.1 s hs.2

/-- Every program runs. -/
theorem ensures_true (m : Program σ ε α) :
    Ensures P m (fun _ _ => True) (fun _ _ => True) := by
  intro s _
  rcases exec m s with ⟨e | a, t⟩ <;> trivial

end Rules

end Program
