import Mathlib.Tactic

/-!
# Traces whose events are justified

A trace is the list of what a program has done so far.

* `Justified J t`: every event of `t` is justified, in the sense of `J`, by the events before it.

`justified_append_iff` is the rule for what comes behind a trace, and `Justified.mono` lets the
justifications grow with a run.
-/

namespace Traces

variable {ε : Type*} {J K : List ε → ε → Prop} {t u : List ε}

/-- Every event of the trace is justified by those before it. -/
def Justified (J : List ε → ε → Prop) (t : List ε) : Prop :=
  ∀ pre e post, t = pre ++ e :: post → J pre e

theorem justified_nil : Justified J [] := fun pre e post h => by simp at h

theorem Justified.mono (h : Justified J t) (hJK : ∀ pre e, J pre e → K pre e) : Justified K t :=
  fun pre e post ht => hJK pre e (h pre e post ht)

/-- What comes behind a trace is justified by the trace and by what came before it. -/
theorem justified_append_iff :
    Justified J (t ++ u) ↔ Justified J t ∧ Justified (fun pre => J (t ++ pre)) u := by
  constructor
  · intro h
    constructor
    · rintro pre e post rfl
      exact h pre e (post ++ u) (by rw [List.append_assoc, List.cons_append])
    · rintro pre e post rfl
      exact h (t ++ pre) e post (List.append_assoc _ _ _).symm
  · rintro ⟨ht, hu⟩ pre e post hsplit
    rcases List.append_eq_append_iff.mp hsplit with ⟨pre', rfl, hpost⟩ | ⟨rest, ht', hrest⟩
    · exact hu pre' e post hpost
    · cases rest with
      | nil =>
        rw [List.append_nil] at ht'
        have he : J (t ++ []) e := hu [] e post hrest.symm
        rwa [List.append_nil, ht'] at he
      | cons e' rest =>
        obtain ⟨rfl, -⟩ := List.cons_eq_cons.mp hrest
        exact ht pre e rest ht'

end Traces
