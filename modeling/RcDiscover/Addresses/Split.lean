import RcDiscover.Addresses.WellFormed

/-!
# `split`

`split<n>` cuts a text at its separators and keeps the empty fields between two of them.  Because
`getline` makes no field of what comes behind a last separator, the texts that end with one are
turned away before.

`split_exact` (**main result**): a text is split exactly when it has one separator less than fields
and none at its ends.
-/

namespace RcDiscover

section Split

variable {sep : Char} {s : Str} {fields : List Str}

/-- A joined text has a separator between any two fields. -/
theorem count_join (hfields : ∀ f ∈ fields, sep ∉ f) :
    (join sep fields).count sep = fields.length - 1 := by
  induction fields with
  | nil => rfl
  | cons f fields ih =>
    have hf : f.count sep = 0 := List.count_eq_zero.2 (hfields f List.mem_cons_self)
    cases fields with
    | nil => exact hf
    | cons g fields =>
      have hrest := ih fun x hx => hfields x (List.mem_cons_of_mem f hx)
      rw [join, List.count_append, hf, List.count_cons_self, hrest]
      simp

/-- The counted loop of `split` comes to the end of a text with the right number of separators. -/
theorem exists_splitLoop {n : ℕ} (hne : s ≠ []) (hlast : s.getLast? ≠ some sep)
    (hcount : s.count sep = n) :
    ∃ fields, splitLoop sep (n + 1) ⟨s, false⟩ = .ok (fields, ⟨[], true⟩) := by
  induction n generalizing s with
  | zero =>
    have hget := getline_last hne (List.count_eq_zero.1 hcount)
    refine ⟨[s], ?_⟩
    simp only [splitLoop, hget]
    rfl
  | succ n ih =>
    have hmem : sep ∈ s := List.count_pos_iff.1 (by omega)
    obtain ⟨f, rest, rfl, hf⟩ := List.eq_append_cons_of_mem hmem
    rw [List.count_append, List.count_eq_zero.2 hf, List.count_cons_self] at hcount
    have hrest : rest ≠ [] := by
      rintro rfl
      exact hlast (by simp)
    have hlast' : rest.getLast? ≠ some sep := by
      intro h
      refine hlast ?_
      rw [List.getLast?_append, List.getLast?_cons, h]
      rfl
    obtain ⟨fields, hloop⟩ := ih hrest hlast' (by omega)
    refine ⟨f :: fields, ?_⟩
    rw [splitLoop, getline_field hf]
    simp only [hloop]
    rfl

/-- A text that `split` takes has characters, and no separator at its ends. -/
theorem ends_of_split {n : ℕ} (h : split (n + 1) s sep = .ok fields) :
    s ≠ [] ∧ s.head? ≠ some sep ∧ s.getLast? ≠ some sep := by
  have hne : s ≠ [] := by
    rintro rfl
    simp [split, splitLoop, getline, bind, Except.bind] at h
  rw [split] at h
  split_ifs at h with hends
  rw [not_and, not_or] at hends
  exact ⟨hne, hends hne⟩

end Split

/-- **`split` cuts a text into exactly `n + 1` fields without loss**: it does so when the text has
`n` separators and none at its ends, and throws in all other cases. -/
theorem split_exact (n : ℕ) (sep : Char) (s : Str) :
    ((∃ fields, split (n + 1) s sep = .ok fields) ↔
      s ≠ [] ∧ s.head? ≠ some sep ∧ s.getLast? ≠ some sep ∧ s.count sep = n) ∧
    (∀ fields, split (n + 1) s sep = .ok fields →
      fields.length = n + 1 ∧ (∀ f ∈ fields, sep ∉ f) ∧ join sep fields = s) ∧
    (¬ (s ≠ [] ∧ s.head? ≠ some sep ∧ s.getLast? ≠ some sep ∧ s.count sep = n) →
      ∃ e, split (n + 1) s sep = .error e) := by
  have hiff : (∃ fields, split (n + 1) s sep = .ok fields) ↔
      s ≠ [] ∧ s.head? ≠ some sep ∧ s.getLast? ≠ some sep ∧ s.count sep = n := by
    constructor
    · rintro ⟨fields, h⟩
      obtain ⟨hne, hhead, hlast⟩ := ends_of_split h
      obtain ⟨hlen, rfl, hfields⟩ := of_split h
      exact ⟨hne, hhead, hlast, by rw [count_join hfields, hlen, Nat.add_sub_cancel]⟩
    · rintro ⟨hne, hhead, hlast, hcount⟩
      obtain ⟨fields, hloop⟩ := exists_splitLoop hne hlast hcount
      refine ⟨fields, ?_⟩
      rw [split, if_neg (by simp [hhead, hlast]), hloop]
      rfl
  refine ⟨hiff, fun fields h => ?_, fun hnot => ?_⟩
  · obtain ⟨hlen, hs, hfields⟩ := of_split h
    exact ⟨hlen, hfields, hs.symm⟩
  · rcases hsplit : split (n + 1) s sep with e | fields
    · exact ⟨e, rfl⟩
    · exact absurd (hiff.1 ⟨fields, hsplit⟩) hnot

/-- An empty field between two separators. -/
example : split 3 "a::b".toList ':' = .ok ["a".toList, [], "b".toList] := by decide

end RcDiscover
