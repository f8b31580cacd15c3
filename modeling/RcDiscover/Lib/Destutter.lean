import Mathlib.Tactic
import Mathlib.Data.List.Destutter

/-!
# Adjacent duplicates

`List.destutter` keeps one element of every run of adjacent equal ones.  Two uses of it:

* a list made of blocks of repetitions collapses to the list of its blocks, provided that
  neighbouring blocks differ (`destutter_blocks`);
* on a list sorted by a key, dropping neighbours with the same key leaves exactly one element
  for each key, in strictly increasing order (`pairwise_destutter_key`,
  `exists_mem_destutter_key`).  This is `std::sort` followed by `std::unique`.
-/

namespace Destutter

variable {α β κ : Type*}

section Blocks

variable [DecidableEq α]

theorem destutter'_replicate_append (a : α) (k : ℕ) (l : List α) :
    (List.replicate k a ++ l).destutter' (· ≠ ·) a = l.destutter' (· ≠ ·) a := by
  induction k with
  | zero => rfl
  | succ k ih =>
    rw [List.replicate_succ, List.cons_append, List.destutter'_cons_neg _ (by simp), ih]

theorem destutter'_blocks {f : β → α} {n : β → ℕ} (hn : ∀ b, 0 < n b) (bs : List β) (a : α)
    (h : (a :: bs.map f).IsChain (· ≠ ·)) :
    (bs.flatMap fun b => List.replicate (n b) (f b)).destutter' (· ≠ ·) a = a :: bs.map f := by
  induction bs generalizing a with
  | nil => rfl
  | cons b bs ih =>
    rw [List.map_cons, List.isChain_cons_cons] at h
    obtain ⟨k, hk⟩ := Nat.exists_eq_succ_of_ne_zero (hn b).ne'
    rw [List.flatMap_cons, hk, List.replicate_succ, List.cons_append,
      List.destutter'_cons_pos _ h.1, destutter'_replicate_append, ih _ h.2, List.map_cons]

/-- Blocks of repetitions collapse to the list of the blocks. -/
theorem destutter_blocks {f : β → α} {n : β → ℕ} (hn : ∀ b, 0 < n b) {bs : List β}
    (h : (bs.map f).IsChain (· ≠ ·)) :
    (bs.flatMap fun b => List.replicate (n b) (f b)).destutter (· ≠ ·) = bs.map f := by
  cases bs with
  | nil => rfl
  | cons b bs =>
    obtain ⟨k, hk⟩ := Nat.exists_eq_succ_of_ne_zero (hn b).ne'
    rw [List.flatMap_cons, hk, List.replicate_succ, List.cons_append, List.destutter_cons',
      destutter'_replicate_append, destutter'_blocks hn bs _ h, List.map_cons]

end Blocks

section Key

variable [LinearOrder κ] (key : α → κ)

/-- Sorted by the key and without neighbours of equal key: strictly sorted. -/
theorem pairwise_destutter_key {l : List α} (h : l.Pairwise fun a b => key a ≤ key b) :
    (l.destutter fun a b => key a ≠ key b).Pairwise fun a b => key a < key b := by
  have hle := (h.sublist (List.destutter_sublist (fun a b => key a ≠ key b) l)).isChain
  have hne := List.isChain_destutter (fun a b => key a ≠ key b) l
  have hlt : (l.destutter fun a b => key a ≠ key b).IsChain fun a b => key a < key b := by
    rw [List.isChain_iff_getElem] at hle hne ⊢
    exact fun i hi => lt_of_le_of_ne (hle i hi) (hne i hi)
  have : IsTrans α fun a b => key a < key b := ⟨fun _ _ _ => lt_trans⟩
  exact List.isChain_iff_pairwise.1 hlt

theorem exists_mem_destutter'_key (l : List α) (a : α) :
    ∀ b ∈ a :: l, ∃ c ∈ l.destutter' (fun a b => key a ≠ key b) a, key c = key b := by
  induction l generalizing a with
  | nil => simp
  | cons d l ih =>
    intro b hb
    by_cases hd : key a ≠ key d
    · rw [List.destutter'_cons_pos (R := fun a b => key a ≠ key b) _ hd]
      rcases List.mem_cons.1 hb with rfl | hb
      · exact ⟨b, List.mem_cons_self, rfl⟩
      · obtain ⟨c, hc, he⟩ := ih d b hb
        exact ⟨c, List.mem_cons_of_mem _ hc, he⟩
    · rw [List.destutter'_cons_neg (R := fun a b => key a ≠ key b) _ hd]
      rcases List.mem_cons.1 hb with rfl | hb
      · exact ih b b List.mem_cons_self
      rcases List.mem_cons.1 hb with rfl | hb
      · obtain ⟨c, hc, he⟩ := ih a a List.mem_cons_self
        exact ⟨c, hc, he.trans (not_not.1 hd)⟩
      · exact ih a b (List.mem_cons_of_mem _ hb)

/-- No key is lost. -/
theorem exists_mem_destutter_key {l : List α} {b : α} (hb : b ∈ l) :
    ∃ c ∈ l.destutter fun a b => key a ≠ key b, key c = key b := by
  cases l with
  | nil => simp at hb
  | cons a l => exact exists_mem_destutter'_key key l a b hb

end Key

end Destutter
