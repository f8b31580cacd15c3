import Mathlib.Tactic
import Mathlib.Data.List.TakeWhile

/-!
# Blocks of equal keys

`blocks key l` cuts a list into its runs of neighbours with the same key, each given by its first
element and the others.  On a list that is sorted by the key there is one block for each key, in
ascending order (`pairwise_blocks`, `mem_keys_blocks_iff`), and it consists of all elements with
that key (`cons_eq_filter_of_mem_blocks`).
-/

namespace Blocks

variable {α κ : Type*}

section Definition

variable [DecidableEq κ] (key : α → κ)

/-- The runs of neighbours with the same key. -/
def blocks : List α → List (α × List α)
  | [] => []
  | a :: l => (a, l.takeWhile (key · = key a)) :: blocks (l.dropWhile (key · = key a))
termination_by l => l.length
decreasing_by
  simp only [List.length_cons]
  exact Nat.lt_succ_of_le (List.length_dropWhile_le _ _)

@[simp] theorem blocks_nil : blocks key [] = [] := by rw [blocks]

theorem blocks_cons (a : α) (l : List α) :
    blocks key (a :: l) =
      (a, l.takeWhile (key · = key a)) :: blocks key (l.dropWhile (key · = key a)) := by
  rw [blocks]

/-- A block consists of elements of the list. -/
theorem mem_of_mem_blocks {l : List α} {b : α} {bs : List α} (h : (b, bs) ∈ blocks key l) :
    b ∈ l := by
  induction l using blocks.induct key with
  | case1 => simp at h
  | case2 a l ih =>
    rw [blocks_cons, List.mem_cons] at h
    rcases h with h | h
    · rw [(Prod.mk.inj h).1]
      exact List.mem_cons_self
    · exact List.mem_cons_of_mem a ((List.dropWhile_sublist _).subset (ih h))

end Definition

section Sorted

variable [LinearOrder κ] {key : α → κ}

/-- Behind the run of the least key, the keys are greater. -/
theorem lt_of_mem_dropWhile {a : α} {l : List α} (hmin : ∀ b ∈ l, key a ≤ key b)
    (h : l.Pairwise fun b c => key b ≤ key c) :
    ∀ b ∈ l.dropWhile (key · = key a), key a < key b := by
  induction l with
  | nil => simp
  | cons c l ih =>
    rw [List.pairwise_cons] at h
    by_cases hc : key c = key a
    · rw [List.dropWhile_cons_of_pos (by simpa using hc)]
      exact ih (fun b hb => hmin b (List.mem_cons_of_mem c hb)) h.2
    · rw [List.dropWhile_cons_of_neg (by simpa using hc)]
      have hlt : key a < key c := lt_of_le_of_ne (hmin c List.mem_cons_self) (Ne.symm hc)
      intro b hb
      rcases List.mem_cons.1 hb with rfl | hb
      · exact hlt
      · exact hlt.trans_le (h.1 b hb)

theorem takeWhile_eq_filter {a : α} {l : List α} (hmin : ∀ b ∈ l, key a ≤ key b)
    (h : l.Pairwise fun b c => key b ≤ key c) :
    l.takeWhile (key · = key a) = l.filter (key · = key a) := by
  have hdrop : (l.dropWhile (key · = key a)).filter (key · = key a) = [] := by
    rw [List.filter_eq_nil_iff]
    intro b hb
    simpa using (lt_of_mem_dropWhile hmin h b hb).ne'
  have htake : (l.takeWhile (key · = key a)).filter (key · = key a) =
      l.takeWhile (key · = key a) := by
    rw [List.filter_eq_self]
    intro b hb
    have hkey := List.mem_takeWhile_imp hb
    exact hkey
  conv_rhs => rw [← List.takeWhile_append_dropWhile (p := (key · = key a)) (l := l)]
  rw [List.filter_append, hdrop, htake, List.append_nil]

theorem mem_keys_blocks_iff (l : List α) (k : κ) :
    k ∈ (blocks key l).map (fun b => key b.1) ↔ ∃ a ∈ l, key a = k := by
  induction l using blocks.induct key with
  | case1 => simp
  | case2 a l ih =>
    rw [blocks_cons, List.map_cons, List.mem_cons, ih]
    constructor
    · rintro (rfl | ⟨b, hb, rfl⟩)
      · exact ⟨a, List.mem_cons_self, rfl⟩
      · exact ⟨b, List.mem_cons_of_mem a ((List.dropWhile_sublist _).subset hb), rfl⟩
    · rintro ⟨b, hb, rfl⟩
      by_cases hba : key b = key a
      · exact .inl hba
      · refine .inr ⟨b, ?_, rfl⟩
        have hbl : b ∈ l := (List.mem_cons.1 hb).resolve_left fun h => hba (h ▸ rfl)
        rw [← List.takeWhile_append_dropWhile (p := (key · = key a)) (l := l)] at hbl
        refine (List.mem_append.1 hbl).resolve_left fun h => hba ?_
        simpa using List.mem_takeWhile_imp h

/-- **One block for each key, in ascending order.** -/
theorem pairwise_blocks {l : List α} (h : l.Pairwise fun a b => key a ≤ key b) :
    ((blocks key l).map fun b => key b.1).Pairwise (· < ·) := by
  induction l using blocks.induct key with
  | case1 => simp
  | case2 a l ih =>
    rw [List.pairwise_cons] at h
    rw [blocks_cons, List.map_cons, List.pairwise_cons]
    refine ⟨fun k hk => ?_, ih (h.2.sublist (List.dropWhile_sublist _))⟩
    obtain ⟨b, hb, rfl⟩ := (mem_keys_blocks_iff _ k).1 hk
    exact lt_of_mem_dropWhile h.1 h.2 b hb

/-- **A block has all elements with its key**, in their order. -/
theorem cons_eq_filter_of_mem_blocks {l : List α} (h : l.Pairwise fun a b => key a ≤ key b)
    {b : α} {bs : List α} (hb : (b, bs) ∈ blocks key l) :
    b :: bs = l.filter (key · = key b) := by
  induction l using blocks.induct key with
  | case1 => simp at hb
  | case2 a l ih =>
    rw [List.pairwise_cons] at h
    rw [blocks_cons, List.mem_cons] at hb
    rcases hb with hb | hb
    · obtain ⟨rfl, rfl⟩ := Prod.mk.inj hb
      rw [List.filter_cons_of_pos (by simp), takeWhile_eq_filter h.1 h.2]
    · have hlt : key a < key b := lt_of_mem_dropWhile h.1 h.2 b (mem_of_mem_blocks key hb)
      have hhead : (l.takeWhile (key · = key a)).filter (key · = key b) = [] := by
        rw [List.filter_eq_nil_iff]
        intro c hc
        have hca : key c = key a := by simpa using List.mem_takeWhile_imp hc
        simpa [hca] using hlt.ne
      rw [ih (h.2.sublist (List.dropWhile_sublist _)) hb,
        List.filter_cons_of_neg (by simpa using hlt.ne)]
      conv_rhs => rw [← List.takeWhile_append_dropWhile (p := (key · = key a)) (l := l)]
      rw [List.filter_append, hhead, List.nil_append]

end Sorted

end Blocks
