import Mathlib.Data.List.Sort
import Mathlib.Tactic

/-!
# Insertion behind equal elements

`List.orderedInsert r a l` puts `a` in front of the first element `b` with `r a b`.  With a
strict `r` this is the insertion of a stable sort: `a` comes behind the elements equal to it.
Here `le` is the order of the list and `r` decides where to insert; all that is used of them is
that `r a b` implies `le a b` and its failure `le b a`.

* `pairwise_orderedInsert`: the list stays sorted;
* `getElem?_orderedInsert`: the element at each position;
* `pairwise_iff_of_agree_off`: a sorted list in which one element changes its place in the order;
* `insertAll`: inserting the elements of a list that satisfy a predicate, one after the other;
  `pairwise_insertAll_stable` that this is a stable sort.
-/

namespace StableInsert

variable {α : Type*} {r le : α → α → Prop} [DecidableRel r]

/-- Insertion keeps a list sorted, also when `le` is known for the elements of the list only. -/
theorem pairwise_orderedInsert_of_mem {a : α} {l : List α} (hr : ∀ b ∈ l, r a b → le a b)
    (hn : ∀ b ∈ l, ¬ r a b → le b a) (htrans : ∀ a b c, le a b → le b c → le a c)
    (h : l.Pairwise le) : (l.orderedInsert r a).Pairwise le := by
  induction l with
  | nil => simp
  | cons b l ih =>
    rw [List.pairwise_cons] at h
    rw [List.forall_mem_cons] at hr hn
    rw [List.orderedInsert_cons]
    by_cases hab : r a b
    · rw [if_pos hab, List.pairwise_cons, List.pairwise_cons]
      refine ⟨fun c hc => ?_, h⟩
      rcases List.mem_cons.1 hc with rfl | hc
      · exact hr.1 hab
      · exact htrans a b c (hr.1 hab) (h.1 c hc)
    · rw [if_neg hab, List.pairwise_cons]
      refine ⟨fun c hc => ?_, ih hr.2 hn.2 h.2⟩
      rcases (List.mem_orderedInsert r).1 hc with rfl | hc
      · exact hn.1 hab
      · exact h.1 c hc

/-- Insertion keeps a list sorted. -/
theorem pairwise_orderedInsert (hr : ∀ a b, r a b → le a b) (hn : ∀ a b, ¬ r a b → le b a)
    (htrans : ∀ a b c, le a b → le b c → le a c) (a : α) {l : List α} (h : l.Pairwise le) :
    (l.orderedInsert r a).Pairwise le :=
  pairwise_orderedInsert_of_mem (fun b _ => hr a b) (fun b _ => hn a b) htrans h

/-- Elements in front of which nothing is inserted. -/
theorem orderedInsert_append {a : α} {front : List α} (h : ∀ b ∈ front, ¬ r a b) (l : List α) :
    (front ++ l).orderedInsert r a = front ++ l.orderedInsert r a := by
  induction front with
  | nil => rfl
  | cons b front ih =>
    rw [List.forall_mem_cons] at h
    rw [List.cons_append, List.orderedInsert_cons, if_neg h.1, ih h.2, List.cons_append]

/-- The order changes at one element `k` only: the list is sorted in the new order exactly when
`k` fits between the elements in front of it and behind it. -/
theorem pairwise_iff_of_agree_off {le le' : α → α → Prop} {k : α} {l : List α} (hl : l.Nodup)
    (h : l.Pairwise le) (hagree : ∀ i ∈ l, ∀ j ∈ l, i ≠ k → j ≠ k → (le' i j ↔ le i j)) :
    l.Pairwise le' ↔ ∀ above below, l = above ++ k :: below →
      (∀ i ∈ above, le' i k) ∧ ∀ j ∈ below, le' k j := by
  constructor
  · rintro h' above below rfl
    rw [List.pairwise_append, List.pairwise_cons] at h'
    exact ⟨fun i hi => h'.2.2 i hi k List.mem_cons_self, h'.2.1.1⟩
  · intro hfit
    by_cases hk : k ∈ l
    · obtain ⟨above, below, rfl⟩ := List.append_of_mem hk
      obtain ⟨habove, hbelow⟩ := hfit above below rfl
      rw [List.nodup_middle, List.nodup_cons, List.mem_append, not_or] at hl
      have hold : ∀ i j, i ∈ above ∨ i ∈ below → j ∈ above ∨ j ∈ below → le i j → le' i j := by
        intro i j hi hj hij
        have hne : ∀ i, i ∈ above ∨ i ∈ below → i ∈ above ++ k :: below ∧ i ≠ k := by
          rintro i (hi | hi)
          · exact ⟨by simp [hi], fun he => hl.1.1 (he ▸ hi)⟩
          · exact ⟨by simp [hi], fun he => hl.1.2 (he ▸ hi)⟩
        exact (hagree i (hne i hi).1 j (hne j hj).1 (hne i hi).2 (hne j hj).2).2 hij
      rw [List.pairwise_append, List.pairwise_cons] at h ⊢
      obtain ⟨ha, ⟨-, hb⟩, hab⟩ := h
      refine ⟨ha.imp_of_mem fun hi hj => hold _ _ (.inl hi) (.inl hj),
        ⟨hbelow, hb.imp_of_mem fun hi hj => hold _ _ (.inr hi) (.inr hj)⟩, fun i hi j hj => ?_⟩
      rcases List.mem_cons.1 hj with rfl | hj
      · exact habove i hi
      · exact hold i j (.inl hi) (.inr hj) (hab i hi j (List.mem_cons_of_mem _ hj))
    · refine h.imp_of_mem fun {i j} hi hj hij => ?_
      exact (hagree i hi j hj (fun he => hk (he ▸ hi)) fun he => hk (he ▸ hj)).2 hij

/-- The elements in front of the first `b` with `r a b` keep their position, those behind it move
on by one. -/
theorem getElem?_orderedInsert (a : α) (l : List α) (i : ℕ) :
    (l.orderedInsert r a)[i]? =
      if i < l.findIdx (fun b => r a b) then l[i]?
      else if i = l.findIdx (fun b => r a b) then some a else l[i - 1]? := by
  induction l generalizing i with
  | nil => cases i <;> simp
  | cons b l ih =>
    rw [List.orderedInsert_cons]
    by_cases hab : r a b
    · have hpos : (b :: l).findIdx (fun b => r a b) = 0 := by simp [List.findIdx_cons, hab]
      rw [if_pos hab, hpos]
      cases i <;> simp
    · have hpos : (b :: l).findIdx (fun b => r a b) = l.findIdx (fun b => r a b) + 1 := by
        simp [List.findIdx_cons, hab]
      rw [if_neg hab, hpos]
      cases i with
      | zero => simp
      | succ i =>
        rw [List.getElem?_cons_succ, ih]
        by_cases hlt : i < l.findIdx (fun b => r a b)
        · simp [hlt]
        · by_cases heq : i = l.findIdx (fun b => r a b)
          · simp [heq]
          · obtain ⟨j, rfl⟩ : ∃ j, i = j + 1 := ⟨i - 1, by omega⟩
            simp [hlt, heq]

/-- The elements of `xs` with `p`, inserted into `l` one after the other. -/
def insertAll (r : α → α → Prop) [DecidableRel r] (p : α → Bool) (xs l : List α) : List α :=
  xs.foldl (fun l a => if p a then l.orderedInsert r a else l) l

theorem insertAll_perm (p : α → Bool) (xs l : List α) :
    (insertAll r p xs l).Perm (xs.filter p ++ l) := by
  induction xs generalizing l with
  | nil => exact .refl l
  | cons a xs ih =>
    by_cases ha : p a = true
    · have h := (ih (l.orderedInsert r a)).trans ((List.perm_orderedInsert r a l).append_left _)
      simpa [insertAll, ha] using h.trans List.perm_middle
    · simpa [insertAll, ha] using ih l

/-- **The sort is stable**: `le` may speak of the input as well, in which `b` comes in front of `a`
when `input b a`. -/
theorem pairwise_insertAll_stable {input : α → α → Prop} (hr : ∀ a b, r a b → le a b)
    (hn : ∀ a b, ¬ r a b → input b a → le b a) (htrans : ∀ a b c, le a b → le b c → le a c)
    (p : α → Bool) {xs l : List α} (hxs : xs.Pairwise input) (h : l.Pairwise le)
    (hcross : ∀ b ∈ l, ∀ a ∈ xs, input b a) : (insertAll r p xs l).Pairwise le := by
  induction xs generalizing l with
  | nil => exact h
  | cons a xs ih =>
    rw [List.pairwise_cons] at hxs
    by_cases ha : p a = true
    · have hinsert : (l.orderedInsert r a).Pairwise le :=
        pairwise_orderedInsert_of_mem (fun b _ => hr a b)
          (fun b hb hab => hn a b hab (hcross b hb a List.mem_cons_self)) htrans h
      have hcross' : ∀ b ∈ l.orderedInsert r a, ∀ x ∈ xs, input b x := by
        intro b hb x hx
        rcases (List.mem_orderedInsert r).1 hb with rfl | hb
        · exact hxs.1 x hx
        · exact hcross b hb x (List.mem_cons_of_mem a hx)
      simpa [insertAll, ha] using ih hxs.2 hinsert hcross'
    · have hcross' : ∀ b ∈ l, ∀ x ∈ xs, input b x := fun b hb x hx =>
        hcross b hb x (List.mem_cons_of_mem a hx)
      simpa [insertAll, ha] using ih hxs.2 h hcross'

theorem pairwise_insertAll (hr : ∀ a b, r a b → le a b) (hn : ∀ a b, ¬ r a b → le b a)
    (htrans : ∀ a b c, le a b → le b c → le a c) (p : α → Bool) (xs : List α) {l : List α}
    (h : l.Pairwise le) : (insertAll r p xs l).Pairwise le :=
  pairwise_insertAll_stable hr (fun a b hab (_ : True) => hn a b hab) htrans p
    (List.pairwise_of_forall fun _ _ => trivial) h fun _ _ _ _ => trivial

theorem orderedInsert_congr {r' : α → α → Prop} [DecidableRel r'] {a : α} {l : List α}
    (h : ∀ b ∈ l, (r' a b ↔ r a b)) : l.orderedInsert r' a = l.orderedInsert r a := by
  induction l with
  | nil => rfl
  | cons b l ih =>
    rw [List.forall_mem_cons] at h
    rw [List.orderedInsert_cons, List.orderedInsert_cons, ih h.2, if_congr h.1 rfl rfl]

/-- The elements are inserted in the same way by orders and predicates that agree on them. -/
theorem insertAll_congr {r' : α → α → Prop} [DecidableRel r'] {p p' : α → Bool} {xs l : List α}
    (hp : ∀ a ∈ xs, p' a = p a) (hr : ∀ a ∈ xs, ∀ b, b ∈ xs ∨ b ∈ l → (r' a b ↔ r a b)) :
    insertAll r' p' xs l = insertAll r p xs l := by
  induction xs generalizing l with
  | nil => rfl
  | cons a xs ih =>
    rw [List.forall_mem_cons] at hp
    have hinsert : l.orderedInsert r' a = l.orderedInsert r a :=
      orderedInsert_congr fun b hb => hr a List.mem_cons_self b (.inr hb)
    have hrest : ∀ l', (∀ b ∈ l', b = a ∨ b ∈ l) →
        insertAll r' p' xs l' = insertAll r p xs l' := by
      intro l' hl'
      refine ih hp.2 fun c hc b hb => hr c (List.mem_cons_of_mem a hc) b ?_
      rcases hb with hb | hb
      · exact .inl (List.mem_cons_of_mem a hb)
      · rcases hl' b hb with rfl | hb
        · exact .inl List.mem_cons_self
        · exact .inr hb
    simp only [insertAll, List.foldl_cons, hp.1, hinsert]
    split_ifs
    · exact hrest _ fun b hb => (List.mem_orderedInsert r).1 hb
    · exact hrest l fun b hb => .inr hb

end StableInsert
