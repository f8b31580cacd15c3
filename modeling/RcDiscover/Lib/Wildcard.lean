import Mathlib.Tactic

/-!
# Wildcard patterns

A pattern is a word in which the letter `star` stands for any word, the letter `any` for any
letter, and every other letter for the letters that `same` relates it to.

* `Matches`: the language of a pattern;
* `Covers leaf s p`: what an eager matcher can get to.  Such a matcher gives the letters of the
  pattern pieces of the subject from the left, but a `star` never steps over a `star` of the
  subject: it stops in front of another letter, or takes the next `star` as its last one.
  `leaf` says of what is left of both words whether the matcher has arrived.

`Covers.matches` says that arriving at the end of both words (`Done`) is sound.
`Covers.of_suffix` (**main result**) compares two ways through one pattern: where a way that
starts later arrives at the end of the pattern, it can be led to any dead end of the other way.
The argument is that the two ways have to cross, and they can only cross in a `star`.
-/

/-- The special letters of a pattern, and which letters an ordinary one stands for. -/
structure Wildcards (α : Type*) where
  star : α
  any : α
  same : α → α → Prop
  star_ne_any : star ≠ any
  same_star_iff : ∀ x, same star x ↔ x = star

namespace Wildcards

variable {α : Type*} (w : Wildcards α)

/-- The letter `c` of a pattern takes the letter `x` of the subject. -/
def Takes (c x : α) : Prop := c = w.any ∨ w.same c x

/-- The language of a pattern. -/
inductive Matches : List α → List α → Prop
  | nil : Matches [] []
  | one {c x : α} {s p : List α} (hc : c ≠ w.star) (hx : w.Takes c x) (h : Matches s p) :
      Matches (x :: s) (c :: p)
  | many (u : List α) {s p : List α} (h : Matches s p) : Matches (u ++ s) (w.star :: p)

/-- The subject and the pattern can be cut so that the first letters of the pattern take the
first pieces of the subject, eagerly, and `leaf` holds of what is left. -/
inductive Covers (leaf : List α → List α → Prop) : List α → List α → Prop
  | leaf {s p : List α} (h : leaf s p) : Covers leaf s p
  | one {c x : α} {s p : List α} (hx : w.Takes c x) (h : Covers leaf s p) :
      Covers leaf (x :: s) (c :: p)
  | many {u s p : List α} {x : α} (hu : w.star ∉ u) (hx : x ≠ w.star)
      (h : Covers leaf (x :: s) p) : Covers leaf (u ++ x :: s) (w.star :: p)
  | manyStar {u s p : List α} (hu : w.star ∉ u) (h : Covers leaf s p) :
      Covers leaf (u ++ w.star :: s) (w.star :: p)

/-- Nothing is left, or the last `star` takes what is left. -/
def Done (s p : List α) : Prop := s = [] ∧ p = [] ∨ w.star ∉ s ∧ p = [w.star]

/-- A dead end: the subject is used up, and the pattern goes on with a letter that needs one. -/
def Dead (leaf : List α → List α → Prop) : Prop :=
  ∀ s p, leaf s p → s = [] ∧ ∃ c q, p = c :: q ∧ c ≠ w.star

variable {w} {leaf : List α → List α → Prop} {c x : α} {s p : List α}

theorem takes_star_iff : w.Takes w.star x ↔ x = w.star := by
  rw [Takes, w.same_star_iff]
  exact or_iff_right w.star_ne_any

/-- What is covered to the end matches. -/
theorem Covers.matches (h : w.Covers w.Done s p) : w.Matches s p := by
  induction h with
  | @leaf s p h =>
    rcases h with ⟨rfl, rfl⟩ | ⟨-, rfl⟩
    · exact .nil
    · simpa using Matches.many (w := w) s .nil
  | @one c x s p hx _ ih =>
    by_cases hc : c = w.star
    · subst hc
      exact .many [x] ih
    · exact .one hc hx ih
  | @many u s p x _ _ _ ih => exact .many u ih
  | @manyStar u s p _ _ ih => simpa using Matches.many (u ++ [w.star]) ih

theorem Covers.mono {leaf' : List α → List α → Prop} (hleaf : ∀ s p, leaf s p → leaf' s p)
    (h : w.Covers leaf s p) : w.Covers leaf' s p := by
  induction h with
  | leaf h => exact .leaf (hleaf _ _ h)
  | one hx _ ih => exact .one hx ih
  | many hu hx _ ih => exact .many hu hx ih
  | manyStar hu _ ih => exact .manyStar hu ih

/-! ### One step -/

theorem covers_nil_iff : w.Covers leaf [] p ↔ leaf [] p := by
  refine ⟨fun h => ?_, .leaf⟩
  generalize hs : ([] : List α) = s at h
  cases h with
  | leaf h => exact hs ▸ h
  | one => cases hs
  | many => simp at hs
  | manyStar => simp at hs

theorem covers_pattern_nil_iff : w.Covers leaf s [] ↔ leaf s [] := by
  refine ⟨fun h => ?_, .leaf⟩
  cases h with
  | leaf h => exact h

/-- The pieces that a `star` can take. -/
theorem covers_star_cases (h : w.Covers leaf s (w.star :: p)) :
    leaf s (w.star :: p) ∨
    (∃ u y t, s = u ++ y :: t ∧ w.star ∉ u ∧ y ≠ w.star ∧ w.Covers leaf (y :: t) p) ∨
    (∃ u t, s = u ++ w.star :: t ∧ w.star ∉ u ∧ w.Covers leaf t p) := by
  generalize hq : w.star :: p = q at h
  cases h with
  | leaf h => exact .inl (hq ▸ h)
  | @one c x s p' hx h =>
    obtain ⟨rfl, rfl⟩ := List.cons.inj hq
    obtain rfl := takes_star_iff.1 hx
    exact .inr (.inr ⟨[], s, rfl, by simp, h⟩)
  | @many u s p' x hu hx h =>
    obtain rfl := (List.cons.inj hq).2
    exact .inr (.inl ⟨u, x, s, rfl, hu, hx, h⟩)
  | @manyStar u s p' hu h =>
    obtain rfl := (List.cons.inj hq).2
    exact .inr (.inr ⟨u, s, rfl, hu, h⟩)

/-- The letter that has to take the next one of the subject. -/
theorem covers_takes_iff (hx : w.Takes c x) :
    w.Covers leaf (x :: s) (c :: p) ↔ leaf (x :: s) (c :: p) ∨ w.Covers leaf s p := by
  constructor
  · intro h
    by_cases hc : c = w.star
    · subst hc
      obtain rfl := takes_star_iff.1 hx
      rcases covers_star_cases h with h | ⟨u, y, t, hs, hu, hy, h⟩ | ⟨u, t, hs, hu, h⟩
      · exact .inl h
      · rcases u with _ | ⟨z, u⟩
        · exact absurd (List.cons.inj hs).1.symm hy
        · exact absurd (by simp [(List.cons.inj hs).1]) hu
      · rcases u with _ | ⟨z, u⟩
        · obtain rfl := (List.cons.inj hs).2
          exact .inr h
        · exact absurd (by simp [(List.cons.inj hs).1]) hu
    · generalize ht : x :: s = t at h
      cases h with
      | leaf h => exact .inl h
      | one _ h =>
        obtain ⟨rfl, rfl⟩ := List.cons.inj ht
        exact .inr h
      | many => exact absurd rfl hc
      | manyStar => exact absurd rfl hc
  · rintro (h | h)
    · exact .leaf h
    · exact .one hx h

theorem covers_not_takes_iff (hc : c ≠ w.star) (hx : ¬ w.Takes c x) :
    w.Covers leaf (x :: s) (c :: p) ↔ leaf (x :: s) (c :: p) := by
  refine ⟨fun h => ?_, .leaf⟩
  generalize ht : x :: s = t at h
  cases h with
  | leaf h => exact h
  | one hx' =>
    obtain ⟨rfl, rfl⟩ := List.cons.inj ht
    exact absurd hx' hx
  | many => exact absurd rfl hc
  | manyStar => exact absurd rfl hc

/-- A `star` in front of an ordinary letter takes it, or ends. -/
theorem covers_star_iff (hx : x ≠ w.star)
    (hleaf : leaf s (w.star :: p) → leaf (x :: s) (w.star :: p)) :
    w.Covers leaf (x :: s) (w.star :: p) ↔
      leaf (x :: s) (w.star :: p) ∨ w.Covers leaf s (w.star :: p) ∨ w.Covers leaf (x :: s) p := by
  have hcons : ∀ {u : List α}, w.star ∉ u → w.star ∉ x :: u := by
    intro u hu
    simp [hu, Ne.symm hx]
  constructor
  · intro h
    rcases covers_star_cases h with h | ⟨u, y, t, hs, hu, hy, ht⟩ | ⟨u, t, hs, hu, ht⟩
    · exact .inl h
    · rcases u with _ | ⟨z, u⟩
      · obtain ⟨rfl, rfl⟩ := List.cons.inj hs
        exact .inr (.inr ht)
      · obtain ⟨rfl, rfl⟩ := List.cons.inj hs
        exact .inr (.inl (.many (fun hm => hu (List.mem_cons_of_mem _ hm)) hy ht))
    · rcases u with _ | ⟨z, u⟩
      · exact absurd (List.cons.inj hs).1 hx
      · obtain ⟨rfl, rfl⟩ := List.cons.inj hs
        exact .inr (.inl (.manyStar (fun hm => hu (List.mem_cons_of_mem _ hm)) ht))
  · rintro (h | h | h)
    · exact .leaf h
    · rcases covers_star_cases h with h | ⟨u, y, t, rfl, hu, hy, h⟩ | ⟨u, t, rfl, hu, h⟩
      · exact .leaf (hleaf h)
      · exact Covers.many (u := x :: u) (hcons hu) hy h
      · exact Covers.manyStar (u := x :: u) (hcons hu) h
    · exact Covers.many (u := []) (by simp) hx h

/-! ### Ways to the end -/

theorem covers_done_nil_iff : w.Covers w.Done [] p ↔ p = [] ∨ p = [w.star] := by
  rw [covers_nil_iff]
  simp [Done]

theorem covers_done_pattern_nil_iff : w.Covers w.Done s [] ↔ s = [] := by
  rw [covers_pattern_nil_iff]
  simp [Done]

theorem covers_done_takes_iff (hx : w.Takes c x) :
    w.Covers w.Done (x :: s) (c :: p) ↔ w.Covers w.Done s p := by
  rw [covers_takes_iff hx, or_iff_right_of_imp]
  rintro (⟨hs, -⟩ | ⟨hs, hp⟩)
  · cases hs
  · obtain ⟨rfl, -⟩ := List.cons.inj hp
    obtain rfl := takes_star_iff.1 hx
    simp at hs

theorem covers_done_star_iff (hx : x ≠ w.star) :
    w.Covers w.Done (x :: s) (w.star :: p) ↔
      w.Covers w.Done s (w.star :: p) ∨ w.Covers w.Done (x :: s) p := by
  have hshift : w.Done s (w.star :: p) ↔ w.Done (x :: s) (w.star :: p) := by
    simp [Done, Ne.symm hx]
  rw [covers_star_iff hx hshift.1, or_iff_right_of_imp]
  exact fun h => .inl (.leaf (hshift.2 h))

theorem not_covers_done_not_takes (hc : c ≠ w.star) (hx : ¬ w.Takes c x) :
    ¬ w.Covers w.Done (x :: s) (c :: p) := by
  rw [covers_not_takes_iff hc hx]
  simp [Done, hc]

/-- Eager matching misses nothing in a subject without a `star`, unless the pattern ends in two
of them. -/
theorem Matches.covers_done (h : w.Matches s p) (hs : w.star ∉ s)
    (hp : ¬ [w.star, w.star] <:+ p) : w.Covers w.Done s p := by
  induction h with
  | nil => exact .leaf (.inl ⟨rfl, rfl⟩)
  | @one c x s p _ hx _ ih =>
    exact .one hx (ih (fun hm => hs (List.mem_cons_of_mem _ hm))
      (fun hq => hp (hq.trans (List.suffix_cons c p))))
  | @many u s p _ ih =>
    rw [List.mem_append, not_or] at hs
    have hcov := ih hs.2 (fun hq => hp (hq.trans (List.suffix_cons _ p)))
    rcases s with _ | ⟨x, s⟩
    · -- the piece that is left for the other letters is empty
      rcases covers_done_nil_iff.1 hcov with rfl | rfl
      · exact .leaf (.inr ⟨by simpa using hs.1, rfl⟩)
      · exact absurd (List.suffix_refl _) hp
    · exact .many hs.1 (fun h => hs.2 (by simp [h])) hcov

/-! ### Dead ends -/

/-- A suffix of `u ++ t` starts in `t` or in `u`. -/
theorem suffix_append_cases {u t v : List α} (h : v <:+ u ++ t) :
    v <:+ t ∨ ∃ u', v = u' ++ t ∧ u' <:+ u := by
  rcases List.suffix_or_suffix_of_suffix h (List.suffix_append u t) with hv | ⟨u', rfl⟩
  · exact .inl hv
  · exact .inr ⟨u', rfl, List.suffix_append_self_iff.1 h⟩

section Dead

variable (hdead : w.Dead leaf)
include hdead

theorem Dead.not_covers_nil : ¬ w.Covers leaf s [] := by
  rw [covers_pattern_nil_iff]
  intro h
  obtain ⟨-, c, q, hp, -⟩ := hdead _ _ h
  cases hp

theorem Dead.not_leaf_cons : ¬ leaf (x :: s) p := by
  intro h
  cases (hdead _ _ h).1

theorem Dead.covers_takes_iff (hx : w.Takes c x) :
    w.Covers leaf (x :: s) (c :: p) ↔ w.Covers leaf s p := by
  rw [Wildcards.covers_takes_iff hx, or_iff_right hdead.not_leaf_cons]

theorem Dead.covers_star_iff (hx : x ≠ w.star) :
    w.Covers leaf (x :: s) (w.star :: p) ↔
      w.Covers leaf s (w.star :: p) ∨ w.Covers leaf (x :: s) p := by
  have hleaf : ¬ leaf s (w.star :: p) := by
    intro h
    obtain ⟨-, c, q, hp, hc⟩ := hdead _ _ h
    exact hc (List.cons.inj hp).1.symm
  rw [Wildcards.covers_star_iff hx fun h => absurd h hleaf, or_iff_right hdead.not_leaf_cons]

theorem Dead.not_covers_not_takes (hc : c ≠ w.star) (hx : ¬ w.Takes c x) :
    ¬ w.Covers leaf (x :: s) (c :: p) := by
  rw [covers_not_takes_iff hc hx]
  exact hdead.not_leaf_cons

/-- A way that starts in a `star` and arrives can be led to what a way through the rest of the
pattern gets to from further left, given the same for the rest of the pattern. -/
theorem Dead.star_of_rest {v a : List α}
    (ih : ∀ {t}, t <:+ a → w.Covers w.Done t p → w.Covers leaf t p) (ha : w.Covers leaf a p)
    (hv : w.Covers w.Done v (w.star :: p)) (h : v <:+ a) : w.Covers leaf v (w.star :: p) := by
  rcases covers_star_cases hv with hd | ⟨u, y, t, rfl, hu, hy, ht⟩ | ⟨u, t, rfl, hu, ht⟩
  · -- the pattern would end here, but the other way goes on
    rcases hd with ⟨-, hp⟩ | ⟨-, hp⟩
    · cases hp
    · obtain rfl := (List.cons.inj hp).2
      exact absurd ha hdead.not_covers_nil
  · exact .many hu hy (ih ((List.suffix_append u _).trans h) ht)
  · exact .manyStar hu (ih (((List.suffix_cons _ t).trans (List.suffix_append u _)).trans h) ht)

/-- **Two ways through one pattern cross.** -/
theorem Covers.of_suffix {a q v : List α} (ha : w.Covers leaf a q) (hv : w.Covers w.Done v q)
    (h : v <:+ a) : w.Covers leaf v q := by
  induction ha generalizing v with
  | @leaf s p hl =>
    obtain ⟨rfl, -⟩ := hdead _ _ hl
    rw [List.suffix_nil.1 h]
    exact .leaf hl
  | @one c x s p hx hs ih =>
    rcases List.suffix_cons_iff.1 h with rfl | h
    · exact .one hx hs
    by_cases hc : c = w.star
    · subst hc
      exact hdead.star_of_rest (fun ht hd => ih hd ht) hs hv h
    · cases hv with
      | leaf hd =>
        rcases hd with ⟨-, hp⟩ | ⟨-, hp⟩
        · cases hp
        · exact absurd (List.cons.inj hp).1 hc
      | one hy hd => exact .one hy (ih hd ((List.suffix_cons _ _).trans h))
      | many => exact absurd rfl hc
      | manyStar => exact absurd rfl hc
  | @many u s p x hu hx hs ih =>
    rcases suffix_append_cases h with h | ⟨u', rfl, hu'⟩
    · exact hdead.star_of_rest (fun ht hd => ih hd ht) hs hv h
    · exact .many (fun hm => hu (hu'.subset hm)) hx hs
  | @manyStar u s p hu hs ih =>
    rcases suffix_append_cases h with h | ⟨u', rfl, hu'⟩
    · rcases List.suffix_cons_iff.1 h with rfl | h
      · exact Covers.manyStar (u := []) (by simp) hs
      · exact hdead.star_of_rest (fun ht hd => ih hd ht) hs hv h
    · exact .manyStar (fun hm => hu (hu'.subset hm)) hs

/-- Where a `star` has a way to the end, the ways to a dead end on which it takes nothing are not
worth trying. -/
theorem Dead.covers_star_of_done (hd : w.Covers w.Done s (w.star :: p))
    (h : w.Covers leaf (x :: s) p) : w.Covers leaf s (w.star :: p) :=
  hdead.star_of_rest (fun ht hd => h.of_suffix hdead hd ht) h hd (List.suffix_cons x s)

end Dead

end Wildcards
