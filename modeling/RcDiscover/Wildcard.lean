import RcDiscover.Lib.Wildcard
import RcDiscover.Utils

/-!
# What `wildcardMatch` decides

`wildcardMatch` against the language of its patterns, and what it reads on the way.

* `wildcardMatch_eq_none_iff`, `wildcardMatch_eq_some_true_iff`: every outcome of the function, in
  terms of how the pattern can cover the subject;
* `wildcardMatches_iff`: it decides the language exactly when it does not run over the end, and
  the subject is covered eagerly if it matches at all;
* `accesses`: the calls and the reads of a run, and `accesses_safe_iff`: they stay inside the two
  strings exactly when no beginning of the pattern that is followed by something else than `*`
  covers the subject.

The operator `||` hides the second branch of a `*` when the first one succeeds.  What is hidden
makes no difference, since a branch that fails there fails in the first one too
(`Wildcards.Dead.covers_star_of_done`).
-/

namespace RcDiscover

open Wildcards

/-! ### The language -/

/-- A character in front of the letters is its own lower case, and that of no other one. -/
theorem tolower_eq_iff {c x : Char} (hc : c.toNat < 65) : tolower x = c ↔ x = c := by
  unfold tolower Char.toLower
  split_ifs with h
  · have hge : 65 ≤ x.val.toNat := UInt32.le_iff_toNat_le.1 h.1
    have hle : x.val.toNat ≤ 90 := UInt32.le_iff_toNat_le.1 h.2
    refine iff_of_false ?_ ?_
    · rintro rfl
      change (x.val + 32).toNat < 65 at hc
      rw [UInt32.toNat_add, show (32 : UInt32).toNat = 32 from rfl,
        Nat.mod_eq_of_lt (by omega)] at hc
      omega
    · rintro rfl
      exact absurd hc (not_lt.2 hge)
  · exact Iff.rfl

/-- The special characters of `wildcardMatch`. -/
abbrev globs : Wildcards Char where
  star := '*'
  any := '?'
  same c x := tolower c = tolower x
  star_ne_any := by decide
  same_star_iff x := by
    rw [show tolower '*' = '*' from rfl, eq_comm]
    exact tolower_eq_iff (by decide)

/-- The pattern that is left begins, at the end of the subject, with `?` or with the NUL that is
found there, and goes on with another character than `?` somewhere. -/
def Overrun (s p : Str) : Prop :=
  s = [] ∧ ∃ c q, p = c :: q ∧ (c = '?' ∨ c = '\x00') ∧ ∃ d ∈ q, d ≠ '?'

/-- The pattern that is left begins with another character than `*` at the end of the subject. -/
def Stuck (s p : Str) : Prop := s = [] ∧ ∃ c q, p = c :: q ∧ c ≠ '*'

theorem dead_stuck : globs.Dead Stuck := fun _ _ h => h

theorem Overrun.stuck {s p : Str} (h : Overrun s p) : Stuck s p := by
  obtain ⟨rfl, c, q, rfl, hc, -⟩ := h
  refine ⟨rfl, c, q, rfl, ?_⟩
  rcases hc with rfl | rfl <;> decide

theorem dead_overrun : globs.Dead Overrun := fun s p h => dead_stuck s p h.stuck

/-! ### One call -/

section Call

variable {c x : Char} {s p : Str}

theorem wildcardMatch_nil (str : StrPos) : wildcardMatch str [] = some str.atEnd := by
  rw [wildcardMatch]

theorem wildcardMatch_end_star : wildcardMatch (.within []) ('*' :: p) = some p.isEmpty := by
  rw [wildcardMatch]
  simp

theorem wildcardMatch_end_passes (hc : c = '?' ∨ c = '\x00') :
    wildcardMatch (.within []) (c :: p) = wildcardMatch .beyond p := by
  rw [wildcardMatch]
  rcases hc with rfl | rfl <;> simp [StrPos.next, StrPos.deref]

theorem wildcardMatch_end_of_ne (hstar : c ≠ '*') (hany : c ≠ '?') (hnul : c ≠ '\x00') :
    wildcardMatch (.within []) (c :: p) = some false := by
  have hlower : tolower c ≠ tolower '\x00' := by
    rw [show tolower '\x00' = '\x00' from rfl]
    exact fun h => hnul ((tolower_eq_iff (by decide)).1 h)
  rw [wildcardMatch]
  simp [hstar, hany, StrPos.deref, hlower]

theorem wildcardMatch_takes (h : globs.Takes c x) :
    wildcardMatch (.within (x :: s)) (c :: p) = wildcardMatch (.within s) p := by
  have h : c = '?' ∨ tolower c = tolower x := h
  rw [wildcardMatch]
  by_cases hany : c = '?'
  · simp [hany]
  · simp [hany, h.resolve_left hany]

theorem wildcardMatch_star (hx : x ≠ '*') :
    wildcardMatch (.within (x :: s)) ('*' :: p) =
      match wildcardMatch (.within s) ('*' :: p) with
      | none => none
      | some true => some true
      | some false => wildcardMatch (.within (x :: s)) p := by
  have hlower : tolower '*' ≠ tolower x := fun h => hx ((globs.same_star_iff x).1 h)
  rw [wildcardMatch]
  rcases hrest : wildcardMatch (.within s) ('*' :: p) with _ | _ | _ <;>
    simp only [StrPos.atEnd_cons, Bool.false_eq_true, false_and, dite_false, StrPos.deref_cons,
      hlower, if_false, dite_true, StrPos.next_cons, show ¬ '*' = '?' by decide, hrest]

theorem wildcardMatch_not_takes (hstar : c ≠ '*') (h : ¬ globs.Takes c x) :
    wildcardMatch (.within (x :: s)) (c :: p) = some false := by
  have hno : ¬ (c = '?' ∨ tolower c = tolower x) := h
  rw [not_or] at hno
  rw [wildcardMatch]
  simp [hstar, hno.1, hno.2]

/-- Beyond the end only `?` does not read the subject. -/
theorem wildcardMatch_beyond (p : Str) :
    wildcardMatch .beyond p = if p.all (· == '?') then some false else none := by
  induction p with
  | nil => simp [wildcardMatch, StrPos.atEnd]
  | cons c p ih =>
    rw [wildcardMatch]
    by_cases hc : c = '?'
    · simp [hc, StrPos.atEnd, StrPos.next, ih]
    · simp [hc, StrPos.atEnd, StrPos.deref]

end Call

/-! ### Every outcome -/

/-- The outcomes of one `*` in front of an ordinary character, from those of its two branches. -/
theorem star_outcomes {x : Char} {s p : Str} (hx : x ≠ '*')
    (hstar : (wildcardMatch (.within s) ('*' :: p) = none ↔ globs.Covers Overrun s ('*' :: p)) ∧
      (wildcardMatch (.within s) ('*' :: p) = some true ↔
        globs.Covers globs.Done s ('*' :: p) ∧ ¬ globs.Covers Overrun s ('*' :: p)))
    (hrest : (wildcardMatch (.within (x :: s)) p = none ↔ globs.Covers Overrun (x :: s) p) ∧
      (wildcardMatch (.within (x :: s)) p = some true ↔
        globs.Covers globs.Done (x :: s) p ∧ ¬ globs.Covers Overrun (x :: s) p)) :
    (wildcardMatch (.within (x :: s)) ('*' :: p) = none ↔
      globs.Covers Overrun (x :: s) ('*' :: p)) ∧
    (wildcardMatch (.within (x :: s)) ('*' :: p) = some true ↔
      globs.Covers globs.Done (x :: s) ('*' :: p) ∧
        ¬ globs.Covers Overrun (x :: s) ('*' :: p)) := by
  have hover : globs.Covers Overrun (x :: s) ('*' :: p) ↔
      globs.Covers Overrun s ('*' :: p) ∨ globs.Covers Overrun (x :: s) p :=
    dead_overrun.covers_star_iff hx
  have hdone : globs.Covers globs.Done (x :: s) ('*' :: p) ↔
      globs.Covers globs.Done s ('*' :: p) ∨ globs.Covers globs.Done (x :: s) p :=
    covers_done_star_iff hx
  have hhidden : globs.Covers globs.Done s ('*' :: p) → globs.Covers Overrun (x :: s) p →
      globs.Covers Overrun s ('*' :: p) := dead_overrun.covers_star_of_done
  rw [wildcardMatch_star hx, hover, hdone]
  rcases hb : wildcardMatch (.within s) ('*' :: p) with _ | _ | _
  · rw [hb] at hstar
    simp [hstar.1.1 rfl]
  · rw [hb] at hstar
    have hno : ¬ globs.Covers Overrun s ('*' :: p) := fun h => by simpa using hstar.1.2 h
    have hnot : ¬ globs.Covers globs.Done s ('*' :: p) := fun h => by
      simpa using hstar.2.2 ⟨h, hno⟩
    simpa [hno, hnot] using hrest
  · -- the second branch is not run
    rw [hb] at hstar
    obtain ⟨hd, hno⟩ := hstar.2.1 rfl
    simp [hd, hno, mt (hhidden hd) hno]

/-- The outcomes at the end of the subject. -/
theorem end_outcomes (c : Char) (p : Str) :
    (wildcardMatch (.within []) (c :: p) = none ↔ globs.Covers Overrun [] (c :: p)) ∧
    (wildcardMatch (.within []) (c :: p) = some true ↔
      globs.Covers globs.Done [] (c :: p) ∧ ¬ globs.Covers Overrun [] (c :: p)) := by
  rw [covers_nil_iff, covers_done_nil_iff]
  by_cases hstar : c = '*'
  · subst hstar
    rw [wildcardMatch_end_star]
    have hno : ¬ Overrun [] ('*' :: p) := fun h => by
      obtain ⟨-, c, q, hp, hc⟩ := h.stuck
      exact hc (List.cons.inj hp).1.symm
    simp [hno]
  have hdone : ¬ (c :: p = [] ∨ c :: p = [globs.star]) := by
    simp [hstar]
  by_cases hpass : c = '?' ∨ c = '\x00'
  · have hover : Overrun [] (c :: p) ↔ ∃ d ∈ p, d ≠ '?' :=
      ⟨fun ⟨_, _, _, hp, _, hd⟩ => (List.cons.inj hp).2 ▸ hd,
        fun hd => ⟨rfl, c, p, rfl, hpass, hd⟩⟩
    have hall : p.all (· == '?') = true ↔ ¬ ∃ d ∈ p, d ≠ '?' := by simp
    rw [wildcardMatch_end_passes hpass, wildcardMatch_beyond, hover]
    by_cases hd : ∃ d ∈ p, d ≠ '?'
    · rw [if_neg (fun h => hall.1 h hd)]
      simp only [hd, hdone]
      simp
    · rw [if_pos (hall.2 hd)]
      simp only [hd, hdone]
      simp
  · rw [not_or] at hpass
    have hno : ¬ Overrun [] (c :: p) := fun ⟨_, d, _, hp, hd, _⟩ =>
      hd.elim (fun h => hpass.1 ((List.cons.inj hp).1.trans h))
        (fun h => hpass.2 ((List.cons.inj hp).1.trans h))
    rw [wildcardMatch_end_of_ne hstar hpass.1 hpass.2]
    simp only [hno, hdone]
    simp

theorem wildcardMatch_outcomes (s p : Str) :
    (wildcardMatch (.within s) p = none ↔ globs.Covers Overrun s p) ∧
    (wildcardMatch (.within s) p = some true ↔
      globs.Covers globs.Done s p ∧ ¬ globs.Covers Overrun s p) := by
  induction p generalizing s with
  | nil =>
    rw [wildcardMatch_nil, covers_done_pattern_nil_iff]
    rcases s with _ | ⟨x, s⟩
    · simp [dead_overrun.not_covers_nil]
    · simp [dead_overrun.not_covers_nil]
  | cons c p ih =>
    induction s with
    | nil => exact end_outcomes c p
    | cons x s ihs =>
      by_cases htake : globs.Takes c x
      · rw [wildcardMatch_takes htake, dead_overrun.covers_takes_iff htake,
          covers_done_takes_iff htake]
        exact ih s
      by_cases hstar : c = '*'
      · subst hstar
        exact star_outcomes (fun h => htake (takes_star_iff.2 h)) ihs (ih (x :: s))
      · rw [wildcardMatch_not_takes hstar htake]
        simp [dead_overrun.not_covers_not_takes hstar htake,
          not_covers_done_not_takes hstar htake]

/-- `wildcardMatch` reads its subject beyond the end exactly when the pattern covers it up to a
`?` that is followed by something else. -/
theorem wildcardMatch_eq_none_iff (s p : Str) :
    wildcardMatches s p = none ↔ globs.Covers Overrun s p :=
  (wildcardMatch_outcomes s p).1

theorem wildcardMatch_eq_some_true_iff (s p : Str) :
    wildcardMatches s p = some true ↔ globs.Covers globs.Done s p ∧ ¬ globs.Covers Overrun s p :=
  (wildcardMatch_outcomes s p).2

/-- **The language is decided** exactly when the pattern does not run over the end of the subject,
and covers the subject eagerly if it matches at all. -/
theorem wildcardMatches_iff (s p : Str) :
    (∃ b, wildcardMatches s p = some b ∧ (b = true ↔ globs.Matches s p)) ↔
      ¬ globs.Covers Overrun s p ∧ (globs.Matches s p → globs.Covers globs.Done s p) := by
  have hnone := wildcardMatch_eq_none_iff s p
  have htrue := wildcardMatch_eq_some_true_iff s p
  constructor
  · rintro ⟨b, hb, hiff⟩
    have hno : ¬ globs.Covers Overrun s p := fun h => by simp [hnone.2 h] at hb
    refine ⟨hno, fun hm => ?_⟩
    rw [hb, hiff.2 hm] at htrue
    exact (htrue.1 rfl).1
  · rintro ⟨hno, heager⟩
    obtain ⟨b, hb⟩ := Option.ne_none_iff_exists'.1 (mt hnone.1 hno)
    refine ⟨b, hb, ?_⟩
    rw [hb] at htrue
    constructor
    · rintro rfl
      exact (htrue.1 rfl).1.matches
    · intro hm
      simpa using htrue.2 ⟨heager hm, hno⟩

/-- A `*` does not step over the `*` of the subject. -/
theorem not_wildcardMatches_star_subject :
    ¬ ∃ b, wildcardMatches ['a', '*', 'b'] ['*'] = some b ∧
      (b = true ↔ globs.Matches ['a', '*', 'b'] ['*']) := by
  have hm : globs.Matches ['a', '*', 'b'] ['*'] := by
    simpa using Matches.many (w := globs) ['a', '*', 'b'] .nil
  have hfalse : wildcardMatches ['a', '*', 'b'] ['*'] = some false := by
    simp [wildcardMatches, wildcardMatch, StrPos.atEnd, StrPos.next, tolower]
  simp [hfalse, hm]

/-- Subjects without `*` and patterns that do not end in `**` meet the second condition. -/
theorem wildcardMatches_iff_of_no_star {s p : Str} (hs : '*' ∉ s) (hp : ¬ ['*', '*'] <:+ p)
    (hover : ¬ globs.Covers Overrun s p) :
    ∃ b, wildcardMatches s p = some b ∧ (b = true ↔ globs.Matches s p) :=
  (wildcardMatches_iff s p).2 ⟨hover, fun h => h.covers_done hs hp⟩

/-! ### The accesses of a run -/

/-- What a run of `wildcardMatch` does with its iterators.  The pattern iterator is the pattern
that is left. -/
inductive Access
  /-- `*p_first` -/
  | readPattern (p : Str)
  /-- `*str_first` -/
  | readSubject (str : StrPos)
  /-- the call with the iterators `str'` and `p'`, made where they were `str` and `p` -/
  | call (str : StrPos) (p : Str) (str' : StrPos) (p' : Str)

/-- The iterators of a call stay inside `s` and `p`, only characters of these are read, and a
call leaves less of them than there was. -/
def Access.Safe (s p : Str) : Access → Prop
  | readPattern p' => p' ≠ [] ∧ p' <:+ p
  | readSubject str => ∃ rest, str = .within rest ∧ rest ≠ [] ∧ rest <:+ s
  | call str p₀ str' p' =>
    (∃ rest, str' = .within rest ∧ rest <:+ s) ∧ p' <:+ p ∧
      str'.remaining + p'.length < str.remaining + p₀.length

set_option linter.unusedVariables false in
/-- The accesses of `wildcardMatch`, with one entry for all reads of `*p_first` in a call.  A run
that reads its subject beyond the terminating NUL has none after that. -/
def accesses (str : StrPos) (p : Str) : List Access :=
  match p with
  | [] => []
  | c :: p' =>
    .readPattern (c :: p') ::
      if hend : str.atEnd ∧ c = '*' then []
      else if c = '?' then .call str (c :: p') str.next p' :: accesses str.next p'
      else
        .readSubject str ::
          match hx : str.deref with
          | none => []
          | some x =>
            if tolower c = tolower x then .call str (c :: p') str.next p' :: accesses str.next p'
            else if hc : c = '*' then
              .call str (c :: p') str.next (c :: p') :: accesses str.next (c :: p') ++
                if wildcardMatch str.next (c :: p') = some false then
                  .call str (c :: p') str p' :: accesses str p'
                else []
            else []
termination_by str.remaining + p.length
decreasing_by
  · have := str.remaining_next_le
    simp only [List.length_cons]
    omega
  · have := str.remaining_next_le
    simp only [List.length_cons]
    omega
  · have := StrPos.remaining_next_lt hx (by simpa [hc] using hend)
    simp only [List.length_cons]
    omega
  · simp

/-- Every access of the call with the iterators `str` and `p` is safe for the strings `s₀` and
`p₀` the matcher was started on. -/
def AccessesSafe (s₀ p₀ : Str) (str : StrPos) (p : Str) : Prop :=
  ∀ a ∈ accesses str p, a.Safe s₀ p₀

section Accesses

variable {c x : Char} {s p s₀ p₀ : Str}

theorem accessesSafe_nil (str : StrPos) : AccessesSafe s₀ p₀ str [] := by
  rw [AccessesSafe, accesses]
  simp

theorem accessesSafe_end_star (hp : '*' :: p <:+ p₀) :
    AccessesSafe s₀ p₀ (.within []) ('*' :: p) := by
  rw [AccessesSafe, accesses]
  simp [Access.Safe, hp]

/-- At the end of the subject, every other character leads out of it. -/
theorem not_accessesSafe_end (hstar : c ≠ '*') :
    ¬ AccessesSafe s₀ p₀ (.within []) (c :: p) := by
  intro h
  rw [AccessesSafe, accesses] at h
  by_cases hany : c = '?'
  · obtain ⟨⟨rest, hrest, -⟩, -⟩ :=
      h (.call (.within []) (c :: p) .beyond p) (by simp [hany, StrPos.next])
    cases hrest
  · obtain ⟨rest, hrest, hne, -⟩ := h (.readSubject (.within [])) (by simp [hany, hstar])
    cases hrest
    exact hne rfl

theorem accessesSafe_takes (h : globs.Takes c x) (hs : x :: s <:+ s₀) (hp : c :: p <:+ p₀) :
    AccessesSafe s₀ p₀ (.within (x :: s)) (c :: p) ↔ AccessesSafe s₀ p₀ (.within s) p := by
  have h : c = '?' ∨ tolower c = tolower x := h
  have hs' : s <:+ s₀ := (List.suffix_cons x s).trans hs
  have hp' : p <:+ p₀ := (List.suffix_cons c p).trans hp
  have hless : s.length + p.length < s.length + 1 + (p.length + 1) := by omega
  rw [AccessesSafe, accesses]
  by_cases hany : c = '?'
  · subst hany
    simp [AccessesSafe, Access.Safe, StrPos.remaining, hs', hp, hp', hless]
  · simp [AccessesSafe, Access.Safe, StrPos.remaining, hany, h.resolve_left hany, hs, hs', hp, hp',
      hless]

/-- The second branch of a `*` makes its accesses where the first one fails. -/
theorem accessesSafe_star (hx : x ≠ '*') (hs : x :: s <:+ s₀) (hp : '*' :: p <:+ p₀) :
    AccessesSafe s₀ p₀ (.within (x :: s)) ('*' :: p) ↔
      AccessesSafe s₀ p₀ (.within s) ('*' :: p) ∧
        (wildcardMatch (.within s) ('*' :: p) = some false →
          AccessesSafe s₀ p₀ (.within (x :: s)) p) := by
  have hlower : tolower '*' ≠ tolower x := fun h => hx ((globs.same_star_iff x).1 h)
  have hs' : s <:+ s₀ := (List.suffix_cons x s).trans hs
  have hp' : p <:+ p₀ := (List.suffix_cons '*' p).trans hp
  rw [AccessesSafe, accesses]
  by_cases hfail : wildcardMatch (.within s) ('*' :: p) = some false
  · simp [AccessesSafe, Access.Safe, StrPos.remaining, hlower, hfail, hs, hs', hp, hp', or_imp,
      forall_and]
  · simp [AccessesSafe, Access.Safe, StrPos.remaining, hlower, hfail, hs, hs', hp, or_imp,
      forall_and]

theorem accessesSafe_not_takes (hstar : c ≠ '*') (h : ¬ globs.Takes c x) (hs : x :: s <:+ s₀)
    (hp : c :: p <:+ p₀) : AccessesSafe s₀ p₀ (.within (x :: s)) (c :: p) := by
  have hno : ¬ (c = '?' ∨ tolower c = tolower x) := h
  rw [not_or] at hno
  rw [AccessesSafe, accesses]
  simp [Access.Safe, hstar, hno.1, hno.2, hs, hp]

/-- A branch of a `*` that is not run leads nowhere else than the one that is. -/
theorem accessesSafe_iff (hs : s <:+ s₀) (hp : p <:+ p₀) :
    AccessesSafe s₀ p₀ (.within s) p ↔ ¬ globs.Covers Stuck s p := by
  induction p generalizing s with
  | nil => exact iff_of_true (accessesSafe_nil _) dead_stuck.not_covers_nil
  | cons c p ih =>
    have hp' : p <:+ p₀ := (List.suffix_cons c p).trans hp
    induction s with
    | nil =>
      rw [covers_nil_iff]
      by_cases hstar : c = '*'
      · subst hstar
        refine iff_of_true (accessesSafe_end_star hp) ?_
        rintro ⟨-, c, q, hq, hc⟩
        exact hc (List.cons.inj hq).1.symm
      · exact iff_of_false (not_accessesSafe_end hstar) (not_not_intro ⟨rfl, c, p, rfl, hstar⟩)
    | cons x s ihs =>
      have hs' : s <:+ s₀ := (List.suffix_cons x s).trans hs
      by_cases htake : globs.Takes c x
      · rw [accessesSafe_takes htake hs hp, dead_stuck.covers_takes_iff htake]
        exact ih hs' hp'
      by_cases hstar : c = '*'
      · subst hstar
        have hx : x ≠ globs.star := fun h => htake (takes_star_iff.2 h)
        have hfirst : AccessesSafe s₀ p₀ (.within s) ('*' :: p) ↔
            ¬ globs.Covers Stuck s ('*' :: p) := ihs hs'
        rw [accessesSafe_star hx hs hp, hfirst, ih hs hp', dead_stuck.covers_star_iff hx, not_or]
        refine and_congr_right fun hno => ?_
        -- the first branch has an answer
        have hover : wildcardMatch (.within s) ('*' :: p) ≠ none := fun h =>
          hno (((wildcardMatch_eq_none_iff s _).1 h).mono fun _ _ => Overrun.stuck)
        rcases hb : wildcardMatch (.within s) ('*' :: p) with _ | _ | _
        · exact absurd hb hover
        · simp
        · have hd := ((wildcardMatch_eq_some_true_iff s _).1 hb).1
          simp only [Option.some.injEq, Bool.true_eq_false, false_implies, true_iff]
          exact fun h => hno (dead_stuck.covers_star_of_done hd h)
      · exact iff_of_true (accessesSafe_not_takes hstar htake hs hp)
          (dead_stuck.not_covers_not_takes hstar htake)

end Accesses

/-- **`wildcardMatch` stays inside its strings** exactly when no beginning of the pattern that is
followed by another character than `*` covers the subject. -/
theorem accesses_safe_iff (s p : Str) :
    (∀ a ∈ accesses (.within s) p, a.Safe s p) ∧ wildcardMatches s p ≠ none ↔
      ¬ globs.Covers Stuck s p := by
  have hsafe : AccessesSafe s p (.within s) p ↔ ¬ globs.Covers Stuck s p :=
    accessesSafe_iff (List.suffix_refl s) (List.suffix_refl p)
  have hover : wildcardMatches s p = none ↔ globs.Covers Overrun s p :=
    wildcardMatch_eq_none_iff s p
  constructor
  · exact fun h => hsafe.1 h.1
  · intro hno
    exact ⟨hsafe.2 hno, fun h => hno ((hover.1 h).mono fun _ _ => Overrun.stuck)⟩

/-- A pattern that is longer than its subject reads the terminating NUL. -/
theorem not_accesses_safe_empty : ¬ ∀ a ∈ accesses (.within []) ['a'], a.Safe [] ['a'] :=
  not_accessesSafe_end (by decide)

end RcDiscover
