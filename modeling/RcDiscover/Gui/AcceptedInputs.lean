import RcDiscover.Addresses.WellFormed
import RcDiscover.Gui.Inputs

/-!
# What the address fields accept

`InputIP::getIP` and `InputMAC::getMAC` decide by the sentinel values, the separators and the end of
the stream.  Extraction skips blanks, takes signs and the prefix `0x`, and stores 0 when the digits
are missing; the state of the stream after the last number is looked at for its end only.

* `ExtractedNumber`, `DanglingNumber`, `ExtractedFields`: the grammar of the chain of extractions;
* `extractFields_valid_iff`: the texts that pass the checks are those of this grammar;
* `ExactInput`: a field has the value of the well-formed address that is its text, and else 0.

`exactInput_iff` (**main result**): this is so exactly when the grammar lets no character pass that
is neither a digit nor the separator, at least in a text whose value is not 0.
-/

namespace RcDiscover
namespace Gui

open BigEndian

/-! ### The grammar of extraction -/

/-- What may stand in front of the digits in the given base. -/
def IsBasePrefix (base : ℕ) (pre : Str) : Prop :=
  pre = [] ∨ base = 16 ∧ (pre = ['0', 'x'] ∨ pre = ['0', 'X'])

/-- A number that is extracted with the value `v`. -/
def ExtractedNumber (base bits : ℕ) (s : Str) (v : ℕ) : Prop :=
  ∃ (blanks : Str) (sign : Sign) (pre numeral : Str) (n : ℕ),
    s = blanks ++ (sign.text ++ (pre ++ numeral)) ∧ (∀ c ∈ blanks, isSpace c = true) ∧
      IsBasePrefix base pre ∧ Reads base numeral n ∧ n < 2 ^ bits ∧ v = sign.apply bits n

/-- The beginning of a number without its digits. -/
def DanglingNumber (base : ℕ) (s : Str) : Prop :=
  ∃ (blanks : Str) (sign : Sign) (pre : Str),
    s = blanks ++ (sign.text ++ pre) ∧ (∀ c ∈ blanks, isSpace c = true) ∧
      IsBasePrefix base pre ∧ sign.text ++ pre ≠ []

/-- The texts from which the chain of extractions reads the numbers, with separators in between, up
to the end. -/
inductive ExtractedFields (base bits : ℕ) (sep : Char) : List ℕ → Str → Prop
  | last {s v} : ExtractedNumber base bits s v → ExtractedFields base bits sep [v] s
  -- extraction fails and stores 0, but it has come to the end
  | dangling {s} : DanglingNumber base s → ExtractedFields base bits sep [0] s
  | cons {s t v vs blanks} : ExtractedNumber base bits s v → (∀ c ∈ blanks, isSpace c = true) →
      ExtractedFields base bits sep vs t →
      ExtractedFields base bits sep (v :: vs) (s ++ (blanks ++ sep :: t))

/-- A separator that is taken for no part of a number. -/
structure IsSeparator (base : ℕ) (sep : Char) : Prop where
  space : isSpace sep = false
  digit : digitValue base sep = none
  plus : sep ≠ '+'
  minus : sep ≠ '-'
  x : sep ≠ 'x'
  X : sep ≠ 'X'

/-! ### One number -/

section Number

variable {base bits : ℕ} {s t u w : Str} {sign : Sign} {v : ℕ}

theorem exists_takeSign (t : Str) :
    ∃ sign : Sign, t = sign.text ++ (IStream.takeSign t).2 ∧
      (IStream.takeSign t).1 = decide (sign = .minus) := by
  rw [IStream.takeSign.eq_def]
  split
  · exact ⟨.minus, rfl, rfl⟩
  · exact ⟨.plus, rfl, rfl⟩
  · exact ⟨.none, rfl, rfl⟩

theorem takeSign_text (hminus : u.head? ≠ some '-') (hplus : u.head? ≠ some '+') :
    IStream.takeSign (sign.text ++ u) = (decide (sign = .minus), u) := by
  cases sign
  · rw [Sign.text, List.nil_append, IStream.takeSign.eq_def]
    split
    · simp at hminus
    · simp at hplus
    · rfl
  · rfl
  · rfl

theorem exists_takeBase (base : ℕ) (u : Str) :
    ∃ pre, u = pre ++ IStream.takeBase base u ∧ IsBasePrefix base pre := by
  rw [IStream.takeBase.eq_def]
  split
  · next x t =>
    split_ifs with h
    · refine ⟨['0', x], rfl, .inr ⟨h.1, ?_⟩⟩
      rcases h.2 with rfl | rfl
      · exact .inl rfl
      · exact .inr rfl
    · exact ⟨[], rfl, .inl rfl⟩
  · exact ⟨[], rfl, .inl rfl⟩

/-- The prefix is taken off when no further one follows. -/
theorem takeBase_append {pre : Str} (hpre : IsBasePrefix base pre)
    (hw : IStream.takeBase base w = w) : IStream.takeBase base (pre ++ w) = w := by
  rcases hpre with rfl | ⟨rfl, rfl | rfl⟩
  · exact hw
  · simp [IStream.takeBase]
  · simp [IStream.takeBase]

variable (base sign) in
/-- Extraction in terms of what is left behind the blanks, the sign and the prefix. -/
theorem extractUnsigned_eq (bits v : ℕ) (ht : s.dropWhile isSpace = t) (hne : t ≠ [])
    (hsign : IStream.takeSign t = (decide (sign = .minus), u))
    (hbase : IStream.takeBase base u = w) :
    IStream.extractUnsigned base bits v ⟨s, false, false⟩ =
      let rest := w.dropWhile fun c => (digitValue base c).isSome
      let n := (leadingDigits base w).foldl (fun v d => v * base + d) 0
      if leadingDigits base w = [] then (0, ⟨rest, rest.isEmpty, true⟩)
      else if 2 ^ bits ≤ n then (2 ^ bits - 1, ⟨rest, rest.isEmpty, true⟩)
      else (sign.apply bits n, ⟨rest, rest.isEmpty, false⟩) := by
  have hsentry : IStream.sentry ⟨s, false, false⟩ = (true, ⟨t, false, false⟩) := by
    obtain ⟨c, t', rfl⟩ := List.exists_cons_of_ne_nil hne
    simp [IStream.sentry, ht]
  simp only [IStream.extractUnsigned, hsentry, hsign, hbase]
  cases sign <;> simp [Sign.apply]

/-- **A number in front of something else is extracted.** -/
theorem ExtractedNumber.extractUnsigned (h : ExtractedNumber base bits s v) (hb : base ≤ 16)
    {rest : Str} (hrest : Stops base rest) (v' : ℕ) :
    IStream.extractUnsigned base bits v' ⟨s ++ rest, false, false⟩ =
      (v, ⟨rest, rest.isEmpty, false⟩) := by
  obtain ⟨blanks, sign, pre, numeral, n, rfl, hblanks, hpre, hreads, hn, rfl⟩ := h
  have hdigits : ∀ c, rest.head? = some c → digitValue base c = none := fun c hc => (hrest c hc).1
  have hhead : ∀ c, c = '-' ∨ c = '+' ∨ isSpace c = true →
      (pre ++ (numeral ++ rest)).head? ≠ some c := by
    intro c hc
    have hzero : c ≠ '0' := by
      rintro rfl
      revert hc
      decide
    rcases hpre with rfl | ⟨-, rfl | rfl⟩
    · rw [List.nil_append, List.head?_append_of_ne_nil numeral hreads.ne_nil]
      refine hreads.head_ne ?_
      rcases hc with rfl | rfl | hc
      · exact digitValue_of_not_range (by decide)
      · exact digitValue_of_not_range (by decide)
      · exact digitValue_eq_none_of_isSpace hc
    · simpa using hzero.symm
    · simpa using hzero.symm
  have hspace : (blanks ++ (sign.text ++ (pre ++ numeral)) ++ rest).dropWhile isSpace =
      sign.text ++ (pre ++ (numeral ++ rest)) := by
    rw [List.append_assoc, List.dropWhile_append_of_pos hblanks, List.append_assoc,
      List.append_assoc]
    cases sign
    · rcases hcons : pre ++ (numeral ++ rest) with _ | ⟨c, u⟩
      · rfl
      · refine List.dropWhile_cons_of_neg fun hc => hhead c (.inr (.inr hc)) ?_
        rw [hcons, List.head?_cons]
    · exact List.dropWhile_cons_of_neg (by decide)
    · exact List.dropWhile_cons_of_neg (by decide)
  have hne : sign.text ++ (pre ++ (numeral ++ rest)) ≠ [] := by simp [hreads.ne_nil]
  rw [extractUnsigned_eq base sign bits v' hspace hne (takeSign_text (hhead '-' (.inl rfl))
    (hhead '+' (.inr (.inl rfl)))) (takeBase_append hpre (hreads.takeBase hb hrest))]
  simp only [hreads.leadingDigits hdigits, hreads.filterMap_ne_nil, hreads.value, not_le.2 hn,
    if_false, (hreads.takeWhile_append hdigits).2]

/-- The beginning of a number at the end of the text is extracted as 0. -/
theorem DanglingNumber.extractUnsigned (h : DanglingNumber base s) (v' : ℕ) :
    IStream.extractUnsigned base bits v' ⟨s, false, false⟩ = (0, ⟨[], true, true⟩) := by
  obtain ⟨blanks, sign, pre, rfl, hblanks, hpre, hne⟩ := h
  have hhead : ∀ c, c ≠ '0' → pre.head? ≠ some c := by
    intro c hc
    rcases hpre with rfl | ⟨-, rfl | rfl⟩
    · simp
    · simpa using hc.symm
    · simpa using hc.symm
  have hspace : (blanks ++ (sign.text ++ pre)).dropWhile isSpace = sign.text ++ pre := by
    rw [List.dropWhile_append_of_pos hblanks]
    cases sign
    · rcases hpre with rfl | ⟨-, rfl | rfl⟩ <;> rfl
    · exact List.dropWhile_cons_of_neg (by decide)
    · exact List.dropWhile_cons_of_neg (by decide)
  have hbase : IStream.takeBase base pre = [] := by
    rw [← List.append_nil pre]
    exact takeBase_append hpre rfl
  rw [extractUnsigned_eq base sign bits v' hspace hne (takeSign_text (hhead '-' (by decide))
    (hhead '+' (by decide))) hbase]
  simp [leadingDigits]

variable (base) in
/-- **Every extraction** of a number into a variable with the value 256: it succeeds, or what it
stores or where it stops is invalid, or it comes to the end without digits. -/
theorem extractUnsigned_cases (hbits : 8 < bits) (s : Str) :
    (∃ number rest v, s = number ++ rest ∧ ExtractedNumber base bits number v ∧
      IStream.extractUnsigned base bits 256 ⟨s, false, false⟩ =
        (v, ⟨rest, rest.isEmpty, false⟩)) ∨
    ∃ v is, IStream.extractUnsigned base bits 256 ⟨s, false, false⟩ = (v, is) ∧ is.fail = true ∧
      (255 < v ∨ is.eof = false ∨ v = 0 ∧ DanglingNumber base s) := by
  obtain ⟨blanks, hs, hblanks⟩ := exists_blanks s
  by_cases hne : s.dropWhile isSpace = []
  · have hsentry : IStream.sentry ⟨s, false, false⟩ = (false, ⟨[], true, true⟩) := by
      simp [IStream.sentry, hne]
    refine .inr ⟨256, ⟨[], true, true⟩, ?_, rfl, .inl (by decide)⟩
    simp only [IStream.extractUnsigned, hsentry]
  obtain ⟨sign, ht, hsign⟩ := exists_takeSign (s.dropWhile isSpace)
  obtain ⟨pre, hu, hpre⟩ := exists_takeBase base (IStream.takeSign (s.dropWhile isSpace)).2
  have heq := extractUnsigned_eq base sign bits 256 rfl hne (Prod.ext hsign rfl) rfl
  generalize IStream.takeBase base (IStream.takeSign (s.dropWhile isSpace)).2 = w at hu heq
  rw [hu] at ht
  rw [ht] at hs hne
  rw [heq]
  by_cases hdigits : leadingDigits base w = []
  · -- nothing is taken off
    have hrest : w.dropWhile (fun c => (digitValue base c).isSome) = w := by
      rcases w with _ | ⟨c, w⟩
      · rfl
      · refine List.dropWhile_cons_of_neg fun hc => ?_
        obtain ⟨d, hd⟩ := Option.isSome_iff_exists.1 hc
        simp [leadingDigits, hd] at hdigits
    refine .inr ⟨0, ⟨w, w.isEmpty, true⟩, ?_, rfl, ?_⟩
    · simp only [hdigits, hrest, if_true]
    · rcases w with _ | ⟨c, w⟩
      · rw [List.append_nil] at hs hne
        exact .inr (.inr ⟨rfl, blanks, sign, pre, hs, hblanks, hpre, hne⟩)
      · exact .inr (.inl rfl)
  · obtain ⟨numeral, rest, rfl, hreads, hrest⟩ := exists_reads hdigits
    simp only [hdigits, if_false, (hreads.takeWhile_append hrest).2]
    split_ifs with hlarge
    · have hpow : 2 ^ 9 ≤ 2 ^ bits := Nat.pow_le_pow_right (by decide) hbits
      exact .inr ⟨_, _, rfl, rfl, .inl (by omega)⟩
    · refine .inl ⟨blanks ++ (sign.text ++ (pre ++ numeral)), rest, _, ?_,
        ⟨blanks, sign, pre, numeral, _, rfl, hblanks, hpre, hreads, not_le.1 hlarge, rfl⟩, rfl⟩
      rw [hs]
      simp only [List.append_assoc]

end Number

/-! ### The chain of extractions -/

section Chain

variable {base bits : ℕ} {sep : Char} {s : Str} {vs : List ℕ}

/-- A number ends in front of blanks and a separator. -/
theorem IsSeparator.stops (hsep : IsSeparator base sep) {blanks : Str}
    (hblanks : ∀ c ∈ blanks, isSpace c = true) (t : Str) : Stops base (blanks ++ sep :: t) := by
  intro c hc
  rcases blanks with _ | ⟨b, blanks⟩
  · obtain rfl : sep = c := by simpa using hc
    exact ⟨hsep.digit, hsep.x, hsep.X⟩
  · obtain rfl : b = c := by simpa using hc
    have hspace := hblanks b List.mem_cons_self
    refine ⟨digitValue_eq_none_of_isSpace hspace, ?_, ?_⟩
    · rintro rfl
      exact absurd hspace (by decide)
    · rintro rfl
      exact absurd hspace (by decide)

theorem extractChar_blanks {blanks : Str} (hblanks : ∀ c ∈ blanks, isSpace c = true)
    (hsep : isSpace sep = false) (rest : Str) :
    IStream.extractChar ' ' ⟨blanks ++ sep :: rest, false, false⟩ =
      (sep, ⟨rest, false, false⟩) := by
  have hdrop : (blanks ++ sep :: rest).dropWhile isSpace = sep :: rest := by
    rw [List.dropWhile_append_of_pos hblanks, List.dropWhile_cons_of_neg (by simp [hsep])]
  simp [IStream.extractChar, IStream.sentry, hdrop]

/-- A character other than the sentinel has been extracted. -/
theorem of_extractChar {is is' : IStream} {c : Char} (hc : c ≠ ' ')
    (h : is.extractChar ' ' = (c, is')) :
    is.fail = false ∧ ∃ blanks rest, is.rest = blanks ++ c :: rest ∧
      (∀ x ∈ blanks, isSpace x = true) ∧ is' = .ofStr rest := by
  obtain ⟨s, eof, fail⟩ := is
  by_cases hstate : eof = true ∨ fail = true
  · simp only [IStream.extractChar, IStream.sentry, hstate, if_true, Prod.mk.injEq] at h
    exact absurd h.1.symm hc
  obtain ⟨blanks, hs, hblanks⟩ := exists_blanks s
  rcases hdrop : s.dropWhile isSpace with _ | ⟨x, rest⟩
  · simp only [IStream.extractChar, IStream.sentry, hstate, if_false, hdrop, Prod.mk.injEq] at h
    exact absurd h.1.symm hc
  · simp only [IStream.extractChar, IStream.sentry, hstate, if_false, hdrop, Prod.mk.injEq] at h
    obtain ⟨rfl, rfl⟩ := h
    rw [hdrop] at hs
    exact ⟨by simpa using fun hf => hstate (.inr hf), blanks, rest, hs, hblanks, rfl⟩

variable (base bits) in
theorem length_extractFields (n : ℕ) (is : IStream) :
    (extractFields base bits n is).1.length = n + 1 := by
  induction n generalizing is with
  | zero => rfl
  | succ n ih => simp only [extractFields, List.length_cons, ih]

/-- A chain that passes the checks has read its fields. -/
theorem extractedFields_of_valid (hbits : 8 < bits) (hsep : IsSeparator base sep) {n : ℕ}
    {ss : List Char} {is : IStream} (h : extractFields base bits n (.ofStr s) = (vs, ss, is))
    (hvalid : fieldsValid sep vs ss is = true) : ExtractedFields base bits sep vs s := by
  have hblank : sep ≠ ' ' := by
    rintro rfl
    exact absurd hsep.space (by decide)
  induction n generalizing s vs ss is with
  | zero =>
    rcases extractUnsigned_cases base hbits s with
      ⟨number, rest, v, rfl, hnumber, hext⟩ | ⟨v, is', hext, -, hbad⟩
    · simp only [extractFields, IStream.ofStr, hext, Prod.mk.injEq] at h
      obtain ⟨rfl, rfl, rfl⟩ := h
      have hrest : rest = [] := by
        simpa [fieldsValid] using (show rest = [] ∧ v ≤ 255 by simpa [fieldsValid] using hvalid).1
      rw [hrest, List.append_nil]
      exact .last hnumber
    · simp only [extractFields, IStream.ofStr, hext, Prod.mk.injEq] at h
      obtain ⟨rfl, rfl, rfl⟩ := h
      obtain ⟨heof, hle⟩ : is'.eof = true ∧ v ≤ 255 := by simpa [fieldsValid] using hvalid
      rcases hbad with hv | he | ⟨rfl, hdangling⟩
      · omega
      · simp [he] at heof
      · exact .dangling hdangling
  | succ n ih =>
    simp only [extractFields, IStream.ofStr] at h
    rcases hchar : (IStream.extractUnsigned base bits 256 ⟨s, false, false⟩).2.extractChar ' '
      with ⟨c, is₁⟩
    rcases hrec : extractFields base bits n is₁ with ⟨vs', ss', is₂⟩
    simp only [hchar, hrec, Prod.mk.injEq] at h
    obtain ⟨rfl, rfl, rfl⟩ := h
    have hsplit : c = sep ∧ fieldsValid sep vs' ss' is₂ = true := by
      simp only [fieldsValid, List.all_cons, Bool.and_eq_true, decide_eq_true_eq] at hvalid ⊢
      tauto
    obtain ⟨rfl, hvalid'⟩ := hsplit
    obtain ⟨hfail, blanks, rest', hrest, hblanks, rfl⟩ := of_extractChar hblank hchar
    rcases extractUnsigned_cases base hbits s with
      ⟨number, rest, v, rfl, hnumber, hext⟩ | ⟨v, is', hext, hfail', -⟩
    · rw [hext] at hrest ⊢
      obtain rfl : rest = blanks ++ c :: rest' := hrest
      exact .cons hnumber hblanks (ih hrec hvalid')
    · rw [hext, hfail'] at hfail
      cases hfail

theorem ExtractedFields.ne_nil (h : ExtractedFields base bits sep vs s) : vs ≠ [] := by
  cases h <;> exact List.cons_ne_nil _ _

/-- The fields are read, and the checks passed when the numbers are small enough. -/
theorem ExtractedFields.exists_valid (hb : base ≤ 16) (hsep : IsSeparator base sep)
    (h : ExtractedFields base bits sep vs s) (hvs : ∀ v ∈ vs, v ≤ 255) {n : ℕ}
    (hn : vs.length = n + 1) :
    ∃ ss is, extractFields base bits n (.ofStr s) = (vs, ss, is) ∧
      fieldsValid sep vs ss is = true := by
  induction h generalizing n with
  | @last s v hnumber =>
    obtain rfl : n = 0 := by simpa using hn.symm
    have hstops : Stops base [] := fun c hc => nomatch hc
    have hext := hnumber.extractUnsigned hb hstops 256
    rw [List.append_nil] at hext
    refine ⟨[], ⟨[], true, false⟩, ?_, by simpa [fieldsValid] using hvs⟩
    simp only [extractFields, IStream.ofStr, hext, List.isEmpty_nil]
  | @dangling s hdangling =>
    obtain rfl : n = 0 := by simpa using hn.symm
    refine ⟨[], ⟨[], true, true⟩, ?_, by simp [fieldsValid]⟩
    simp only [extractFields, IStream.ofStr, hdangling.extractUnsigned]
  | @cons s t v vs blanks hnumber hblanks hrest ih =>
    obtain ⟨m, rfl⟩ : ∃ m, n = m + 1 := by
      have hpos := List.length_pos_iff.2 hrest.ne_nil
      rw [List.length_cons] at hn
      exact ⟨n - 1, by omega⟩
    obtain ⟨ss, is, hfields, hvalid⟩ :=
      ih (fun x hx => hvs x (List.mem_cons_of_mem v hx)) (by simpa using hn)
    have hext := hnumber.extractUnsigned hb (hsep.stops hblanks t) 256
    have hempty : (blanks ++ sep :: t).isEmpty = false := by simp
    have hchar := extractChar_blanks hblanks hsep.space t
    simp only [IStream.ofStr] at hfields
    refine ⟨sep :: ss, is, ?_, ?_⟩
    · simp only [extractFields, IStream.ofStr, hext, hempty, hchar, hfields]
    · have hv := hvs v List.mem_cons_self
      simp only [fieldsValid, List.all_cons, Bool.and_eq_true, decide_eq_true_eq] at hvalid ⊢
      tauto

end Chain

/-! ### The values of the fields -/

section Values

variable {base bits n : ℕ} {sep : Char} {s : Str} {vs : List ℕ} {bytes : List UInt8}

theorem exists_bytes (hvs : ∀ v ∈ vs, v ≤ 255) :
    ∃ bytes : List UInt8, vs = bytes.map UInt8.toNat := by
  refine ⟨vs.map UInt8.ofNat, ?_⟩
  rw [List.map_map]
  refine (List.map_id vs).symm.trans (List.map_congr_left fun v hv => ?_)
  have hv := hvs v hv
  rw [Function.comp_apply, UInt8.toNat_ofNat', id_eq]
  omega

theorem le_of_mem_map_toNat {v : ℕ} (hv : v ∈ bytes.map UInt8.toNat) : v ≤ 255 := by
  obtain ⟨b, -, rfl⟩ := List.mem_map.1 hv
  exact Nat.le_of_lt_succ b.toNat_lt

/-- **The texts that pass the checks.** -/
theorem extractFields_valid_iff (hb : base ≤ 16) (hbits : 8 < bits) (hsep : IsSeparator base sep) :
    (∃ ss is, extractFields base bits n (.ofStr s) = (bytes.map UInt8.toNat, ss, is) ∧
      fieldsValid sep (bytes.map UInt8.toNat) ss is = true) ↔
      bytes.length = n + 1 ∧ ExtractedFields base bits sep (bytes.map UInt8.toNat) s := by
  constructor
  · rintro ⟨ss, is, hfields, hvalid⟩
    have hlen := length_extractFields base bits n (.ofStr s)
    rw [hfields, List.length_map] at hlen
    exact ⟨hlen, extractedFields_of_valid hbits hsep hfields hvalid⟩
  · rintro ⟨hlen, h⟩
    exact h.exists_valid hb hsep (fun v hv => le_of_mem_map_toNat hv) (by simpa using hlen)

theorem isSeparator_dot : IsSeparator 10 '.' := by constructor <;> decide

theorem isSeparator_colon : IsSeparator 16 ':' := by constructor <;> decide

theorem exists_of_length_four {α : Type} {l : List α} (h : l.length = 4) :
    ∃ a b c d, l = [a, b, c, d] := by
  obtain ⟨a, l, rfl⟩ := List.exists_cons_of_length_eq_add_one h
  obtain ⟨b, c, d, rfl⟩ := List.length_eq_three.1 (Nat.succ.inj h)
  exact ⟨a, b, c, d, rfl⟩

theorem exists_of_length_six {α : Type} {l : List α} (h : l.length = 6) :
    ∃ a b c d e f, l = [a, b, c, d, e, f] := by
  obtain ⟨a, l, rfl⟩ := List.exists_cons_of_length_eq_add_one h
  obtain ⟨b, l, rfl⟩ := List.exists_cons_of_length_eq_add_one (Nat.succ.inj h)
  obtain ⟨c, d, e, f, rfl⟩ := exists_of_length_four (Nat.succ.inj (Nat.succ.inj h))
  exact ⟨a, b, c, d, e, f, rfl⟩

/-- A function of the fields that is 0 when they do not pass the checks. -/
theorem eq_iff_of_extractFields {w : ℕ} (hb : base ≤ 16) (hbits : 8 < bits)
    (hsep : IsSeparator base sep)
    (hvalue : ∀ (bytes : List UInt8) ss is, bytes.length = n + 1 →
      extractFields base bits n (.ofStr s) = (bytes.map UInt8.toNat, ss, is) →
      fieldsValid sep (bytes.map UInt8.toNat) ss is = true → w = value bytes)
    (hzero : ∀ vs ss is, vs.length = n + 1 → extractFields base bits n (.ofStr s) = (vs, ss, is) →
      fieldsValid sep vs ss is = false → w = 0) {k : ℕ} (hk : k ≠ 0) :
    w = k ↔ ∃ bytes : List UInt8, bytes.length = n + 1 ∧
      ExtractedFields base bits sep (bytes.map UInt8.toNat) s ∧ value bytes = k := by
  constructor
  · rintro rfl
    rcases hfields : extractFields base bits n (.ofStr s) with ⟨vs, ss, is⟩
    have hlen := length_extractFields base bits n (.ofStr s)
    rw [hfields] at hlen
    cases hvalid : fieldsValid sep vs ss is with
    | false => exact absurd (hzero vs ss is hlen hfields hvalid) hk
    | true =>
      have hle : ∀ v ∈ vs, v ≤ 255 := by
        simp only [fieldsValid, Bool.and_eq_true] at hvalid
        simpa using hvalid.2
      obtain ⟨bytes, rfl⟩ := exists_bytes hle
      obtain ⟨hlen, hext⟩ := (extractFields_valid_iff hb hbits hsep).1 ⟨ss, is, hfields, hvalid⟩
      exact ⟨bytes, hlen, hext, (hvalue bytes ss is hlen hfields hvalid).symm⟩
  · rintro ⟨bytes, hlen, hext, rfl⟩
    obtain ⟨ss, is, hfields, hvalid⟩ := (extractFields_valid_iff hb hbits hsep).2 ⟨hlen, hext⟩
    exact hvalue bytes ss is hlen hfields hvalid

/-- `getIP` returns the value of the fields. -/
theorem getIP_eq_iff (t : Str) {k : ℕ} (hk : k ≠ 0) :
    (InputIP.getIP ⟨t⟩).toNat = k ↔
      ∃ bytes : List UInt8, bytes.length = 4 ∧
        ExtractedFields 10 32 '.' (bytes.map UInt8.toNat) t ∧ value bytes = k := by
  refine eq_iff_of_extractFields (by decide) (by decide) isSeparator_dot ?_ ?_ hk
  · intro bytes ss is hlen hfields hvalid
    obtain ⟨a, b, c, d, rfl⟩ := exists_of_length_four hlen
    simp only [List.map_cons, List.map_nil] at hfields hvalid
    simp only [InputIP.getIP, hfields, hvalid, if_true, UInt32.ofNat_uInt8ToNat]
    exact BigEndian.toNat_or_uint32 a b c d
  · intro vs ss is hlen hfields hvalid
    obtain ⟨a, b, c, d, rfl⟩ := exists_of_length_four hlen
    simp [InputIP.getIP, hfields, hvalid]

/-- `getMAC` returns the value of the fields. -/
theorem getMAC_eq_iff (t : Str) {k : ℕ} (hk : k ≠ 0) :
    (InputMAC.getMAC ⟨t⟩).toNat = k ↔
      ∃ bytes : List UInt8, bytes.length = 6 ∧
        ExtractedFields 16 64 ':' (bytes.map UInt8.toNat) t ∧ value bytes = k := by
  refine eq_iff_of_extractFields (by decide) (by decide) isSeparator_colon ?_ ?_ hk
  · intro bytes ss is hlen hfields hvalid
    obtain ⟨a, b, c, d, e, f, rfl⟩ := exists_of_length_six hlen
    simp only [List.map_cons, List.map_nil] at hfields hvalid
    simp only [InputMAC.getMAC, hfields, hvalid, if_true]
    exact toNat_or_uint64 a b c d e f
  · intro vs ss is hlen hfields hvalid
    obtain ⟨a, b, c, d, e, f, rfl⟩ := exists_of_length_six hlen
    simp [InputMAC.getMAC, hfields, hvalid]

end Values

/-! ### Exact inputs -/

/-- `v` is the value of the well-formed address `t` with `n` bytes, if this is not 0, and for all
other texts it is 0. -/
def ExactInput (n base : ℕ) (sep : Char) (t : Str) (v : ℕ) : Prop :=
  (∀ k, k ≠ 0 →
    (v = k ↔ ∃ bytes : List UInt8, bytes.length = n ∧ WellFormed base sep t bytes ∧
      value bytes = k)) ∧
  ((∀ bytes : List UInt8, bytes.length = n → WellFormed base sep t bytes → value bytes = 0) → v = 0)

section Exact

variable {base bits n v : ℕ} {sep : Char} {t : Str} {bytes : List UInt8}

/-- Blanks, a sign and a prefix are foreign characters. -/
theorem eq_nil_of_no_foreign (hb : base ≤ 16) (hsep : IsSeparator base sep) {blanks pre rest : Str}
    {sign : Sign} (hblanks : ∀ c ∈ blanks, isSpace c = true) (hpre : IsBasePrefix base pre)
    (ht : ∀ c ∈ blanks ++ (sign.text ++ (pre ++ rest)), c = sep ∨ (digitValue base c).isSome) :
    blanks = [] ∧ sign = .none ∧ pre = [] := by
  have hforeign : ∀ {c : Char}, c ≠ sep → digitValue base c = none →
      c ∉ blanks ++ (sign.text ++ (pre ++ rest)) := by
    intro c hc hdigit hmem
    rcases ht c hmem with rfl | hsome
    · exact hc rfl
    · simp [hdigit] at hsome
  refine ⟨List.eq_nil_iff_forall_not_mem.2 fun c hc => ?_, ?_, ?_⟩
  · have hspace := hblanks c hc
    refine hforeign ?_ (digitValue_eq_none_of_isSpace hspace) (List.mem_append_left _ hc)
    rintro rfl
    rw [hsep.space] at hspace
    cases hspace
  · cases sign
    · rfl
    · exact absurd (by simp [Sign.text]) (hforeign hsep.plus.symm
        (digitValue_of_not_range (by decide)))
    · exact absurd (by simp [Sign.text]) (hforeign hsep.minus.symm
        (digitValue_of_not_range (by decide)))
  · rcases hpre with rfl | ⟨-, rfl | rfl⟩
    · rfl
    · exact absurd (by simp) (hforeign hsep.x.symm (digitValue_x hb (.inl rfl)))
    · exact absurd (by simp) (hforeign hsep.X.symm (digitValue_x hb (.inr rfl)))

theorem ExtractedNumber.reads (hb : base ≤ 16) (hsep : IsSeparator base sep)
    (h : ExtractedNumber base bits t v) (ht : ∀ c ∈ t, c = sep ∨ (digitValue base c).isSome) :
    Reads base t v := by
  obtain ⟨blanks, sign, pre, numeral, n, rfl, hblanks, hpre, hreads, -, rfl⟩ := h
  obtain ⟨rfl, rfl, rfl⟩ := eq_nil_of_no_foreign hb hsep hblanks hpre ht
  simpa [Sign.text, Sign.apply] using hreads

theorem DanglingNumber.exists_foreign (hb : base ≤ 16) (hsep : IsSeparator base sep)
    (h : DanglingNumber base t) : ∃ c ∈ t, ¬ (c = sep ∨ (digitValue base c).isSome) := by
  by_contra hno
  push Not at hno
  obtain ⟨blanks, sign, pre, rfl, hblanks, hpre, hne⟩ := h
  rw [← List.append_nil pre] at hno
  obtain ⟨rfl, rfl, rfl⟩ := eq_nil_of_no_foreign hb hsep hblanks hpre hno
  exact hne rfl

/-- **Fields without foreign characters** are a well-formed address. -/
theorem ExtractedFields.wellFormed (hb : base ≤ 16) (hsep : IsSeparator base sep) {vs : List ℕ}
    (h : ExtractedFields base bits sep vs t)
    (ht : ∀ c ∈ t, c = sep ∨ (digitValue base c).isSome) (hvs : vs = bytes.map UInt8.toNat) :
    WellFormed base sep t bytes := by
  induction h generalizing bytes with
  | @last s v hnumber =>
    obtain ⟨b, rfl, rfl⟩ := List.map_eq_singleton_iff.1 hvs.symm
    exact ⟨[s], rfl, .cons (hnumber.reads hb hsep ht) .nil⟩
  | @dangling s hdangling =>
    obtain ⟨c, hc, hforeign⟩ := hdangling.exists_foreign hb hsep
    exact absurd (ht c hc) hforeign
  | @cons s u v vs blanks hnumber hblanks hrest ih =>
    obtain ⟨b, bs, rfl, rfl, rfl⟩ := List.map_eq_cons_iff.1 hvs.symm
    have hs : ∀ c ∈ s, c = sep ∨ (digitValue base c).isSome := fun c hc =>
      ht c (List.mem_append_left _ hc)
    have hu : ∀ c ∈ u, c = sep ∨ (digitValue base c).isSome := fun c hc =>
      ht c (by simp [hc])
    have hblank : ∀ c ∈ blanks ++ (Sign.none.text ++ ([] ++ sep :: u)),
        c = sep ∨ (digitValue base c).isSome := fun c hc => ht c (List.mem_append_right _ hc)
    obtain ⟨rfl, -, -⟩ := eq_nil_of_no_foreign hb hsep hblanks (.inl rfl) hblank
    obtain ⟨fields, rfl, hfields⟩ := ih hu rfl
    refine ⟨s :: fields, ?_, .cons (hnumber.reads hb hsep hs) hfields⟩
    cases hfields with
    | nil => exact absurd rfl hrest.ne_nil
    | cons _ _ => rfl

theorem Reads.extractedNumber {b : UInt8} (h : Reads base t b.toNat) (hbits : 8 < bits) :
    ExtractedNumber base bits t b.toNat := by
  have hpow : 2 ^ 8 ≤ 2 ^ bits := Nat.pow_le_pow_right (by decide) hbits.le
  exact ⟨[], .none, [], t, b.toNat, rfl, by simp, .inl rfl, h, b.toNat_lt.trans_le hpow, rfl⟩

/-- A well-formed address is extracted. -/
theorem extractedFields_of_wellFormed (hbits : 8 < bits) (hbytes : bytes ≠ [])
    (h : WellFormed base sep t bytes) :
    ExtractedFields base bits sep (bytes.map UInt8.toNat) t := by
  obtain ⟨fields, rfl, hfields⟩ := h
  induction hfields with
  | nil => exact absurd rfl hbytes
  | @cons f b fields bytes hread hfields ih =>
    cases hfields with
    | nil => exact .last (Reads.extractedNumber hread hbits)
    | @cons f' _ fields' _ hread' hrest =>
      have hrest := ih (List.cons_ne_nil _ _)
      show ExtractedFields base bits sep _ (f ++ ([] ++ sep :: join sep (f' :: fields')))
      exact .cons (Reads.extractedNumber hread hbits) (by simp) hrest

/-- A field whose value is that of its fields is exact when there are no foreign characters. -/
theorem exactInput_iff_of_eq_iff (hb : base ≤ 16) (hbits : 8 < bits) (hsep : IsSeparator base sep)
    (hn : n ≠ 0)
    (hv : ∀ k, k ≠ 0 → (v = k ↔ ∃ bytes : List UInt8, bytes.length = n ∧
      ExtractedFields base bits sep (bytes.map UInt8.toNat) t ∧ value bytes = k)) :
    ExactInput n base sep t v ↔
      ((∃ bytes : List UInt8, bytes.length = n ∧
        ExtractedFields base bits sep (bytes.map UInt8.toNat) t ∧ value bytes ≠ 0) →
          ∀ c ∈ t, c = sep ∨ (digitValue base c).isSome) := by
  constructor
  · rintro ⟨h, -⟩ ⟨bytes, hlen, hext, hne⟩ c hc
    obtain ⟨bytes', -, hwf, -⟩ := (h _ hne).1 ((hv _ hne).2 ⟨bytes, hlen, hext, rfl⟩)
    exact hwf.mem hc
  · intro h
    have hiff : ∀ k, k ≠ 0 → (v = k ↔ ∃ bytes : List UInt8, bytes.length = n ∧
        WellFormed base sep t bytes ∧ value bytes = k) := by
      intro k hk
      rw [hv k hk]
      constructor
      · rintro ⟨bytes, hlen, hext, rfl⟩
        exact ⟨bytes, hlen, hext.wellFormed hb hsep (h ⟨bytes, hlen, hext, hk⟩) rfl, rfl⟩
      · rintro ⟨bytes, hlen, hwf, rfl⟩
        refine ⟨bytes, hlen, extractedFields_of_wellFormed hbits ?_ hwf, rfl⟩
        rintro rfl
        exact hn hlen.symm
    refine ⟨hiff, fun hzero => ?_⟩
    by_contra hne
    obtain ⟨bytes, hlen, hwf, hvalue⟩ := (hiff v hne).1 rfl
    exact hne (hvalue.symm.trans (hzero bytes hlen hwf))

end Exact

/-- **The address fields are exact on a text exactly when** their extractions pass over no foreign
character in it, or its value is 0. -/
theorem exactInput_iff (t : Str) :
    (ExactInput 4 10 '.' t (InputIP.getIP ⟨t⟩).toNat ↔
      ((∃ bytes : List UInt8, bytes.length = 4 ∧
        ExtractedFields 10 32 '.' (bytes.map UInt8.toNat) t ∧ value bytes ≠ 0) →
          ∀ c ∈ t, c = '.' ∨ (digitValue 10 c).isSome)) ∧
      (ExactInput 6 16 ':' t (InputMAC.getMAC ⟨t⟩).toNat ↔
        ((∃ bytes : List UInt8, bytes.length = 6 ∧
          ExtractedFields 16 64 ':' (bytes.map UInt8.toNat) t ∧ value bytes ≠ 0) →
            ∀ c ∈ t, c = ':' ∨ (digitValue 16 c).isSome)) :=
  ⟨exactInput_iff_of_eq_iff (by decide) (by decide) isSeparator_dot (by decide)
      fun _ hk => getIP_eq_iff t hk,
    exactInput_iff_of_eq_iff (by decide) (by decide) isSeparator_colon (by decide)
      fun _ hk => getMAC_eq_iff t hk⟩

/-- A sign without digits at the end is read as 0, and the prefix of a number is passed over. -/
theorem not_exactInput_dangling :
    ¬ ExactInput 4 10 '.' "10.0.2.+".toList (InputIP.getIP ⟨"10.0.2.+".toList⟩).toNat ∧
      ¬ ExactInput 6 16 ':' "0:a:b:c:d:0xe".toList
        (InputMAC.getMAC ⟨"0:a:b:c:d:0xe".toList⟩).toNat := by
  constructor
  · rintro ⟨h, -⟩
    obtain ⟨bytes, -, hwf, -⟩ := (h 0x0a000200 (by decide)).1 (by decide)
    exact absurd (hwf.mem (c := '+') (by decide)) (by decide)
  · rintro ⟨h, -⟩
    obtain ⟨bytes, -, hwf, -⟩ := (h 0x0a0b0c0d0e (by decide)).1 (by decide)
    exact absurd (hwf.mem (c := 'x') (by decide)) (by decide)

end Gui
end RcDiscover
