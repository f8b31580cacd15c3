import RcDiscover.Text
import Mathlib.Data.List.TakeWhile

/-!
# Formatted input and output with string streams

What `<<` and `>>` do on `std::ostringstream` and `std::istringstream` in the "C" locale.

* `OStringStream`: insertion of numbers and characters, with the manipulators `std::hex`,
  `std::setw` and `std::setfill`;
* `IStream`: extraction of characters, words and unsigned numbers.  It skips blanks first, and does
  nothing once the stream has failed or hit the end.  A number may have a sign (a minus sign
  negates modulo `2 ^ bits`) and in base 16 a leading `0x`; 0 is stored for a missing and the
  largest number for a too large one;
* `stoi`: `std::stoi`.

`Reads base s n` says that `s` is a numeral of `n`: `reads_toDigits` for what is printed,
`Reads.stoul` and `Reads.extractUnsigned` for what is read.  `tokens` is what the repeated
extraction of words yields.
-/

namespace RcDiscover

/-! ### Output -/

/-- A `std::ostringstream` with its formatting state. -/
structure OStringStream where
  text : Str
  base : ℕ
  width : ℕ
  fill : Char

namespace OStringStream

/-- A fresh stream. -/
def empty : OStringStream := ⟨[], 10, 0, ' '⟩

/-- `std::hex`. -/
def hex (out : OStringStream) : OStringStream := { out with base := 16 }

/-- `std::setw(n)`. -/
def setw (out : OStringStream) (n : ℕ) : OStringStream := { out with width := n }

/-- `std::setfill(c)`. -/
def setfill (out : OStringStream) (c : Char) : OStringStream := { out with fill := c }

/-- Insertion of a text; the width is for this one only. -/
def insert (out : OStringStream) (s : Str) : OStringStream :=
  { out with
    text := out.text ++ (List.replicate (out.width - s.length) out.fill ++ s)
    width := 0 }

/-- `out << n`. -/
def putNat (out : OStringStream) (n : ℕ) : OStringStream := out.insert (Nat.toDigits out.base n)

/-- `out << c`. -/
def putChar (out : OStringStream) (c : Char) : OStringStream := out.insert [c]

end OStringStream

/-! ### Input -/

/-- A `std::istringstream`: what is left to read, `eofbit` and `failbit`. -/
structure IStream where
  rest : Str
  eof : Bool
  fail : Bool
  deriving DecidableEq, Repr

namespace IStream

/-- `std::istringstream in(s)`. -/
def ofStr (s : Str) : IStream := ⟨s, false, false⟩

/-- What every extraction begins with: skip blanks, and say whether there is something to read. -/
def sentry (is : IStream) : Bool × IStream :=
  if is.eof ∨ is.fail then (false, { is with fail := true })
  else match is.rest.dropWhile isSpace with
    | [] => (false, ⟨[], true, true⟩)
    | rest => (true, ⟨rest, false, false⟩)

/-- `in >> c` for a `char` with the value `c`. -/
def extractChar (c : Char) (is : IStream) : Char × IStream :=
  match is.sentry with
  | (true, ⟨x :: rest, eof, fail⟩) => (x, ⟨rest, eof, fail⟩)
  | (_, is) => (c, is)

/-- `in >> s` for a `std::string` with the value `s`. -/
def extractString (s : Str) (is : IStream) : Str × IStream :=
  match is.sentry with
  | (false, is) => (s, is)
  | (true, is) =>
    let rest := is.rest.dropWhile fun c => !isSpace c
    (is.rest.takeWhile fun c => !isSpace c, ⟨rest, rest.isEmpty, false⟩)

/-- The sign of a number, true for a minus sign. -/
def takeSign : Str → Bool × Str
  | '-' :: s => (true, s)
  | '+' :: s => (false, s)
  | s => (false, s)

/-- The `0x` of a number in base 16; with it digits have to follow. -/
def takeBase (base : ℕ) : Str → Str
  | '0' :: x :: s => if base = 16 ∧ (x = 'x' ∨ x = 'X') then s else '0' :: x :: s
  | s => s

/-- `in >> v` for an unsigned integer of the given number of bits with the value `v`. -/
def extractUnsigned (base bits v : ℕ) (is : IStream) : ℕ × IStream :=
  match is.sentry with
  | (false, is) => (v, is)
  | (true, is) =>
    let (negative, s) := takeSign is.rest
    let s := takeBase base s
    let digits := leadingDigits base s
    let rest := s.dropWhile fun c => (digitValue base c).isSome
    let n := digits.foldl (fun v d => v * base + d) 0
    if digits = [] then (0, ⟨rest, rest.isEmpty, true⟩)
    else if 2 ^ bits ≤ n then (2 ^ bits - 1, ⟨rest, rest.isEmpty, true⟩)
    else (if negative then (2 ^ bits - n) % 2 ^ bits else n, ⟨rest, rest.isEmpty, false⟩)

end IStream

/-- `std::stoi(s)`, with `int` of 32 and `long` of 64 bits. -/
def stoi (s : Str) : Except StdException Int32 :=
  let t := s.dropWhile isSpace
  let negative := t.head? = some '-'
  let t := if t.head? = some '-' ∨ t.head? = some '+' then t.tail else t
  let digits := leadingDigits 10 t
  let v : ℕ := digits.foldl (fun v d => v * 10 + d) 0
  let z : ℤ := if negative then -v else v
  if digits = [] then .error (.invalidArgument "stoi".toList)
  else if z < -2 ^ 31 ∨ 2 ^ 31 ≤ z then .error (.outOfRange "stoi".toList)
  else .ok (Int32.ofInt z)

/-- `out << z` for an `int`. -/
def decimalInt (z : Int32) : Str :=
  if z.toInt < 0 then '-' :: decimal z.toInt.natAbs else decimal z.toInt.natAbs

/-! ### Numerals -/

/-- `s` consists of digits and its value is `n`. -/
structure Reads (base : ℕ) (s : Str) (n : ℕ) : Prop where
  ne_nil : s ≠ []
  digits : ∀ c ∈ s, (digitValue base c).isSome
  value : (s.filterMap (digitValue base)).foldl (fun v d => v * base + d) 0 = n

section Numerals

variable {base n : ℕ} {s : Str} {c : Char}

/-- Digits are letters or decimal digits. -/
theorem range_of_isSome_digitValue (h : (digitValue base c).isSome) :
    ('0' ≤ c ∧ c ≤ '9') ∨ ('a' ≤ c ∧ c ≤ 'z') ∨ ('A' ≤ c ∧ c ≤ 'Z') := by
  by_contra hno
  rw [not_or, not_or] at hno
  simp [digitValue, hno.1, hno.2.1, hno.2.2] at h

theorem isSpace_eq_false_of_digit (h : (digitValue base c).isSome) : isSpace c = false := by
  have hrange := range_of_isSome_digitValue h
  rw [Bool.eq_false_iff]
  intro hspace
  simp only [isSpace, Bool.or_eq_true, decide_eq_true_eq] at hspace
  obtain ((((rfl | rfl) | rfl) | rfl) | rfl) | rfl := hspace <;> revert hrange <;> decide

/-- A blank is no digit. -/
theorem digitValue_eq_none_of_isSpace (h : isSpace c = true) : digitValue base c = none := by
  rw [← Option.not_isSome_iff_eq_none]
  intro hsome
  rw [isSpace_eq_false_of_digit hsome] at h
  cases h

theorem digitValue_digitChar : ∀ d < 16, d < base → digitValue base d.digitChar = some d := by
  have hvalue : ∀ d < 16, digitValue 16 d.digitChar = some d := by decide
  intro d hd hlt
  have h16 := hvalue d hd
  simp only [digitValue, Option.filter_eq_some_iff] at h16 ⊢
  exact ⟨h16.1, by simpa using hlt⟩

/-- What is printed is a numeral of the number. -/
theorem reads_toDigits (hb : 1 < base) (hb' : base ≤ 16) (n : ℕ) :
    Reads base (Nat.toDigits base n) n := by
  induction n using Nat.strong_induction_on with
  | _ n ih =>
    rw [Nat.toDigits_eq_if hb]
    split_ifs with hlt
    · have hd := digitValue_digitChar n (by omega) hlt
      exact ⟨by simp, by simp [hd], by simp [hd]⟩
    · have hrec := ih (n / base) (Nat.div_lt_self (by omega) hb)
      have hmod : n % base < base := Nat.mod_lt n (by omega)
      have hd := digitValue_digitChar (n % base) (by omega) hmod
      refine ⟨by simp, ?_, ?_⟩
      · intro c hc
        rcases List.mem_append.1 hc with hc | hc
        · exact hrec.digits c hc
        · rw [List.mem_singleton.1 hc, hd]
          rfl
      · rw [List.filterMap_append, List.foldl_append, hrec.value]
        simp only [List.filterMap_cons, hd, List.filterMap_nil, List.foldl_cons, List.foldl_nil]
        exact Nat.div_add_mod' n base

/-- Leading zeros do not change the value. -/
theorem Reads.replicate_zero (h : Reads base s n) (hb : 0 < base) (k : ℕ) :
    Reads base (List.replicate k '0' ++ s) n := by
  have hzero : digitValue base '0' = some 0 := digitValue_digitChar 0 (by decide) hb
  refine ⟨by simp [h.ne_nil], ?_, ?_⟩
  · intro c hc
    rcases List.mem_append.1 hc with hc | hc
    · rw [(List.mem_replicate.1 hc).2, hzero]
      rfl
    · exact h.digits c hc
  · rw [List.filterMap_append, List.foldl_append]
    have hfold : ((List.replicate k '0').filterMap (digitValue base)).foldl
        (fun v d => v * base + d) 0 = 0 := by
      induction k with
      | zero => rfl
      | succ k ih => simpa [List.replicate_succ, hzero] using ih
    rw [hfold, h.value]

theorem reads_decimal (n : ℕ) : Reads 10 (decimal n) n := reads_toDigits (by decide) (by decide) n

theorem reads_setw2_hex (n : ℕ) : Reads 16 (setw2 (hex n)) n :=
  (reads_toDigits (by decide) (by decide) n).replicate_zero (by decide) _

/-- A character that is no digit is not in a numeral. -/
theorem Reads.not_mem (h : Reads base s n) (hc : digitValue base c = none) : c ∉ s := by
  intro hmem
  have := h.digits c hmem
  simp [hc] at this

/-! ### Reading numerals -/

theorem Reads.dropWhile_isSpace (h : Reads base s n) (rest : Str) :
    (s ++ rest).dropWhile isSpace = s ++ rest := by
  obtain ⟨c, t, rfl⟩ := List.exists_cons_of_ne_nil h.ne_nil
  have hc := isSpace_eq_false_of_digit (h.digits c List.mem_cons_self)
  simp [hc]

theorem Reads.takeWhile_append (h : Reads base s n) {rest : Str}
    (hrest : ∀ c, rest.head? = some c → digitValue base c = none) :
    (s ++ rest).takeWhile (fun c => (digitValue base c).isSome) = s ∧
      (s ++ rest).dropWhile (fun c => (digitValue base c).isSome) = rest := by
  have hstop : rest.takeWhile (fun c => (digitValue base c).isSome) = [] ∧
      rest.dropWhile (fun c => (digitValue base c).isSome) = rest := by
    cases rest with
    | nil => exact ⟨rfl, rfl⟩
    | cons c rest => simp [hrest c rfl]
  constructor
  · rw [List.takeWhile_append_of_pos h.digits, hstop.1, List.append_nil]
  · rw [List.dropWhile_append_of_pos h.digits, hstop.2]

theorem Reads.leadingDigits (h : Reads base s n) {rest : Str}
    (hrest : ∀ c, rest.head? = some c → digitValue base c = none) :
    leadingDigits base (s ++ rest) = s.filterMap (digitValue base) := by
  rw [RcDiscover.leadingDigits, (h.takeWhile_append hrest).1]

theorem Reads.filterMap_ne_nil (h : Reads base s n) : s.filterMap (digitValue base) ≠ [] := by
  obtain ⟨c, t, rfl⟩ := List.exists_cons_of_ne_nil h.ne_nil
  obtain ⟨d, hd⟩ := Option.isSome_iff_exists.1 (h.digits c List.mem_cons_self)
  simp [hd]

/-- A numeral has no sign. -/
theorem Reads.head_ne (h : Reads base s n) {c : Char} (hc : digitValue base c = none) :
    s.head? ≠ some c := fun hs => h.not_mem hc (List.mem_of_mem_head? hs)

theorem digitValue_of_not_range (h : ¬ (('0' ≤ c ∧ c ≤ '9') ∨ ('a' ≤ c ∧ c ≤ 'z') ∨
    ('A' ≤ c ∧ c ≤ 'Z'))) : digitValue base c = none := by
  rw [← Option.not_isSome_iff_eq_none]
  exact mt range_of_isSome_digitValue h

/-- The letter of a base prefix is no digit. -/
theorem digitValue_x (hb : base ≤ 16) (hx : c = 'x' ∨ c = 'X') : digitValue base c = none := by
  rcases hx with rfl | rfl
  · simp [digitValue, show base ≤ 33 by omega]
  · simp [digitValue, show base ≤ 33 by omega]

/-- `std::stoul` on a numeral. -/
theorem Reads.stoul (h : Reads base s n) (hb : base ≤ 16) (hn : n < 2 ^ 64) :
    stoul s base = .ok n := by
  have hspace := h.dropWhile_isSpace []
  have hdigits := @Reads.leadingDigits base n s h [] (by simp)
  rw [List.append_nil] at hspace hdigits
  have hminus : s.head? ≠ some '-' := h.head_ne (digitValue_of_not_range (by decide))
  have hplus : s.head? ≠ some '+' := h.head_ne (digitValue_of_not_range (by decide))
  have hprefix : skipHexPrefix base s = s := by
    rw [skipHexPrefix.eq_def]
    split
    · next x d t =>
      rw [if_neg]
      rintro ⟨-, hx, -⟩
      exact h.not_mem (digitValue_x hb hx) (by simp)
    · rfl
  simp only [RcDiscover.stoul, hspace, hminus, hplus, or_self, if_false, hprefix, hdigits,
    h.filterMap_ne_nil, h.value, not_le.2 hn]

/-- What may stand behind a numeral that is to be read. -/
def Stops (base : ℕ) (rest : Str) : Prop :=
  ∀ c, rest.head? = some c → digitValue base c = none ∧ c ≠ 'x' ∧ c ≠ 'X'

/-- A numeral has no base prefix. -/
theorem Reads.takeBase (h : Reads base s n) (hb : base ≤ 16) {rest : Str}
    (hrest : Stops base rest) : IStream.takeBase base (s ++ rest) = s ++ rest := by
  rw [IStream.takeBase.eq_def]
  split
  · next x u hu =>
    rw [if_neg, hu]
    rintro ⟨-, hx⟩
    -- the letter would stand in the numeral or right behind it
    obtain ⟨c, t, rfl⟩ := List.exists_cons_of_ne_nil h.ne_nil
    rcases t with _ | ⟨y, t⟩
    · have hcons : rest = x :: u := by simpa using congrArg List.tail hu
      have hno := hrest x (by rw [hcons]; rfl)
      exact hx.elim hno.2.1 hno.2.2
    · obtain rfl : y = x := by simpa using congrArg List.head? (congrArg List.tail hu)
      exact h.not_mem (digitValue_x hb hx) (by simp)
  · rfl

/-- Extraction of a numeral. -/
theorem Reads.extractUnsigned (h : Reads base s n) (hb : base ≤ 16) {bits : ℕ} (hn : n < 2 ^ bits)
    {rest : Str} (hrest : Stops base rest) (v : ℕ) :
    IStream.extractUnsigned base bits v ⟨s ++ rest, false, false⟩ =
      (n, ⟨rest, rest.isEmpty, false⟩) := by
  have hdigits : ∀ c, rest.head? = some c → digitValue base c = none := fun c hc => (hrest c hc).1
  obtain ⟨c, t, hs⟩ := List.exists_cons_of_ne_nil h.ne_nil
  have hc : (digitValue base c).isSome := h.digits c (by simp [hs])
  have hsentry : IStream.sentry ⟨s ++ rest, false, false⟩ = (true, ⟨s ++ rest, false, false⟩) := by
    rw [IStream.sentry, h.dropWhile_isSpace rest, hs]
    simp
  have hsign : IStream.takeSign (s ++ rest) = (false, s ++ rest) := by
    rw [IStream.takeSign.eq_def]
    split
    · next u hu =>
      obtain rfl : c = '-' := by simpa [hs] using congrArg List.head? hu
      simp [@digitValue_of_not_range base '-' (by decide)] at hc
    · next u hu =>
      obtain rfl : c = '+' := by simpa [hs] using congrArg List.head? hu
      simp [@digitValue_of_not_range base '+' (by decide)] at hc
    · rfl
  simp only [IStream.extractUnsigned, hsentry, hsign, h.takeBase hb hrest,
    h.leadingDigits hdigits, (h.takeWhile_append hdigits).2, h.filterMap_ne_nil, h.value,
    not_le.2 hn]
  simp

/-- Extraction of a character that is there. -/
theorem extractChar_cons {x : Char} (hx : isSpace x = false) (c : Char) (rest : Str) :
    IStream.extractChar c ⟨x :: rest, false, false⟩ = (x, ⟨rest, false, false⟩) := by
  simp [IStream.extractChar, IStream.sentry, hx]

/-- `std::stoi` reads back what is printed. -/
theorem stoi_decimalInt (z : Int32) : stoi (decimalInt z) = .ok z := by
  have h := reads_decimal z.toInt.natAbs
  have hdigits := @Reads.leadingDigits 10 _ _ h [] (by simp)
  rw [List.append_nil] at hdigits
  have hlt := z.toInt_lt
  have hle := z.le_toInt
  rw [decimalInt]
  split_ifs with hneg
  · have hz : -((z.toInt.natAbs : ℕ) : ℤ) = z.toInt := by omega
    have hrange : ¬ (z.toInt < -2 ^ 31 ∨ 2 ^ 31 ≤ z.toInt) := by omega
    have hspace : ('-' :: decimal z.toInt.natAbs).dropWhile isSpace =
        '-' :: decimal z.toInt.natAbs := List.dropWhile_cons_of_neg (by decide)
    simp only [stoi, hspace, List.head?_cons, true_or, if_true, List.tail_cons, hdigits,
      h.filterMap_ne_nil, if_false, h.value, hz, hrange, Int32.ofInt_toInt]
  · have hz : ((z.toInt.natAbs : ℕ) : ℤ) = z.toInt := by omega
    have hrange : ¬ (z.toInt < -2 ^ 31 ∨ 2 ^ 31 ≤ z.toInt) := by omega
    have hspace := h.dropWhile_isSpace []
    rw [List.append_nil] at hspace
    have hminus := h.head_ne (@digitValue_of_not_range 10 '-' (by decide))
    have hplus := h.head_ne (@digitValue_of_not_range 10 '+' (by decide))
    simp only [stoi, hspace, hminus, hplus, or_self, if_false, hdigits, h.filterMap_ne_nil, h.value,
      hz, hrange, Int32.ofInt_toInt]

/-- The characters of a printed number. -/
theorem mem_decimalInt {z : Int32} (hc : c ∈ decimalInt z) :
    c = '-' ∨ (digitValue 10 c).isSome := by
  have h := reads_decimal z.toInt.natAbs
  rw [decimalInt] at hc
  split_ifs at hc
  · exact (List.mem_cons.1 hc).imp id (h.digits c)
  · exact .inr (h.digits c hc)

theorem decimalInt_ne_nil (z : Int32) : decimalInt z ≠ [] := by
  rw [decimalInt]
  split_ifs
  · exact List.cons_ne_nil _ _
  · exact (reads_decimal _).ne_nil

end Numerals

/-! ### Words -/

/-- The words of a text, which are separated by blanks. -/
def tokens : Str → List Str
  | [] => []
  | c :: s =>
    if isSpace c then tokens s
    else match s with
      | [] => [[c]]
      | d :: _ => if isSpace d then [c] :: tokens s else (tokens s).modifyHead (c :: ·)

section Words

variable {c : Char} {s w : Str}

theorem tokens_cons_space (hc : isSpace c = true) (s : Str) : tokens (c :: s) = tokens s := by
  rw [tokens.eq_def]
  simp [hc]

theorem tokens_cons_cons (hc : isSpace c = false) (d : Char) (s : Str) :
    tokens (c :: d :: s) =
      if isSpace d then [c] :: tokens (d :: s) else (tokens (d :: s)).modifyHead (c :: ·) := by
  rw [tokens.eq_def]
  simp [hc]

theorem tokens_ne_nil (hc : isSpace c = false) (s : Str) : tokens (c :: s) ≠ [] := by
  induction s generalizing c with
  | nil => simp [tokens, hc]
  | cons d s ih =>
    rw [tokens_cons_cons hc]
    by_cases hd : isSpace d = true
    · simp [hd]
    · have := ih (Bool.eq_false_iff.2 hd)
      simpa [hd] using this

/-- What is left is cut at a blank. -/
theorem tokens_append_cons (a : Str) (hc : isSpace c = true) (b : Str) :
    tokens (a ++ c :: b) = tokens a ++ tokens b := by
  induction a with
  | nil => exact tokens_cons_space hc b
  | cons x a ih =>
    by_cases hx : isSpace x = true
    · rw [List.cons_append, tokens_cons_space hx, tokens_cons_space hx, ih]
    · rcases a with _ | ⟨d, a⟩
      · simp [tokens, hx, hc]
      · have hx : isSpace x = false := Bool.eq_false_iff.2 hx
        rw [List.cons_append] at ih
        rw [List.cons_append, List.cons_append, tokens_cons_cons hx, tokens_cons_cons hx]
        by_cases hd : isSpace d = true
        · simp [hd, ih]
        · obtain ⟨t, ts, ht⟩ := List.exists_cons_of_ne_nil
            (tokens_ne_nil (Bool.eq_false_iff.2 hd) a)
          simp [hd, ih, ht]

/-- A word at the front. -/
theorem tokens_word (hne : w ≠ []) (hw : ∀ x ∈ w, isSpace x = false) : tokens w = [w] := by
  induction w with
  | nil => exact absurd rfl hne
  | cons x w ih =>
    have hx := hw x List.mem_cons_self
    rcases w with _ | ⟨d, w⟩
    · simp [tokens, hx]
    · have hd := hw d (by simp)
      have htail := ih (List.cons_ne_nil d w) fun y hy => hw y (List.mem_cons_of_mem x hy)
      rw [tokens_cons_cons hx, htail]
      simp [hd]

/-- The first word ends at the next blank. -/
theorem tokens_cons (hc : isSpace c = false) (s : Str) :
    tokens (c :: s) = ((c :: s).takeWhile fun x => !isSpace x) ::
      tokens ((c :: s).dropWhile fun x => !isSpace x) := by
  have hne : (c :: s).takeWhile (fun x => !isSpace x) ≠ [] := by simp [hc]
  have hword : ∀ x ∈ (c :: s).takeWhile (fun x => !isSpace x), isSpace x = false := fun x hx => by
    simpa using List.mem_takeWhile_imp hx
  have hsplit := List.takeWhile_append_dropWhile (p := fun x => !isSpace x) (l := c :: s)
  rcases hrest : (c :: s).dropWhile (fun x => !isSpace x) with _ | ⟨d, rest⟩
  · rw [hrest, List.append_nil] at hsplit
    rw [hsplit] at hne hword ⊢
    exact tokens_word hne hword
  · have hd : isSpace d = true := by
      have := List.head?_dropWhile_not (fun x => !isSpace x) (c :: s)
      rw [hrest] at this
      simpa using this
    conv_lhs => rw [← hsplit, hrest]
    rw [tokens_append_cons _ hd, tokens_word hne hword, tokens_cons_space hd]
    rfl

theorem ne_nil_of_mem_tokens {s t : Str} (ht : t ∈ tokens s) : t ≠ [] := by
  induction s generalizing t with
  | nil => cases ht
  | cons c s ih =>
    by_cases hc : isSpace c = true
    · exact ih (tokens_cons_space hc s ▸ ht)
    · rcases s with _ | ⟨d, s⟩
      · have ht : t = [c] := by simpa [tokens, hc] using ht
        exact ht ▸ List.cons_ne_nil c []
      · rw [tokens_cons_cons (Bool.eq_false_iff.2 hc)] at ht
        split_ifs at ht
        · rcases List.mem_cons.1 ht with rfl | ht
          · exact List.cons_ne_nil c []
          · exact ih ht
        · -- the first word got longer
          rcases hrest : tokens (d :: s) with _ | ⟨u, us⟩
          · simp [hrest] at ht
          · rw [hrest] at ht ih
            rcases List.mem_cons.1 ht with rfl | ht
            · exact List.cons_ne_nil c u
            · exact ih (List.mem_cons_of_mem u ht)

theorem extractString_space (hc : isSpace c = true) (v s : Str) :
    IStream.extractString v ⟨c :: s, false, false⟩ =
      IStream.extractString v ⟨s, false, false⟩ := by
  simp [IStream.extractString, IStream.sentry, hc]

theorem extractString_fail (v : Str) {is : IStream} (h : is.fail = true) :
    (is.extractString v).2.fail = true := by
  simp [IStream.extractString, IStream.sentry, h]

/-- Extraction fails where there is no word. -/
theorem extractString_nil (v : Str) (h : tokens s = []) :
    (IStream.extractString v ⟨s, s.isEmpty, false⟩).2.fail = true := by
  induction s with
  | nil => rfl
  | cons c s ih =>
    by_cases hc : isSpace c = true
    · have hrest := ih (tokens_cons_space hc s ▸ h)
      rw [List.isEmpty_cons, extractString_space hc]
      cases s with
      | nil => rfl
      | cons d s => exact hrest
    · exact absurd h (tokens_ne_nil (Bool.eq_false_iff.2 hc) s)

/-- Extraction yields the first word. -/
theorem extractString_cons (v : Str) {t : Str} {ts : List Str} (h : tokens s = t :: ts) :
    ∃ rest, IStream.extractString v ⟨s, s.isEmpty, false⟩ = (t, ⟨rest, rest.isEmpty, false⟩) ∧
      tokens rest = ts ∧ rest.length < s.length := by
  induction s with
  | nil => cases h
  | cons c s ih =>
    rw [List.isEmpty_cons]
    by_cases hc : isSpace c = true
    · have htail : tokens s = t :: ts := tokens_cons_space hc s ▸ h
      obtain ⟨rest, hex, htok, hlen⟩ := ih htail
      have hne : s.isEmpty = false := by
        cases s with
        | nil => cases htail
        | cons d s => rfl
      rw [hne] at hex
      exact ⟨rest, (extractString_space hc v s).trans hex, htok, hlen.trans (Nat.lt_succ_self _)⟩
    · have hc : isSpace c = false := Bool.eq_false_iff.2 hc
      rw [tokens_cons hc] at h
      obtain ⟨rfl, rfl⟩ := List.cons.inj h
      refine ⟨(c :: s).dropWhile fun x => !isSpace x, ?_, rfl, ?_⟩
      · simp [IStream.extractString, IStream.sentry, hc]
      · rw [List.dropWhile_cons_of_pos (by simp [hc])]
        exact Nat.lt_succ_of_le (List.length_dropWhile_le _ _)

end Words

end RcDiscover
