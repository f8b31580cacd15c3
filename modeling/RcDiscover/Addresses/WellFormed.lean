import RcDiscover.Addresses

/-!
# What is accepted as an address

A well-formed address consists of numerals with single separators in between.  `string2ip` accepts
more than that: `std::stoul` skips blanks, takes a sign and stops at the first character that is no
digit, and nothing looks at how far it came.

* `WellFormed`: the addresses that are meant, for any base and separator;
* `string2byte_eq_ok_iff`: splitting and parsing, taken apart into fields;
* `LenientNumber`, `stoul_eq_ok_iff`: the grammar of `std::stoul` in base 10.

`acceptsExactly_iff` (**main result**): a text is treated as it should be exactly when the lenient
grammar does not let a character pass that is neither a digit nor the separator.
-/

namespace RcDiscover

/-- `s` consists of a numeral for each of the bytes, with single separators in between. -/
def WellFormed (base : ℕ) (sep : Char) (s : Str) (bytes : List UInt8) : Prop :=
  ∃ fields, s = join sep fields ∧ List.Forall₂ (fun f b => Reads base f b.toNat) fields bytes

/-! ### Fields -/

section Fields

variable {sep c : Char} {s : Str} {fields : List Str}

/-- The characters of a joined text. -/
theorem mem_join (h : c ∈ join sep fields) : c = sep ∨ ∃ f ∈ fields, c ∈ f := by
  induction fields with
  | nil => simp [join] at h
  | cons f fields ih =>
    cases fields with
    | nil => exact .inr ⟨f, List.mem_cons_self, h⟩
    | cons g fields =>
      rw [join, List.mem_append, List.mem_cons] at h
      rcases h with h | h | h
      · exact .inr ⟨f, List.mem_cons_self, h⟩
      · exact .inl h
      · rcases ih h with h | ⟨x, hx, hc⟩
        · exact .inl h
        · exact .inr ⟨x, List.mem_cons_of_mem f hx, hc⟩

theorem mem_join_of_mem {f : Str} (hf : f ∈ fields) (hc : c ∈ f) : c ∈ join sep fields := by
  induction fields with
  | nil => cases hf
  | cons g fields ih =>
    cases fields with
    | nil => exact List.mem_singleton.1 hf ▸ hc
    | cons x fields =>
      rw [join, List.mem_append, List.mem_cons]
      rcases List.mem_cons.1 hf with rfl | hf
      · exact .inl hc
      · exact .inr (.inr (ih hf))

/-- One call of `getline`: the last field, or a field with its separator. -/
theorem of_getline {f : Str} {iss : IStringStream} (h : getline ⟨s, false⟩ sep = some (f, iss)) :
    sep ∉ f ∧ (s = f ∧ iss = ⟨[], true⟩ ∨ s = f ++ sep :: iss.rest ∧ iss.eof = false) := by
  have hsplit := List.takeWhile_append_dropWhile (p := (· ≠ sep)) (l := s)
  have hnot : sep ∉ s.takeWhile (· ≠ sep) := fun hmem => by
    simpa using List.mem_takeWhile_imp hmem
  by_cases hs : s = []
  · simp [getline, hs] at h
  rcases hdrop : s.dropWhile (· ≠ sep) with _ | ⟨x, rest⟩
  · rw [hdrop, List.append_nil] at hsplit
    simp only [getline, hs, hdrop, or_false, Bool.false_eq_true, if_false, Option.some.injEq,
      Prod.mk.injEq] at h
    obtain ⟨rfl, rfl⟩ := h
    exact ⟨hsplit ▸ hnot, .inl ⟨rfl, rfl⟩⟩
  · have hx : x = sep := by
      have := List.head?_dropWhile_not (· ≠ sep) s
      rw [hdrop] at this
      simpa using this
    rw [hdrop, hx] at hsplit
    simp only [getline, hs, hdrop, or_false, Bool.false_eq_true, if_false, Option.some.injEq,
      Prod.mk.injEq] at h
    obtain ⟨rfl, rfl⟩ := h
    exact ⟨hnot, .inr ⟨hsplit.symm, rfl⟩⟩

/-- What the counted loop of `split` has read, and what is left. -/
theorem of_splitLoop {n : ℕ} {iss : IStringStream}
    (h : splitLoop sep (n + 1) ⟨s, false⟩ = .ok (fields, iss)) :
    (∀ f ∈ fields, sep ∉ f) ∧ (s = join sep fields ∧ iss = ⟨[], true⟩ ∨
      s = join sep (fields ++ [iss.rest]) ∧ iss.eof = false) := by
  induction n generalizing s fields with
  | zero =>
    rw [splitLoop] at h
    rcases hget : getline ⟨s, false⟩ sep with _ | ⟨f, iss'⟩
    · simp [hget] at h
    · simp only [hget, splitLoop, bind, Except.bind, pure, Except.pure, Except.ok.injEq,
        Prod.mk.injEq] at h
      obtain ⟨rfl, rfl⟩ := h
      obtain ⟨hnot, hs⟩ := of_getline hget
      exact ⟨by simpa using hnot, hs⟩
  | succ n ih =>
    rw [splitLoop] at h
    rcases hget : getline ⟨s, false⟩ sep with _ | ⟨f, ⟨rest, eof⟩⟩
    · simp [hget] at h
    · simp only [hget] at h
      obtain ⟨hnot, ⟨-, hiss⟩ | ⟨hs, heof⟩⟩ := of_getline hget
      · -- the stream is at its end, and a further field is asked for
        obtain ⟨rfl, rfl⟩ := IStringStream.mk.inj hiss
        simp [splitLoop, getline, bind, Except.bind] at h
      · obtain rfl : eof = false := heof
        rcases hloop : splitLoop sep (n + 1) ⟨rest, false⟩ with e | ⟨fields', iss'⟩
        · simp [hloop, bind, Except.bind] at h
        · simp only [hloop, bind, Except.bind, pure, Except.pure, Except.ok.injEq,
            Prod.mk.injEq] at h
          obtain ⟨rfl, rfl⟩ := h
          obtain ⟨hall, hrest⟩ := ih hloop
          have hne : fields' ≠ [] := by
            rw [← List.length_pos_iff, length_of_splitLoop hloop]
            exact Nat.succ_pos n
          obtain ⟨g, gs, rfl⟩ := List.exists_cons_of_ne_nil hne
          refine ⟨List.forall_mem_cons.2 ⟨hnot, hall⟩, ?_⟩
          rw [List.cons_append] at hrest
          rw [hs, List.cons_append, join, List.cons_append, join]
          exact hrest.imp (fun hr => ⟨by rw [← hr.1], hr.2⟩) (fun hr => ⟨by rw [← hr.1], hr.2⟩)

variable (sep) in
theorem getLast?_join_append_nil (hne : fields ≠ []) :
    (join sep (fields ++ [[]])).getLast? = some sep := by
  induction fields with
  | nil => exact absurd rfl hne
  | cons f fields ih =>
    cases fields with
    | nil => simp [join]
    | cons g fields =>
      have hlast := ih (List.cons_ne_nil g fields)
      rw [List.cons_append] at hlast ⊢
      rw [List.cons_append, join, List.getLast?_append, List.getLast?_cons, hlast]
      rfl

/-- **A text that is split is its fields, joined.** -/
theorem of_split {n : ℕ} (h : split (n + 1) s sep = .ok fields) :
    fields.length = n + 1 ∧ s = join sep fields ∧ ∀ f ∈ fields, sep ∉ f := by
  refine ⟨length_of_split h, ?_⟩
  rw [split] at h
  split_ifs at h with hends
  rcases hloop : splitLoop sep (n + 1) ⟨s, false⟩ with e | ⟨result, ⟨rest, eof⟩⟩
  · simp [hloop, bind, Except.bind] at h
  · simp only [hloop, bind, Except.bind] at h
    split_ifs at h with hmore
    simp only [pure, Except.pure, Except.ok.injEq] at h
    subst h
    obtain ⟨hall, ⟨hs, -⟩ | ⟨hs, heof⟩⟩ := of_splitLoop hloop
    · exact ⟨hs, hall⟩
    · obtain rfl : eof = false := heof
      have hrest : rest = [] := by
        by_contra hne
        refine hmore ?_
        simp only [getline, hne, or_false, Bool.false_eq_true, if_false]
        split <;> rfl
      -- then the separator is the last character
      subst hrest
      have hne : result ≠ [] := by
        rw [← List.length_pos_iff, length_of_splitLoop hloop]
        exact Nat.succ_pos n
      have hlast := getLast?_join_append_nil sep hne
      rw [← hs] at hlast
      refine absurd ⟨?_, .inr hlast⟩ hends
      rintro rfl
      cases hlast

end Fields

/-! ### Bytes -/

section Bytes

variable {base : ℕ} {sep : Char} {s : Str}

theorem mapM_eq_ok_iff {α β ε : Type} {f : α → Except ε β} {l : List α} {r : List β} :
    l.mapM f = .ok r ↔ List.Forall₂ (fun a b => f a = .ok b) l r := by
  induction l generalizing r with
  | nil => simp [pure, Except.pure, eq_comm]
  | cons a l ih =>
    rw [List.mapM_cons, List.forall₂_cons_left_iff]
    rcases ha : f a with e | b
    · simp [bind, Except.bind]
    rcases hl : l.mapM f with e | t
    · simp only [bind, Except.bind, reduceCtorEq, false_iff, not_exists, not_and]
      rintro b' t' - hall
      rw [← ih, hl] at hall
      cases hall
    · have hall := ih.1 hl
      simp only [bind, Except.bind, pure, Except.pure, Except.ok.injEq]
      constructor
      · rintro rfl
        exact ⟨b, t, rfl, hall, rfl⟩
      · rintro ⟨b', t', rfl, hall', rfl⟩
        rw [← ih, hl, Except.ok.injEq] at hall'
        rw [hall']

theorem fieldToByte_eq_ok_iff {b : UInt8} :
    fieldToByte base s = .ok b ↔ stoul s base = .ok b.toNat := by
  rw [fieldToByte]
  rcases stoul s base with e | v
  · simp [bind, Except.bind]
  · have hb := b.toNat_lt
    simp only [bind, Except.bind, Except.ok.injEq]
    split_ifs with hv
    · simp only [false_iff]
      omega
    · simp only [pure, Except.pure, Except.ok.injEq]
      constructor
      · rintro rfl
        rw [UInt8.toNat_ofNat']
        omega
      · rintro rfl
        exact UInt8.ofNat_toNat

theorem ne_nil_of_stoul {v : ℕ} (h : stoul s base = .ok v) : s ≠ [] := by
  rintro rfl
  simp [stoul, skipHexPrefix, leadingDigits] at h

/-- **Splitting and parsing**, in terms of the fields of the text. -/
theorem string2byte_eq_ok_iff {n : ℕ} {bytes : List UInt8} :
    string2byte (n + 1) s base sep = .ok bytes ↔
      bytes.length = n + 1 ∧ ∃ fields, s = join sep fields ∧ (∀ f ∈ fields, sep ∉ f) ∧
        List.Forall₂ (fun f b => stoul f base = .ok b.toNat) fields bytes := by
  constructor
  · intro h
    refine ⟨length_of_string2byte h, ?_⟩
    rcases hsplit : split (n + 1) s sep with e | fields
    · simp [string2byte, hsplit, bind, Except.bind] at h
    · simp only [string2byte, hsplit, bind, Except.bind, mapM_eq_ok_iff,
        fieldToByte_eq_ok_iff] at h
      obtain ⟨-, hs, hall⟩ := of_split hsplit
      exact ⟨fields, hs, hall, h⟩
  · rintro ⟨hlen, fields, rfl, hall, hbytes⟩
    have hfields := hbytes.length_eq
    cases fields with
    | nil => simp [← hfields] at hlen
    | cons f fields =>
      have hne : ∀ g ∈ f :: fields, g ≠ [] ∧ sep ∉ g := by
        intro g hg
        obtain ⟨i, hi, rfl⟩ := List.mem_iff_getElem.1 hg
        exact ⟨ne_nil_of_stoul (hbytes.get hi (hfields ▸ hi)), hall _ hg⟩
      have hsplit := split_join hne
      rw [hfields, hlen] at hsplit
      simp only [string2byte, hsplit, bind, Except.bind, mapM_eq_ok_iff, fieldToByte_eq_ok_iff]
      exact hbytes

end Bytes

/-! ### The grammar of `std::stoul` -/

/-- The sign of a number. -/
inductive Sign
  | none
  | plus
  | minus
  deriving DecidableEq, Repr

/-- How the sign is written. -/
def Sign.text : Sign → Str
  | none => []
  | plus => ['+']
  | minus => ['-']

/-- The value of an unsigned number of the given width with this sign. -/
def Sign.apply (bits : ℕ) : Sign → ℕ → ℕ
  | minus, n => (2 ^ bits - n) % 2 ^ bits
  | _, n => n

/-- `std::stoul` reads the value `v` in `s`: blanks, a sign, and decimal digits, whatever comes
behind. -/
def LenientNumber (s : Str) (v : ℕ) : Prop :=
  ∃ (blanks : Str) (sign : Sign) (numeral rest : Str) (n : ℕ),
    s = blanks ++ (sign.text ++ (numeral ++ rest)) ∧ (∀ c ∈ blanks, isSpace c = true) ∧
      Reads 10 numeral n ∧ n < 2 ^ 64 ∧ (∀ c, rest.head? = some c → digitValue 10 c = none) ∧
      v = sign.apply 64 n

/-- The fields that `string2ip` accepts. -/
def LenientAddress (s : Str) (bytes : List UInt8) : Prop :=
  ∃ fields, s = join '.' fields ∧ (∀ f ∈ fields, '.' ∉ f) ∧
    List.Forall₂ (fun f b => LenientNumber f b.toNat) fields bytes

section Stoul

theorem skipHexPrefix_ten (s : Str) : skipHexPrefix 10 s = s := by
  rw [skipHexPrefix.eq_def]
  split
  · exact if_neg (by simp)
  · rfl

/-- The digits at the front of a text are a numeral. -/
theorem exists_reads {base : ℕ} {s : Str} (h : leadingDigits base s ≠ []) :
    ∃ numeral rest, s = numeral ++ rest ∧
      Reads base numeral ((leadingDigits base s).foldl (fun v d => v * base + d) 0) ∧
      ∀ c, rest.head? = some c → digitValue base c = none := by
  refine ⟨s.takeWhile fun c => (digitValue base c).isSome,
    s.dropWhile fun c => (digitValue base c).isSome, List.takeWhile_append_dropWhile.symm,
    ⟨?_, fun c hc => ?_, rfl⟩, fun c hc => ?_⟩
  · intro hnil
    exact h (by rw [leadingDigits, hnil, List.filterMap_nil])
  · simpa using List.mem_takeWhile_imp hc
  · have hnot := List.head?_dropWhile_not (fun c => (digitValue base c).isSome) s
    rw [hc] at hnot
    simpa using hnot

/-- What comes after the blanks does not start with one. -/
theorem exists_blanks (s : Str) :
    ∃ blanks, s = blanks ++ s.dropWhile isSpace ∧ ∀ c ∈ blanks, isSpace c = true :=
  ⟨s.takeWhile isSpace, List.takeWhile_append_dropWhile.symm, fun _ hc => List.mem_takeWhile_imp hc⟩

/-- A sign, as `std::stoul` takes it off. -/
theorem exists_sign (t : Str) :
    ∃ sign : Sign,
      t = sign.text ++ (if t.head? = some '-' ∨ t.head? = some '+' then t.tail else t) ∧
        (sign = .minus ↔ t.head? = some '-') := by
  by_cases hminus : t.head? = some '-'
  · obtain ⟨u, rfl⟩ := List.head?_eq_some_iff.1 hminus
    exact ⟨.minus, by simp [Sign.text], by simp⟩
  by_cases hplus : t.head? = some '+'
  · obtain ⟨u, rfl⟩ := List.head?_eq_some_iff.1 hplus
    exact ⟨.plus, by simp [Sign.text], by simp⟩
  · exact ⟨.none, by simp [hminus, hplus, Sign.text], by simp [hminus]⟩

variable {s : Str} {v : ℕ}

theorem lenientNumber_of_stoul (h : stoul s 10 = .ok v) : LenientNumber s v := by
  obtain ⟨blanks, hs, hblanks⟩ := exists_blanks s
  obtain ⟨sign, ht, hminus⟩ := exists_sign (s.dropWhile isSpace)
  simp only [stoul, skipHexPrefix_ten] at h
  generalize (if (s.dropWhile isSpace).head? = some '-' ∨ (s.dropWhile isSpace).head? = some '+'
    then (s.dropWhile isSpace).tail else s.dropWhile isSpace) = u at h ht
  simp only [← hminus] at h
  by_cases hdigits : leadingDigits 10 u = []
  · rw [if_pos hdigits] at h
    cases h
  rw [if_neg hdigits] at h
  obtain ⟨numeral, rest, hu, hreads, hrest⟩ := exists_reads hdigits
  generalize (leadingDigits 10 u).foldl (fun v d => v * 10 + d) 0 = n at h hreads
  by_cases hlarge : 2 ^ 64 ≤ n
  · rw [if_pos hlarge] at h
    cases h
  rw [if_neg hlarge] at h
  refine ⟨blanks, sign, numeral, rest, n, ?_, hblanks, hreads, not_le.1 hlarge, hrest, ?_⟩
  · rw [← hu, ← ht]
    exact hs
  · cases sign <;> exact (Except.ok.inj h).symm

theorem LenientNumber.stoul_eq (h : LenientNumber s v) : stoul s 10 = .ok v := by
  obtain ⟨blanks, sign, numeral, rest, n, rfl, hblanks, hreads, hn, hrest, rfl⟩ := h
  have hspace : (blanks ++ (sign.text ++ (numeral ++ rest))).dropWhile isSpace =
      sign.text ++ (numeral ++ rest) := by
    rw [List.dropWhile_append_of_pos hblanks]
    cases sign
    · exact hreads.dropWhile_isSpace rest
    · exact List.dropWhile_cons_of_neg (by decide)
    · exact List.dropWhile_cons_of_neg (by decide)
  have hhead : ∀ c, digitValue 10 c = none → (numeral ++ rest).head? ≠ some c := by
    intro c hc
    rw [List.head?_append_of_ne_nil numeral hreads.ne_nil]
    exact hreads.head_ne hc
  have hdigits := hreads.leadingDigits hrest
  have hvalue := hreads.value
  have hne := hreads.filterMap_ne_nil
  simp only [stoul, hspace, skipHexPrefix_ten]
  cases sign with
  | none =>
    have hminus := hhead '-' (by decide)
    have hplus := hhead '+' (by decide)
    simp only [Sign.text, List.nil_append, hminus, hplus, or_self, if_false, hdigits, hne, hvalue,
      not_le.2 hn, Sign.apply]
  | plus =>
    have hsign : (Sign.plus.text ++ (numeral ++ rest)).head? = some '+' := rfl
    have htail : (Sign.plus.text ++ (numeral ++ rest)).tail = numeral ++ rest := rfl
    have hminus : ¬ some '+' = some '-' := by decide
    simp only [hsign, htail, hminus, or_true, if_true, if_false, hdigits, hne, hvalue,
      not_le.2 hn, Sign.apply]
  | minus =>
    have hsign : (Sign.minus.text ++ (numeral ++ rest)).head? = some '-' := rfl
    have htail : (Sign.minus.text ++ (numeral ++ rest)).tail = numeral ++ rest := rfl
    simp only [hsign, htail, true_or, if_true, if_false, hdigits, hne, hvalue, not_le.2 hn,
      Sign.apply]

/-- **`std::stoul` reads exactly the lenient numbers.** -/
theorem stoul_eq_ok_iff : stoul s 10 = .ok v ↔ LenientNumber s v :=
  ⟨lenientNumber_of_stoul, LenientNumber.stoul_eq⟩

/-- A lenient number of digits only is a numeral. -/
theorem LenientNumber.reads (h : LenientNumber s v)
    (hdigits : ∀ c ∈ s, (digitValue 10 c).isSome) : Reads 10 s v := by
  obtain ⟨blanks, sign, numeral, rest, n, rfl, hblanks, hreads, -, hrest, rfl⟩ := h
  have hblanks_nil : blanks = [] := by
    refine List.eq_nil_iff_forall_not_mem.2 fun c hc => ?_
    have := isSpace_eq_false_of_digit (hdigits c (List.mem_append_left _ hc))
    rw [hblanks c hc] at this
    cases this
  have hrest_nil : rest = [] := by
    refine List.head?_eq_none_iff.1 (Option.eq_none_iff_forall_ne_some.2 fun c hc => ?_)
    have := hdigits c (by simp [List.mem_of_mem_head? hc])
    rw [hrest c hc] at this
    cases this
  have hsign : sign = .none := by
    cases sign
    · rfl
    · exact absurd (hdigits '+' (by simp [Sign.text])) (by decide)
    · exact absurd (hdigits '-' (by simp [Sign.text])) (by decide)
  subst hblanks_nil hrest_nil hsign
  simpa [Sign.text, Sign.apply] using hreads

end Stoul

/-! ### Exact acceptance -/

/-- `string2ip` accepts `s` with the bytes of a dotted quad, and throws when `s` is none. -/
def AcceptsExactly (s : Str) : Prop :=
  (∀ bytes, string2ip s = .ok bytes ↔ bytes.length = 4 ∧ WellFormed 10 '.' s bytes) ∧
    ((∀ bytes, bytes.length = 4 → ¬ WellFormed 10 '.' s bytes) → ∃ e, string2ip s = .error e)

theorem string2ip_eq_ok_iff {s : Str} {bytes : List UInt8} :
    string2ip s = .ok bytes ↔ bytes.length = 4 ∧ LenientAddress s bytes := by
  simp only [string2ip, string2byte_eq_ok_iff, stoul_eq_ok_iff, LenientAddress]

/-- A numeral of a byte is a lenient number. -/
theorem Reads.lenientNumber {f : Str} {b : UInt8} (h : Reads 10 f b.toNat) :
    LenientNumber f b.toNat :=
  stoul_eq_ok_iff.1 (h.stoul (by decide) (by have := b.toNat_lt; omega))

theorem WellFormed.lenientAddress {s : Str} {bytes : List UInt8} (h : WellFormed 10 '.' s bytes) :
    LenientAddress s bytes := by
  obtain ⟨fields, rfl, hfields⟩ := h
  refine ⟨fields, rfl, fun f hf => ?_, hfields.imp fun f b hfb => hfb.lenientNumber⟩
  obtain ⟨i, hi, rfl⟩ := List.mem_iff_getElem.1 hf
  exact (hfields.get hi (hfields.length_eq ▸ hi)).not_mem (by decide)

theorem WellFormed.mem {base : ℕ} {sep c : Char} {s : Str} {bytes : List UInt8}
    (h : WellFormed base sep s bytes) (hc : c ∈ s) : c = sep ∨ (digitValue base c).isSome := by
  obtain ⟨fields, rfl, hfields⟩ := h
  refine (mem_join hc).imp_right ?_
  rintro ⟨f, hf, hcf⟩
  obtain ⟨i, hi, rfl⟩ := List.mem_iff_getElem.1 hf
  exact (hfields.get hi (hfields.length_eq ▸ hi)).digits c hcf

theorem LenientAddress.wellFormed {s : Str} {bytes : List UInt8} (h : LenientAddress s bytes)
    (hs : ∀ c ∈ s, c = '.' ∨ (digitValue 10 c).isSome) : WellFormed 10 '.' s bytes := by
  obtain ⟨fields, rfl, hsep, hfields⟩ := h
  refine ⟨fields, rfl, List.forall₂_iff_get.2 ⟨hfields.length_eq, fun i hi hi' => ?_⟩⟩
  refine (hfields.get hi hi').reads fun c hc => ?_
  have hf := List.getElem_mem hi
  exact (hs c (mem_join_of_mem hf hc)).resolve_left fun he => hsep _ hf (he ▸ hc)

/-- **`string2ip` is exact on a text exactly when** it accepts it in spite of no foreign character:
when all characters of a text with lenient fields are digits and separators. -/
theorem acceptsExactly_iff (s : Str) :
    AcceptsExactly s ↔ ((∃ bytes, bytes.length = 4 ∧ LenientAddress s bytes) →
      ∀ c ∈ s, c = '.' ∨ (digitValue 10 c).isSome) := by
  constructor
  · rintro ⟨h, -⟩ ⟨bytes, hbytes⟩ c hc
    exact ((h bytes).1 (string2ip_eq_ok_iff.2 hbytes)).2.mem hc
  · intro h
    have hiff : ∀ bytes,
        string2ip s = .ok bytes ↔ bytes.length = 4 ∧ WellFormed 10 '.' s bytes := by
      intro bytes
      rw [string2ip_eq_ok_iff]
      constructor
      · rintro ⟨hlen, haddr⟩
        exact ⟨hlen, haddr.wellFormed (h ⟨bytes, hlen, haddr⟩)⟩
      · rintro ⟨hlen, hwf⟩
        exact ⟨hlen, hwf.lenientAddress⟩
    refine ⟨hiff, fun hnone => ?_⟩
    rcases hres : string2ip s with e | bytes
    · exact ⟨e, rfl⟩
    · obtain ⟨hlen, hwf⟩ := (hiff bytes).1 hres
      exact absurd hwf (hnone bytes hlen)

/-- A text behind the last number is passed over. -/
theorem not_acceptsExactly_trailing : ¬ AcceptsExactly "10.0.2.3abc".toList := by
  rintro ⟨h, -⟩
  have hwf := ((h [10, 0, 2, 3]).1 (by decide)).2
  exact absurd (hwf.mem (c := 'b') (by decide)) (by decide)

end RcDiscover
