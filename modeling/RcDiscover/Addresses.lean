import RcDiscover.Streams
import RcDiscover.Utils
import Mathlib.Data.List.TakeWhile

/-!
# Addresses on the command line

An address is printed as its bytes, most significant first, with separators in between; `join` is
that text for any way to print a byte.

* `string2byte_join`: splitting and parsing recovers the bytes;
* `toNat_byteArrayToInt`: assembling them recovers the number;
* `string2ip_ip2string`, `string2mac_mac2string`: both together.
-/

namespace RcDiscover

open BigEndian

/-! ### Texts with separators -/

/-- The fields with a separator between any two of them. -/
def join (sep : Char) : List Str → Str
  | [] => []
  | [f] => f
  | f :: g :: fields => f ++ sep :: join sep (g :: fields)

section Split

variable {sep : Char} {f : Str} {fields : List Str}

theorem getline_last (hne : f ≠ []) (hsep : sep ∉ f) :
    getline ⟨f, false⟩ sep = some (f, ⟨[], true⟩) := by
  have hdrop : f.dropWhile (· ≠ sep) = [] := by
    rw [List.dropWhile_eq_nil_iff]
    intro c hc
    simpa using fun h : c = sep => hsep (h ▸ hc)
  simp only [getline, hne, hdrop]
  simp

theorem getline_field (hsep : sep ∉ f) (rest : Str) :
    getline ⟨f ++ sep :: rest, false⟩ sep = some (f, ⟨rest, false⟩) := by
  have hall : ∀ c ∈ f, decide (c ≠ sep) = true := by
    intro c hc
    simpa using fun h : c = sep => hsep (h ▸ hc)
  have hdrop : (f ++ sep :: rest).dropWhile (· ≠ sep) = sep :: rest := by
    rw [List.dropWhile_append_of_pos hall, List.dropWhile_cons_of_neg (by simp)]
  have htake : (f ++ sep :: rest).takeWhile (· ≠ sep) = f := by
    rw [List.takeWhile_append_of_pos hall, List.takeWhile_cons_of_neg (by simp), List.append_nil]
  simp only [getline, hdrop, htake]
  simp

theorem splitLoop_join (hfields : ∀ g ∈ f :: fields, g ≠ [] ∧ sep ∉ g) :
    splitLoop sep (f :: fields).length ⟨join sep (f :: fields), false⟩ =
      .ok (f :: fields, ⟨[], true⟩) := by
  induction fields generalizing f with
  | nil =>
    obtain ⟨hne, hsep⟩ := hfields f List.mem_cons_self
    simp only [List.length_singleton, splitLoop, join, getline_last hne hsep]
    rfl
  | cons g fields ih =>
    obtain ⟨-, hsep⟩ := hfields f List.mem_cons_self
    have hrest := ih fun x hx => hfields x (List.mem_cons_of_mem f hx)
    rw [List.length_cons, splitLoop, join, getline_field hsep]
    simp only [hrest]
    rfl

theorem head?_join (hne : f ≠ []) : (join sep (f :: fields)).head? = f.head? := by
  cases fields with
  | nil => rfl
  | cons g fields => rw [join, List.head?_append_of_ne_nil f hne]

theorem getLast?_join (hfields : ∀ g ∈ f :: fields, g ≠ []) :
    ∃ g ∈ f :: fields, (join sep (f :: fields)).getLast? = g.getLast? := by
  induction fields generalizing f with
  | nil => exact ⟨f, List.mem_cons_self, rfl⟩
  | cons g fields ih =>
    obtain ⟨x, hx, hlast⟩ := ih fun y hy => hfields y (List.mem_cons_of_mem f hy)
    refine ⟨x, List.mem_cons_of_mem f hx, ?_⟩
    have hne : (join sep (g :: fields)).getLast? ≠ none := by
      rw [hlast, ne_eq, List.getLast?_eq_none_iff]
      exact hfields x (List.mem_cons_of_mem f hx)
    rw [join, List.getLast?_append, List.getLast?_cons, ← hlast]
    rcases hj : (join sep (g :: fields)).getLast? with _ | c
    · exact absurd hj hne
    · rfl

/-- **Splitting recovers the fields.** -/
theorem split_join (hfields : ∀ g ∈ f :: fields, g ≠ [] ∧ sep ∉ g) :
    split (f :: fields).length (join sep (f :: fields)) sep = .ok (f :: fields) := by
  obtain ⟨hne, hsep⟩ := hfields f List.mem_cons_self
  have hhead : (join sep (f :: fields)).head? ≠ some sep := by
    rw [head?_join hne]
    exact fun h => hsep (List.mem_of_mem_head? h)
  have hlast : (join sep (f :: fields)).getLast? ≠ some sep := by
    obtain ⟨g, hg, hlast⟩ := @getLast?_join sep f fields fun x hx => (hfields x hx).1
    rw [hlast]
    exact fun h => (hfields g hg).2 (List.mem_of_getLast? h)
  rw [split, if_neg (by simp [hhead, hlast]), splitLoop_join hfields]
  simp [bind, Except.bind, getline, pure, Except.pure]

end Split

/-! ### Parsing what was printed -/

section Parse

variable {base : ℕ} {sep : Char} {shown : UInt8 → Str}

theorem fieldToByte_shown (hb : base ≤ 16) {b : UInt8} (h : Reads base (shown b) b.toNat) :
    fieldToByte base (shown b) = .ok b := by
  have hlt := b.toNat_lt
  rw [fieldToByte, h.stoul hb (by omega)]
  simp [bind, Except.bind, pure, Except.pure, show ¬ 255 < b.toNat by omega]

theorem mapM_fieldToByte_shown (hb : base ≤ 16) (h : ∀ b, Reads base (shown b) b.toNat)
    (bs : List UInt8) : (bs.map shown).mapM (fieldToByte base) = .ok bs := by
  induction bs with
  | nil => rfl
  | cons b bs ih =>
    rw [List.map_cons, List.mapM_cons, fieldToByte_shown hb (h b), ih]
    rfl

/-- **Parsing recovers the bytes.** -/
theorem string2byte_join (hb : base ≤ 16) (hsep : digitValue base sep = none)
    (h : ∀ b, Reads base (shown b) b.toNat) (b : UInt8) (bs : List UInt8) :
    string2byte (b :: bs).length (join sep ((b :: bs).map shown)) base sep = .ok (b :: bs) := by
  have hfields : ∀ g ∈ (b :: bs).map shown, g ≠ [] ∧ sep ∉ g := by
    intro g hg
    obtain ⟨x, -, rfl⟩ := List.mem_map.1 hg
    exact ⟨(h x).ne_nil, (h x).not_mem hsep⟩
  have hsplit : split (b :: bs).length (join sep ((b :: bs).map shown)) sep =
      .ok ((b :: bs).map shown) := by
    have := split_join hfields
    rwa [← List.map_cons, List.length_map] at this
  rw [string2byte, hsplit]
  exact mapM_fieldToByte_shown hb h (b :: bs)

end Parse

/-! ### Assembling the number -/

/-- One more byte in a word whose lower bytes are still 0. -/
theorem or_shiftLeft_byte {m k : ℕ} (b : UInt8) :
    m * 256 ^ (k + 1) ||| b.toNat <<< (k * 8) = (m * 256 + b.toNat) * 256 ^ k := by
  have hpow : (256 : ℕ) ^ k = 2 ^ (k * 8) := by
    rw [show (256 : ℕ) = 2 ^ 8 from rfl, ← pow_mul, Nat.mul_comm]
  have hb : b.toNat <<< (k * 8) < 2 ^ ((k + 1) * 8) := by
    rw [Nat.shiftLeft_eq, Nat.add_mul, one_mul, Nat.pow_add, Nat.mul_comm]
    exact Nat.mul_lt_mul_of_pos_left b.toNat_lt (Nat.two_pow_pos _)
  have hm : m * 256 ^ (k + 1) = m <<< ((k + 1) * 8) := by
    rw [Nat.shiftLeft_eq, pow_succ, hpow, Nat.add_mul, one_mul, Nat.pow_add]
  rw [hm, ← Nat.shiftLeft_add_eq_or_of_lt hb, Nat.shiftLeft_eq, Nat.shiftLeft_eq, hpow, Nat.add_mul,
    one_mul, Nat.pow_add]
  ring

/-- The loop of `byteArrayToInt` from the byte at position `i` on. -/
theorem toNat_foldl_byteArrayToInt {w n : ℕ} (hw : n * 8 ≤ w) (bs : List UInt8) (i m : ℕ)
    (acc : BitVec w) (hi : i + bs.length = n) (hm : m < 256 ^ i)
    (hacc : acc.toNat = m * 256 ^ bs.length) :
    ((bs.zipIdx i).foldl (fun (result : BitVec w) b =>
      result ||| (b.1.toBitVec.setWidth _).shiftLeft ((n - 1 - b.2) * 8)) acc).toNat =
      m * 256 ^ bs.length + value bs := by
  induction bs generalizing i m acc with
  | nil => simpa using hacc
  | cons b bs ih =>
    rw [List.length_cons] at hi hacc
    have hk : n - 1 - i = bs.length := by omega
    have hpow : (256 : ℕ) ^ bs.length = 2 ^ (bs.length * 8) := by
      rw [show (256 : ℕ) = 2 ^ 8 from rfl, ← pow_mul, Nat.mul_comm]
    have hb := b.toNat_lt
    have hw8 : 2 ^ 8 ≤ 2 ^ w := Nat.pow_le_pow_right (by decide) (by omega)
    have hshift : b.toNat <<< (bs.length * 8) < 2 ^ w := by
      rw [Nat.shiftLeft_eq]
      calc b.toNat * 2 ^ (bs.length * 8) < 2 ^ 8 * 2 ^ (bs.length * 8) :=
            Nat.mul_lt_mul_of_pos_right hb (Nat.two_pow_pos _)
        _ = 2 ^ (8 + bs.length * 8) := (Nat.pow_add 2 8 _).symm
        _ ≤ 2 ^ w := Nat.pow_le_pow_right (by decide) (by omega)
    have hword : (acc ||| (b.toBitVec.setWidth w).shiftLeft ((n - 1 - i) * 8)).toNat =
        (m * 256 + b.toNat) * 256 ^ bs.length := by
      rw [hk, BitVec.toNat_or, hacc, BitVec.shiftLeft_eq, BitVec.toNat_shiftLeft,
        BitVec.toNat_setWidth, UInt8.toNat_toBitVec, Nat.mod_eq_of_lt (a := b.toNat) (by omega),
        Nat.mod_eq_of_lt hshift, or_shiftLeft_byte]
    have hm' : m * 256 + b.toNat < 256 ^ (i + 1) := by
      rw [pow_succ]
      omega
    rw [List.zipIdx_cons, List.foldl_cons, ih (i + 1) (m * 256 + b.toNat) _ (by omega) hm' hword,
      value_cons, List.length_cons, pow_succ]
    ring

/-- **`byteArrayToInt` is the big-endian value.** -/
theorem toNat_byteArrayToInt {bs : List UInt8} (h : bs.length ≤ 8) :
    (byteArrayToInt bs).toNat = value bs := by
  have hw : bs.length * 8 ≤ minFittingType bs.length := by
    rw [minFittingType]
    split_ifs <;> omega
  have := toNat_foldl_byteArrayToInt hw bs 0 0 0 (by omega) (by simp) (by simp)
  rw [byteArrayToInt]
  simpa using this

/-! ### Both ways -/

theorem toNat_byte32 {x k : UInt32} : ((x >>> k) &&& 0xff).toNat =
    (UInt8.ofNat (x.toNat >>> (k.toNat % 32))).toNat := by
  rw [UInt32.toNat_and, UInt32.toNat_shiftRight, UInt8.toNat_ofNat']
  exact Nat.and_two_pow_sub_one_eq_mod _ 8

theorem toNat_byte64 {x k : UInt64} : ((x >>> k) &&& 0xff).toNat =
    (UInt8.ofNat (x.toNat >>> (k.toNat % 64))).toNat := by
  rw [UInt64.toNat_and, UInt64.toNat_shiftRight, UInt8.toNat_ofNat']
  exact Nat.and_two_pow_sub_one_eq_mod _ 8

theorem ip2string_eq_join (x : UInt32) :
    ip2string x = join '.' ((digits 4 x.toNat).map fun b => decimal b.toNat) := by
  have h0 : (x &&& 0xff).toNat = (UInt8.ofNat (x.toNat >>> 0)).toNat := by
    have := toNat_byte32 (x := x) (k := 0)
    simpa using this
  simp only [ip2string, toNat_byte32, h0, digits, List.map_cons, List.map_nil, join,
    List.append_assoc, List.cons_append]
  rfl

theorem mac2string_eq_join (m : UInt64) :
    mac2string m = join ':' ((digits 6 m.toNat).map fun b => setw2 (hex b.toNat)) := by
  have h0 : (m &&& 0xff).toNat = (UInt8.ofNat (m.toNat >>> 0)).toNat := by
    have := toNat_byte64 (x := m) (k := 0)
    simpa using this
  simp only [mac2string, toNat_byte64, h0, digits, List.map_cons, List.map_nil, join,
    List.append_assoc, List.cons_append]
  rfl

/-- **IP addresses survive printing and parsing.** -/
theorem string2ip_ip2string (x : UInt32) : string2ip (ip2string x) = .ok (digits 4 x.toNat) := by
  rw [ip2string_eq_join]
  exact string2byte_join (by decide) (by decide) (fun b => reads_decimal b.toNat) _ _

/-- **MAC addresses survive printing and parsing.** -/
theorem string2mac_mac2string (m : UInt64) :
    string2mac (mac2string m) = .ok (digits 6 m.toNat) := by
  rw [mac2string_eq_join]
  exact string2byte_join (by decide) (by decide) (fun b => reads_setw2_hex b.toNat) _ _

end RcDiscover
