import RcDiscover.Lib.BigEndian
import RcDiscover.Text
import Mathlib.Data.BitVec

/-!
# `rcdiscover/utils.h`

Printing and parsing of addresses, and the wildcard matcher of the command line filters.

`wildcardMatch` walks its subject with iterators that it may push past `end()`.  The model
keeps such an iterator as a `StrPos`: dereferencing `end()` itself yields the terminating
NUL of the `std::string`, dereferencing anything beyond it is undefined, and the result
`none` of `wildcardMatch` stands for a run that does so.
-/

namespace RcDiscover

/-! ### Printing -/

/-- `mac2string`. -/
def mac2string (mac : UInt64) : Str :=
  setw2 (hex ((mac >>> 40) &&& 0xff).toNat) ++ ':' :: setw2 (hex ((mac >>> 32) &&& 0xff).toNat) ++
    ':' :: setw2 (hex ((mac >>> 24) &&& 0xff).toNat) ++
    ':' :: setw2 (hex ((mac >>> 16) &&& 0xff).toNat) ++
    ':' :: setw2 (hex ((mac >>> 8) &&& 0xff).toNat) ++ ':' :: setw2 (hex (mac &&& 0xff).toNat)

/-- `ip2string`. -/
def ip2string (ip : UInt32) : Str :=
  decimal ((ip >>> 24) &&& 0xff).toNat ++ '.' :: decimal ((ip >>> 16) &&& 0xff).toNat ++
    '.' :: decimal ((ip >>> 8) &&& 0xff).toNat ++ '.' :: decimal (ip &&& 0xff).toNat

/-! ### Splitting and parsing -/

/-- The counted loop of `split`: `n` calls of `getline` that all have to succeed. -/
def splitLoop (sep : Char) : ℕ → IStringStream → Except StdException (List Str × IStringStream)
  | 0, iss => .ok ([], iss)
  | n + 1, iss =>
    match getline iss sep with
    | none => .error (.outOfRange "n".toList)
    | some (field, iss) => do
      let (fields, iss) ← splitLoop sep n iss
      return (field :: fields, iss)

/-- `split<n>`. -/
def split (n : ℕ) (s : Str) (sep : Char) : Except StdException (List Str) :=
  if s ≠ [] ∧ (s.head? = some sep ∨ s.getLast? = some sep) then
    .error (.invalidArgument "strings starts or ends with separator".toList)
  else do
    let (result, iss) ← splitLoop sep n ⟨s, false⟩
    if (getline iss sep).isSome then .error (.outOfRange "n".toList)
    else return result

/-- The body of the `std::transform` in `string2byte`. -/
def fieldToByte (base : ℕ) (s : Str) : Except StdException UInt8 := do
  let v ← stoul s base
  if v > 255 then .error (.outOfRange "number is larger than 255".toList)
  else return UInt8.ofNat v

/-- `string2byte<n>`. -/
def string2byte (n : ℕ) (s : Str) (base : ℕ) (sep : Char) : Except StdException (List UInt8) := do
  let splitted ← split n s sep
  splitted.mapM (fieldToByte base)

/-- `string2mac`. -/
def string2mac (mac : Str) : Except StdException (List UInt8) := string2byte 6 mac 16 ':'

/-- `string2ip`. -/
def string2ip (ip : Str) : Except StdException (List UInt8) := string2byte 4 ip 10 '.'

/-- `MinFittingType<N>`: the width of the smallest unsigned type with `n` bytes. -/
def minFittingType (n : ℕ) : ℕ :=
  if n ≤ 1 then 8 else if n ≤ 2 then 16 else if n ≤ 4 then 32 else 64

/-- `byteArrayToInt<N>`. -/
def byteArrayToInt (a : List UInt8) : BitVec (minFittingType a.length) :=
  a.zipIdx.foldl (fun (result : BitVec (minFittingType a.length)) b =>
    result ||| (b.1.toBitVec.setWidth _).shiftLeft ((a.length - 1 - b.2) * 8)) 0

/-- `byteArrayToInt<4>`, whose result is a `std::uint32_t`. -/
def byteArrayToIp (a : List UInt8) : UInt32 := ⟨(byteArrayToInt a).setWidth 32⟩

/-! ### The size of what is parsed -/

theorem length_of_splitLoop {sep : Char} {n : ℕ} {iss iss' : IStringStream} {fields : List Str}
    (h : splitLoop sep n iss = .ok (fields, iss')) : fields.length = n := by
  induction n generalizing iss iss' fields with
  | zero =>
    simp only [splitLoop, Except.ok.injEq, Prod.mk.injEq] at h
    simp [← h.1]
  | succ n ih =>
    rw [splitLoop] at h
    split at h
    · simp at h
    · next field iss₁ _ =>
      rcases hrest : splitLoop sep n iss₁ with e | ⟨rest, iss₂⟩
      · simp [hrest, bind, Except.bind] at h
      · simp only [hrest, bind, Except.bind, pure, Except.pure, Except.ok.injEq,
          Prod.mk.injEq] at h
        rw [← h.1, List.length_cons, ih hrest]

theorem length_of_split {n : ℕ} {s : Str} {sep : Char} {fields : List Str}
    (h : split n s sep = .ok fields) : fields.length = n := by
  rw [split] at h
  split_ifs at h
  rcases hloop : splitLoop sep n ⟨s, false⟩ with e | ⟨result, iss⟩
  · simp [hloop, bind, Except.bind] at h
  · simp only [hloop, bind, Except.bind] at h
    split_ifs at h
    simp only [pure, Except.pure, Except.ok.injEq] at h
    rw [← h, length_of_splitLoop hloop]

theorem length_of_mapM {α β ε : Type} {f : α → Except ε β} {l : List α} {r : List β}
    (h : l.mapM f = .ok r) : r.length = l.length := by
  induction l generalizing r with
  | nil => simp_all [pure, Except.pure]
  | cons a l ih =>
    rw [List.mapM_cons] at h
    rcases ha : f a with e | b
    · simp [ha, bind, Except.bind] at h
    rcases hl : l.mapM f with e | t
    · simp [ha, hl, bind, Except.bind] at h
    simp only [ha, hl, bind, Except.bind, pure, Except.pure, Except.ok.injEq] at h
    rw [← h, List.length_cons, List.length_cons, ih hl]

/-- A parsed array has as many bytes as its type says. -/
theorem length_of_string2byte {n base : ℕ} {s : Str} {sep : Char} {bytes : List UInt8}
    (h : string2byte n s base sep = .ok bytes) : bytes.length = n := by
  rcases hsplit : split n s sep with e | fields
  · simp [string2byte, hsplit, bind, Except.bind] at h
  · simp only [string2byte, hsplit, bind, Except.bind] at h
    rw [length_of_mapM h, length_of_split hsplit]

theorem byteArrayToIp_eq (a b c d : UInt8) :
    byteArrayToIp [a, b, c, d] =
      a.toUInt32 <<< 24 ||| b.toUInt32 <<< 16 ||| c.toUInt32 <<< 8 ||| d.toUInt32 := by
  have hzero : ∀ x y z w : BitVec 32, 0#32 ||| x ||| y ||| z ||| w = x ||| y ||| z ||| w := by
    simp
  rw [← UInt32.toBitVec_inj]
  change BitVec.setWidth 32 ((((0 ||| _) ||| _) ||| _) ||| _ : BitVec 32) = _
  simp only [BitVec.setWidth_eq, BitVec.shiftLeft_eq]
  refine (hzero _ _ _ _).trans ?_
  simp
  rfl

/-- The number that `byteArrayToInt` makes of a parsed address. -/
theorem toNat_byteArrayToIp {s : Str} {ip : List UInt8} (h : string2ip s = .ok ip) :
    (byteArrayToIp ip).toNat = BigEndian.value ip := by
  have hlen := length_of_string2byte h
  match ip, hlen with
  | [a, b, c, d], _ => rw [byteArrayToIp_eq, BigEndian.toNat_or_uint32]

/-! ### Wildcards -/

/-- An iterator into the subject of `wildcardMatch`: `within rest` has the characters `rest`
before `end()`, `beyond` has been moved past `end()`. -/
inductive StrPos
  | within (rest : Str)
  | beyond
  deriving DecidableEq, Repr

namespace StrPos

/-- The test `str_first == str_last`. -/
def atEnd : StrPos → Bool
  | within [] => true
  | _ => false

/-- `*str_first`: NUL at `end()`, undefined beyond it. -/
def deref : StrPos → Option Char
  | within [] => some '\x00'
  | within (c :: _) => some c
  | beyond => none

/-- `std::next(str_first)`. -/
def next : StrPos → StrPos
  | within (_ :: rest) => within rest
  | _ => beyond

/-- The number of characters before `end()`. -/
def remaining : StrPos → ℕ
  | within rest => rest.length
  | beyond => 0

@[simp] theorem atEnd_cons (c : Char) (rest : Str) : (within (c :: rest)).atEnd = false := rfl

@[simp] theorem atEnd_nil : (within []).atEnd = true := rfl

@[simp] theorem deref_cons (c : Char) (rest : Str) : (within (c :: rest)).deref = some c := rfl

@[simp] theorem next_cons (c : Char) (rest : Str) : (within (c :: rest)).next = within rest := rfl

theorem remaining_next_le (str : StrPos) : str.next.remaining ≤ str.remaining := by
  rcases str with (_ | _) | _ <;> simp [next, remaining]

theorem remaining_next_lt {str : StrPos} {x : Char} (hx : str.deref = some x)
    (hend : str.atEnd = false) : str.next.remaining < str.remaining := by
  rcases str with (_ | _) | _
  · simp [atEnd] at hend
  · simp [next, remaining]
  · simp [deref] at hx

end StrPos

set_option linter.unusedVariables false in
/-- `wildcardMatch`, with the pattern iterator as the pattern that is left.  `none` is a run
that reads its subject beyond the terminating NUL. -/
def wildcardMatch (str : StrPos) (p : Str) : Option Bool :=
  match p with
  | [] => some str.atEnd
  | c :: p' =>
    if hend : str.atEnd ∧ c = '*' then
      -- if there is no more character after * => match
      some p'.isEmpty
    else if c = '?' then wildcardMatch str.next p'
    else
      match hx : str.deref with
      | none => none
      | some x =>
        if tolower c = tolower x then wildcardMatch str.next p'
        else if hc : c = '*' then
          -- the right operand of || is evaluated only when the left one is false
          match wildcardMatch str.next (c :: p') with
          | none => none
          | some true => some true
          | some false => wildcardMatch str p'
        else some false
termination_by str.remaining + p.length
decreasing_by
  · have := str.remaining_next_le
    simp only [List.length_cons]
    omega
  · have := str.remaining_next_le
    simp only [List.length_cons]
    omega
  · have := StrPos.remaining_next_lt hx (by simpa [hc] using hend)
    simp only [List.length_cons]
    omega
  · simp

/-- A call of `wildcardMatch` on the full ranges of `s` and `p`. -/
def wildcardMatches (s p : Str) : Option Bool := wildcardMatch (.within s) p

/-- Every string matches itself, since equal characters are consumed before a `*` is looked at. -/
theorem wildcardMatches_self (s : Str) : wildcardMatches s s = some true := by
  unfold wildcardMatches
  induction s with
  | nil => simp [wildcardMatch]
  | cons c s ih => simp [wildcardMatch, ih]

end RcDiscover
