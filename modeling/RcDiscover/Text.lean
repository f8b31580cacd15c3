import Mathlib.Tactic
import Mathlib.Data.List.Lex
import Mathlib.Data.Char

/-!
# Strings and the parts of the C++ library that read and print them

A `std::string` is the list of its bytes, a byte being written as the character with that
code.  The lexicographic order of `List Char` is then the order of `std::string::compare`.

* `decimal`, `hex`, `setw2`: formatted output of unsigned numbers;
* `tolower`;
* `IStringStream`, `getline`: `std::getline` on a `std::istringstream`;
* `stoul`: `std::stoul` with `unsigned long` of 64 bits.
-/

namespace RcDiscover

/-- A `std::string`. -/
abbrev Str := List Char

instance lawfulBEqStr : LawfulBEq Str := inferInstance

/-- The exceptions of the standard library that the code throws itself or lets pass. -/
inductive StdException
  | invalidArgument (what : Str)
  | outOfRange (what : Str)
  deriving DecidableEq, Repr

/-! ### Formatted output -/

/-- `out << n`. -/
def decimal (n : ℕ) : Str := Nat.toDigits 10 n

/-- `out << std::hex << n`. -/
def hex (n : ℕ) : Str := Nat.toDigits 16 n

/-- `std::setw(2)` with `std::setfill('0')` applied to the text `s`. -/
def setw2 (s : Str) : Str := List.replicate (2 - s.length) '0' ++ s

/-- `std::tolower` in the "C" locale. -/
def tolower (c : Char) : Char := c.toLower

/-! ### `std::getline` -/

/-- A `std::istringstream`: what is left to read, and whether the end was hit. -/
structure IStringStream where
  rest : Str
  eof : Bool
  deriving DecidableEq, Repr

/-- `std::getline(iss, field, sep)`: `none` when the stream is not good afterwards.  The
separator is consumed and not stored; a read that hits the end keeps its characters and
makes the next one fail. -/
def getline (iss : IStringStream) (sep : Char) : Option (Str × IStringStream) :=
  if iss.eof ∨ iss.rest = [] then none
  else match iss.rest.dropWhile (· ≠ sep) with
    | [] => some (iss.rest, ⟨[], true⟩)
    | _ :: rest => some (iss.rest.takeWhile (· ≠ sep), ⟨rest, false⟩)

/-! ### `std::stoul` -/

/-- `isspace` in the "C" locale. -/
def isSpace (c : Char) : Bool :=
  c = ' ' || c = '\t' || c = '\n' || c = '\x0b' || c = '\x0c' || c = '\r'

/-- The value of `c` as a digit in the given base. -/
def digitValue (base : ℕ) (c : Char) : Option ℕ :=
  let v :=
    if '0' ≤ c ∧ c ≤ '9' then some (c.toNat - '0'.toNat)
    else if 'a' ≤ c ∧ c ≤ 'z' then some (c.toNat - 'a'.toNat + 10)
    else if 'A' ≤ c ∧ c ≤ 'Z' then some (c.toNat - 'A'.toNat + 10)
    else none
  v.filter (· < base)

/-- The digits at the front of `s`. -/
def leadingDigits (base : ℕ) (s : Str) : List ℕ :=
  (s.takeWhile fun c => (digitValue base c).isSome).filterMap (digitValue base)

/-- The prefix `0x` that `strtoul` skips in base 16 when a digit follows it. -/
def skipHexPrefix (base : ℕ) : Str → Str
  | '0' :: x :: d :: s =>
      if base = 16 ∧ (x = 'x' ∨ x = 'X') ∧ (digitValue 16 d).isSome then d :: s
      else '0' :: x :: d :: s
  | s => s

/-- `std::stoul(s, nullptr, base)`: leading blanks and a sign are accepted, conversion stops
at the first character that is no digit, and a minus sign negates modulo `2 ^ 64`. -/
def stoul (s : Str) (base : ℕ) : Except StdException ℕ :=
  let t := s.dropWhile isSpace
  let negative := t.head? = some '-'
  let t := if t.head? = some '-' ∨ t.head? = some '+' then t.tail else t
  let digits := leadingDigits base (skipHexPrefix base t)
  let v := digits.foldl (fun v d => v * base + d) 0
  if digits = [] then .error (.invalidArgument "stoul".toList)
  else if 2 ^ 64 ≤ v then .error (.outOfRange "stoul".toList)
  else if negative then .ok ((2 ^ 64 - v) % 2 ^ 64)
  else .ok v

end RcDiscover
