import RcDiscover.Lib.BigEndian
import RcDiscover.Socket
import Mathlib.Data.Prod.Lex

/-!
# `rcdiscover/deviceinfo.cc`

A `DeviceInfo` is what a DISCOVERY_ACK says about a device, with the interface on which it came.
`DeviceInfo.set` is written over an arbitrary monad with a `read` for `raw[i]`, so that the
same definition can be run for its result and for the bytes that it reads.

`DeviceInfo.decode` is the reference: fields are big-endian numbers at fixed offsets and strings
up to the first NUL, each present when the body is long enough.  `set_eq_decode` says that `set`
computes it, whatever lies behind the body.
-/

namespace RcDiscover

/-- `DeviceInfo`. -/
structure DeviceInfo where
  ifaceName : Str
  major : ℕ
  minor : ℕ
  mac : UInt64
  ip : UInt32
  subnet : UInt32
  gateway : UInt32
  manufacturerName : Str
  modelName : Str
  deviceVersion : Str
  manufacturerInfo : Str
  serialNumber : Str
  userName : Str
  deriving DecidableEq, Repr

namespace DeviceInfo

/-- `DeviceInfo::clear`. -/
def clear (d : DeviceInfo) : DeviceInfo where
  ifaceName := d.ifaceName
  major := 0
  minor := 0
  mac := 0
  ip := 0
  subnet := 0
  gateway := 0
  manufacturerName := []
  modelName := []
  deviceVersion := []
  manufacturerInfo := []
  serialNumber := []
  userName := []

/-- The constructor. -/
def ofIfaceName (ifaceName : Str) : DeviceInfo :=
  clear ⟨ifaceName, 0, 0, 0, 0, 0, 0, [], [], [], [], [], []⟩

/-- `DeviceInfo::isValid`. -/
def isValid (d : DeviceInfo) : Bool := d.mac ≠ 0

/-- What `operator<` compares: the MAC address, then the interface name. -/
def key (d : DeviceInfo) : ℕ ×ₗ Str := toLex (d.mac.toNat, d.ifaceName)

theorem key_eq_iff (d e : DeviceInfo) :
    d.key = e.key ↔ d.mac = e.mac ∧ d.ifaceName = e.ifaceName := by
  simp [key, UInt64.toNat_inj]

/-! ### Decoding -/

section Read

variable {m : Type → Type} [Monad m] (read : ℕ → m UInt8)

/-- `extract(raw + p, len)`.  The byte is read before the length is looked at. -/
def extract (p : ℕ) : ℕ → m Str
  | 0 => do
    let _ ← read p
    return []
  | len + 1 => do
    let c ← read p
    if c ≠ 0 then
      let rest ← extract (p + 1) len
      return Char.ofNat c.toNat :: rest
    else return []

/-- The loop `x = (x << 8) | raw[p + i]` with `n` steps over a 32-bit word. -/
def readUint32 (p : ℕ) : ℕ → UInt32 → m UInt32
  | 0, x => return x
  | n + 1, x => do
    let b ← read p
    readUint32 (p + 1) n (x <<< 8 ||| b.toUInt32)

/-- The loop `x = (x << 8) | raw[p + i]` with `n` steps over a 64-bit word. -/
def readUint64 (p : ℕ) : ℕ → UInt64 → m UInt64
  | 0, x => return x
  | n + 1, x => do
    let b ← read p
    readUint64 (p + 1) n (x <<< 8 ||| b.toUInt64)

/-- `(static_cast<int>(raw[p]) << 8) | raw[p + 1]`. -/
def readInt16 (p : ℕ) : m ℕ := do
  let hi ← read p
  let lo ← read (p + 1)
  return hi.toNat <<< 8 ||| lo.toNat

/-- `DeviceInfo::set`.  Every field is assigned after the object has been cleared, or keeps its
cleared value. -/
def set (d : DeviceInfo) (len : ℕ) : m DeviceInfo := do
  let major ← (if 4 ≤ len then readInt16 read 0 else pure d.clear.major)
  let minor ← (if 4 ≤ len then readInt16 read 2 else pure d.clear.minor)
  let mac ← (if 16 ≤ len then readUint64 read 10 6 0 else pure d.clear.mac)
  let ip ← (if 40 ≤ len then readUint32 read 36 4 0 else pure d.clear.ip)
  let subnet ← (if 56 ≤ len then readUint32 read 52 4 0 else pure d.clear.subnet)
  let gateway ← (if 72 ≤ len then readUint32 read 68 4 0 else pure d.clear.gateway)
  let manufacturerName ←
    (if 104 ≤ len then extract read 72 32 else pure d.clear.manufacturerName)
  let modelName ← (if 136 ≤ len then extract read 104 32 else pure d.clear.modelName)
  let deviceVersion ← (if 168 ≤ len then extract read 136 32 else pure d.clear.deviceVersion)
  let manufacturerInfo ←
    (if 216 ≤ len then extract read 168 48 else pure d.clear.manufacturerInfo)
  let serialNumber ← (if 232 ≤ len then extract read 216 16 else pure d.clear.serialNumber)
  let userName ← (if 248 ≤ len then extract read 232 16 else pure d.clear.userName)
  return {
    ifaceName := d.clear.ifaceName
    major, minor, mac, ip, subnet, gateway, manufacturerName, modelName, deviceVersion,
    manufacturerInfo, serialNumber, userName }

end Read

/-! ### The reference decoder -/

/-- The bytes of the field of `n` bytes at `offset`. -/
def slot (body : Bytes) (offset n : ℕ) : Bytes := (body.drop offset).take n

/-- A number, or 0 when the body ends before the field does. -/
def number (body : Bytes) (offset n : ℕ) : ℕ :=
  if offset + n ≤ body.length then BigEndian.value (slot body offset n) else 0

/-- A string up to the first NUL, or nothing when the body ends before the field does. -/
def text (body : Bytes) (offset n : ℕ) : Str :=
  if offset + n ≤ body.length then
    ((slot body offset n).takeWhile (· ≠ 0)).map fun c => Char.ofNat c.toNat
  else []

/-- What the body of a DISCOVERY_ACK received on the interface says. -/
def decode (ifaceName : Str) (body : Bytes) : DeviceInfo where
  ifaceName := ifaceName
  major := if 4 ≤ body.length then number body 0 2 else 0
  minor := if 4 ≤ body.length then number body 2 2 else 0
  mac := UInt64.ofNat (number body 10 6)
  ip := UInt32.ofNat (number body 36 4)
  subnet := UInt32.ofNat (number body 52 4)
  gateway := UInt32.ofNat (number body 68 4)
  manufacturerName := text body 72 32
  modelName := text body 104 32
  deviceVersion := text body 136 32
  manufacturerInfo := text body 168 48
  serialNumber := text body 216 16
  userName := text body 232 16

/-! ### `set` computes the reference -/

section SetEqDecode

variable {body : Bytes} {read : ℕ → Id UInt8}

theorem slot_succ {p n : ℕ} (h : p < body.length) :
    slot body p (n + 1) = body.getD p 0 :: slot body (p + 1) n := by
  rw [slot, slot, List.drop_eq_getElem_cons h, List.take_succ_cons]
  simp [List.getD_eq_getElem?_getD, h]

variable (hread : ∀ i < body.length, Id.run (read i) = body.getD i 0)

include hread

theorem readInt16_eq {p : ℕ} (h : p + 2 ≤ body.length) :
    Id.run (readInt16 read p) = number body p 2 := by
  have hrun : Id.run (readInt16 read p) =
      (Id.run (read p)).toNat <<< 8 ||| (Id.run (read (p + 1))).toNat := rfl
  rw [hrun, hread p (by omega), hread (p + 1) (by omega), BigEndian.shiftLeft_or_eq, number,
    if_pos h, slot_succ (by omega), slot_succ (by omega)]
  simp [slot, BigEndian.value]

theorem readUint64_eq {p n : ℕ} (h : p + n ≤ body.length) (x : UInt64) :
    Id.run (readUint64 read p n x) =
      (slot body p n).foldl (fun (x : UInt64) b => x <<< 8 ||| b.toUInt64) x := by
  induction n generalizing p x with
  | zero => simp [readUint64, slot]
  | succ n ih =>
    rw [slot_succ (by omega), List.foldl_cons, ← ih (by omega), ← hread p (by omega)]
    rfl

theorem readUint32_eq {p n : ℕ} (h : p + n ≤ body.length) (x : UInt32) :
    Id.run (readUint32 read p n x) =
      (slot body p n).foldl (fun (x : UInt32) b => x <<< 8 ||| b.toUInt32) x := by
  induction n generalizing p x with
  | zero => simp [readUint32, slot]
  | succ n ih =>
    rw [slot_succ (by omega), List.foldl_cons, ← ih (by omega), ← hread p (by omega)]
    rfl

theorem extract_eq {p n : ℕ} (h : p + n ≤ body.length) :
    Id.run (extract read p n) =
      ((slot body p n).takeWhile (· ≠ 0)).map fun c => Char.ofNat c.toNat := by
  induction n generalizing p with
  | zero => simp [extract, slot]
  | succ n ih =>
    obtain ⟨c, hc⟩ : ∃ c : UInt8, read p = pure c := ⟨Id.run (read p), rfl⟩
    have hb : body.getD p 0 = c := by rw [← hread p (by omega), hc, Id.run_pure]
    rw [slot_succ (by omega), hb, extract, hc, pure_bind, List.takeWhile_cons]
    by_cases h0 : c = 0
    · simp [h0]
    · simp [h0, ih (p := p + 1) (by omega)]

/-- A number that the body contains. -/
theorem toNat_readUint64 {p n : ℕ} (h : p + n ≤ body.length) :
    Id.run (readUint64 read p n 0) = UInt64.ofNat (number body p n) := by
  rw [readUint64_eq hread h, number, if_pos h, ← UInt64.toNat_inj, BigEndian.toNat_foldl_uint64,
    UInt64.toNat_ofNat']
  simp

theorem toNat_readUint32 {p n : ℕ} (h : p + n ≤ body.length) :
    Id.run (readUint32 read p n 0) = UInt32.ofNat (number body p n) := by
  rw [readUint32_eq hread h, number, if_pos h, ← UInt32.toNat_inj, BigEndian.toNat_foldl_uint32,
    UInt32.toNat_ofNat']
  simp

/-- **`set` computes the reference**, whatever the buffer holds behind the body. -/
theorem set_eq_decode (d : DeviceInfo) :
    Id.run (set read d body.length) = decode d.ifaceName body := by
  have hu64 : ∀ p n t : ℕ, p + n = t →
      Id.run (if t ≤ body.length then readUint64 read p n 0 else pure (0 : UInt64)) =
        UInt64.ofNat (number body p n) := by
    rintro p n t rfl
    by_cases h : p + n ≤ body.length
    · rw [if_pos h, toNat_readUint64 hread h]
    · simp [h, number]
  have hu32 : ∀ p n t : ℕ, p + n = t →
      Id.run (if t ≤ body.length then readUint32 read p n 0 else pure (0 : UInt32)) =
        UInt32.ofNat (number body p n) := by
    rintro p n t rfl
    by_cases h : p + n ≤ body.length
    · rw [if_pos h, toNat_readUint32 hread h]
    · simp [h, number]
  have htext : ∀ p n t : ℕ, p + n = t →
      Id.run (if t ≤ body.length then extract read p n else pure ([] : Str)) = text body p n := by
    rintro p n t rfl
    by_cases h : p + n ≤ body.length
    · rw [if_pos h, extract_eq hread h, text, if_pos h]
    · simp [h, text]
  have hint : ∀ {p : ℕ}, p ≤ 2 →
      Id.run (if 4 ≤ body.length then readInt16 read p else pure 0) =
        if 4 ≤ body.length then number body p 2 else 0 := by
    intro p hp
    by_cases h : 4 ≤ body.length
    · rw [if_pos h, if_pos h, readInt16_eq hread (by omega)]
    · rw [if_neg h, if_neg h, Id.run_pure]
  unfold set decode
  simp only [Id.run_bind, Id.run_pure, clear]
  rw [hint (by omega), hint (by omega), hu64 10 6 16 rfl, hu32 36 4 40 rfl, hu32 52 4 56 rfl,
    hu32 68 4 72 rfl, htext 72 32 104 rfl, htext 104 32 136 rfl, htext 136 32 168 rfl,
    htext 168 48 216 rfl, htext 216 16 232 rfl, htext 232 16 248 rfl]

end SetEqDecode

/-- A decoded record is valid when the body reaches beyond the MAC address and that is not zero. -/
theorem isValid_decode_iff (ifaceName : Str) (body : Bytes) :
    (decode ifaceName body).isValid = true ↔
      16 ≤ body.length ∧ ∃ b ∈ slot body 10 6, b ≠ 0 := by
  have hlt : number body 10 6 < 2 ^ 64 := by
    unfold number
    split_ifs with h
    · have hlen : (slot body 10 6).length = 6 := by simp [slot]; omega
      have := BigEndian.value_lt (slot body 10 6)
      rw [hlen] at this
      omega
    · norm_num
  have hzero : (decode ifaceName body).mac = 0 ↔ number body 10 6 = 0 := by
    rw [← UInt64.toNat_inj, decode, UInt64.toNat_ofNat', Nat.mod_eq_of_lt hlt]
    rfl
  rw [isValid, decide_eq_true_iff, ne_eq, hzero, number]
  by_cases h : 10 + 6 ≤ body.length
  · rw [if_pos h, BigEndian.value_eq_zero_iff]
    push Not
    exact ⟨fun hb => ⟨h, hb⟩, fun hb => hb.2⟩
  · rw [if_neg h]
    exact ⟨fun hb => absurd rfl hb, fun hb => absurd hb.1 h⟩

end DeviceInfo

end RcDiscover
