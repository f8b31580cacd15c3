import RcDiscover.DeviceInfo

/-!
# The fields of a DISCOVERY_ACK

`NumberField` and `TextField` are the fields that `DeviceInfo::set` decodes, with their places in
the body.  A field is there when the body reaches to the end of its place; only the two parts of the
version come together.

`set_fields` (**main result**): what `set` stores in each field, for a body of any length; the
bytes behind the body, those from 248 on and the previous content of the object have no part in it.
-/

namespace RcDiscover
namespace DeviceInfo

/-! ### Places -/

/-- The numbers in the body. -/
inductive NumberField
  | major
  | minor
  | mac
  | ip
  | subnet
  | gateway
  deriving DecidableEq

namespace NumberField

/-- Where the number begins. -/
def offset : NumberField → ℕ
  | major => 0
  | minor => 2
  | mac => 10
  | ip => 36
  | subnet => 52
  | gateway => 68

/-- The number of its bytes. -/
def size : NumberField → ℕ
  | major | minor => 2
  | mac => 6
  | ip | subnet | gateway => 4

/-- The length of a body that contains the number. -/
def present : NumberField → ℕ
  | major | minor => 4
  | f => f.offset + f.size

/-- The number in the record. -/
def get : NumberField → DeviceInfo → ℕ
  | major, d => d.major
  | minor, d => d.minor
  | mac, d => d.mac.toNat
  | ip, d => d.ip.toNat
  | subnet, d => d.subnet.toNat
  | gateway, d => d.gateway.toNat

theorem offset_add_size_le (f : NumberField) : f.offset + f.size ≤ f.present := by
  cases f <;> decide

end NumberField

/-- The texts in the body. -/
inductive TextField
  | manufacturerName
  | modelName
  | deviceVersion
  | manufacturerInfo
  | serialNumber
  | userName
  deriving DecidableEq

namespace TextField

/-- Where the text begins. -/
def offset : TextField → ℕ
  | manufacturerName => 72
  | modelName => 104
  | deviceVersion => 136
  | manufacturerInfo => 168
  | serialNumber => 216
  | userName => 232

/-- The number of bytes for it. -/
def size : TextField → ℕ
  | manufacturerName | modelName | deviceVersion => 32
  | manufacturerInfo => 48
  | serialNumber | userName => 16

/-- The length of a body that contains the text. -/
def present (f : TextField) : ℕ := f.offset + f.size

/-- The text in the record. -/
def get : TextField → DeviceInfo → Str
  | manufacturerName, d => d.manufacturerName
  | modelName, d => d.modelName
  | deviceVersion, d => d.deviceVersion
  | manufacturerInfo, d => d.manufacturerInfo
  | serialNumber, d => d.serialNumber
  | userName, d => d.userName

end TextField

/-! ### Fields of a decoded body -/

theorem number_lt (body : Bytes) (offset n : ℕ) : number body offset n < 256 ^ n := by
  rw [number]
  split_ifs with h
  · have hlt := BigEndian.value_lt (slot body offset n)
    have hlen : (slot body offset n).length = n := by
      simp only [slot, List.length_take, List.length_drop]
      omega
    rwa [hlen] at hlt
  · positivity

theorem toNat_number_uint32 (body : Bytes) (offset : ℕ) :
    (UInt32.ofNat (number body offset 4)).toNat = number body offset 4 := by
  have hlt := number_lt body offset 4
  rw [UInt32.toNat_ofNat', Nat.mod_eq_of_lt]
  exact hlt

theorem toNat_number_uint64 (body : Bytes) (offset : ℕ) :
    (UInt64.ofNat (number body offset 6)).toNat = number body offset 6 := by
  have hlt := number_lt body offset 6
  rw [UInt64.toNat_ofNat', Nat.mod_eq_of_lt]
  exact hlt.trans (by norm_num)

/-- The numbers of a decoded body. -/
theorem get_decode_number (f : NumberField) (ifaceName : Str) (body : Bytes) :
    f.get (decode ifaceName body) =
      if f.present ≤ body.length then number body f.offset f.size else 0 := by
  have hpresent : ∀ offset n, number body offset n =
      if offset + n ≤ body.length then number body offset n else 0 := by
    intro offset n
    rw [number]
    split_ifs <;> rfl
  cases f with
  | major | minor => rfl
  | mac => exact (toNat_number_uint64 body 10).trans (hpresent 10 6)
  | ip => exact (toNat_number_uint32 body 36).trans (hpresent 36 4)
  | subnet => exact (toNat_number_uint32 body 52).trans (hpresent 52 4)
  | gateway => exact (toNat_number_uint32 body 68).trans (hpresent 68 4)

/-- The texts of a decoded body. -/
theorem get_decode_text (f : TextField) (ifaceName : Str) (body : Bytes) :
    f.get (decode ifaceName body) = text body f.offset f.size := by
  cases f <;> rfl

theorem slot_take {body : Bytes} {offset n k : ℕ} (h : offset + n ≤ k) :
    slot (body.take k) offset n = slot body offset n := by
  rw [slot, slot, List.drop_take, List.take_take, min_eq_left (by omega)]

theorem number_take {body : Bytes} {offset n k : ℕ} (h : offset + n ≤ k) :
    number (body.take k) offset n = number body offset n := by
  have hlen : offset + n ≤ (body.take k).length ↔ offset + n ≤ body.length := by
    rw [List.length_take]
    omega
  rw [number, number, slot_take h, if_congr hlen rfl rfl]

theorem text_take {body : Bytes} {offset n k : ℕ} (h : offset + n ≤ k) :
    text (body.take k) offset n = text body offset n := by
  have hlen : offset + n ≤ (body.take k).length ↔ offset + n ≤ body.length := by
    rw [List.length_take]
    omega
  rw [text, text, slot_take h, if_congr hlen rfl rfl]

/-- The last field ends at 248. -/
theorem decode_take (ifaceName : Str) (body : Bytes) :
    decode ifaceName (body.take 248) = decode ifaceName body := by
  have hversion : 4 ≤ (body.take 248).length ↔ 4 ≤ body.length := by
    rw [List.length_take]
    omega
  simp only [decode, hversion]
  rw [number_take (by decide), number_take (by decide), number_take (by decide),
    number_take (by decide), number_take (by decide), number_take (by decide),
    text_take (by decide), text_take (by decide), text_take (by decide), text_take (by decide),
    text_take (by decide), text_take (by decide)]

/-! ### Decoding from memory -/

/-- The `n` bytes of the memory from `offset` on. -/
def bytesAt (raw : ℕ → UInt8) (offset n : ℕ) : Bytes := (List.range n).map fun i => raw (offset + i)

/-- The object after `set(raw, len)`. -/
def setFrom (d : DeviceInfo) (raw : ℕ → UInt8) (len : ℕ) : DeviceInfo :=
  Id.run (d.set (fun i => pure (raw i)) len)

section Memory

variable {raw : ℕ → UInt8} {offset n len : ℕ}

theorem length_bytesAt : (bytesAt raw offset n).length = n := by simp [bytesAt]

theorem slot_bytesAt (h : offset + n ≤ len) :
    slot (bytesAt raw 0 len) offset n = bytesAt raw offset n := by
  refine List.ext_getElem ?_ fun i hi hi' => ?_
  · simp only [slot, bytesAt, List.length_take, List.length_drop, List.length_map,
      List.length_range]
    omega
  · simp [slot, bytesAt]

theorem take_bytesAt (k : ℕ) : (bytesAt raw 0 len).take k = bytesAt raw 0 (min len k) := by
  rw [bytesAt, ← List.map_take, List.take_range, min_comm]
  rfl

theorem setFrom_eq_decode (d : DeviceInfo) (raw : ℕ → UInt8) (len : ℕ) :
    d.setFrom raw len = decode d.ifaceName (bytesAt raw 0 len) := by
  have hread : ∀ i < (bytesAt raw 0 len).length,
      Id.run (pure (raw i)) = (bytesAt raw 0 len).getD i 0 := by
    intro i hi
    rw [List.getD_eq_getElem?_getD, List.getElem?_eq_getElem hi]
    simp [bytesAt]
  have h := set_eq_decode hread d
  rwa [length_bytesAt] at h

theorem get_setFrom_number (f : NumberField) (d : DeviceInfo) (raw : ℕ → UInt8) (len : ℕ) :
    f.get (d.setFrom raw len) =
      if f.present ≤ len then BigEndian.value (bytesAt raw f.offset f.size) else 0 := by
  have hend := f.offset_add_size_le
  rw [setFrom_eq_decode, get_decode_number, length_bytesAt]
  split_ifs with h
  · rw [number, length_bytesAt, if_pos (by omega), slot_bytesAt (by omega)]
  · rfl

theorem get_setFrom_text (f : TextField) (d : DeviceInfo) (raw : ℕ → UInt8) (len : ℕ) :
    f.get (d.setFrom raw len) =
      if f.present ≤ len then
        ((bytesAt raw f.offset f.size).takeWhile (· ≠ 0)).map fun c => Char.ofNat c.toNat
      else [] := by
  rw [setFrom_eq_decode, get_decode_text, text, length_bytesAt, TextField.present]
  split_ifs with h
  · rw [slot_bytesAt h]
  · rfl

/-- Bytes behind the body or from 248 on have no influence, nor has the previous content. -/
theorem setFrom_congr {d d' : DeviceInfo} {raw' : ℕ → UInt8} {len' : ℕ}
    (hiface : d'.ifaceName = d.ifaceName) (hlen : min len' 248 = min len 248)
    (hraw : ∀ i < min len 248, raw' i = raw i) : d'.setFrom raw' len' = d.setFrom raw len := by
  have hbytes : bytesAt raw' 0 (min len' 248) = bytesAt raw 0 (min len 248) := by
    rw [hlen]
    refine List.map_congr_left fun i hi => ?_
    rw [zero_add]
    exact hraw i (List.mem_range.1 hi)
  rw [setFrom_eq_decode, setFrom_eq_decode, hiface, ← decode_take _ (bytesAt raw' 0 len'),
    ← decode_take _ (bytesAt raw 0 len), take_bytesAt, take_bytesAt, hbytes]

/-- **`set` decodes every field whose place the body contains and clears the others**; the two
parts of the version are there together.  Nothing else has an influence, and a longer body only
adds fields. -/
theorem set_fields (d : DeviceInfo) (raw : ℕ → UInt8) (len : ℕ) :
    (∀ f : NumberField, f.get (d.setFrom raw len) =
      if f.present ≤ len then BigEndian.value (bytesAt raw f.offset f.size) else 0) ∧
    (∀ f : TextField, f.get (d.setFrom raw len) =
      if f.present ≤ len then
        ((bytesAt raw f.offset f.size).takeWhile (· ≠ 0)).map fun c => Char.ofNat c.toNat
      else []) ∧
    (d.setFrom raw len).ifaceName = d.ifaceName ∧
    (∀ (d' : DeviceInfo) (raw' : ℕ → UInt8) (len' : ℕ), d'.ifaceName = d.ifaceName →
      min len' 248 = min len 248 → (∀ i < min len 248, raw' i = raw i) →
      d'.setFrom raw' len' = d.setFrom raw len) ∧
    ∀ len', len ≤ len' →
      (∀ f : NumberField, f.present ≤ len →
        f.get (d.setFrom raw len') = f.get (d.setFrom raw len)) ∧
      ∀ f : TextField, f.present ≤ len →
        f.get (d.setFrom raw len') = f.get (d.setFrom raw len) := by
  refine ⟨fun f => get_setFrom_number f d raw len, fun f => get_setFrom_text f d raw len,
    ?_, fun d' raw' len' => setFrom_congr, fun len' hle => ⟨fun f hf => ?_, fun f hf => ?_⟩⟩
  · rw [setFrom_eq_decode]
    rfl
  · rw [get_setFrom_number, get_setFrom_number, if_pos hf, if_pos (hf.trans hle)]
  · rw [get_setFrom_text, get_setFrom_text, if_pos hf, if_pos (hf.trans hle)]

end Memory

/-- With two bytes only, the place of `major` is there and the version is not. -/
theorem not_set_major_alone :
    ¬ ∀ (d : DeviceInfo) (raw : ℕ → UInt8) (len : ℕ) (f : NumberField),
      f.offset + f.size ≤ len →
      f.get (d.setFrom raw len) = BigEndian.value (bytesAt raw f.offset f.size) := by
  intro h
  have hmajor := h (ofIfaceName []) (fun _ => 1) 2 .major (by decide)
  exact absurd hmajor (by decide)

end DeviceInfo
end RcDiscover
