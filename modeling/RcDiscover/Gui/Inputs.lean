import RcDiscover.Addresses
import RcDiscover.DeviceInfo

/-!
# Addresses in the GUI

`InputIP` and `InputMAC` of `rcdiscover-gui/input_ip.cc` and `input_mac.cc`, and the texts that
`discoverThread` prints for a device.  The fields are read with formatted extraction into numbers
and separators that hold invalid values before (`extractFields`), which is not how the command
line parses addresses.

`addresses_round_trip`: both front ends read back what they print.
-/

namespace RcDiscover
namespace Gui

open BigEndian

/-! ### What `discoverThread` prints -/

/-- The text of `ip` in `discoverThread`. -/
def threadIp (info : DeviceInfo) : Str :=
  let ip := info.ip
  OStringStream.empty
    |>.putNat ((ip >>> 24) &&& 0xff).toNat |>.putChar '.'
    |>.putNat ((ip >>> 16) &&& 0xff).toNat |>.putChar '.'
    |>.putNat ((ip >>> 8) &&& 0xff).toNat |>.putChar '.' |>.putNat (ip &&& 0xff).toNat |>.text

/-- The text of `mac` in `discoverThread`. -/
def threadMac (info : DeviceInfo) : Str :=
  let mac := info.mac
  OStringStream.empty
    |>.hex |>.setw 2 |>.setfill '0'
    |>.setw 2 |>.setfill '0' |>.putNat ((mac >>> 40) &&& 0xff).toNat |>.putChar ':'
    |>.setw 2 |>.setfill '0' |>.putNat ((mac >>> 32) &&& 0xff).toNat |>.putChar ':'
    |>.setw 2 |>.setfill '0' |>.putNat ((mac >>> 24) &&& 0xff).toNat |>.putChar ':'
    |>.setw 2 |>.setfill '0' |>.putNat ((mac >>> 16) &&& 0xff).toNat |>.putChar ':'
    |>.setw 2 |>.setfill '0' |>.putNat ((mac >>> 8) &&& 0xff).toNat |>.putChar ':'
    |>.setw 2 |>.setfill '0' |>.putNat (mac &&& 0xff).toNat |>.text

/-! ### The input fields -/

/-- The extractions `in >> v[0] >> s[0] >> v[1] >> … >> v[n]` into numbers that are 256 and
characters that are blanks before. -/
def extractFields (base bits : ℕ) : ℕ → IStream → List ℕ × List Char × IStream
  | 0, is =>
    let (v, is) := is.extractUnsigned base bits 256
    ([v], [], is)
  | n + 1, is =>
    let (v, is) := is.extractUnsigned base bits 256
    let (s, is) := is.extractChar ' '
    let (vs, ss, is) := extractFields base bits n is
    (v :: vs, s :: ss, is)

/-- The checks of `getIP` and `getMAC` on what was read. -/
def fieldsValid (sep : Char) (v : List ℕ) (s : List Char) (is : IStream) : Bool :=
  -- all separators, no unparsed characters left, and the individual numbers
  s.all (· = sep) && is.eof && v.all (· ≤ 255)

/-- `InputIP`, with its text. -/
structure InputIP where
  value : Str

/-- `InputIP::getIP`. -/
def InputIP.getIP (self : InputIP) : UInt32 :=
  match extractFields 10 32 3 (.ofStr self.value) with
  | ([v0, v1, v2, v3], s, is) =>
    if fieldsValid '.' [v0, v1, v2, v3] s is then
      UInt32.ofNat v0 <<< 24 ||| UInt32.ofNat v1 <<< 16 ||| UInt32.ofNat v2 <<< 8 |||
        UInt32.ofNat v3
    else 0
  | _ => 0

/-- `InputIP::setIP`. -/
def InputIP.setIP (_ : InputIP) (v : UInt32) : InputIP where
  value := OStringStream.empty
    |>.putNat ((v >>> 24) &&& 0xff).toNat |>.putChar '.'
    |>.putNat ((v >>> 16) &&& 0xff).toNat |>.putChar '.'
    |>.putNat ((v >>> 8) &&& 0xff).toNat |>.putChar '.' |>.putNat (v &&& 0xff).toNat |>.text

/-- `InputMAC`, with its text. -/
structure InputMAC where
  value : Str

/-- `InputMAC::getMAC`. -/
def InputMAC.getMAC (self : InputMAC) : UInt64 :=
  match extractFields 16 64 5 (.ofStr self.value) with
  | ([v0, v1, v2, v3, v4, v5], s, is) =>
    if fieldsValid ':' [v0, v1, v2, v3, v4, v5] s is then
      UInt64.ofNat v0 <<< 40 ||| UInt64.ofNat v1 <<< 32 ||| UInt64.ofNat v2 <<< 24 |||
        UInt64.ofNat v3 <<< 16 ||| UInt64.ofNat v4 <<< 8 ||| UInt64.ofNat v5
    else 0
  | _ => 0

/-! ### Reading what was printed -/

section Read

variable {base bits : ℕ} {sep : Char} {shown : UInt8 → Str}

variable (bits sep) in
/-- The fields of a text that was joined from numerals. -/
theorem extractFields_join (hb : base ≤ 16) (hbits : 8 ≤ bits) (hspace : isSpace sep = false)
    (hsep : digitValue base sep = none ∧ sep ≠ 'x' ∧ sep ≠ 'X')
    (h : ∀ b, Reads base (shown b) b.toNat) (b : UInt8) (bs : List UInt8) :
    extractFields base bits bs.length (.ofStr (join sep ((b :: bs).map shown))) =
      ((b :: bs).map UInt8.toNat, List.replicate bs.length sep, ⟨[], true, false⟩) := by
  have hlt : ∀ b : UInt8, b.toNat < 2 ^ bits := fun b =>
    b.toNat_lt.trans_le (Nat.pow_le_pow_right (by decide) hbits)
  induction bs generalizing b with
  | nil =>
    have hstops : Stops base [] := fun c hc => nomatch hc
    have hread := (h b).extractUnsigned hb (hlt b) hstops 256
    rw [List.append_nil] at hread
    simp only [List.length_nil, extractFields, List.map_cons, List.map_nil, join, IStream.ofStr,
      hread]
    rfl
  | cons a bs ih =>
    have hstops : Stops base (sep :: join sep ((a :: bs).map shown)) := by
      intro c hc
      obtain rfl : sep = c := by simpa using hc
      exact hsep
    have hread := (h b).extractUnsigned hb (hlt b) hstops 256
    have hchar := extractChar_cons hspace ' ' (join sep ((a :: bs).map shown))
    have hrest := ih a
    simp only [List.map_cons, IStream.ofStr] at hread hchar hrest
    simp only [List.length_cons, extractFields, List.map_cons, join, IStream.ofStr, hread,
      List.isEmpty_cons, hchar, hrest, List.replicate_succ]

variable (sep) in
theorem fieldsValid_join (n : ℕ) (bs : List UInt8) :
    fieldsValid sep (bs.map UInt8.toNat) (List.replicate n sep) ⟨[], true, false⟩ = true := by
  have hbytes : ∀ b ∈ bs, b.toNat ≤ 255 := fun b _ => Nat.le_of_lt_succ b.toNat_lt
  simpa [fieldsValid] using hbytes

end Read

/-- The text of `setIP` is that of the command line. -/
theorem value_setIP (self : InputIP) (x : UInt32) : (self.setIP x).value = ip2string x := by
  simp [InputIP.setIP, ip2string, decimal, OStringStream.empty, OStringStream.putNat,
    OStringStream.putChar, OStringStream.insert]

theorem threadIp_eq (info : DeviceInfo) : threadIp info = ip2string info.ip :=
  value_setIP ⟨[]⟩ info.ip

theorem threadMac_eq (info : DeviceInfo) : threadMac info = mac2string info.mac := by
  simp [threadMac, mac2string, hex, setw2, OStringStream.empty, OStringStream.hex,
    OStringStream.setw, OStringStream.setfill, OStringStream.putNat, OStringStream.putChar,
    OStringStream.insert]

theorem toNat_shiftLeft_byte (b : UInt8) {k : ℕ} (hk : k < 8) :
    (UInt64.ofNat b.toNat <<< UInt64.ofNat (k * 8)).toNat = b.toNat <<< (k * 8) := by
  have hb := b.toNat_lt
  have hlt : b.toNat <<< (k * 8) < 2 ^ 64 := by
    rw [Nat.shiftLeft_eq]
    calc b.toNat * 2 ^ (k * 8) < 2 ^ 8 * 2 ^ (k * 8) :=
          Nat.mul_lt_mul_of_pos_right hb (Nat.two_pow_pos _)
      _ = 2 ^ (8 + k * 8) := (Nat.pow_add 2 8 _).symm
      _ ≤ 2 ^ 64 := Nat.pow_le_pow_right (by decide) (by omega)
  rw [UInt64.toNat_shiftLeft, UInt64.toNat_ofNat', UInt64.toNat_ofNat',
    Nat.mod_eq_of_lt (a := b.toNat) (by omega), Nat.mod_eq_of_lt (a := k * 8) (by omega),
    Nat.mod_eq_of_lt (a := k * 8) (by omega), Nat.mod_eq_of_lt hlt]

/-- A 64-bit word assembled from six bytes. -/
theorem toNat_or_uint64 (a b c d e f : UInt8) :
    (UInt64.ofNat a.toNat <<< 40 ||| UInt64.ofNat b.toNat <<< 32 ||| UInt64.ofNat c.toNat <<< 24 |||
      UInt64.ofNat d.toNat <<< 16 ||| UInt64.ofNat e.toNat <<< 8 ||| UInt64.ofNat f.toNat).toNat =
      value [a, b, c, d, e, f] := by
  have ha : (UInt64.ofNat a.toNat <<< 40).toNat = a.toNat * 256 ^ 5 := by
    have := toNat_shiftLeft_byte a (k := 5) (by decide)
    rwa [Nat.shiftLeft_eq] at this
  have hb := toNat_shiftLeft_byte b (k := 4) (by decide)
  have hc := toNat_shiftLeft_byte c (k := 3) (by decide)
  have hd := toNat_shiftLeft_byte d (k := 2) (by decide)
  have he := toNat_shiftLeft_byte e (k := 1) (by decide)
  have hf : (UInt64.ofNat f.toNat).toNat = f.toNat <<< (0 * 8) := by
    simp
  calc _ = ((((a.toNat * 256 ^ 5 ||| b.toNat <<< (4 * 8)) ||| c.toNat <<< (3 * 8)) |||
        d.toNat <<< (2 * 8)) ||| e.toNat <<< (1 * 8)) ||| f.toNat <<< (0 * 8) := by
        rw [UInt64.toNat_or, UInt64.toNat_or, UInt64.toNat_or, UInt64.toNat_or, UInt64.toNat_or,
          ← ha, ← hb, ← hc, ← hd, ← he, ← hf]
        rfl
    _ = ((((a.toNat * 256 + b.toNat) * 256 + c.toNat) * 256 + d.toNat) * 256 + e.toNat) * 256 +
        f.toNat := by
        rw [or_shiftLeft_byte, or_shiftLeft_byte, or_shiftLeft_byte, or_shiftLeft_byte,
          or_shiftLeft_byte, pow_zero, mul_one]
    _ = value [a, b, c, d, e, f] := by
        simp [value]

/-- The bytes of a field are assembled as in `byteArrayToInt`. -/
theorem getIP_join (a b c d : UInt8) :
    (InputIP.getIP ⟨join '.' ([a, b, c, d].map fun x => decimal x.toNat)⟩).toNat =
      value [a, b, c, d] := by
  have hfields := extractFields_join 32 '.' (by decide) (by decide) (by decide) (by decide)
    (fun b => reads_decimal b.toNat) a [b, c, d]
  have hvalid := fieldsValid_join '.' 3 [a, b, c, d]
  simp only [List.map_cons, List.map_nil, List.length_cons, List.length_nil] at hfields hvalid
  simp only [InputIP.getIP, List.map_cons, List.map_nil, hfields, hvalid, if_true]
  simp only [UInt32.ofNat_uInt8ToNat]
  exact BigEndian.toNat_or_uint32 a b c d

theorem getIP_ip2string (x : UInt32) : InputIP.getIP ⟨ip2string x⟩ = x := by
  have hlt : x.toNat < 256 ^ 4 := x.toNat_lt
  rw [← UInt32.toNat_inj, ip2string_eq_join]
  exact (getIP_join _ _ _ _).trans (value_digits_of_lt hlt)

theorem getMAC_join (a b c d e f : UInt8) :
    (InputMAC.getMAC ⟨join ':' ([a, b, c, d, e, f].map fun x => setw2 (hex x.toNat))⟩).toNat =
      value [a, b, c, d, e, f] := by
  have hfields := extractFields_join 64 ':' (by decide) (by decide) (by decide) (by decide)
    (fun b => reads_setw2_hex b.toNat) a [b, c, d, e, f]
  have hvalid := fieldsValid_join ':' 5 [a, b, c, d, e, f]
  simp only [List.map_cons, List.map_nil, List.length_cons, List.length_nil] at hfields hvalid
  simp only [InputMAC.getMAC, List.map_cons, List.map_nil, hfields, hvalid, if_true]
  exact toNat_or_uint64 a b c d e f

theorem getMAC_mac2string {m : UInt64} (h : m.toNat < 2 ^ 48) :
    InputMAC.getMAC ⟨mac2string m⟩ = m := by
  have hlt : m.toNat < 256 ^ 6 := h
  rw [← UInt64.toNat_inj, mac2string_eq_join]
  exact (getMAC_join _ _ _ _ _ _).trans (value_digits_of_lt hlt)

/-- **Addresses survive printing and parsing on both front ends.** -/
theorem addresses_round_trip :
    (∀ x : UInt32,
      (∃ bytes, string2ip (ip2string x) = .ok bytes ∧ (byteArrayToInt bytes).toNat = x.toNat) ∧
      ∀ self : InputIP, (self.setIP x).getIP = x) ∧
    ∀ m : UInt64, m.toNat < 2 ^ 48 →
      (∃ bytes, string2mac (mac2string m) = .ok bytes ∧
        (byteArrayToInt bytes).toNat = m.toNat) ∧
      ∀ info : DeviceInfo, info.mac = m →
        threadMac info = mac2string m ∧ InputMAC.getMAC ⟨threadMac info⟩ = m := by
  refine ⟨fun x => ⟨⟨digits 4 x.toNat, string2ip_ip2string x, ?_⟩, fun self => ?_⟩,
    fun m hm => ⟨⟨digits 6 m.toNat, string2mac_mac2string m, ?_⟩, ?_⟩⟩
  · have hlt : x.toNat < 256 ^ 4 := x.toNat_lt
    rw [toNat_byteArrayToInt (by simp), value_digits_of_lt hlt]
  · have hvalue : self.setIP x = ⟨ip2string x⟩ := congrArg InputIP.mk (value_setIP self x)
    rw [hvalue, getIP_ip2string]
  · have hlt : m.toNat < 256 ^ 6 := hm
    rw [toNat_byteArrayToInt (by simp), value_digits_of_lt hlt]
  · rintro info rfl
    rw [threadMac_eq]
    exact ⟨rfl, getMAC_mac2string hm⟩

theorem addresses_round_trip_zero_bytes :
    InputMAC.getMAC ⟨threadMac { DeviceInfo.ofIfaceName [] with mac := 0x0a0000000001 }⟩ =
      0x0a0000000001 :=
  ((addresses_round_trip.2 0x0a0000000001 (by decide)).2 _ rfl).2

end Gui
end RcDiscover
