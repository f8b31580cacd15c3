import RcDiscover.Gui.DeviceChoice
import RcDiscover.Gui.Inputs
import Mathlib.Data.Nat.Bitwise

/-!
# Automatic subnet masks

`SetTmpIPWindow` and `ChangeIPConfigWindow` complete the subnet mask and the default gateway of an
IP address in the same way: `doIP` knows the masks of the private address blocks, and `doSubnetMask`
takes the first address of the subnet for the gateway.

* `AddressFields`: the fields that both windows have, with what both do to them;
* `InBlock`, `MaskRule`: the address blocks, and the rule that the comments of `doIP` give;
* `chosenMask`: the mask that the tests of `doIP` choose.

`doIP_maskRule_iff` (**main result**): the rule is kept for all addresses but those of 172.0.0.0/8
for which the test of a single bit takes an address for one of 172.16.0.0/12.
-/

namespace RcDiscover
namespace Gui

/-! ### The windows -/

/-- `InputIP::isValid`. -/
def InputIP.isValid (self : InputIP) : Bool := self.getIP ≠ 0

/-- `InputMAC::isValid`. -/
def InputMAC.isValid (self : InputMAC) : Bool := self.getMAC ≠ 0

/-- The fields for an address with its subnet mask and its default gateway. -/
structure AddressFields where
  ip : InputIP
  subnetMask : InputIP
  defaultGateway : InputIP

namespace AddressFields

/-- The tests of `doIP`, one after the other. -/
def completeMask (f : AddressFields) : AddressFields :=
  if f.ip.isValid && !f.subnetMask.isValid then
    let v := f.ip.getIP
    -- 10.0.0.0/8 addresses
    let f := if v >>> 24 = 10 then { f with subnetMask := ⟨"255.0.0.0".toList⟩ } else f
    -- 172.16.0.0/12 addresses
    let f := if v >>> 24 = 172 ∧ (v >>> 16).toUInt8 &&& 16 ≠ 0 then
      { f with subnetMask := ⟨"255.240.0.0".toList⟩ } else f
    -- 192.168.0.0/16 addresses
    let f := if v >>> 24 = 192 ∧ (v >>> 16).toUInt8 = 168 then
      { f with subnetMask := ⟨"255.255.0.0".toList⟩ } else f
    -- 169.254.0.0/16 addresses
    if v >>> 24 = 169 ∧ (v >>> 16).toUInt8 = 254 then
      { f with subnetMask := ⟨"255.255.0.0".toList⟩ } else f
  else f

/-- The test of `doSubnetMask`. -/
def completeGateway (f : AddressFields) : AddressFields :=
  if f.ip.isValid && f.subnetMask.isValid then
    { f with defaultGateway := f.defaultGateway.setIP (f.ip.getIP &&& f.subnetMask.getIP ||| 0x1) }
  else f

end AddressFields

/-- `SetTmpIPWindow`. -/
structure SetTmpIPWindow (χ : Type) extends AddressFields where
  device : DeviceChoice χ
  mac : InputMAC
  macActive : Bool
  setIpActive : Bool

namespace SetTmpIPWindow

variable {χ : Type} (fl : FlChoice χ)

/-- `SetTmpIPWindow::update`. -/
def update (w : SetTmpIPWindow χ) : SetTmpIPWindow χ :=
  { w with
    macActive := (w.device.getMAC fl).length == 0
    setIpActive := w.mac.isValid && w.ip.isValid && w.subnetMask.isValid &&
      w.defaultGateway.isValid }

/-- `SetTmpIPWindow::doSubnetMask`. -/
def doSubnetMask (w : SetTmpIPWindow χ) : SetTmpIPWindow χ :=
  { w with toAddressFields := w.toAddressFields.completeGateway }.update fl

/-- `SetTmpIPWindow::doIP`. -/
def doIP (w : SetTmpIPWindow χ) : SetTmpIPWindow χ :=
  { w with toAddressFields := w.toAddressFields.completeMask }.doSubnetMask fl

end SetTmpIPWindow

/-- `ChangeIPConfigWindow`. -/
structure ChangeIPConfigWindow (χ : Type) extends AddressFields where
  device : DeviceChoice χ
  mac : InputMAC
  currentIp : InputIP
  persistentIpEnabled : Bool
  macActive : Bool
  currentIpActive : Bool
  ipActive : Bool
  subnetMaskActive : Bool
  defaultGatewayActive : Bool
  setConfigActive : Bool

namespace ChangeIPConfigWindow

variable {χ : Type} (fl : FlChoice χ)

/-- `ChangeIPConfigWindow::update`. -/
def update (w : ChangeIPConfigWindow χ) : ChangeIPConfigWindow χ :=
  let custom := (w.device.getMAC fl).length == 0
  let persistentOk := !w.persistentIpEnabled ||
    (w.ip.isValid && w.subnetMask.isValid && w.defaultGateway.isValid)
  { w with
    macActive := custom
    currentIpActive := custom
    ipActive := w.persistentIpEnabled
    subnetMaskActive := w.persistentIpEnabled
    defaultGatewayActive := w.persistentIpEnabled
    setConfigActive := w.currentIp.isValid && persistentOk }

/-- `ChangeIPConfigWindow::doSubnetMask`. -/
def doSubnetMask (w : ChangeIPConfigWindow χ) : ChangeIPConfigWindow χ :=
  { w with toAddressFields := w.toAddressFields.completeGateway }.update fl

/-- `ChangeIPConfigWindow::doIP`. -/
def doIP (w : ChangeIPConfigWindow χ) : ChangeIPConfigWindow χ :=
  { w with toAddressFields := w.toAddressFields.completeMask }.doSubnetMask fl

end ChangeIPConfigWindow

/-! ### Address blocks -/

/-- `x` lies in the block of addresses whose first `length` bits are those of `network`. -/
def InBlock (network : UInt32) (length : ℕ) (x : UInt32) : Prop :=
  x.toNat / 2 ^ (32 - length) = network.toNat / 2 ^ (32 - length)

instance (network : UInt32) (length : ℕ) (x : UInt32) : Decidable (InBlock network length x) :=
  inferInstanceAs (Decidable (_ = _))

/-- The mask is chosen by the address block of the IP address, and the gateway is in its subnet. -/
structure MaskRule (before after : AddressFields) : Prop where
  mask8 : after.subnetMask.value = "255.0.0.0".toList ↔ InBlock 0x0A000000 8 before.ip.getIP
  mask12 : after.subnetMask.value = "255.240.0.0".toList ↔ InBlock 0xAC100000 12 before.ip.getIP
  mask16 : after.subnetMask.value = "255.255.0.0".toList ↔
    InBlock 0xC0A80000 16 before.ip.getIP ∨ InBlock 0xA9FE0000 16 before.ip.getIP
  untouched : ¬ (InBlock 0x0A000000 8 before.ip.getIP ∨ InBlock 0xAC100000 12 before.ip.getIP ∨
    InBlock 0xC0A80000 16 before.ip.getIP ∨ InBlock 0xA9FE0000 16 before.ip.getIP) →
      after.subnetMask = before.subnetMask
  gateway : InBlock 0x0A000000 8 before.ip.getIP ∨ InBlock 0xAC100000 12 before.ip.getIP ∨
    InBlock 0xC0A80000 16 before.ip.getIP ∨ InBlock 0xA9FE0000 16 before.ip.getIP →
      after.defaultGateway.getIP &&& after.subnetMask.getIP =
        before.ip.getIP &&& after.subnetMask.getIP

/-- The bit that `doIP` tests is set in an address of 172.0.0.0/8 outside of 172.16.0.0/12. -/
def Mistaken (x : UInt32) : Prop :=
  InBlock 0xAC000000 8 x ∧ x.toNat.testBit 20 = true ∧ ¬ InBlock 0xAC100000 12 x

/-! ### The tests -/

section Tests

variable (x : UInt32)

theorem shiftRight_eq_iff (k : UInt32) : x >>> 24 = k ↔ x.toNat / 2 ^ 24 = k.toNat := by
  rw [← UInt32.toNat_inj, UInt32.toNat_shiftRight, Nat.shiftRight_eq_div_pow]
  rfl

theorem toNat_secondByte : (x >>> 16).toUInt8.toNat = x.toNat / 2 ^ 16 % 256 := by
  rw [UInt32.toNat_toUInt8, UInt32.toNat_shiftRight, Nat.shiftRight_eq_div_pow]
  rfl

theorem secondByte_eq_iff (k : UInt8) :
    (x >>> 16).toUInt8 = k ↔ x.toNat / 2 ^ 16 % 256 = k.toNat := by
  rw [← UInt8.toNat_inj, toNat_secondByte]

theorem secondByte_and_ne_zero_iff :
    (x >>> 16).toUInt8 &&& 16 ≠ 0 ↔ x.toNat / 2 ^ 20 % 2 = 1 := by
  have hand : ((x >>> 16).toUInt8 &&& 16).toNat =
      ((x.toNat / 2 ^ 16 % 256).testBit 4).toNat * 16 := by
    rw [UInt8.toNat_and, toNat_secondByte]
    exact Nat.and_two_pow _ 4
  rw [ne_eq, ← UInt8.toNat_inj, hand, Nat.testBit_eq_decide_div_mod_eq]
  rw [show x.toNat / 2 ^ 16 % 256 / 2 ^ 4 % 2 = x.toNat / 2 ^ 20 % 2 by omega]
  by_cases h : x.toNat / 2 ^ 20 % 2 = 1
  · rw [decide_eq_true h]
    exact iff_of_true (by decide) h
  · rw [decide_eq_false h]
    exact iff_of_false (by decide) h

/-- The mask that the tests of `doIP` choose for a valid address. -/
def chosenMask : Option Str :=
  if x.toNat / 2 ^ 24 = 10 then some "255.0.0.0".toList
  else if x.toNat / 2 ^ 24 = 172 ∧ x.toNat / 2 ^ 20 % 2 = 1 then some "255.240.0.0".toList
  else if x.toNat / 2 ^ 24 = 192 ∧ x.toNat / 2 ^ 16 % 256 = 168 ∨
    x.toNat / 2 ^ 24 = 169 ∧ x.toNat / 2 ^ 16 % 256 = 254 then some "255.255.0.0".toList
  else none

end Tests

theorem getIP_mask8 : InputIP.getIP ⟨"255.0.0.0".toList⟩ = 0xFF000000 :=
  getIP_ip2string 0xFF000000

theorem getIP_mask12 : InputIP.getIP ⟨"255.240.0.0".toList⟩ = 0xFFF00000 :=
  getIP_ip2string 0xFFF00000

theorem getIP_mask16 : InputIP.getIP ⟨"255.255.0.0".toList⟩ = 0xFFFF0000 :=
  getIP_ip2string 0xFFFF0000

namespace AddressFields

variable {f : AddressFields}

theorem ite_subnetMask (p : Prop) [Decidable p] (m : Str) :
    (if p then { f with subnetMask := ⟨m⟩ } else f) =
      { f with subnetMask := if p then ⟨m⟩ else f.subnetMask } := by
  split <;> rfl

/-- **What `doIP` makes of the mask.** -/
theorem completeMask_eq (hip : f.ip.isValid = true) (hmask : f.subnetMask.isValid = false) :
    f.completeMask =
      { f with subnetMask := ((chosenMask f.ip.getIP).map InputIP.mk).getD f.subnetMask } := by
  unfold completeMask chosenMask
  simp -zeta only [ite_subnetMask]
  simp only [hip, hmask, Bool.not_false, Bool.and_self, if_true, shiftRight_eq_iff,
    secondByte_eq_iff, secondByte_and_ne_zero_iff, UInt32.reduceToNat, UInt8.reduceToNat]
  -- the tests exclude each other by the first byte
  generalize f.ip.getIP.toNat / 2 ^ 24 = first
  generalize f.ip.getIP.toNat / 2 ^ 20 % 2 = bit
  generalize f.ip.getIP.toNat / 2 ^ 16 % 256 = second
  by_cases h10 : first = 10
  · simp [h10]
  by_cases h172 : first = 172
  · by_cases hbit : bit = 1 <;> simp [h172, hbit]
  by_cases h192 : first = 192
  · by_cases h168 : second = 168 <;> simp [h192, h168]
  by_cases h169 : first = 169
  · by_cases h254 : second = 254 <;> simp [h169, h254]
  · simp [h10, h172, h192, h169]

/-- **What `doSubnetMask` makes of the gateway.** -/
theorem completeGateway_eq (hip : f.ip.isValid = true) (hmask : f.subnetMask.isValid = true) :
    f.completeGateway = { f with
      defaultGateway := ⟨ip2string (f.ip.getIP &&& f.subnetMask.getIP ||| 0x1)⟩ } := by
  unfold completeGateway
  simp only [hip, hmask, Bool.and_self, if_true, AddressFields.mk.injEq, true_and]
  exact congrArg InputIP.mk (value_setIP f.defaultGateway _)

theorem subnetMask_completeGateway : f.completeGateway.subnetMask = f.subnetMask := by
  unfold completeGateway
  split_ifs <;> rfl

/-- The mask that is there after `doIP`. -/
theorem value_subnetMask_eq_iff (hip : f.ip.isValid = true) (hmask : f.subnetMask.isValid = false)
    {m : Str} (hm : InputIP.isValid ⟨m⟩ = true) :
    f.completeMask.completeGateway.subnetMask.value = m ↔ chosenMask f.ip.getIP = some m := by
  rw [subnetMask_completeGateway, completeMask_eq hip hmask]
  cases hc : chosenMask f.ip.getIP with
  | some m' => simp
  | none =>
    have hne : f.subnetMask.value ≠ m := by
      rintro rfl
      exact Bool.false_ne_true (hmask.symm.trans hm)
    simpa using hne

/-- The gateway that is there after `doIP` chose a mask. -/
theorem getIP_defaultGateway (hip : f.ip.isValid = true) (hmask : f.subnetMask.isValid = false)
    {m : Str} (hc : chosenMask f.ip.getIP = some m) (hm : InputIP.isValid ⟨m⟩ = true) :
    f.completeMask.completeGateway.subnetMask = ⟨m⟩ ∧
      f.completeMask.completeGateway.defaultGateway.getIP =
        (f.ip.getIP &&& InputIP.getIP ⟨m⟩ ||| 0x1) := by
  have hmask' : f.completeMask = { f with subnetMask := ⟨m⟩ } := by
    rw [completeMask_eq hip hmask, hc]
    rfl
  rw [hmask', completeGateway_eq (f := { f with subnetMask := ⟨m⟩ }) hip hm]
  exact ⟨rfl, getIP_ip2string _⟩

end AddressFields

/-! ### The masks -/

section Masks

variable {x : UInt32} {m : Str}

theorem isValid_of_getIP {v : UInt32} (h : InputIP.getIP ⟨m⟩ = v) (hne : v ≠ 0) :
    InputIP.isValid ⟨m⟩ = true := by
  rw [InputIP.isValid, h]
  exact decide_eq_true hne

theorem isValid_mask8 : InputIP.isValid ⟨"255.0.0.0".toList⟩ = true :=
  isValid_of_getIP getIP_mask8 (by decide)

theorem isValid_mask12 : InputIP.isValid ⟨"255.240.0.0".toList⟩ = true :=
  isValid_of_getIP getIP_mask12 (by decide)

theorem isValid_mask16 : InputIP.isValid ⟨"255.255.0.0".toList⟩ = true :=
  isValid_of_getIP getIP_mask16 (by decide)

theorem inBlock_ten : InBlock 0x0A000000 8 x ↔ x.toNat / 2 ^ 24 = 10 := Iff.rfl

theorem inBlock_172 : InBlock 0xAC000000 8 x ↔ x.toNat / 2 ^ 24 = 172 := Iff.rfl

theorem inBlock_172_16 : InBlock 0xAC100000 12 x ↔ x.toNat / 2 ^ 20 = 2753 := Iff.rfl

theorem inBlock_192_168 : InBlock 0xC0A80000 16 x ↔ x.toNat / 2 ^ 16 = 49320 := Iff.rfl

theorem inBlock_169_254 : InBlock 0xA9FE0000 16 x ↔ x.toNat / 2 ^ 16 = 43518 := Iff.rfl

/-- The test of the bit is right exactly where no address is mistaken. -/
theorem not_mistaken_iff :
    ¬ Mistaken x ↔
      (x.toNat / 2 ^ 24 = 172 ∧ x.toNat / 2 ^ 20 % 2 = 1 ↔ InBlock 0xAC100000 12 x) := by
  rw [Mistaken, inBlock_172, inBlock_172_16, Nat.testBit_eq_decide_div_mod_eq, decide_eq_true_iff]
  omega

/-- Of three tests that exclude each other, the order does not matter. -/
theorem ite_eq_some_iff {α : Type} {a b c m : α} {p q r : Prop} [Decidable p] [Decidable q]
    [Decidable r] (hpq : p → ¬ q) (hpr : p → ¬ r) (hqr : q → ¬ r) :
    (if p then some a else if q then some b else if r then some c else none) = some m ↔
      p ∧ m = a ∨ q ∧ m = b ∨ r ∧ m = c := by
  by_cases hp : p
  · simp [hp, hpq hp, hpr hp, eq_comm]
  by_cases hq : q
  · simp [hp, hq, hqr hq, eq_comm]
  · simp [hp, hq, eq_comm]

theorem chosenMask_eq_some_iff :
    chosenMask x = some m ↔
      InBlock 0x0A000000 8 x ∧ m = "255.0.0.0".toList ∨
      (x.toNat / 2 ^ 24 = 172 ∧ x.toNat / 2 ^ 20 % 2 = 1) ∧ m = "255.240.0.0".toList ∨
      (InBlock 0xC0A80000 16 x ∨ InBlock 0xA9FE0000 16 x) ∧ m = "255.255.0.0".toList := by
  have h192 : InBlock 0xC0A80000 16 x ↔ x.toNat / 2 ^ 24 = 192 ∧ x.toNat / 2 ^ 16 % 256 = 168 := by
    rw [inBlock_192_168]
    omega
  have h169 : InBlock 0xA9FE0000 16 x ↔ x.toNat / 2 ^ 24 = 169 ∧ x.toNat / 2 ^ 16 % 256 = 254 := by
    rw [inBlock_169_254]
    omega
  rw [chosenMask, inBlock_ten, h192, h169]
  apply ite_eq_some_iff
  · intro h10 h172
    omega
  · intro h10 h16
    omega
  · intro h172 h16
    omega

theorem chosenMask_eq_mask8 : chosenMask x = some "255.0.0.0".toList ↔ InBlock 0x0A000000 8 x := by
  simp [chosenMask_eq_some_iff]

theorem chosenMask_eq_mask12 :
    chosenMask x = some "255.240.0.0".toList ↔
      x.toNat / 2 ^ 24 = 172 ∧ x.toNat / 2 ^ 20 % 2 = 1 := by
  simp [chosenMask_eq_some_iff]

theorem chosenMask_eq_mask16 :
    chosenMask x = some "255.255.0.0".toList ↔
      InBlock 0xC0A80000 16 x ∨ InBlock 0xA9FE0000 16 x := by
  simp [chosenMask_eq_some_iff]

theorem exists_chosenMask_iff :
    (∃ m, chosenMask x = some m) ↔ InBlock 0x0A000000 8 x ∨
      (x.toNat / 2 ^ 24 = 172 ∧ x.toNat / 2 ^ 20 % 2 = 1) ∨
      InBlock 0xC0A80000 16 x ∨ InBlock 0xA9FE0000 16 x := by
  constructor
  · rintro ⟨m, hm⟩
    rcases chosenMask_eq_some_iff.mp hm with ⟨h, -⟩ | ⟨h, -⟩ | ⟨h, -⟩
    · exact .inl h
    · exact .inr (.inl h)
    · exact .inr (.inr h)
  · rintro (h | h | h)
    · exact ⟨_, chosenMask_eq_mask8.mpr h⟩
    · exact ⟨_, chosenMask_eq_mask12.mpr h⟩
    · exact ⟨_, chosenMask_eq_mask16.mpr h⟩

/-- The first address of a subnet is in it. -/
theorem gateway_and_mask {mask : UInt32} (h : mask &&& 0x1 = 0) :
    (x &&& mask ||| 0x1) &&& mask = x &&& mask := by
  have hmask : (1 : UInt32).toBitVec &&& mask.toBitVec = 0#32 := by
    rw [BitVec.and_comm, ← UInt32.toBitVec_and, h]
    rfl
  apply UInt32.toBitVec_inj.mp
  calc ((x &&& mask ||| 0x1) &&& mask).toBitVec
      = x.toBitVec &&& mask.toBitVec &&& mask.toBitVec |||
          (1 : UInt32).toBitVec &&& mask.toBitVec := BitVec.and_or_distrib_right
    _ = (x &&& mask).toBitVec := by
        rw [BitVec.and_assoc, BitVec.and_self, hmask, BitVec.or_zero, UInt32.toBitVec_and]

/-- Each mask that is chosen is valid, and its last bit is not set. -/
theorem of_chosenMask (h : chosenMask x = some m) :
    InputIP.isValid ⟨m⟩ = true ∧ InputIP.getIP ⟨m⟩ &&& 0x1 = 0 := by
  rcases chosenMask_eq_some_iff.mp h with ⟨-, rfl⟩ | ⟨-, rfl⟩ | ⟨-, rfl⟩
  · rw [getIP_mask8]
    exact ⟨isValid_mask8, rfl⟩
  · rw [getIP_mask12]
    exact ⟨isValid_mask12, rfl⟩
  · rw [getIP_mask16]
    exact ⟨isValid_mask16, rfl⟩

end Masks

namespace AddressFields

variable {f : AddressFields}

/-- **The rule for the fields.** -/
theorem maskRule_iff (hip : f.ip.isValid = true) (hmask : f.subnetMask.isValid = false) :
    MaskRule f f.completeMask.completeGateway ↔ ¬ Mistaken f.ip.getIP := by
  rw [not_mistaken_iff]
  constructor
  · intro h
    rw [← chosenMask_eq_mask12, ← value_subnetMask_eq_iff hip hmask isValid_mask12]
    exact h.mask12
  · intro h12
    have hchosen := exists_chosenMask_iff (x := f.ip.getIP)
    rw [h12] at hchosen
    constructor
    · rw [value_subnetMask_eq_iff hip hmask isValid_mask8]
      exact chosenMask_eq_mask8
    · rw [value_subnetMask_eq_iff hip hmask isValid_mask12]
      exact chosenMask_eq_mask12.trans h12
    · rw [value_subnetMask_eq_iff hip hmask isValid_mask16]
      exact chosenMask_eq_mask16
    · intro hnone
      rw [← hchosen, ← Option.isSome_iff_exists, Option.not_isSome_iff_eq_none] at hnone
      rw [subnetMask_completeGateway, completeMask_eq hip hmask, hnone]
      rfl
    · intro hsome
      obtain ⟨m, hm⟩ := hchosen.mpr hsome
      obtain ⟨hvalid, hbit⟩ := of_chosenMask hm
      obtain ⟨hafter, hgateway⟩ := getIP_defaultGateway hip hmask hm hvalid
      rw [hafter, hgateway]
      exact gateway_and_mask hbit

end AddressFields

/-! ### The two windows -/

section Windows

variable {χ : Type} (fl : FlChoice χ)

theorem SetTmpIPWindow.toAddressFields_doIP (w : SetTmpIPWindow χ) :
    (w.doIP fl).toAddressFields = w.toAddressFields.completeMask.completeGateway := by
  simp only [doIP, doSubnetMask, update]

theorem ChangeIPConfigWindow.toAddressFields_doIP (w : ChangeIPConfigWindow χ) :
    (w.doIP fl).toAddressFields = w.toAddressFields.completeMask.completeGateway := by
  simp only [doIP, doSubnetMask, update]

/-- **Automatic subnet masks.**  In both windows `doIP` keeps the rule for a valid address and an
invalid mask exactly when the address is not mistaken for one of 172.16.0.0/12. -/
theorem doIP_maskRule_iff (f : AddressFields) (hip : f.ip.isValid = true)
    (hmask : f.subnetMask.isValid = false) :
    (∀ w : SetTmpIPWindow χ, w.toAddressFields = f →
      (MaskRule f (w.doIP fl).toAddressFields ↔ ¬ Mistaken f.ip.getIP)) ∧
    ∀ w : ChangeIPConfigWindow χ, w.toAddressFields = f →
      (MaskRule f (w.doIP fl).toAddressFields ↔ ¬ Mistaken f.ip.getIP) := by
  have hrule := AddressFields.maskRule_iff hip hmask
  constructor
  · intro w hw
    rw [w.toAddressFields_doIP, hw]
    exact hrule
  · intro w hw
    rw [w.toAddressFields_doIP, hw]
    exact hrule

end Windows

/-- The fields after an address was entered. -/
def AddressFields.entered (ip : Str) : AddressFields := ⟨⟨ip⟩, ⟨[]⟩, ⟨[]⟩⟩

/-- A new `SetTmpIPWindow` with an address. -/
def SetTmpIPWindow.entered (ip : Str) : SetTmpIPWindow (List Str × ℤ) where
  toAddressFields := .entered ip
  device := ⟨([], -1), []⟩
  mac := ⟨[]⟩
  macActive := true
  setIpActive := false

/-- A new `ChangeIPConfigWindow` with an address. -/
def ChangeIPConfigWindow.entered (ip : Str) : ChangeIPConfigWindow (List Str × ℤ) where
  toAddressFields := .entered ip
  device := ⟨([], -1), []⟩
  mac := ⟨[]⟩
  currentIp := ⟨[]⟩
  persistentIpEnabled := true
  macActive := true
  currentIpActive := true
  ipActive := true
  subnetMaskActive := true
  defaultGatewayActive := true
  setConfigActive := false

/-- 10.0.0.5 gets the mask 255.0.0.0. -/
theorem doIP_maskRule_ten :
    MaskRule (.entered "10.0.0.5".toList)
        ((SetTmpIPWindow.entered "10.0.0.5".toList).doIP .items).toAddressFields ∧
      MaskRule (.entered "10.0.0.5".toList)
        ((ChangeIPConfigWindow.entered "10.0.0.5".toList).doIP .items).toAddressFields := by
  have hiff := doIP_maskRule_iff .items (.entered "10.0.0.5".toList) (by decide) (by decide)
  have hright : ¬ Mistaken (InputIP.getIP ⟨"10.0.0.5".toList⟩) := fun h => absurd h.1 (by decide)
  exact ⟨(hiff.1 (.entered _) rfl).mpr hright, (hiff.2 (.entered _) rfl).mpr hright⟩

/-- 172.48.0.1 is not in 172.16.0.0/12, but gets its mask. -/
theorem not_maskRule_172_48 :
    (AddressFields.entered "172.48.0.1".toList).ip.isValid = true ∧
      (AddressFields.entered "172.48.0.1".toList).subnetMask.isValid = false ∧
      ¬ MaskRule (.entered "172.48.0.1".toList)
        ((SetTmpIPWindow.entered "172.48.0.1".toList).doIP .items).toAddressFields ∧
      ¬ MaskRule (.entered "172.48.0.1".toList)
        ((ChangeIPConfigWindow.entered "172.48.0.1".toList).doIP .items).toAddressFields := by
  refine ⟨by decide, by decide, fun h => ?_, fun h => ?_⟩
  · exact absurd (h.mask12.mp (by decide)) (by decide)
  · exact absurd (h.mask12.mp (by decide)) (by decide)

end Gui
end RcDiscover
