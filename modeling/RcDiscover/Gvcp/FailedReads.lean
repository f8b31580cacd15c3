import RcDiscover.Gvcp.RoundTrip

/-!
# Reads that fail

`ensures_readConfig_rest`: a `readConfig` leaves nothing behind that could matter later, whether it
returns or throws.  `unchanged_of_configured`: writing back what was read changes one bit of the
mode register.
-/

namespace RcDiscover
namespace Gvcp

open Program GigERequestCounter

/-! ### Giving up a read -/

section Reads

variable {dev : Device} {m : ℕ} {G : Registers} {A : Set UInt32} {a : UInt32} {id : RequestId}
  {w : World}

/-- A read that is still open can be given up. -/
theorem Pending.giveUp_read (h : Pending dev m G A (.read a) id w) (ha : a ≠ gevCcp) :
    Rest m G A w := by
  refine h.close ha (Set.Subset.refl A) (fun b v heq => RegisterRequest.noConfusion heq) ?_
  rcases h.inFlight.registers with hregs | hregs
  · exact hregs
  · exact hregs

variable (dev)

theorem ensures_readRegister_rest (hm : m + 1 ≤ 65535) (ha : a ≠ gevCcp) :
    Ensures (Rest (m + 1) G A) (readRegister dev.env a) (fun v w => v = G a ∧ Rest m G A w)
      (fun _ => Rest m G A) := by
  refine Ensures.congr (n := (RegisterRequest.read a).perform dev.env) ?_
    (exec_readRegister dev.env a)
  have hperform := ensures_perform dev (r := .read a) (G := G) hm ha
    (Set.Subset.refl A) (fun b v heq => RegisterRequest.noConfusion heq)
  refine hperform.conseq (fun _ h => h) (fun v w h => ⟨h.1 a rfl, h.2⟩) ?_
  rintro _ w ⟨id, hpending⟩
  exact hpending.giveUp_read ha

/-- What the registers say about the configuration. -/
def IPConfig.ofRegisters (regs : Registers) : IPConfig where
  persistentIpEnabled := regs gevCurrentIpConfiguration &&& ipconfigPersistentIpBit ≠ 0
  dhcpEnabled := regs gevCurrentIpConfiguration &&& ipconfigDhcpBit ≠ 0
  persistentIp := regs gevPersistentIpAddress
  persistentSubnet := regs gevPersistentSubnetMask
  persistentGateway := regs gevPersistentDefaultGateway

/-- **A `readConfig` that throws is as good as none**: it only uses up its ids. -/
theorem ensures_readConfig_rest (hm : m + 4 ≤ 65535) :
    Ensures (Rest (m + 4) G A) (readConfig dev.env)
      (fun c w => c = IPConfig.ofRegisters G ∧ Rest m G A w) (fun _ => Rest m G A) := by
  have hread : ∀ {n a}, m ≤ n → n + 1 ≤ 65535 → a ≠ gevCcp →
      Ensures (Rest (n + 1) G A) (readRegister dev.env a) (fun v w => v = G a ∧ Rest n G A w)
        (fun _ => Rest m G A) := by
    intro n a hle hn ha
    exact (ensures_readRegister_rest dev hn ha).conseq (fun _ h => h) (fun _ _ h => h)
      fun _ w h => h.mono hle (Set.Subset.refl A)
  refine (hread (n := m + 3) (by omega) (by omega) (by decide)).bind fun mode =>
    Ensures.of_and fun hmode => ?_
  refine (hread (n := m + 2) (by omega) (by omega) (by decide)).bind fun ip =>
    Ensures.of_and fun hip => ?_
  refine (hread (n := m + 1) (by omega) (by omega) (by decide)).bind fun subnet =>
    Ensures.of_and fun hsubnet => ?_
  refine (hread (n := m) le_rfl (by omega) (by decide)).bind fun gateway =>
    Ensures.of_and fun hgateway => ?_
  refine ensures_pure fun w hw => ⟨?_, hw⟩
  unfold IPConfig.ofRegisters
  rw [hmode, hip, hsubnet, hgateway]

end Reads

/-! ### Writing back what was read -/

/-- The registers are the same except for the bit of link-local addresses, which is set. -/
structure Unchanged (old new : Registers) : Prop where
  mode : new gevCurrentIpConfiguration = old gevCurrentIpConfiguration ||| ipconfigLlaBit
  others : ∀ a, a ≠ gevCcp → a ≠ gevCurrentIpConfiguration → new a = old a

/-- **What was read can be written back.** -/
theorem unchanged_of_configured {old new : Registers}
    (h : Configured (IPConfig.ofRegisters old) old new) : Unchanged old new := by
  constructor
  · rw [← UInt32.toBitVec_inj, UInt32.toBitVec_or]
    apply BitVec.eq_of_getLsbD_eq
    intro i hi
    have hlla : ipconfigLlaBit.toBitVec.getLsbD i = decide (i = 2) := by
      have hpow : ipconfigLlaBit.toBitVec = BitVec.twoPow 32 2 := by decide
      rw [hpow, BitVec.getLsbD_twoPow]
      simp [eq_comm]
    have hflag : ∀ {bit : UInt32} {j : ℕ}, bit.toBitVec = BitVec.twoPow 32 j → j < 32 →
        decide (old gevCurrentIpConfiguration &&& bit ≠ 0) =
          (old gevCurrentIpConfiguration).toBitVec.getLsbD j := by
      intro bit j hbit hj
      rw [Bool.eq_iff_iff, decide_eq_true_iff, and_bit_ne_zero_iff _ hbit hj]
    rw [h.mode i hi, BitVec.getLsbD_or, hlla]
    match i with
    | 0 => exact (hflag (j := 0) (by decide) (by decide)).trans (Bool.or_false _).symm
    | 1 => exact (hflag (j := 1) (by decide) (by decide)).trans (Bool.or_false _).symm
    | 2 => exact (Bool.or_true _).symm
    | k + 3 => exact (Bool.or_false _).symm
  · intro a hccp hmode
    by_cases hip : a = gevPersistentIpAddress
    · rw [hip, h.persistentIp]
      exact ite_self _
    by_cases hsubnet : a = gevPersistentSubnetMask
    · rw [hsubnet, h.persistentSubnet]
      exact ite_self _
    by_cases hgateway : a = gevPersistentDefaultGateway
    · rw [hgateway, h.persistentGateway]
      exact ite_self _
    · refine h.others a ?_
      simp only [List.mem_cons, List.not_mem_nil, or_false, not_or]
      exact ⟨hccp, hmode, hip, hsubnet, hgateway⟩

end Gvcp
end RcDiscover
