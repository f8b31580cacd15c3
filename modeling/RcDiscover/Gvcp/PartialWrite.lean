import RcDiscover.Gvcp.RoundTrip

/-!
# What is left of a `writeConfig` that throws

On a network that loses and delays datagrams `writeConfig` can throw after a request that the device
has executed, and copies of its requests may reach the device later.

* `progress c regs k`: the registers after the first `k` settings;
* `Between G G'`: the registers are `G` or `G'`, and what is still under way leads from `G` to `G'`
  only.

`writeConfig_partial`: however the run ends, and whatever arrives later, the device has executed the
settings up to some point, in their order, and none behind it.
-/

namespace RcDiscover
namespace Gvcp

open Program

/-- The execution of the request leads from `G` to `G'` at most, and nowhere from `G'`. -/
structure Leads (G G' : Registers) (r : RegisterRequest) : Prop where
  before : ∀ regs, Set.EqOn regs G {gevCcp}ᶜ →
    Set.EqOn (r.execute regs) G {gevCcp}ᶜ ∨ Set.EqOn (r.execute regs) G' {gevCcp}ᶜ
  after : ∀ regs, Set.EqOn regs G' {gevCcp}ᶜ → Set.EqOn (r.execute regs) G' {gevCcp}ᶜ

/-- The registers are `G` or `G'`, and only go from `G` to `G'`. -/
def Between (G G' : Registers) : World → Prop :=
  InFlight (fun r _ => Leads G G' r)
    (fun regs => Set.EqOn regs G {gevCcp}ᶜ ∨ Set.EqOn regs G' {gevCcp}ᶜ) (fun _ _ => True)

section Between

variable {dev : Device} {G G' : Registers} {A : Set UInt32} {r : RegisterRequest} {m : ℕ}
  {id : RequestId} {w : World}

theorem leads_settled (h : Settled G A r) : Leads G G r :=
  ⟨fun _ hregs => .inl (h.eqOn hregs), fun _ hregs => h.eqOn hregs⟩

theorem leads_gevCcp (G G' : Registers) (v : UInt32) : Leads G G' (.write gevCcp v) :=
  ⟨fun _ hregs => .inl ((update_gevCcp_eqOn v).trans hregs),
    fun _ hregs => (update_gevCcp_eqOn v).trans hregs⟩

/-- Between two requests nothing changes any more. -/
theorem Rest.between (h : Rest m G A w) : Between G G w :=
  ⟨.inl h.inFlight.registers,
    fun p hp r id hd => leads_settled (h.inFlight.requests p hp r id hd).1, fun _ _ => trivial⟩

/-- While a request is open, at most its effect is still to come. -/
theorem Pending.between (h : Pending dev m G A r id w) (hr : Issuable A r) :
    Between G (r.execute G) w := by
  refine ⟨h.inFlight.registers, fun p hp r' id' hd => ?_, fun _ _ => trivial⟩
  rcases h.inFlight.requests p hp r' id' hd with ⟨rfl, -⟩ | ⟨hset, -⟩
  · refine ⟨fun regs hregs => .inr (execute_eqOn r' hregs), fun regs hregs => ?_⟩
    have hexec := execute_eqOn r' hregs
    rwa [execute_execute] at hexec
  · exact ⟨fun _ hregs => .inl (hset.eqOn hregs), fun _ hregs => (hset.execute hr).eqOn hregs⟩

theorem Between.netRun (dev : Device) (h : Between G G' w) (steps : List NetStep) :
    Between G G' (dev.netRun w steps) := by
  refine InFlight.netRun ?_ h steps
  rintro r - regs hr hregs
  refine ⟨?_, trivial, fun _ _ => trivial⟩
  rcases hregs with hregs | hregs
  · exact hr.before regs hregs
  · exact .inr (hr.after regs hregs)

/-- What has been reached is kept. -/
theorem Between.netRun_arrived (dev : Device) (h : Between G G' w)
    (hregs : Set.EqOn w.registers G' {gevCcp}ᶜ) (steps : List NetStep) :
    Set.EqOn (dev.netRun w steps).registers G' {gevCcp}ᶜ := by
  have hin : InFlight (fun r _ => Leads G G' r) (fun regs => Set.EqOn regs G' {gevCcp}ᶜ)
      (fun _ _ => True) w := ⟨hregs, h.requests, fun _ _ => trivial⟩
  refine (hin.netRun ?_ steps).registers
  rintro r - regs hr hregs
  exact ⟨hr.after regs hregs, trivial, fun _ _ => trivial⟩

/-- The retry loop of a request that leads nowhere else. -/
theorem ensures_attemptLoop_between (dev : Device) (hr : Leads G G' r) (id : RequestId) (n : ℕ) :
    Ensures (Between G G') (attemptLoop dev.env r.cmd r.ackCmd r.address id (r.datagram id) n)
      (fun _ => Between G G') (fun _ => Between G G') := by
  induction n with
  | zero => exact ensures_throw fun _ h => h
  | succ n ih =>
    intro w hw
    rw [exec_attemptLoop_succ]
    have hsend : Between G G' { w with
        toDevice := w.toDevice ++ [r.datagram id]
        ticks := w.ticks + 1 } := by
      refine ⟨hw.registers, fun p hp r' id' hd => ?_, fun _ _ => trivial⟩
      rcases List.mem_append.1 hp with hp | hp
      · exact hw.requests p hp r' id' hd
      · rw [List.mem_singleton.1 hp, RegisterRequest.decode_datagram] at hd
        cases hd
        exact hr
    have hsel := hsend.netRun dev (w.schedule w.ticks)
    simp only [Device.env_send, Device.env_select]
    generalize dev.netRun { w with
        toDevice := w.toDevice ++ [r.datagram id]
        ticks := w.ticks + 1 } (w.schedule w.ticks) = w₂ at hsel ⊢
    rcases hin : w₂.inbox with _ | ⟨p, rest⟩
    · exact ih w₂ hsel
    have hrecv : Between G G' { w₂ with inbox := rest } :=
      ⟨hsel.registers, hsel.requests, fun _ _ => trivial⟩
    simp only [List.isEmpty_cons, Bool.not_false, dev.env_recvfrom_cons hin]
    rcases checkReply r.cmd r.ackCmd r.address id (p.take 600) with _ | e | body
    · exact ih _ hrecv
    · exact hrecv
    · exact hrecv

/-- The release does not touch anything else. -/
theorem ensures_releaseControl_between (dev : Device) :
    Ensures (Between G G') (releaseControl dev.env) (fun _ => Between G G')
      (fun _ => Between G G') := by
  have hwrite : Ensures (Between G G') (writeRegister dev.env gevCcp 0) (fun _ => Between G G')
      (fun _ => Between G G') := by
    refine Ensures.bind (Q := fun _ => Between G G') ?_ fun _ => ensures_pure fun _ h => h
    refine Ensures.bind (Q := fun _ => Between G G') (ensures_ofState fun w h => ?_) fun id => ?_
    · exact ⟨h.registers, h.requests, fun _ _ => trivial⟩
    · exact ensures_attemptLoop_between dev (leads_gevCcp G G' 0) id 3
  exact Ensures.tryCatch hwrite fun _ => ensures_pure fun _ h => h

end Between

/-! ### The settings, one after the other -/

/-- The registers after the first `k` settings. -/
def progress (c : IPConfig) (regs : Registers) (k : ℕ) : Registers :=
  ((settings c (regs gevCurrentIpConfiguration)).take k).foldl (fun regs r => r.execute regs) regs

/-- The settings have been executed up to some point, and another one may still come. -/
def Partial (c : IPConfig) (regs : Registers) (w : World) : Prop :=
  ∃ k k', k ≤ k' ∧ Between (progress c regs k) (progress c regs k') w

section Settings

variable (dev : Device) {m : ℕ} {G : Registers} {A B : Set UInt32}

theorem ensures_readRegister_between {a : UInt32} (hm : m + 1 ≤ 65535) (ha : a ≠ gevCcp) :
    Ensures (Rest (m + 1) G A) (readRegister dev.env a) (fun v w => v = G a ∧ Rest m G A w)
      (fun _ => Between G G) := by
  refine Ensures.congr (n := (RegisterRequest.read a).perform dev.env) ?_
    (exec_readRegister dev.env a)
  have hperform := ensures_perform dev (r := .read a) (G := G) hm ha
    (Set.Subset.refl A) (fun _ _ h => by cases h)
  refine hperform.conseq (fun _ h => h) ?_ ?_
  · rintro v w ⟨hv, hw⟩
    exact ⟨hv a rfl, hw⟩
  · rintro _ w ⟨id, hw⟩
    exact hw.between ha

theorem ensures_writeRegister_between {a v : UInt32} (hm : m + 1 ≤ 65535) (ha : a ∉ A)
    (hA : A ⊆ B) (htarget : a = gevCcp ∨ a ∈ B) :
    Ensures (Rest (m + 1) G A) (writeRegister dev.env a v)
      (fun _ => Rest m (Function.update G a v) B)
      (fun _ => Between G (Function.update G a v)) := by
  refine (ensures_writeRegister dev hm ha hA htarget).conseq (fun _ h => h) (fun _ _ h => h) ?_
  rintro _ w ⟨id, hw⟩
  exact hw.between ha

variable {c : IPConfig} {regs : Registers} {k : ℕ}

/-- A setting that writes a register. -/
theorem ensures_setting {a v : UInt32} (hG : progress c regs k = G)
    (hG' : progress c regs (k + 1) = Function.update G a v) (hm : m + 1 ≤ 65535) (ha : a ∉ A)
    (hA : A ⊆ B) (htarget : a ∈ B) :
    Ensures (Rest (m + 1) G A) (writeRegister dev.env a v)
      (fun _ => Rest m (Function.update G a v) B) (fun _ => Partial c regs) := by
  refine (ensures_writeRegister_between dev hm ha hA (.inr htarget)).conseq (fun _ h => h)
    (fun _ _ h => h) fun _ w h => ⟨k, k + 1, Nat.le_succ k, ?_⟩
  rw [hG, hG']
  exact h

/-- The last two settings. -/
theorem ensures_modeSettings_progress (hG : progress c regs k = G)
    (hread : progress c regs (k + 1) = G)
    (hwrite : progress c regs (k + 2) = Function.update G gevCurrentIpConfiguration
      (newMode c (G gevCurrentIpConfiguration))) (hm : m + 2 ≤ 65535) :
    Ensures (Rest (m + 2) G persistentRegisters)
      (readRegister dev.env gevCurrentIpConfiguration >>= fun mode =>
        writeRegister dev.env gevCurrentIpConfiguration (newMode c mode))
      (fun _ => Rest m (Function.update G gevCurrentIpConfiguration
          (newMode c (G gevCurrentIpConfiguration)))
        (insert gevCurrentIpConfiguration persistentRegisters))
      (fun _ => Partial c regs) := by
  refine Ensures.bind (Q := fun v w => v = G gevCurrentIpConfiguration ∧
    Rest (m + 1) G persistentRegisters w) ?_ fun mode => ?_
  · refine (ensures_readRegister_between dev (m := m + 1) (by omega) (by decide)).conseq
      (fun _ h => h) (fun _ _ h => h) fun _ w h => ⟨k, k, le_rfl, ?_⟩
    rw [hG]
    exact h
  · refine Ensures.of_and fun hmode => ?_
    rw [hmode]
    refine ensures_setting dev (k := k + 1) hread hwrite (by omega) ?_ (Set.subset_insert _ _)
      (Set.mem_insert _ _)
    simp [persistentRegisters, gevCurrentIpConfiguration, gevPersistentIpAddress,
      gevPersistentSubnetMask, gevPersistentDefaultGateway]

/-- The registers after one more setting. -/
theorem progress_succ {r : RegisterRequest}
    (hr : (settings c (regs gevCurrentIpConfiguration))[k]? = some r) :
    progress c regs (k + 1) = r.execute (progress c regs k) := by
  unfold progress
  rw [List.take_add_one, hr, List.foldl_append]
  rfl

theorem progress_zero : progress c regs 0 = regs := rfl

/-- The settings end in the configured registers. -/
theorem progress_of_le (hk : (settings c (regs gevCurrentIpConfiguration)).length ≤ k) :
    progress c regs k = configured c regs := by
  unfold progress configured
  rw [List.take_of_length_le hk]

theorem ensures_writeSettings_progress (hm : m + 5 ≤ 65535) :
    Ensures (Rest (m + 5) G ∅) (writeSettings dev.env c)
      (fun _ => Rest m (configured c G) (insert gevCurrentIpConfiguration persistentRegisters))
      (fun _ => Partial c G) := by
  have hlast : ∀ k, (settings c (G gevCurrentIpConfiguration)).length ≤ k →
      progress c G k = configured c G := fun k => progress_of_le
  unfold writeSettings
  cases hc : c.persistentIpEnabled with
  | false =>
    have hsettings : settings c (G gevCurrentIpConfiguration) =
        [.read gevCurrentIpConfiguration, .write gevCurrentIpConfiguration
          (newMode c (G gevCurrentIpConfiguration))] := by
      simp [settings, hc]
    have hread : progress c G 1 = G := progress_succ (k := 0) (by rw [hsettings]; rfl)
    have hwrite : progress c G 2 =
        Function.update (progress c G 1) gevCurrentIpConfiguration
          (newMode c (G gevCurrentIpConfiguration)) :=
      progress_succ (k := 1) (by rw [hsettings]; rfl)
    rw [hread] at hwrite
    rw [← hlast 2 (by rw [hsettings]; rfl), hwrite]
    simp only [Bool.false_eq_true, if_false]
    exact (ensures_modeSettings_progress dev progress_zero hread hwrite (by omega)).conseq
      (fun w hw => hw.mono (by omega) (Set.empty_subset _)) (fun _ _ h => h) fun _ _ h => h
  | true =>
    have hsettings : settings c (G gevCurrentIpConfiguration) =
        [.write gevPersistentIpAddress c.persistentIp,
          .write gevPersistentSubnetMask c.persistentSubnet,
          .write gevPersistentDefaultGateway c.persistentGateway,
          .read gevCurrentIpConfiguration, .write gevCurrentIpConfiguration
            (newMode c (G gevCurrentIpConfiguration))] := by
      simp [settings, hc]
    have hip : progress c G 1 = Function.update G gevPersistentIpAddress c.persistentIp :=
      progress_succ (k := 0) (by rw [hsettings]; rfl)
    have hsubnet : progress c G 2 =
        Function.update (progress c G 1) gevPersistentSubnetMask c.persistentSubnet :=
      progress_succ (k := 1) (by rw [hsettings]; rfl)
    have hgateway : progress c G 3 =
        Function.update (progress c G 2) gevPersistentDefaultGateway c.persistentGateway :=
      progress_succ (k := 2) (by rw [hsettings]; rfl)
    have hread : progress c G 4 = progress c G 3 :=
      progress_succ (k := 3) (by rw [hsettings]; rfl)
    -- the mode has not been written yet
    have hmode : progress c G 3 gevCurrentIpConfiguration = G gevCurrentIpConfiguration := by
      rw [hgateway, Function.update_of_ne (by decide), hsubnet, Function.update_of_ne (by decide),
        hip, Function.update_of_ne (by decide)]
    have hwrite : progress c G 5 = Function.update (progress c G 3) gevCurrentIpConfiguration
        (newMode c (progress c G 3 gevCurrentIpConfiguration)) := by
      rw [hmode, ← hread]
      exact progress_succ (k := 4) (by rw [hsettings]; rfl)
    rw [← hlast 5 (by rw [hsettings]; rfl), hwrite]
    simp only [if_true]
    refine (ensures_setting dev (B := {gevPersistentIpAddress}) (m := m + 4) progress_zero hip
      (by omega) (by simp) (by simp) (by simp)).bind fun _ => ?_
    rw [← hip]
    refine (ensures_setting dev (B := {gevPersistentIpAddress, gevPersistentSubnetMask})
      (m := m + 3) rfl hsubnet (by omega) (by simp; decide) (by simp) (by simp)).bind fun _ => ?_
    rw [← hsubnet]
    refine (ensures_setting dev (B := persistentRegisters) (m := m + 2) rfl hgateway (by omega)
      (by simp; decide) (by simp [persistentRegisters, Set.insert_subset_iff])
      (by simp [persistentRegisters])).bind fun _ => ?_
    rw [← hgateway]
    exact ensures_modeSettings_progress dev rfl hread hwrite (by omega)

/-- **Every run of `writeConfig`** ends with the settings executed up to some point. -/
theorem ensures_writeConfig_progress (hm : m + 7 ≤ 65535) :
    Ensures (Rest (m + 7) G ∅) (writeConfig dev.env c)
      (fun _ => Between (configured c G) (configured c G)) (fun _ => Partial c G) := by
  have hclaim : Ensures (Rest (m + 7) G ∅) (writeRegister dev.env gevCcp 1)
      (fun _ => Rest (m + 6) G ∅) (fun _ => Partial c G) := by
    refine (ensures_writeRegister dev (A := ∅) (B := ∅) (m := m + 6) (by omega) (by simp) (by simp)
      (.inl rfl)).conseq (fun _ h => h) (fun _ w h => h.congr (update_gevCcp_eqOn 1)) ?_
    rintro _ w ⟨id, h⟩
    exact ⟨0, 0, le_rfl, (h.giveUp (Set.notMem_empty _)).between⟩
  refine hclaim.bind fun _ => ?_
  refine Ensures.bind (Q := fun _ => Rest (m + 1) (configured c G)
    (insert gevCurrentIpConfiguration persistentRegisters)) ?_ fun _ => ?_
  · refine Ensures.tryCatch (F := fun _ => Partial c G)
      (ensures_writeSettings_progress dev (m := m + 1) (by omega)) fun e => ?_
    -- the handler releases the control and throws on
    refine Ensures.bind (Q := fun _ => Partial c G) ?_ fun _ => ensures_throw fun _ h => h
    rintro w ⟨k, k', hk, h⟩
    exact (ensures_releaseControl_between dev).conseq (fun _ h => h) (fun _ _ h => ⟨k, k', hk, h⟩)
      (fun _ _ h => ⟨k, k', hk, h⟩) w h
  · refine (ensures_releaseControl_between dev).conseq (fun _ h => h.between) (fun _ _ h => h)
      fun _ w h => ?_
    rw [← progress_of_le le_rfl] at h
    exact ⟨_, _, le_rfl, h⟩

end Settings

/-- Before the last setting the mode register holds what it held. -/
theorem progress_mode {c : IPConfig} {regs : Registers} {k : ℕ}
    (hk : k < (settings c (regs gevCurrentIpConfiguration)).length) :
    progress c regs k gevCurrentIpConfiguration = regs gevCurrentIpConfiguration := by
  have hmode : gevCurrentIpConfiguration ∉ persistentRegisters := by
    simp [persistentRegisters, gevCurrentIpConfiguration, gevPersistentIpAddress,
      gevPersistentSubnetMask, gevPersistentDefaultGateway]
  simp only [persistentRegisters, Set.mem_insert_iff, Set.mem_singleton_iff, not_or] at hmode
  unfold progress
  unfold settings at hk ⊢
  cases hc : c.persistentIpEnabled with
  | false =>
    simp only [hc, Bool.false_eq_true, if_false, List.nil_append, List.length_cons,
      List.length_nil] at hk
    interval_cases k <;> simp [RegisterRequest.execute]
  | true =>
    simp only [hc, if_true, List.length_append, List.length_cons, List.length_nil] at hk
    interval_cases k <;> simp [RegisterRequest.execute, hmode]

/-- **A `writeConfig` that throws has stored the first settings at most.**  However the run ends, at
any later moment the device has executed the settings up to some point, in their order and none
behind it, and it goes on from there only; it may stay between the old configuration and the new
one.  When the run returns, all of them are executed, and so they are once the mode register has
changed. -/
theorem writeConfig_partial (dev : Device) (c : IPConfig) (regs : Registers) (counter : UInt16)
    (schedule : ℕ → List NetStep) (early late : List NetStep) :
    let r := exec (writeConfig dev.env c) (World.start regs counter schedule)
    (∃ k k', k ≤ k' ∧ Set.EqOn (dev.netRun r.2 early).registers (progress c regs k) {gevCcp}ᶜ ∧
      Set.EqOn (dev.netRun r.2 (early ++ late)).registers (progress c regs k') {gevCcp}ᶜ ∧
      (r.1 = .ok () → k = (settings c (regs gevCurrentIpConfiguration)).length)) ∧
    ((dev.netRun r.2 early).registers gevCurrentIpConfiguration ≠ regs gevCurrentIpConfiguration →
      Configured c regs (dev.netRun r.2 early).registers) := by
  intro r
  suffices hprogress : ∃ k k', k ≤ k' ∧
      Set.EqOn (dev.netRun r.2 early).registers (progress c regs k) {gevCcp}ᶜ ∧
      Set.EqOn (dev.netRun r.2 (early ++ late)).registers (progress c regs k') {gevCcp}ᶜ ∧
      (r.1 = .ok () → k = (settings c (regs gevCurrentIpConfiguration)).length) by
    refine ⟨hprogress, fun hchanged => ?_⟩
    obtain ⟨k, -, -, hregs, -⟩ := hprogress
    have hall : (settings c (regs gevCurrentIpConfiguration)).length ≤ k := by
      by_contra hk
      have hmode : (dev.netRun r.2 early).registers gevCurrentIpConfiguration =
          progress c regs k gevCurrentIpConfiguration := hregs (by decide)
      exact hchanged (hmode.trans (progress_mode (Nat.lt_of_not_le hk)))
    rw [progress_of_le hall] at hregs
    exact configured_spec c regs hregs
  have hstart := World.start_rest regs counter schedule 7
  have hensures := ensures_writeConfig_progress dev (m := 0) (c := c) (G := regs) (by omega)
  have hlate : dev.netRun r.2 (early ++ late) = dev.netRun (dev.netRun r.2 early) late :=
    List.foldl_append
  rw [hlate]
  rcases hrun : r with ⟨e | ⟨⟩, w⟩
  · obtain ⟨k, k', hk, hbetween⟩ := hensures.error hstart hrun
    have hearly := hbetween.netRun dev early
    rcases hearly.registers with hregs | hregs
    · rcases (hearly.netRun dev late).registers with hregs' | hregs'
      · exact ⟨k, k, le_rfl, hregs, hregs', nofun⟩
      · exact ⟨k, k', hk, hregs, hregs', nofun⟩
    · exact ⟨k', k', le_rfl, hregs, hearly.netRun_arrived dev hregs late, nofun⟩
  · have hbetween := hensures.ok hstart hrun
    rw [← progress_of_le le_rfl] at hbetween
    have hearly := hbetween.netRun dev early
    have hregs := or_self_iff.mp hearly.registers
    exact ⟨_, _, le_rfl, hregs, hearly.netRun_arrived dev hregs late, fun _ => rfl⟩

end Gvcp
end RcDiscover
