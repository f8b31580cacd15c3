import RcDiscover.Gvcp.Device
import RcDiscover.Gvcp.Discipline

/-!
# Writing a configuration and reading it back

On a network that loses and delays datagrams a request may be executed up to three times, and
copies of it and of its acknowledges may still be under way when the client goes on.  `Rest`
says that none of this matters between two requests: what is still under way would store what
the registers hold anyway, and no acknowledge under way has an id that comes next.  `Pending`
is the invariant while a request waits for its acknowledge.

`GevCCP` is the only register that is written twice with different values, so it is left out
of what `Rest` says about the registers.
-/

namespace RcDiscover
namespace Gvcp

open Program GigERequestCounter

/-! ### Between two requests -/

/-- The execution of the request does not change registers that agree with `G`, except for
`GevCCP`; what it writes is in `A`. -/
def Settled (G : Registers) (A : Set UInt32) : RegisterRequest → Prop
  | .read _ => True
  | .write a v => a = gevCcp ∨ a ∈ A ∧ G a = v

/-- No request of the client is open: the registers are `G`, and so they remain, with `m` more
ids to come that are not under way. -/
structure Rest (m : ℕ) (G : Registers) (A : Set UInt32) (w : World) : Prop where
  counter_le : w.counter ≤ 65535
  inFlight : InFlight (fun r id => Settled G A r ∧ ¬ Upcoming w.counter m id)
    (fun regs => Set.EqOn regs G {gevCcp}ᶜ) (fun _ p => ¬ Upcoming w.counter m (replyId p)) w

/-- The request `r` with the given id is open.  An acknowledge with this id is one of `r`, and
then `r` has been executed. -/
structure Pending (dev : Device) (m : ℕ) (G : Registers) (A : Set UInt32) (r : RegisterRequest)
    (id : RequestId) (w : World) : Prop where
  counter_le : w.counter ≤ 65535
  id_used : ¬ Upcoming w.counter m id
  inFlight : InFlight
    (fun r' id' => (r' = r ∧ id' = id) ∨
      (Settled G A r' ∧ id' ≠ id ∧ ¬ Upcoming w.counter m id'))
    (fun regs => Set.EqOn regs G {gevCcp}ᶜ ∨ Set.EqOn regs (r.execute G) {gevCcp}ᶜ)
    (fun regs p => (replyId p ≠ id ∧ ¬ Upcoming w.counter m (replyId p)) ∨
      (p = dev.acknowledge (r.execute G) r id ∧ Set.EqOn regs (r.execute G) {gevCcp}ᶜ)) w

/-- The request can be issued when the registers in `A` have been written: it does not write one
of them again, and does not read `GevCCP`. -/
def Issuable (A : Set UInt32) : RegisterRequest → Prop
  | .read a => a ≠ gevCcp
  | .write a _ => a ∉ A

theorem execute_eqOn {f g : Registers} (r : RegisterRequest) {s : Set UInt32}
    (h : Set.EqOn f g s) : Set.EqOn (r.execute f) (r.execute g) s := by
  intro b hb
  cases r with
  | read a => exact h hb
  | write a v =>
    simp only [RegisterRequest.execute, Function.update_apply]
    split_ifs
    · rfl
    · exact h hb

namespace Settled

variable {G G' : Registers} {A B : Set UInt32} {r r' : RegisterRequest}

theorem eqOn (h : Settled G A r) {regs : Registers} (hG : Set.EqOn regs G {gevCcp}ᶜ) :
    Set.EqOn (r.execute regs) G {gevCcp}ᶜ := by
  intro b hb
  cases r with
  | read a => exact hG hb
  | write a v =>
    simp only [RegisterRequest.execute, Function.update_apply]
    split_ifs with hab
    · subst hab
      rcases h with rfl | ⟨-, rfl⟩
      · exact absurd rfl hb
      · rfl
    · exact hG hb

theorem mono (h : Settled G A r) (hA : A ⊆ B) (hG : Set.EqOn G G' {gevCcp}ᶜ) :
    Settled G' B r := by
  cases r with
  | read a => trivial
  | write a v =>
    by_cases ha : a = gevCcp
    · exact .inl ha
    · rcases h with h | ⟨haA, rfl⟩
      · exact absurd h ha
      · exact .inr ⟨hA haA, (hG ha).symm⟩

/-- A request that writes no register of `A` leaves settled what is. -/
theorem execute (h : Settled G A r') (hr : Issuable A r) : Settled (r.execute G) A r' := by
  cases r with
  | read a => exact h
  | write a v =>
    cases r' with
    | read b => trivial
    | write b u =>
      refine h.imp_right fun ⟨hb, hu⟩ => ⟨hb, ?_⟩
      have hne : b ≠ a := fun he => hr (he ▸ hb)
      simpa [RegisterRequest.execute, hne] using hu

end Settled

section Invariants

variable {dev : Device} {m : ℕ} {G G' : Registers} {A B : Set UInt32} {r : RegisterRequest}
  {id : RequestId} {w : World}

theorem acknowledge_congr {f g : Registers} (hr : Issuable A r)
    (h : Set.EqOn f g {gevCcp}ᶜ) : dev.acknowledge f r id = dev.acknowledge g r id := by
  cases r with
  | read a =>
    simp only [Device.acknowledge, Device.reply, h (show a ∈ ({gevCcp}ᶜ : Set UInt32) from hr)]
  | write a v => rfl

/-- The network keeps `Rest`. -/
theorem Rest.netRun (dev : Device) (h : Rest m G A w) (steps : List NetStep) :
    Rest m G A (dev.netRun w steps) := by
  refine ⟨by simpa using h.counter_le, ?_⟩
  rw [Device.netRun_counter]
  refine h.inFlight.netRun ?_ steps
  rintro r id regs ⟨hset, hid⟩ hregs
  exact ⟨hset.eqOn hregs, hid, fun p hp => hp⟩

/-- The network keeps `Pending`. -/
theorem Pending.netRun (hr : Issuable A r) (h : Pending dev m G A r id w) (steps : List NetStep) :
    Pending dev m G A r id (dev.netRun w steps) := by
  refine ⟨by simpa using h.counter_le, by simpa using h.id_used, ?_⟩
  rw [Device.netRun_counter]
  refine h.inFlight.netRun ?_ steps
  rintro r' id' regs (⟨rfl, rfl⟩ | ⟨hset, hne, hid⟩) hregs
  · -- one more copy of the open request
    have hexec : Set.EqOn (r'.execute regs) (r'.execute G) {gevCcp}ᶜ := by
      rcases hregs with hregs | hregs
      · exact execute_eqOn r' hregs
      · simpa using execute_eqOn r' hregs
    exact ⟨.inr hexec, .inr ⟨acknowledge_congr hr hexec, hexec⟩,
      fun p hp => hp.imp_right fun hp => ⟨hp.1, hexec⟩⟩
  · -- a late copy of an earlier one
    refine ⟨hregs.imp hset.eqOn (hset.execute hr).eqOn, .inl ⟨hne, hid⟩, fun p hp => ?_⟩
    exact hp.imp_right fun hp => ⟨hp.1, (hset.execute hr).eqOn hp.2⟩

/-- Taking an id opens a request. -/
theorem Rest.pending (hm : m + 1 ≤ 65535) (h : Rest (m + 1) G A w) :
    Pending dev m G A r (getNext w.counter).1 { w with counter := (getNext w.counter).2 } := by
  have hid : ∀ {id : RequestId}, ¬ Upcoming w.counter (m + 1) id →
      id ≠ (getNext w.counter).1 ∧ ¬ Upcoming (getNext w.counter).2 m id := by
    intro id hid
    refine ⟨fun he => hid (he ▸ upcoming_getNext w.counter m), fun hup => hid ?_⟩
    exact upcoming_of_next hup
  refine ⟨nextValue_le h.counter_le, not_upcoming_getNext h.counter_le (by omega), ?_⟩
  obtain ⟨hregs, hreqs, hreplies⟩ := h.inFlight
  refine ⟨.inl hregs, fun p hp r' id' hd => .inr ?_, fun p hp => .inl (hid (hreplies p hp))⟩
  obtain ⟨hset, hup⟩ := hreqs p hp r' id' hd
  exact ⟨hset, hid hup⟩

/-- An open request that has been executed can be closed. -/
theorem Pending.close (h : Pending dev m G A r id w) (hr : Issuable A r) (hA : A ⊆ B)
    (htarget : ∀ a v, r = .write a v → a = gevCcp ∨ a ∈ B)
    (hregs : Set.EqOn w.registers (r.execute G) {gevCcp}ᶜ) : Rest m (r.execute G) B w := by
  obtain ⟨-, hreqs, hreplies⟩ := h.inFlight
  refine ⟨h.counter_le, hregs, fun p hp r' id' hd => ?_, fun p hp => ?_⟩
  · rcases hreqs p hp r' id' hd with ⟨rfl, rfl⟩ | ⟨hset, -, hup⟩
    · refine ⟨?_, h.id_used⟩
      cases r' with
      | read a => trivial
      | write a v =>
        exact (htarget a v rfl).imp_right fun ha => ⟨ha, by simp [RegisterRequest.execute]⟩
    · exact ⟨(hset.execute hr).mono hA fun _ _ => rfl, hup⟩
  · rcases hreplies p hp with ⟨-, hup⟩ | ⟨rfl, -⟩
    · exact hup
    · exact h.id_used

/-- An open request that only writes `GevCCP` can be given up. -/
theorem Pending.giveUp {v : UInt32} (h : Pending dev m G A (.write gevCcp v) id w)
    (hccp : gevCcp ∉ A) : Rest m G A w := by
  have hG : Set.EqOn ((RegisterRequest.write gevCcp v).execute G) G {gevCcp}ᶜ := by
    intro b hb
    exact Function.update_of_ne hb _ _
  have hregs : Set.EqOn w.registers ((RegisterRequest.write gevCcp v).execute G) {gevCcp}ᶜ := by
    rcases h.inFlight.registers with hw | hw
    · exact hw.trans hG.symm
    · exact hw
  obtain ⟨hle, -, hreqs, hreplies⟩ := h.close hccp (Set.Subset.refl A)
    (fun a v h => .inl (by cases h; rfl)) hregs
  refine ⟨hle, hregs.trans hG, fun p hp r' id' hd => ?_, hreplies⟩
  obtain ⟨hset, hup⟩ := hreqs p hp r' id' hd
  exact ⟨hset.mono (Set.Subset.refl A) hG, hup⟩

/-- Sending a copy of the open request. -/
theorem Pending.send (h : Pending dev m G A r id w) :
    Pending dev m G A r id { w with toDevice := w.toDevice ++ [r.datagram id] } := by
  refine ⟨h.counter_le, h.id_used, h.inFlight.registers, fun p hp r' id' hd => ?_,
    h.inFlight.replies⟩
  rcases List.mem_append.1 hp with hp | hp
  · exact h.inFlight.requests p hp r' id' hd
  · rw [List.mem_singleton.1 hp, RegisterRequest.decode_datagram] at hd
    cases hd
    exact .inl ⟨rfl, rfl⟩

end Invariants

/-! ### Requests -/

section Requests

variable (dev : Device) {m : ℕ} {G : Registers} {A B : Set UInt32}

/-- The retry loop ends with the acknowledge of its own request, or gives up. -/
theorem ensures_attemptLoop {r : RegisterRequest} (id : RequestId) (hr : Issuable A r) (n : ℕ) :
    Ensures (Pending dev m G A r id)
      (attemptLoop dev.env r.cmd r.ackCmd r.address id (r.datagram id) n)
      (fun body w => (body = dev.reply (r.execute G) r ∧
        Set.EqOn w.registers (r.execute G) {gevCcp}ᶜ) ∧ Pending dev m G A r id w)
      (fun _ => Pending dev m G A r id) := by
  induction n with
  | zero => exact ensures_throw fun _ h => h
  | succ n ih =>
    intro w hw
    rw [exec_attemptLoop_succ]
    obtain ⟨hle, hused, hregs, hreqs, hreplies⟩ := hw.send
    have hsel := Pending.netRun (w := { w with
        toDevice := w.toDevice ++ [r.datagram id]
        ticks := w.ticks + 1 }) hr ⟨hle, hused, hregs, hreqs, hreplies⟩ (w.schedule w.ticks)
    simp only [Device.env_send, Device.env_select]
    generalize dev.netRun { w with
        toDevice := w.toDevice ++ [r.datagram id]
        ticks := w.ticks + 1 } (w.schedule w.ticks) = w₂ at hsel ⊢
    rcases hin : w₂.inbox with _ | ⟨p, rest⟩
    · exact ih w₂ hsel
    have hrecv : Pending dev m G A r id { w₂ with inbox := rest } := by
      obtain ⟨hle, hused, hregs, hreqs, hreplies⟩ := hsel
      refine ⟨hle, hused, hregs, hreqs, fun q hq => hreplies q ?_⟩
      simp only [hin, List.mem_append, List.mem_cons] at hq ⊢
      tauto
    simp only [List.isEmpty_cons, Bool.not_false, dev.env_recvfrom_cons hin]
    rcases hsel.inFlight.replies p (by simp [hin]) with ⟨hne, -⟩ | ⟨rfl, hregs⟩
    · -- a late acknowledge of an earlier request
      have hnone : checkReply r.cmd r.ackCmd r.address id (p.take 600) = none := by
        by_contra h
        exact hne (replyId_eq_of_checkReply h)
      simp only [hnone]
      exact ih _ hrecv
    · simp only [dev.checkReply_acknowledge]
      exact ⟨⟨trivial, hregs⟩, hrecv⟩

/-- A request that ends well has been executed. -/
theorem ensures_perform {r : RegisterRequest} (hm : m + 1 ≤ 65535) (hr : Issuable A r)
    (hA : A ⊆ B) (htarget : ∀ a v, r = .write a v → a = gevCcp ∨ a ∈ B) :
    Ensures (Rest (m + 1) G A) (r.perform dev.env)
      (fun v w => (∀ a, r = .read a → v = G a) ∧ Rest m (r.execute G) B w)
      (fun _ w => ∃ id, Pending dev m G A r id w) := by
  have hsend : Ensures (Rest (m + 1) G A)
      (sendAndReceive dev.env r.cmd r.ackCmd r.address r.payload)
      (fun body w => body = dev.reply (r.execute G) r ∧ Rest m (r.execute G) B w)
      (fun _ w => ∃ id, Pending dev m G A r id w) := by
    refine Ensures.bind (Q := fun id => Pending dev m G A r id)
      (ensures_ofState fun w hw => hw.pending hm) fun id => ?_
    refine (ensures_attemptLoop dev id hr 3).conseq (fun _ h => h) ?_ fun _ _ h => ⟨id, h⟩
    rintro body w ⟨⟨hbody, hregs⟩, hw⟩
    exact ⟨hbody, hw.close hr hA htarget hregs⟩
  refine hsend.bind fun body => Ensures.of_and fun hbody => ?_
  intro w hw
  rw [exec_ofExcept, hbody, dev.accept_reply]
  refine ⟨fun a ha => ?_, hw⟩
  subst ha
  rfl

theorem ensures_readRegister {a : UInt32} (hm : m + 1 ≤ 65535) (ha : a ≠ gevCcp) :
    Ensures (Rest (m + 1) G A) (readRegister dev.env a) (fun v w => v = G a ∧ Rest m G A w)
      (fun _ _ => True) := by
  refine Ensures.congr (n := (RegisterRequest.read a).perform dev.env) ?_
    (exec_readRegister dev.env a)
  have hperform := ensures_perform dev (r := .read a) (G := G) hm ha
    (Set.Subset.refl A) (fun _ _ h => by cases h)
  refine hperform.conseq (fun _ h => h) ?_ fun _ _ _ => trivial
  rintro v w ⟨hv, hw⟩
  exact ⟨hv a rfl, hw⟩

theorem ensures_writeRegister {a v : UInt32} (hm : m + 1 ≤ 65535) (ha : a ∉ A) (hA : A ⊆ B)
    (htarget : a = gevCcp ∨ a ∈ B) :
    Ensures (Rest (m + 1) G A) (writeRegister dev.env a v)
      (fun _ => Rest m (Function.update G a v) B)
      (fun _ w => ∃ id, Pending dev m G A (.write a v) id w) := by
  have hperform := ensures_perform dev (r := .write a v) (G := G) hm ha hA
    (fun b u h => by cases h; exact htarget)
  intro w hw
  rw [exec_writeRegister]
  rcases hx : exec ((RegisterRequest.write a v).perform dev.env) w with ⟨e | u, t⟩
  · exact hperform.error hw hx
  · exact (hperform.ok hw hx).2

/-- What holds after a write that returns. -/
theorem ensures_writeRegister_ok {a v : UInt32} (hm : m + 1 ≤ 65535) (ha : a ∉ A) (hA : A ⊆ B)
    (htarget : a = gevCcp ∨ a ∈ B) :
    Ensures (Rest (m + 1) G A) (writeRegister dev.env a v)
      (fun _ => Rest m (Function.update G a v) B) (fun _ _ => True) :=
  (ensures_writeRegister dev hm ha hA htarget).conseq (fun _ h => h) (fun _ _ h => h)
    fun _ _ _ => trivial

end Requests

/-! ### `writeConfig` and `readConfig` -/

/-- The registers after the settings of `c`. -/
def configured (c : IPConfig) (regs : Registers) : Registers :=
  (settings c (regs gevCurrentIpConfiguration)).foldl (fun regs r => r.execute regs) regs

/-- The persistent registers. -/
def persistentRegisters : Set UInt32 :=
  {gevPersistentIpAddress, gevPersistentSubnetMask, gevPersistentDefaultGateway}

section Config

variable (dev : Device) {m : ℕ} {G G' : Registers} {A B : Set UInt32} {w : World}

theorem Rest.mono {m' : ℕ} (h : Rest m' G A w) (hm : m ≤ m') (hA : A ⊆ B) : Rest m G B w := by
  refine ⟨h.counter_le, h.inFlight.registers, fun p hp r id hd => ?_, fun p hp hup => ?_⟩
  · obtain ⟨hset, hid⟩ := h.inFlight.requests p hp r id hd
    exact ⟨hset.mono hA fun _ _ => rfl, fun hup => hid (upcoming_mono hm hup)⟩
  · exact h.inFlight.replies p hp (upcoming_mono hm hup)

/-- `GevCCP` is left out of what `Rest` says. -/
theorem Rest.congr (h : Rest m G A w) (hG : Set.EqOn G G' {gevCcp}ᶜ) : Rest m G' A w := by
  refine ⟨h.counter_le, h.inFlight.registers.trans hG, fun p hp r id hd => ?_, h.inFlight.replies⟩
  obtain ⟨hset, hid⟩ := h.inFlight.requests p hp r id hd
  exact ⟨hset.mono (Set.Subset.refl A) hG, hid⟩

theorem update_gevCcp_eqOn (v : UInt32) : Set.EqOn (Function.update G gevCcp v) G {gevCcp}ᶜ :=
  fun _ hb => Function.update_of_ne hb _ _

theorem ensures_modeSettings (c : IPConfig) (hm : m + 2 ≤ 65535) :
    Ensures (Rest (m + 2) G persistentRegisters)
      (readRegister dev.env gevCurrentIpConfiguration >>= fun mode =>
        writeRegister dev.env gevCurrentIpConfiguration (newMode c mode))
      (fun _ => Rest m (Function.update G gevCurrentIpConfiguration
          (newMode c (G gevCurrentIpConfiguration)))
        (insert gevCurrentIpConfiguration persistentRegisters))
      (fun _ _ => True) := by
  refine (ensures_readRegister dev (m := m + 1) (by omega) (by decide)).bind fun mode => ?_
  refine Ensures.of_and fun hmode => ?_
  rw [hmode]
  refine ensures_writeRegister_ok dev (by omega) ?_ (Set.subset_insert _ _)
    (.inr (Set.mem_insert _ _))
  simp [persistentRegisters, gevCurrentIpConfiguration, gevPersistentIpAddress,
    gevPersistentSubnetMask, gevPersistentDefaultGateway]

theorem ensures_writeSettings (c : IPConfig) (hm : m + 5 ≤ 65535) :
    Ensures (Rest (m + 5) G ∅) (writeSettings dev.env c)
      (fun _ => Rest m (configured c G) (insert gevCurrentIpConfiguration persistentRegisters))
      (fun _ _ => True) := by
  unfold writeSettings configured settings
  cases c.persistentIpEnabled with
  | false =>
    simp only [Bool.false_eq_true, if_false]
    exact (ensures_modeSettings dev c (by omega)).conseq
      (fun w hw => hw.mono (by omega) (Set.empty_subset _)) (fun _ _ h => h) fun _ _ h => h
  | true =>
    simp only [if_true]
    refine (ensures_writeRegister_ok dev (B := {gevPersistentIpAddress}) (m := m + 4) (by omega)
      (by simp) (by simp) (by simp)).bind fun _ => ?_
    refine (ensures_writeRegister_ok dev (B := {gevPersistentIpAddress, gevPersistentSubnetMask})
      (m := m + 3) (by omega) (by simp; decide) (by simp) (by simp)).bind fun _ => ?_
    refine (ensures_writeRegister_ok dev (B := persistentRegisters)
      (m := m + 2) (by omega) (by simp; decide)
      (by simp [persistentRegisters, Set.insert_subset_iff])
      (.inr (by simp [persistentRegisters]))).bind fun _ => ?_
    exact ensures_modeSettings dev c (by omega)

theorem ensures_releaseControl (hm : m + 1 ≤ 65535) (hA : gevCcp ∉ A) :
    Ensures (Rest (m + 1) G A) (releaseControl dev.env) (fun _ => Rest m G A)
      (fun _ _ => True) := by
  refine Ensures.tryCatch (F := fun _ => Rest m G A) ?_ fun _ => ensures_pure fun _ h => h
  have hwrite := ensures_writeRegister dev (v := 0) (G := G) hm hA (Set.Subset.refl A) (.inl rfl)
  refine hwrite.conseq (fun _ h => h) ?_ ?_
  · exact fun _ w hw => hw.congr (update_gevCcp_eqOn 0)
  · rintro _ w ⟨id, hw⟩
    exact hw.giveUp hA

/-- **After a run of `writeConfig` that returns, the registers are configured.** -/
theorem ensures_writeConfig (c : IPConfig) (hm : m + 7 ≤ 65535) :
    Ensures (Rest (m + 7) G ∅) (writeConfig dev.env c)
      (fun _ => Rest m (configured c G) (insert gevCurrentIpConfiguration persistentRegisters))
      (fun _ _ => True) := by
  refine (ensures_writeRegister_ok dev (B := ∅) (m := m + 6) (by omega) (by simp) (by simp)
    (.inl rfl)).bind fun _ => ?_
  refine Ensures.bind (Q := fun _ => Rest (m + 1) (configured c G)
    (insert gevCurrentIpConfiguration persistentRegisters)) ?_ fun _ => ?_
  · refine Ensures.tryCatch (F := fun _ _ => True) ?_ fun e => ?_
    · exact (ensures_writeSettings dev c (by omega)).conseq
        (fun w hw => hw.congr (update_gevCcp_eqOn 1)) (fun _ _ h => h) fun _ _ h => h
    · -- the handler throws on
      exact (ensures_true _).bind fun _ => ensures_throw fun _ _ => trivial
  · refine ensures_releaseControl dev (by omega) ?_
    simp [persistentRegisters, gevCcp, gevCurrentIpConfiguration, gevPersistentIpAddress,
      gevPersistentSubnetMask, gevPersistentDefaultGateway]

/-- A run of `readConfig` that returns yields the registers. -/
theorem ensures_readConfig (hm : m + 4 ≤ 65535) :
    Ensures (Rest (m + 4) G A) (readConfig dev.env)
      (fun c w => c = {
          persistentIpEnabled := G gevCurrentIpConfiguration &&& ipconfigPersistentIpBit ≠ 0
          dhcpEnabled := G gevCurrentIpConfiguration &&& ipconfigDhcpBit ≠ 0
          persistentIp := G gevPersistentIpAddress
          persistentSubnet := G gevPersistentSubnetMask
          persistentGateway := G gevPersistentDefaultGateway } ∧ Rest m G A w)
      (fun _ _ => True) := by
  refine (ensures_readRegister dev (m := m + 3) (by omega) (by decide)).bind fun mode =>
    Ensures.of_and fun hmode => ?_
  refine (ensures_readRegister dev (m := m + 2) (by omega) (by decide)).bind fun ip =>
    Ensures.of_and fun hip => ?_
  refine (ensures_readRegister dev (m := m + 1) (by omega) (by decide)).bind fun subnet =>
    Ensures.of_and fun hsubnet => ?_
  refine (ensures_readRegister dev (m := m) (by omega) (by decide)).bind fun gateway =>
    Ensures.of_and fun hgateway => ?_
  refine ensures_pure fun w hw => ⟨?_, hw⟩
  rw [hmode, hip, hsubnet, hgateway]

end Config

/-! ### The bits of the mode register -/

theorem and_bit_ne_zero_iff (x : UInt32) {bit : UInt32} {i : ℕ}
    (hbit : bit.toBitVec = BitVec.twoPow 32 i) (hi : i < 32) :
    x &&& bit ≠ 0 ↔ x.toBitVec.getLsbD i = true := by
  rw [ne_eq, ← UInt32.toBitVec_inj, UInt32.toBitVec_and, hbit, BitVec.and_twoPow]
  cases x.toBitVec.getLsbD i with
  | false => simp
  | true =>
    simp only [if_true, iff_true]
    intro h
    have := congrArg (fun v => v.getLsbD i) h
    simp [hi] at this

theorem toBitVec_newMode (c : IPConfig) (mode : UInt32) :
    (newMode c mode).toBitVec = (mode.toBitVec &&& ~~~ 7#32) |||
      (if c.persistentIpEnabled then 1#32 else 0#32) ||| (if c.dhcpEnabled then 2#32 else 0#32) |||
      4#32 := by
  have h7 : ipconfigPersistentIpBit ||| ipconfigDhcpBit ||| ipconfigLlaBit = 7 := by decide
  unfold newMode
  rw [h7]
  cases c.persistentIpEnabled <;> cases c.dhcpEnabled <;>
    simp [ipconfigPersistentIpBit, ipconfigDhcpBit, ipconfigLlaBit]

/-- The mode register gets the two flags, the bit for link-local addresses, and keeps the rest. -/
theorem getLsbD_newMode (c : IPConfig) (mode : UInt32) (i : ℕ) :
    (newMode c mode).toBitVec.getLsbD i =
      match i with
      | 0 => c.persistentIpEnabled
      | 1 => c.dhcpEnabled
      | 2 => true
      | i => mode.toBitVec.getLsbD i := by
  have hlow : ∀ b < 8, ∀ k, (BitVec.ofNat 32 b).getLsbD (k + 3) = false := by
    intro b hb k
    rw [BitVec.getLsbD_ofNat, Nat.testBit_lt_two_pow, Bool.and_false]
    calc b < 2 ^ 3 := hb
      _ ≤ 2 ^ (k + 3) := Nat.pow_le_pow_right (by omega) (by omega)
  rw [toBitVec_newMode]
  simp only [BitVec.getLsbD_or, BitVec.getLsbD_and, BitVec.getLsbD_not]
  match i with
  | 0 => cases c.persistentIpEnabled <;> cases c.dhcpEnabled <;> simp
  | 1 => cases c.persistentIpEnabled <;> cases c.dhcpEnabled <;> simp
  | 2 => cases c.persistentIpEnabled <;> cases c.dhcpEnabled <;> simp
  | k + 3 =>
    have hp : (if c.persistentIpEnabled then 1#32 else 0#32).getLsbD (k + 3) = false := by
      split_ifs
      · exact hlow 1 (by omega) k
      · exact hlow 0 (by omega) k
    have hd : (if c.dhcpEnabled then 2#32 else 0#32).getLsbD (k + 3) = false := by
      split_ifs
      · exact hlow 2 (by omega) k
      · exact hlow 0 (by omega) k
    have hge : mode.toBitVec.getLsbD (k + 3) = true → k + 3 < 32 := BitVec.lt_of_getLsbD
    simpa [hp, hd, hlow 7 (by omega) k, hlow 4 (by omega) k] using hge

/-! ### The round trip -/

/-- What a run of `writeConfig c` that returns is to make of the registers. -/
structure Configured (c : IPConfig) (old new : Registers) : Prop where
  mode : ∀ i < 32, (new gevCurrentIpConfiguration).toBitVec.getLsbD i =
    match i with
    | 0 => c.persistentIpEnabled
    | 1 => c.dhcpEnabled
    | 2 => true
    | i => (old gevCurrentIpConfiguration).toBitVec.getLsbD i
  persistentIp : new gevPersistentIpAddress =
    if c.persistentIpEnabled then c.persistentIp else old gevPersistentIpAddress
  persistentSubnet : new gevPersistentSubnetMask =
    if c.persistentIpEnabled then c.persistentSubnet else old gevPersistentSubnetMask
  persistentGateway : new gevPersistentDefaultGateway =
    if c.persistentIpEnabled then c.persistentGateway else old gevPersistentDefaultGateway
  others : ∀ a, a ∉ [gevCcp, gevCurrentIpConfiguration, gevPersistentIpAddress,
    gevPersistentSubnetMask, gevPersistentDefaultGateway] → new a = old a

theorem configured_mode (c : IPConfig) (regs : Registers) :
    configured c regs gevCurrentIpConfiguration = newMode c (regs gevCurrentIpConfiguration) := by
  unfold configured settings
  cases c.persistentIpEnabled <;> simp [RegisterRequest.execute]

/-- The settings configure the registers. -/
theorem configured_spec (c : IPConfig) (old : Registers) {new : Registers}
    (h : Set.EqOn new (configured c old) {gevCcp}ᶜ) : Configured c old new := by
  have hne : ∀ a, a ≠ gevCcp → new a = configured c old a := fun a ha => h ha
  constructor
  · intro i _
    rw [hne _ (by decide), configured_mode, getLsbD_newMode]
  · rw [hne _ (by decide)]
    unfold configured settings
    cases c.persistentIpEnabled <;> simp [RegisterRequest.execute,
      gevCurrentIpConfiguration, gevPersistentIpAddress, gevPersistentSubnetMask,
      gevPersistentDefaultGateway]
  · rw [hne _ (by decide)]
    unfold configured settings
    cases c.persistentIpEnabled <;> simp [RegisterRequest.execute,
      gevCurrentIpConfiguration, gevPersistentSubnetMask, gevPersistentDefaultGateway]
  · rw [hne _ (by decide)]
    unfold configured settings
    cases c.persistentIpEnabled <;> simp [RegisterRequest.execute,
      gevCurrentIpConfiguration, gevPersistentDefaultGateway]
  · intro a ha
    simp only [List.mem_cons, List.not_mem_nil, or_false, not_or] at ha
    obtain ⟨hccp, hmode, hip, hsubnet, hgateway⟩ := ha
    rw [hne a hccp]
    unfold configured settings
    cases c.persistentIpEnabled <;>
      simp [RegisterRequest.execute, hmode, hip, hsubnet, hgateway]

theorem World.start_rest (regs : Registers) (counter : UInt16) (schedule : ℕ → List NetStep)
    (m : ℕ) : Rest m regs ∅ (World.start regs counter schedule) :=
  ⟨Nat.le_of_lt_succ counter.toNat_lt, fun _ _ => rfl, nofun, nofun⟩

/-- **A configuration that was written is read back.**  Whatever the network loses and delays,
when `writeConfig` returns, the registers are configured and stay so while late datagrams
arrive, and a `readConfig` that returns yields the flags of `c` and the persistent registers. -/
theorem writeConfig_readConfig (dev : Device) (c : IPConfig) (regs : Registers)
    (counter : UInt16) (schedule : ℕ → List NetStep) (w : World)
    (h : exec (writeConfig dev.env c) (World.start regs counter schedule) = (.ok (), w))
    (late : List NetStep) :
    Configured c regs (dev.netRun w late).registers ∧
      ∀ c' w', exec (readConfig dev.env) (dev.netRun w late) = (.ok c', w') →
        Configured c regs w'.registers ∧
        c' = {
          persistentIpEnabled := c.persistentIpEnabled
          dhcpEnabled := c.dhcpEnabled
          persistentIp := w'.registers gevPersistentIpAddress
          persistentSubnet := w'.registers gevPersistentSubnetMask
          persistentGateway := w'.registers gevPersistentDefaultGateway } := by
  have hw := (ensures_writeConfig dev (m := 4) c (by omega)).ok
    (World.start_rest regs counter schedule 11) h
  have hlate := hw.netRun dev late
  refine ⟨configured_spec c regs hlate.inFlight.registers, fun c' w' hread => ?_⟩
  obtain ⟨rfl, hw'⟩ := (ensures_readConfig dev (m := 0) (by omega)).ok hlate hread
  have hregs := hw'.inFlight.registers
  refine ⟨configured_spec c regs hregs, ?_⟩
  have hflag : ∀ {bit : UInt32} {i : ℕ}, bit.toBitVec = BitVec.twoPow 32 i → i < 32 →
      decide (configured c regs gevCurrentIpConfiguration &&& bit ≠ 0) =
        (newMode c (regs gevCurrentIpConfiguration)).toBitVec.getLsbD i := by
    intro bit i hbit hi
    rw [configured_mode, Bool.eq_iff_iff, decide_eq_true_iff, and_bit_ne_zero_iff _ hbit hi]
  rw [hflag (i := 0) (by decide) (by decide), hflag (i := 1) (by decide) (by decide),
    getLsbD_newMode, getLsbD_newMode, hregs (x := gevPersistentIpAddress) (by decide),
    hregs (x := gevPersistentSubnetMask) (by decide),
    hregs (x := gevPersistentDefaultGateway) (by decide)]
  rfl

/-- An instance: a network that loses the first acknowledge and delivers everything else, and a
device with vendor bits in its mode register. -/
theorem writeConfig_readConfig_lossy :
    let dev : Device := ⟨0xC0A80002, [0, 0, 0, 1], by decide⟩
    let c : IPConfig := ⟨true, false, 0xC0A80005, 0xFFFFFF00, 0xC0A80001⟩
    let regs : Registers := fun a => if a = gevCurrentIpConfiguration then 0x80000006 else 0
    let schedule : ℕ → List NetStep := fun t =>
      if t = 0 then [.deliverRequest, .loseAck] else [.deliverRequest, .deliverAck]
    let w := (exec (writeConfig dev.env c) (World.start regs 0xFFFE schedule)).2
    Configured c regs (dev.netRun w []).registers ∧
      ∀ c' w', exec (readConfig dev.env) (dev.netRun w []) = (.ok c', w') →
        Configured c regs w'.registers ∧
        c' = {
          persistentIpEnabled := c.persistentIpEnabled
          dhcpEnabled := c.dhcpEnabled
          persistentIp := w'.registers gevPersistentIpAddress
          persistentSubnet := w'.registers gevPersistentSubnetMask
          persistentGateway := w'.registers gevPersistentDefaultGateway } := by
  intro dev c regs schedule w
  have hok : (exec (writeConfig dev.env c) (World.start regs 0xFFFE schedule)).1 = .ok () := by
    decide
  exact writeConfig_readConfig dev c regs 0xFFFE schedule w (Prod.ext hok rfl) []

end Gvcp
end RcDiscover
