import RcDiscover.Gvcp.Discipline
import RcDiscover.Gvcp.Device

/-!
# When the device is released

The network of this module delivers every request and may drop acknowledges.  Device and client
then move in lockstep: between two attempts nothing is under way (`Synced`), and each attempt
executes its request once more.  So every `WRITEREG` that was issued has been executed, whether
or not the client knows it, and a run of `writeConfig` leaves the device under control exactly
when it took its claim for failed: then it throws before the `try` block and never releases.
-/

namespace RcDiscover
namespace Gvcp

open Program GigERequestCounter

/-- The network that delivers every request and drops the acknowledge of attempt `t` when
`dropped t`. -/
def dropAcks (dropped : ℕ → Bool) : ℕ → List NetStep :=
  fun t => [.deliverRequest, if dropped t then .loseAck else .deliverAck]

/-- Nothing is under way. -/
structure Synced (dropped : ℕ → Bool) (w : World) : Prop where
  toDevice : w.toDevice = []
  toClient : w.toClient = []
  inbox : w.inbox = []
  schedule : w.schedule = dropAcks dropped

section Lockstep

variable (dev : Device) {dropped : ℕ → Bool} {w : World}

/-- One wait in lockstep: the request is executed, and its acknowledge arrives or is lost. -/
theorem netRun_synced (h : Synced dropped w) (r : RegisterRequest) (id : RequestId) :
    dev.netRun { w with toDevice := w.toDevice ++ [r.datagram id], ticks := w.ticks + 1 }
        (w.schedule w.ticks) =
      { w with
        registers := r.execute w.registers
        ticks := w.ticks + 1
        inbox := if dropped w.ticks then [] else
          [dev.acknowledge (r.execute w.registers) r id] } := by
  obtain ⟨hdev, hcl, hin, hsched⟩ := h
  cases hd : dropped w.ticks <;>
    simp [hsched, dropAcks, hd, Device.netRun, Device.netStep, Device.receive, hdev, hcl, hin,
      RegisterRequest.decode_datagram]

/-- The retry loop executes its request, and fails when all its acknowledges are lost. -/
theorem attemptLoop_synced (h : Synced dropped w) (r : RegisterRequest) (id : RequestId) (n : ℕ) :
    ∃ res t, exec (attemptLoop dev.env r.cmd r.ackCmd r.address id (r.datagram id) n) w = (res, t) ∧
      Synced dropped t ∧
      (t.registers = r.execute w.registers ∨ n = 0 ∧ t.registers = w.registers) ∧
      ((∀ k < n, dropped (w.ticks + k) = true) → ∃ e, res = .error e) ∧
      ((∃ k < n, dropped (w.ticks + k) = false) →
        res = .ok (dev.reply (r.execute w.registers) r)) := by
  induction n generalizing w with
  | zero => exact ⟨_, w, rfl, h, .inr ⟨rfl, rfl⟩, fun _ => ⟨_, rfl⟩, by simp⟩
  | succ n ih =>
    rw [exec_attemptLoop_succ]
    simp only [Device.env_send, Device.env_select, netRun_synced dev h]
    cases hd : dropped w.ticks with
    | true =>
      -- the next attempt sends the same request; executing it again changes nothing
      obtain ⟨res, t, hr, hs, hregs, herr, hok⟩ := ih (w := { w with
        registers := r.execute w.registers
        ticks := w.ticks + 1
        inbox := [] }) ⟨h.toDevice, h.toClient, rfl, h.schedule⟩
      simp only [execute_execute] at hregs hok
      refine ⟨res, t, hr, hs, .inl (hregs.elim (fun h => h) And.right),
        fun hall => herr fun k hk => ?_, ?_⟩
      · have := hall (k + 1) (by omega)
        rwa [show w.ticks + (k + 1) = w.ticks + 1 + k by omega] at this
      · rintro ⟨k, hk, hkd⟩
        cases k with
        | zero => simp [hd] at hkd
        | succ k =>
          refine hok ⟨k, by omega, ?_⟩
          rwa [show w.ticks + 1 + k = w.ticks + (k + 1) by omega]
    | false =>
      have hrecv := dev.env_recvfrom_cons (w := { w with
        registers := r.execute w.registers
        ticks := w.ticks + 1
        inbox := [dev.acknowledge (r.execute w.registers) r id] }) rfl
      simp only [Bool.false_eq_true, if_false, List.isEmpty_cons, Bool.not_false, hrecv,
        dev.checkReply_acknowledge]
      refine ⟨_, _, rfl, ⟨h.toDevice, h.toClient, rfl, h.schedule⟩, .inl rfl, fun hall => ?_,
        fun _ => rfl⟩
      have := hall 0 (by omega)
      simp [hd] at this

/-- A request in lockstep. -/
theorem perform_synced (h : Synced dropped w) (r : RegisterRequest) :
    ∃ res t, exec (r.perform dev.env) w = (res, t) ∧ Synced dropped t ∧
      t.registers = r.execute w.registers ∧
      ((∃ e, res = .error e) ↔ ∀ k < 3, dropped (w.ticks + k) = true) := by
  obtain ⟨res, t, hr, hs, hregs, herr, hok⟩ := attemptLoop_synced dev
    (w := { w with counter := (getNext w.counter).2 })
    ⟨h.toDevice, h.toClient, h.inbox, h.schedule⟩ r (getNext w.counter).1 3
  have hsend : exec (sendAndReceive dev.env r.cmd r.ackCmd r.address r.payload) w = (res, t) := by
    simp only [sendAndReceive, exec_bind, exec_ofState, Device.env_getNext]
    exact hr
  have hregs' : t.registers = r.execute w.registers := hregs.resolve_right (by simp)
  by_cases hall : ∀ k < 3, dropped (w.ticks + k) = true
  · obtain ⟨e, rfl⟩ := herr hall
    refine ⟨.error e, t, ?_, hs, hregs', by simpa using hall⟩
    rw [RegisterRequest.perform, exec_bind, hsend]
  · have hsome : ∃ k < 3, dropped (w.ticks + k) = false := by simpa using hall
    obtain ⟨v, hv⟩ : ∃ v, r.accept (dev.reply (r.execute w.registers) r) = .ok v :=
      ⟨_, dev.accept_reply _ r⟩
    refine ⟨.ok v, t, ?_, hs, hregs', by simpa using hsome⟩
    rw [RegisterRequest.perform, exec_bind, hsend, hok hsome]
    simp only [exec_ofExcept, hv]

end Lockstep

/-! ### `writeConfig` -/

section WriteConfig

variable (dev : Device) {dropped : ℕ → Bool} {w : World}

/-- A plan keeps the lockstep. -/
theorem Plan.run_synced (p : Plan) (h : Synced dropped w) :
    Synced dropped (exec (p.run dev.env) w).2 := by
  induction p generalizing w with
  | done => exact h
  | request r next ih =>
    obtain ⟨res, t, hr, hs, -⟩ := perform_synced dev h r
    rw [Plan.run, exec_bind, hr]
    cases res with
    | error e => exact hs
    | ok v => exact ih v hs

/-- The release is executed. -/
theorem releaseControl_synced (h : Synced dropped w) :
    (exec (releaseControl dev.env) w).2.registers gevCcp = 0 := by
  obtain ⟨res, t, hr, -, hregs, -⟩ := perform_synced dev h (.write gevCcp 0)
  have ht : (exec (writeRegister dev.env gevCcp 0) w).2 = t := by
    rw [exec_writeRegister, hr]
    cases res <;> rfl
  rw [exec_releaseControl, ht, hregs]
  simp [RegisterRequest.execute]

/-- **The device is released exactly when an acknowledge of the claim arrives**: on a network
that delivers all requests, `GevCCP` is 0 after a run of `writeConfig`, whatever its outcome,
unless the three acknowledges of the claim are dropped. -/
theorem gevCcp_released_iff (dev : Device) (c : IPConfig) (regs : Registers) (counter : UInt16)
    (dropped : ℕ → Bool) :
    (exec (writeConfig dev.env c)
        (World.start regs counter (dropAcks dropped))).2.registers gevCcp = 0 ↔
      ¬ (dropped 0 = true ∧ dropped 1 = true ∧ dropped 2 = true) := by
  have hstart : Synced dropped (World.start regs counter (dropAcks dropped)) :=
    ⟨rfl, rfl, rfl, rfl⟩
  have hfirst : (∀ k < 3, dropped (0 + k) = true) ↔
      dropped 0 = true ∧ dropped 1 = true ∧ dropped 2 = true := by
    simp only [Nat.zero_add]
    constructor
    · exact fun h => ⟨h 0 (by omega), h 1 (by omega), h 2 (by omega)⟩
    · rintro ⟨h₀, h₁, h₂⟩ k hk
      interval_cases k
      · exact h₀
      · exact h₁
      · exact h₂
  obtain ⟨res, t, hr, hs, hregs, herr⟩ := perform_synced dev hstart (.write gevCcp 1)
  have herr : (∃ e, res = .error e) ↔ ∀ k < 3, dropped (0 + k) = true := herr
  rw [← hfirst, ← herr, exec_writeConfig, exec_writeRegister, hr]
  cases res with
  | error e =>
    -- the claim was executed, but the client does not know
    have hccp : t.registers gevCcp = 1 := by
      rw [hregs]
      simp [RegisterRequest.execute]
    simp [hccp]
  | ok v =>
    have hsettings : Synced dropped (exec (writeSettings dev.env c) t).2 := by
      rw [exec_writeSettings]
      exact (settingsPlan c).run_synced dev hs
    simpa using releaseControl_synced dev hsettings

/-- The acknowledges of the claim are lost: the device has been claimed and stays so. -/
theorem gevCcp_not_released :
    ¬ ∀ (dev : Device) (c : IPConfig) (regs : Registers) (counter : UInt16) (dropped : ℕ → Bool),
      regs gevCcp = 0 → (exec (writeConfig dev.env c)
        (World.start regs counter (dropAcks dropped))).2.registers gevCcp = 0 := by
  intro h
  have := h ⟨0xC0A80002, [0, 0, 0, 1], by decide⟩ ⟨false, true, 0, 0, 0⟩ (fun _ => 0) 0
    (fun t => decide (t < 3)) rfl
  revert this
  decide

end WriteConfig

end Gvcp
end RcDiscover
