import RcDiscover.Gui.DialogWindows
import RcDiscover.Gvcp.FailedReads

/-!
# The form and the registers of the device

`ChangeIPConfigWindow` over `GvcpIPConfig` and a network that loses and delays datagrams.

* `deviceEnv`: the window at a network with a device;
* `ensures_handle`: events other than the button read at most, and leave nothing behind;
* `ensures_isSet_configured`: when the window closes, the registers hold what the form holds.

`form_on_device` (**main result**): the form shows the registers, and setting it writes the form.
-/

namespace RcDiscover
namespace Gui

open Program Runs Handler Gvcp

/-! ### The window at a network -/

/-- An exception of `GvcpIPConfig` as the window sees it. -/
def toWindowException : GvcpException → WindowException
  | .accessDenied msg => .gvcpAccessDenied msg
  | .runtimeError msg => .runtimeError msg
  | .socket (.socketException msg _) => .runtimeError msg
  | .socket (.networkUnreachableException msg _) => .runtimeError msg

/-- The world of a new `GvcpIPConfig`: acknowledges for the socket of an earlier one are gone. -/
def reconnected (w : World) : World := { w with toClient := [], inbox := [] }

/-- The outcome of a program as the window sees it. -/
def outcome {α : Type} (r : Except GvcpException α × World) : Except WindowException α × World :=
  (r.1.mapError toWindowException, r.2)

section Env

variable (dev : Device) (answer : Str → World → ℤ) (waits : Str → World → List NetStep)

/-- The window at a network with one device.  While a question is open the network goes on, and at
other addresses nobody answers. -/
def deviceEnv : WindowEnv World where
  flChoice text w := (answer text w, dev.netRun w (waits text w))
  forceIP w := (.ok (), w)
  gvcpIPConfig _ w := (.ok (), reconnected w)
  readConfig ip w :=
    if ip = dev.address then outcome (exec (readConfig dev.env) w)
    else (.error (toWindowException (noResponse readregCmd gevCurrentIpConfiguration)), w)
  perform
    | .writeConfig ip config, w =>
      if ip = dev.address then outcome (exec (writeConfig dev.env config) w)
      else (.error (toWindowException (noResponse writeregCmd gevCcp)), w)
    | .forceIP _ _ _ _, w => (.ok (), w)

end Env

/-! ### Calls -/

section Calls

variable {W α : Type} {P : World → Prop} {Q : α → World → Prop}
  {E : WindowException → World → Prop}

/-- A call that changes nothing on a device. -/
theorem ensures_call_outside {f : World → Except WindowException α × World}
    (hf : Ensures P (ofExcept f) Q E) :
    Ensures (fun s : Session W World => P s.outside) (call f) (fun a s => Q a s.outside)
      fun e s => E e s.outside := by
  intro s hs
  have hrun := hf s.outside hs
  rw [exec_ofExcept] at hrun
  unfold call
  rw [exec_ofExcept]
  rcases hres : f s.outside with ⟨e | a, t⟩
  · rw [hres] at hrun
    exact hrun
  · rw [hres] at hrun
    exact hrun

/-- The state of a call. -/
theorem ensures_call_at {w : W} {v : World} (f : World → Except WindowException α × World) :
    Ensures (fun s : Session W World => s.win = w ∧ s.outside = v) (call f)
      (fun a s => s.win = w ∧ f v = (.ok a, s.outside))
      fun e s => s.win = w ∧ f v = (.error e, s.outside) := by
  rintro s ⟨rfl, rfl⟩
  unfold call
  rw [exec_ofExcept]
  rcases hres : f s.outside with ⟨e | a, t⟩ <;> exact ⟨rfl, rfl⟩

/-- The window sees the outcome of the program. -/
theorem ensures_outcome {m : Program World GvcpException α} {F : GvcpException → World → Prop}
    (h : Ensures P m Q F) (hE : ∀ e w, F e w → E (toWindowException e) w) :
    Ensures P (ofExcept fun w => outcome (exec m w)) Q E := by
  intro w hw
  rw [exec_ofExcept]
  rcases hres : exec m w with ⟨e | a, t⟩
  · exact hE e t (h.error hw hres)
  · exact h.ok hw hres

variable {dev : Device} {m : ℕ} {G : Registers} {A : Set UInt32} {w : World}

theorem rest_reconnected (h : Rest m G A w) : Rest m G A (reconnected w) := by
  refine ⟨h.counter_le, h.inFlight.registers, h.inFlight.requests, fun p hp => ?_⟩
  simp [reconnected] at hp

variable (dev) (answer : Str → World → ℤ) (waits : Str → World → List NetStep)

theorem ensures_gvcpIPConfig (ip : UInt32) :
    Ensures (Rest m G A) (ofExcept ((deviceEnv dev answer waits).gvcpIPConfig ip))
      (fun _ => Rest m G A) E := fun _ hw => rest_reconnected hw

theorem ensures_deviceEnv_readConfig (ip : UInt32) (hm : m + 4 ≤ 65535) :
    Ensures (Rest (m + 4) G A) (ofExcept ((deviceEnv dev answer waits).readConfig ip))
      (fun c w => (ip = dev.address → c = IPConfig.ofRegisters G) ∧ Rest m G A w)
      fun _ => Rest m G A := by
  by_cases hip : ip = dev.address
  · have hread : Ensures (Rest (m + 4) G A)
        (ofExcept fun w => outcome (exec (readConfig dev.env) w))
        (fun c w => (ip = dev.address → c = IPConfig.ofRegisters G) ∧ Rest m G A w)
        fun _ => Rest m G A :=
      ensures_outcome ((ensures_readConfig_rest dev hm).conseq (fun _ h => h)
        (fun c w h => ⟨fun _ => h.1, h.2⟩) fun _ _ h => h) fun _ _ h => h
    intro w hw
    have := hread w hw
    rw [exec_ofExcept] at this ⊢
    unfold deviceEnv
    dsimp only
    rw [if_pos hip]
    exact this
  · intro w hw
    rw [exec_ofExcept]
    unfold deviceEnv
    dsimp only
    rw [if_neg hip]
    exact hw.mono (Nat.le_add_right m 4) (Set.Subset.refl A)

theorem ensures_deviceEnv_writeConfig (ip : UInt32) (config : IPConfig) :
    Ensures (Rest 7 G ∅) (ofExcept ((deviceEnv dev answer waits).perform (.writeConfig ip config)))
      (fun _ w => ip = dev.address ∧ Configured config G w.registers) fun _ _ => True := by
  by_cases hip : ip = dev.address
  · have hwrite : Ensures (Rest 7 G ∅)
        (ofExcept fun w => outcome (exec (writeConfig dev.env config) w))
        (fun _ w => ip = dev.address ∧ Configured config G w.registers) fun _ _ => True :=
      ensures_outcome ((ensures_writeConfig dev (m := 0) config (by omega)).conseq (fun _ h => h)
        (fun _ w h => ⟨hip, configured_spec config G h.inFlight.registers⟩) fun _ _ h => h)
        fun _ _ h => h
    intro w hw
    have hrun := hwrite w hw
    rw [exec_ofExcept] at hrun ⊢
    unfold deviceEnv
    dsimp only
    rw [if_pos hip]
    exact hrun
  · intro w _
    rw [exec_ofExcept]
    unfold deviceEnv
    dsimp only
    rw [if_neg hip]
    trivial

end Calls

/-! ### Events -/

section Events

variable {χ : Type} (fl : FlChoice χ) (dev : Device) (answer : Str → World → ℤ)
  (waits : Str → World → List NetStep) (widget : χ) {m : ℕ} {G : Registers} {A : Set UInt32}

/-- Nothing that is under way to or from the device matters. -/
def RestOutside {W : Type} (m : ℕ) (G : Registers) (A : Set UInt32) (s : Session W World) : Prop :=
  Rest m G A s.outside

theorem RestOutside.mono {W : Type} {m' : ℕ} {s : Session W World} (h : RestOutside m' G A s)
    (hm : m ≤ m') : RestOutside m G A s := Rest.mono h hm (Set.Subset.refl A)

theorem ensures_onWin_rest {W : Type} {E : WindowException → Session W World → Prop}
    (f : W → W) : Ensures (RestOutside m G A) (onWin f) (fun _ => RestOutside m G A) E :=
  ensures_ofState fun _ h => h

/-- Reading into the form uses up four ids at most. -/
theorem ensures_read_rest (hm : m + 4 ≤ 65535) :
    Ensures (RestOutside (m + 4) G A)
      (ChangeIPConfigForm.readCurrentConfigFromDevice (χ := χ) (deviceEnv dev answer waits))
      (fun _ => RestOutside m G A) fun _ _ => False := by
  refine Ensures.bind (Q := fun _ => RestOutside (m + 4) G A) (ensures_ofState fun _ h => h)
    fun w => ?_
  refine Ensures.ite (fun _ => ?_) fun _ => ensures_pure fun _ h => h.mono (by omega)
  refine Ensures.tryCatch (F := fun _ => RestOutside m G A) ?_ fun _ => ensures_pure fun _ h => h
  refine (ensures_call_outside (ensures_gvcpIPConfig dev answer waits _)).bind fun _ => ?_
  refine (ensures_call_outside
    (ensures_deviceEnv_readConfig dev answer waits _ hm)).bind fun config => ?_
  exact ensures_ofState fun s hs => hs.2

/-- **An event other than the button.** -/
theorem ensures_handle (hm : m + 4 ≤ 65535) {event : WindowEvent} (hevent : event ≠ .press) :
    Ensures (RestOutside (m + 4) G A)
      (ChangeIPConfigForm.handle fl (deviceEnv dev answer waits) event)
      (fun _ => RestOutside m G A) fun _ _ => False := by
  have honWin : ∀ f : ChangeIPConfigForm χ → ChangeIPConfigForm χ,
      Ensures (RestOutside (m + 4) G A) (onWin f) (fun _ => RestOutside m G A)
        fun _ _ => False := fun f =>
    (ensures_onWin_rest f).conseq (fun _ h => h) (fun _ _ h => h.mono (by omega)) fun _ _ h => h
  have hchanging : Ensures (RestOutside (m + 4) G A)
      (ChangeIPConfigForm.isChangingCurrentIP fl (deviceEnv dev answer waits))
      (fun _ => RestOutside m G A) fun _ _ => False :=
    (ensures_read_rest dev answer waits hm).bind fun _ => ensures_onWin_rest _
  have hdevice : Ensures (RestOutside (m + 4) G A)
      (ChangeIPConfigForm.isChangingDevice fl (deviceEnv dev answer waits))
      (fun _ => RestOutside m G A) fun _ _ => False :=
    (ensures_onWin_rest _).bind fun _ => hchanging
  have hgetWin : ∀ f : ChangeIPConfigForm χ → Handler (ChangeIPConfigForm χ) World Unit,
      (∀ w, Ensures (RestOutside (m + 4) G A) (f w) (fun _ => RestOutside m G A)
        fun _ _ => False) →
      Ensures (RestOutside (m + 4) G A) (getWin >>= f) (fun _ => RestOutside m G A)
        fun _ _ => False := fun f h =>
    Ensures.bind (Q := fun _ => RestOutside (m + 4) G A) (ensures_ofState fun _ h => h) h
  cases event with
  | updateDevices list selMac =>
    exact (ensures_onWin_rest _).bind fun _ => hdevice.bind fun _ => ensures_onWin_rest _
  | select i =>
    refine hgetWin _ fun w => Ensures.ite (fun _ => ?_) fun _ => ?_
    · exact (ensures_onWin_rest _).bind fun _ => hdevice
    · exact ensures_pure fun _ h => h.mono (by omega)
  | edit field text =>
    cases field with
    | currentIp =>
      refine hgetWin _ fun w => Ensures.ite (fun _ => ?_) fun _ => ?_
      · exact (ensures_onWin_rest _).bind fun _ => hchanging
      · exact ensures_pure fun _ h => h.mono (by omega)
    | mac | ip | subnetMask | defaultGateway => exact honWin _
  | dhcp enabled =>
    unfold ChangeIPConfigForm.handle
    exact honWin _
  | persistentIp enabled | clear => exact honWin _
  | press => exact absurd rfl hevent

/-- **Events other than the button.** -/
theorem rest_run {events : List WindowEvent} (hevents : ∀ event ∈ events, event ≠ .press)
    (hm : m + 4 * events.length ≤ 65535)
    {s : Session (changeIPConfigDialog fl (deviceEnv dev answer waits) widget).W World}
    (hs : RestOutside (m + 4 * events.length) G A s) :
    RestOutside m G A
      (run (changeIPConfigDialog fl (deviceEnv dev answer waits) widget).step s events) := by
  induction events generalizing s with
  | nil => exact hs
  | cons event events ih =>
    rw [List.length_cons] at hm hs
    rw [run_cons]
    refine ih (fun e he => hevents e (List.mem_cons_of_mem _ he)) (by omega) ?_
    have hhandle := ensures_handle fl dev answer waits (m := m + 4 * events.length) (G := G)
      (A := A) (by omega) (hevents event List.mem_cons_self)
    have hstep : ∀ t : Session (ChangeIPConfigForm χ) World,
        RestOutside (m + 4 * events.length + 4) G A t → RestOutside (m + 4 * events.length) G A
          (exec (ChangeIPConfigForm.handle fl (deviceEnv dev answer waits) event) t).2 := by
      intro t ht
      obtain ⟨_, u, hrun, hu⟩ := hhandle.exists_ok ht
      rw [hrun]
      exact hu
    have hs : RestOutside (m + 4 * events.length + 4) G A s := hs.mono (by omega)
    cases event with
    | updateDevices list selMac => exact hstep { s with visible := true } hs
    | select _ | edit _ _ | persistentIp _ | dhcp _ | press | clear =>
      unfold Dialog.step
      split_ifs
      · exact hstep s hs
      · exact hs.mono (by omega)

/-! ### Reading and writing -/

/-- When the device answers, the form shows its registers. -/
def ReadsInto (dev : Device) (G : Registers) (w₀ : World) (w : ChangeIPConfigForm χ) : Prop :=
  ∀ c t, exec (readConfig dev.env) (reconnected w₀) = (.ok c, t) →
    w.currentIp.getIP = dev.address → w.config = IPConfig.ofRegisters G

theorem ReadsInto.congr {w₀ : World} {w w' : ChangeIPConfigForm χ} (h : ReadsInto dev G w₀ w)
    (hip : w'.currentIp = w.currentIp) (hconfig : w'.config = w.config) :
    ReadsInto dev G w₀ w' := by
  intro c t hrun haddress
  rw [hconfig]
  exact h c t hrun (hip ▸ haddress)

theorem ensures_read {w₀ : World} (haddress : dev.address ≠ 0) (hm : m + 4 ≤ 65535)
    (hw₀ : Rest (m + 4) G A w₀) :
    Ensures (fun s => s.outside = w₀)
      (ChangeIPConfigForm.readCurrentConfigFromDevice (χ := χ) (deviceEnv dev answer waits))
      (fun _ s => ReadsInto dev G w₀ s.win) fun _ _ => False := by
  refine Ensures.bind (Q := fun w s => s.win = w ∧ s.outside = w₀)
    (ensures_ofState fun s h => ⟨rfl, h⟩) fun w => ?_
  refine Ensures.ite (fun _ => ?_) fun hinvalid => ensures_pure fun s hs c t _ hip => ?_
  · -- the form stays as it is only when the device does not answer
    refine Ensures.tryCatch (F := fun _ s => s.win = w ∧ ∀ c t,
      exec (readConfig dev.env) (reconnected w₀) = (.ok c, t) → w.currentIp.getIP ≠ dev.address)
      ?_ fun _ => ensures_pure fun s hs c t hrun hip => ?_
    · refine Ensures.bind (Q := fun _ s => s.win = w ∧ s.outside = reconnected w₀) ?_ fun _ => ?_
      · refine (ensures_call_at _).conseq (fun _ h => h) (fun _ s hs => ⟨hs.1, ?_⟩)
          fun e s hs => ?_
        · exact (Prod.mk.inj hs.2).2.symm
        · cases (Prod.mk.inj hs.2).1
      refine Ensures.bind (Q := fun config s => s.win = w ∧
        (w.currentIp.getIP = dev.address → config = IPConfig.ofRegisters G)) ?_ fun config => ?_
      · refine (ensures_call_at _).conseq (fun _ h => h) (fun config s hs => ⟨hs.1, ?_⟩)
          fun e s hs => ⟨hs.1, fun c t hrun hip => ?_⟩
        · exact ((ensures_deviceEnv_readConfig dev answer waits _ hm).ok (rest_reconnected hw₀)
            hs.2).1
        · have hread : (deviceEnv dev answer waits).readConfig w.currentIp.getIP (reconnected w₀) =
              (.ok c, t) := by
            unfold deviceEnv
            dsimp only
            rw [if_pos hip, hrun]
            rfl
          rw [hread] at hs
          cases (Prod.mk.inj hs.2).1
      · refine ensures_ofState fun s hs => ?_
        obtain ⟨hwin, hconfig⟩ := hs
        intro c t _ hip
        have hip : w.currentIp.getIP = dev.address := hwin ▸ hip
        rw [← hconfig hip]
        unfold ChangeIPConfigForm.config
        dsimp only
        rw [addresses_round_trip.1 config.persistentIp |>.2,
          addresses_round_trip.1 config.persistentSubnet |>.2,
          addresses_round_trip.1 config.persistentGateway |>.2]
    · exact absurd (hs.1 ▸ hip) (hs.2 c t hrun)
  · -- an address that is not valid is not the address of the device
    have hzero : w.currentIp.getIP = 0 := by
      unfold InputIP.isValid at hinvalid
      simpa using hinvalid
    rw [hs.1] at hip
    exact absurd (hip.symm.trans hzero) haddress

/-- Opening the window. -/
theorem ensures_updateDevices {w₀ : World} (haddress : dev.address ≠ 0) (hm : m + 4 ≤ 65535)
    (hw₀ : Rest (m + 4) G A w₀) (list : List (Str × Str × Str)) (selMac : Str) :
    Ensures (fun s => s.outside = w₀)
      (ChangeIPConfigForm.handle fl (deviceEnv dev answer waits) (.updateDevices list selMac))
      (fun _ s => ReadsInto dev G w₀ s.win) fun _ _ => False := by
  have honWin : ∀ f : ChangeIPConfigForm χ → ChangeIPConfigForm χ,
      Ensures (fun s : Session (ChangeIPConfigForm χ) World => s.outside = w₀) (onWin f)
        (fun _ s => s.outside = w₀) fun _ _ => False := fun f => ensures_ofState fun _ h => h
  have hupdate : Ensures (fun s : Session (ChangeIPConfigForm χ) World => ReadsInto dev G w₀ s.win)
      (onWin (ChangeIPConfigForm.onForm (·.update fl))) (fun _ s => ReadsInto dev G w₀ s.win)
        fun _ _ => False := ensures_ofState fun s h => ReadsInto.congr dev h rfl rfl
  exact (honWin _).bind fun _ => Ensures.bind ((honWin _).bind fun _ =>
    (ensures_read dev answer waits haddress hm hw₀).bind fun _ => hupdate) fun _ => hupdate

/-- The window is open, and nothing that is under way matters. -/
def Open (G : Registers) (w : ChangeIPConfigForm χ)
    (s : Session (ChangeIPConfigForm χ) World) : Prop :=
  s.win = w ∧ s.visible = true ∧ Rest 7 G ∅ s.outside

section Set

variable {w : ChangeIPConfigForm χ}

theorem ensures_flChoice_open {E : WindowException → Session (ChangeIPConfigForm χ) World → Prop}
    (text : Str) :
    Ensures (Open G w) (flChoice (deviceEnv dev answer waits) text) (fun _ => Open G w) E :=
  ensures_ofState fun s hs => ⟨hs.1, hs.2.1, hs.2.2.netRun dev (waits text s.outside)⟩

theorem ensures_gvcpIPConfig_open (ip : UInt32) :
    Ensures (Open G w) (call ((deviceEnv dev answer waits).gvcpIPConfig ip))
      (fun _ => Open G w) fun _ s => s.visible = true :=
  fun _ hs => ⟨hs.1, hs.2.1, rest_reconnected hs.2.2⟩

/-- Writing the form. -/
theorem ensures_perform_open (ip : UInt32) (config : IPConfig) :
    Ensures (Open G w) (perform (deviceEnv dev answer waits) (.writeConfig ip config))
      (fun _ s => Configured config G s.outside.registers) fun _ s => s.visible = true := by
  rintro s ⟨-, hvisible, hrest⟩
  unfold perform
  rw [exec_ofExcept]
  dsimp only
  rcases hres : (deviceEnv dev answer waits).perform (.writeConfig ip config) s.outside
    with ⟨e | _, t⟩
  · exact hvisible
  · exact ((ensures_deviceEnv_writeConfig dev answer waits ip config).ok hrest hres).2

variable (G w) in
/-- **Pressing the button**: when the window closes, the form has been written. -/
theorem ensures_isSet_configured :
    Ensures (Open G w) (ChangeIPConfigForm.isSet (deviceEnv dev answer waits))
      (fun _ s => s.visible = false → Configured w.config G s.outside.registers)
      fun _ _ => False := by
  have hopen : ∀ s : Session (ChangeIPConfigForm χ) World, s.visible = true →
      s.visible = false → Configured w.config G s.outside.registers := fun s hvisible hhidden =>
    absurd (hvisible.symm.trans hhidden) (by simp)
  refine Ensures.bind (Q := fun v s => v = w ∧ Open G w s)
    (ensures_ofState fun s hs => ⟨hs.1, hs⟩) fun v => Ensures.of_and ?_
  rintro rfl
  refine Ensures.ite (fun _ => ?_) fun _ => ensures_pure fun s hs => hopen s hs.2.1
  refine Ensures.tryCatch (F := fun _ s => s.visible = true) ?_ fun e => ?_
  · -- after the first question
    have hproceed : ∀ proceed : ℤ, Ensures (Open G v)
        (do
          if proceed = 1 then
            call ((deviceEnv dev answer waits).gvcpIPConfig v.currentIp.getIP)
            let choice ← flChoice (deviceEnv dev answer waits)
              (ChangeIPConfigForm.question v.currentIp.value)
            if choice = 1 then
              perform (deviceEnv dev answer waits) (.writeConfig v.currentIp.getIP v.config)
              hide)
        (fun _ s => s.visible = false → Configured v.config G s.outside.registers)
        fun _ s => s.visible = true := by
      intro proceed
      refine Ensures.ite (fun _ => ?_) fun _ => ensures_pure fun s hs => hopen s hs.2.1
      refine (ensures_gvcpIPConfig_open dev answer waits _).bind fun _ =>
        (ensures_flChoice_open dev answer waits _).bind fun choice => ?_
      refine Ensures.ite (fun _ => ?_) fun _ => ensures_pure fun s hs => hopen s hs.2.1
      exact (ensures_perform_open dev answer waits _ _).bind fun _ =>
        ensures_ofState fun s hs _ => hs
    refine Ensures.ite (fun _ => ?_) fun _ => ?_
    · exact (ensures_flChoice_open dev answer waits _).bind hproceed
    · exact Ensures.bind (Q := fun _ => Open G v) (ensures_pure fun _ h => h) hproceed
  · cases e with
    | gvcpAccessDenied what => exact ensures_ofState fun s hs => hopen _ hs
    | runtimeError what => exact ensures_ofState fun s hs => hopen _ hs

end Set

/-- **The form and the device.**  The window is used in any way at a network that loses and delays
datagrams, but its button is not pressed.  When it is opened then and the device answers, the form
shows the registers of the device; and when the button is pressed and the window closes, the
registers hold the contents of the form, whatever else they were and however many datagrams were
lost.  In particular a form that shows the registers changes nothing but the bit of link-local
addresses. -/
theorem form_on_device (haddress : dev.address ≠ 0) (regs : Registers) (counter : UInt16)
    (schedule : ℕ → List NetStep) (events : List WindowEvent)
    (hevents : ∀ event ∈ events, event ≠ .press) (hlength : 4 * events.length + 7 ≤ 65535) :
    let d := changeIPConfigDialog fl (deviceEnv dev answer waits) widget
    let s := run d.step (d.start (World.start regs counter schedule)) events
    (∀ list selMac c t, exec (readConfig dev.env) (reconnected s.outside) = (.ok c, t) →
      let w : ChangeIPConfigForm χ := (d.step s (.updateDevices list selMac)).win
      w.currentIp.getIP = dev.address → w.config = IPConfig.ofRegisters regs) ∧
    ∀ w : ChangeIPConfigForm χ, s.win = w → s.visible = true →
      (d.step s .press).visible = false →
        Configured w.config regs (d.step s .press).outside.registers ∧
          (w.config = IPConfig.ofRegisters regs →
            Unchanged regs (d.step s .press).outside.registers) := by
  intro d s
  have hrest : Rest 7 regs ∅ s.outside :=
    rest_run fl dev answer waits widget hevents (by omega)
      (World.start_rest regs counter schedule _)
  constructor
  · intro list selMac c t hread w hip
    obtain ⟨_, u, hrun, hu⟩ := (ensures_updateDevices fl dev answer waits (m := 3) haddress
      (by omega) hrest list selMac).exists_ok (s := { s with visible := true }) rfl
    have hstep : d.step s (.updateDevices list selMac) = u := congrArg Prod.snd hrun
    have hw : w = u.win := congrArg Session.win hstep
    rw [hw] at hip ⊢
    exact hu c t hread hip
  · intro w hw hvisible hhidden
    have hpress : Ensures (Open regs w)
        (ChangeIPConfigForm.handle fl (deviceEnv dev answer waits) .press)
        (fun _ s => s.visible = false → Configured w.config regs s.outside.registers)
        fun _ _ => False := by
      refine Ensures.bind (Q := fun _ => Open regs w) (ensures_ofState fun _ h => h) fun v => ?_
      refine Ensures.ite (fun _ => ensures_isSet_configured dev answer waits regs w) fun _ => ?_
      exact ensures_pure fun s hs hhidden => absurd (hs.2.1.symm.trans hhidden) (by simp)
    obtain ⟨_, u, hrun, hu⟩ := hpress.exists_ok ⟨hw, hvisible, hrest⟩
    have hstep : d.step s .press = u := by
      unfold Dialog.step
      dsimp only
      rw [if_pos hvisible]
      exact congrArg Prod.snd hrun
    rw [hstep] at hhidden ⊢
    have hconfigured := hu hhidden
    refine ⟨hconfigured, fun hform => ?_⟩
    rw [hform] at hconfigured
    exact unchanged_of_configured hconfigured

end Events

/-- A device that has a persistent address, and a network that loses an acknowledge. -/
theorem form_on_device_lossy :
    let dev : Device := ⟨0x0A000208, [0, 0, 0, 1], by decide⟩
    let regs : Registers := fun a =>
      if a = gevCurrentIpConfiguration then 0x80000001
      else if a = gevPersistentIpAddress then 0x0A000210
      else if a = gevPersistentSubnetMask then 0xFF000000
      else if a = gevPersistentDefaultGateway then 0x0A000001 else 0
    let schedule : ℕ → List NetStep := fun t =>
      if t = 1 then [.deliverRequest, .loseAck] else [.deliverRequest, .deliverAck]
    let d := changeIPConfigDialog .items (deviceEnv dev (fun _ _ => 1) fun _ _ => []) ([], -1)
    let s := d.step (d.start (World.start regs 7 schedule))
      (.updateDevices DeviceChoice.twoCameras "00:14:2d:2c:6e:bc".toList)
    Configured (ChangeIPConfigForm.config s.win) regs (d.step s .press).outside.registers := by
  intro dev regs schedule d s
  have hvisible : s.visible = true := by decide +kernel
  have hhidden : (d.step s .press).visible = false := by decide +kernel
  refine ((form_on_device .items dev (fun _ _ => 1) (fun _ _ => []) ([], -1) (by decide) regs 7
    schedule [.updateDevices DeviceChoice.twoCameras "00:14:2d:2c:6e:bc".toList] ?_
    (by decide)).2 s.win rfl hvisible hhidden).1
  intro event hevent
  rw [List.mem_singleton.mp hevent]
  exact fun heq => WindowEvent.noConfusion heq

end Gui
end RcDiscover
