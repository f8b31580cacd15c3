import RcDiscover.Gui.DialogRuns

/-!
# The three windows are lawful

The purposes of `ReconnectWindow`, `SetTmpIPWindow` and `ChangeIPConfigWindow`, and what this means
for their buttons.

`dialogs_sound` and `dialogs_goTo` (**main results**): whatever happens to the windows and whatever
fails, every command was confirmed by the user, with the addresses that it carries, and it goes to
the device that is selected in the drop-down.
-/

namespace RcDiscover
namespace Gui

open Program Runs Traces Handler

/-! ### Asking and sending -/

section Asking

variable {W σ : Type} {w : W} {t : List WindowEffect} {A : List WindowEffect → Prop}
  {E : WindowException → Session W σ → Prop}

/-- The window is as before and has had some effects. -/
def Did (w : W) (t : List WindowEffect) (A : List WindowEffect → Prop) (s : Session W σ) : Prop :=
  ∃ effects, A effects ∧ At w (t ++ effects) s

/-- The effects with an alert that is still to come. -/
def Raised (w : W) (t : List WindowEffect) (A : List WindowEffect → Prop) : Session W σ → Prop :=
  fun s => ∃ effects, (∀ text, A (effects ++ [.alerted text])) ∧ At w (t ++ effects) s

theorem ensures_alert (text : Str) :
    Ensures (Raised w t A) (flAlert text) (fun _ => Did w t A) E := by
  refine ensures_ofState ?_
  rintro s ⟨effects, hA, hwin, htrace⟩
  refine ⟨effects ++ [.alerted text], hA text, hwin, ?_⟩
  show s.trace ++ [.alerted text] = _
  rw [htrace, List.append_assoc]

theorem ensures_alertWhat (e : WindowException) :
    Ensures (Raised w t A) (alertWhat e) (fun _ => Did w t A) E := by
  cases e with
  | gvcpAccessDenied what => exact ensures_alert what
  | runtimeError what => exact ensures_alert what

variable (env : WindowEnv σ) (question : Str) (c : WindowCommand)

/-- **A sender is made, the user is asked, and the command is sent.** -/
theorem ensures_attempt (f : σ → Except WindowException Unit × σ)
    {body : ℤ → Handler W σ Unit}
    (hyes : Ensures (At w (t ++ [WindowEffect.asked question 1])) (body 1)
      (fun _ => At w (t ++ [WindowEffect.asked question 1] ++ [WindowEffect.performed c]))
      fun _ => At w (t ++ [WindowEffect.asked question 1] ++ [WindowEffect.performed c]))
    (hno : ∀ answer : ℤ, answer ≠ 1 →
      Ensures (At w (t ++ [WindowEffect.asked question answer])) (body answer)
        (fun _ => At w (t ++ [WindowEffect.asked question answer]))
        fun _ => Raised w t (Attempt question c)) :
    Ensures (At w t)
      (do call f; let answer ← flChoice env question; body answer)
      (fun _ => Did w t (Attempt question c)) fun _ => Raised w t (Attempt question c) := by
  have hcall : Ensures (At w t) (call f) (fun _ => At w t)
      fun _ => Raised w t (Attempt question c) :=
    (ensures_call f).conseq (fun _ h => h) (fun _ _ h => h) fun _ s h =>
      ⟨[], fun text => .failed text, by rwa [List.append_nil]⟩
  refine hcall.bind fun _ => (ensures_flChoice env question).bind fun answer => ?_
  by_cases hanswer : answer = 1
  · subst hanswer
    rw [List.append_assoc] at hyes
    exact hyes.conseq (fun _ h => h) (fun _ _ h => ⟨_, .done, h⟩)
      fun _ _ h => ⟨_, fun text => .refused text, h⟩
  · exact (hno answer hanswer).conseq (fun _ h => h) (fun _ _ h => ⟨_, .declined answer hanswer, h⟩)
      fun _ _ h => h

/-- Without the first question. -/
theorem Did.direct {s : Session W σ} (h : Did w t (Attempt question c) s) :
    Did w t (Press false question c) s := by
  obtain ⟨effects, hattempt, hat⟩ := h
  exact ⟨effects, .direct rfl hattempt, hat⟩

theorem Raised.direct {s : Session W σ} (h : Raised w t (Attempt question c) s) :
    Raised w t (Press false question c) s := by
  obtain ⟨effects, hattempt, hat⟩ := h
  exact ⟨effects, fun text => .direct rfl (hattempt text), hat⟩

/-- After the first question. -/
theorem Did.proceeded {s : Session W σ}
    (h : Did w (t ++ [.asked subnetsQuestion 1]) (Attempt question c) s) :
    Did w t (Press true question c) s := by
  obtain ⟨effects, hattempt, hat⟩ := h
  refine ⟨.asked subnetsQuestion 1 :: effects, .proceeded rfl hattempt, ?_⟩
  rwa [List.append_assoc] at hat

theorem Raised.proceeded {s : Session W σ}
    (h : Raised w (t ++ [.asked subnetsQuestion 1]) (Attempt question c) s) :
    Raised w t (Press true question c) s := by
  obtain ⟨effects, hattempt, hat⟩ := h
  refine ⟨.asked subnetsQuestion 1 :: effects, fun text => .proceeded rfl (hattempt text), ?_⟩
  rwa [List.append_assoc] at hat

/-- **The first question**, if it is asked, and what follows when the user proceeds. -/
theorem ensures_press {asks : Bool} {body : Handler W σ Unit}
    (hbody : ∀ t, Ensures (At w t) body (fun _ => Did w t (Attempt question c))
      fun _ => Raised w t (Attempt question c)) :
    Ensures (At w t)
      (do
        let proceed ← if asks then flChoice env subnetsQuestion else pure 1
        if proceed = 1 then body)
      (fun _ => Did w t (Press asks question c)) fun _ => Raised w t (Press asks question c) := by
  cases asks with
  | false =>
    refine Ensures.bind (Q := fun proceed s => proceed = 1 ∧ At w t s) ?_ fun proceed => ?_
    · exact ensures_pure fun s hs => ⟨rfl, hs⟩
    · refine Ensures.of_and ?_
      rintro rfl
      dsimp only
      rw [if_pos rfl]
      exact (hbody t).conseq (fun _ h => h) (fun _ _ h => h.direct) fun _ _ h => h.direct
  | true =>
    rw [if_pos rfl]
    refine (ensures_flChoice env subnetsQuestion).bind fun proceed => ?_
    dsimp only
    by_cases hproceed : proceed = 1
    · subst hproceed
      rw [if_pos rfl]
      exact (hbody _).conseq (fun _ h => h) (fun _ _ h => h.proceeded) fun _ _ h => h.proceeded
    · rw [if_neg hproceed]
      exact ensures_pure fun s hs => ⟨_, .cancelled rfl proceed hproceed, hs⟩

end Asking

/-! ### Members that only change the window -/

section Edits

variable {χ σ : Type} {fl : FlChoice χ} {d : Dialog χ σ} {p : Purpose d} {w : d.W}
  {t : List WindowEffect} {event : WindowEvent} {E : WindowException → Session d.W σ → Prop}

/-- The window changes into one that is settled, too. -/
theorem ensures_edit {f : d.W → d.W} {w' : d.W} (hf : f w = w') (hsettled : Settled fl p w')
    (hdevice : Reselects fl event (d.device w) (d.device w')) :
    Ensures (At w t) (onWin f)
      (fun _ s => Settled fl p s.win ∧ Reselects fl event (d.device w) (d.device s.win) ∧
        s.trace = t) E := by
  refine (ensures_onWin f).conseq (fun _ h => h) (fun _ s hs => ?_) fun _ _ h => h
  obtain ⟨hwin, htrace⟩ := hs
  rw [hwin, hf]
  exact ⟨hsettled, hdevice, htrace⟩

/-- The window changes if the widget gets the event. -/
theorem ensures_editIf {c : d.W → Prop} [DecidablePred c] {f : d.W → d.W} (hs : Settled fl p w)
    (h : c w → Settled fl p (f w) ∧ Reselects fl event (d.device w) (d.device (f w))) :
    Ensures (At w t) (onWin fun w => if c w then f w else w)
      (fun _ s => Settled fl p s.win ∧ Reselects fl event (d.device w) (d.device s.win) ∧
        s.trace = t) E := by
  by_cases hc : c w
  · exact ensures_edit (if_pos hc) (h hc).1 (h hc).2
  · exact ensures_edit (if_neg hc) hs (.inl rfl)

/-- A window without this field. -/
theorem ensures_ignored (hsettled : Settled fl p w) :
    Ensures (At w t) (pure ())
      (fun _ s => Settled fl p s.win ∧ Reselects fl event (d.device w) (d.device s.win) ∧
        s.trace = t) E := by
  refine ensures_pure fun s hs => ?_
  obtain ⟨hwin, htrace⟩ := hs
  rw [hwin]
  exact ⟨hsettled, .inl rfl, htrace⟩

/-- A press that finds the button active. -/
theorem Did.pressed {s : Session d.W σ} (hvalid : p.valid w = true)
    (h : Did w t (Press (p.asksSubnets w) (p.question w) (p.command w)) s) :
    s.win = w ∧ ∃ effects, s.trace = t ++ effects ∧ (effects = [] ∨
      p.valid w = true ∧ Press (p.asksSubnets w) (p.question w) (p.command w) effects) := by
  obtain ⟨effects, hpress, hwin, htrace⟩ := h
  exact ⟨hwin, effects, htrace, .inr ⟨hvalid, hpress⟩⟩

/-- The button, when it is not active and when it is. -/
theorem ensures_button {m : Handler d.W σ Unit} (hsettled : Settled fl p w)
    (hm : p.valid w = true → Ensures (At w t) m
      (fun _ => Did w t (Press (p.asksSubnets w) (p.question w) (p.command w)))
      fun _ _ => False) :
    Ensures (At w t) (do let w ← getWin; if p.buttonActive w then m)
      (fun _ s => s.win = w ∧ ∃ effects, s.trace = t ++ effects ∧ (effects = [] ∨
        p.valid w = true ∧ Press (p.asksSubnets w) (p.question w) (p.command w) effects))
      fun _ _ => False := by
  refine ensures_getWin_bind (Ensures.ite (fun hbutton => ?_) fun _ => ?_)
  · have hvalid : p.valid w = true := hsettled.button.symm.trans hbutton
    exact (hm hvalid).conseq (fun _ h => h) (fun _ _ h => h.pressed hvalid) fun _ _ h => h
  · refine ensures_pure fun s hs => ⟨hs.1, [], ?_, .inl rfl⟩
    rw [List.append_nil]
    exact hs.2

end Edits

/-! ### `ReconnectWindow` -/

section Reconnect

variable {χ σ : Type} (fl : FlChoice χ) (env : WindowEnv σ) (widget : χ)

/-- What `ReconnectWindow` is for. -/
def reconnectPurpose : Purpose (reconnectDialog fl env widget) where
  buttonActive := ReconnectWindow.reconnectActive
  valid (w : ReconnectWindow χ) := w.mac.isValid
  asksSubnets _ := false
  question (w : ReconnectWindow χ) := ReconnectWindow.question w.mac.value
  command (w : ReconnectWindow χ) := .forceIP w.mac.getMAC 0 0 0
  follows _ := True
  shown list := list.map fun x => (x.1, x.2.1, [])

theorem beq_zero_iff {s : Str} : (s.length == 0) = true ↔ s = [] := by
  simp

/-- `update` settles the window when the MAC field follows the drop-down. -/
theorem settled_reconnect_update {w : ReconnectWindow χ}
    (h : w.device.getMAC fl ≠ [] → w.mac.value = w.device.getMAC fl) :
    Settled fl (reconnectPurpose fl env widget) (w.update fl) where
  active := beq_zero_iff
  value := h
  button := by dsimp only [reconnectPurpose, ReconnectWindow.update]
  follows := trivial

theorem updateEntries_withoutIP (device : DeviceChoice χ) (list : List (Str × Str × Str))
    (selMac : Str) : device.update fl (withoutIP list) selMac =
      device.updateEntries fl (list.map fun x => (x.1, x.2.1, [])) selMac := by
  unfold DeviceChoice.update withoutIP
  rw [List.map_map]
  rfl

theorem ensures_isReconnect (w : ReconnectWindow χ) (t : List WindowEffect)
    (hvalid : w.mac.isValid = true) :
    Ensures (At w t) (ReconnectWindow.isReconnect env)
      (fun _ => Did w t (Press false (ReconnectWindow.question w.mac.value)
        (.forceIP w.mac.getMAC 0 0 0))) fun _ _ => False := by
  refine ensures_getWin_bind ?_
  rw [if_pos hvalid]
  refine Ensures.tryCatch (Ensures.conseq (ensures_attempt env
    (ReconnectWindow.question w.mac.value) (.forceIP w.mac.getMAC 0 0 0) env.forceIP ?_
    fun answer hanswer => ?_) (fun _ h => h) (fun _ _ h => h.direct) fun _ _ h => h.direct)
    fun e => ensures_alertWhat e
  · dsimp only
    rw [if_pos rfl]
    exact (ensures_perform env _).bind fun _ => ensures_hide
  · dsimp only
    rw [if_neg hanswer]
    exact ensures_hide

theorem lawful_reconnect : Lawful fl (reconnectPurpose fl env widget) where
  opens w t list selMac := by
    refine (ensures_onWin _).conseq (fun _ h => h) (fun _ s hs => ?_) fun _ _ h => h
    obtain ⟨hwin, htrace⟩ := hs
    rw [hwin]
    refine ⟨settled_reconnect_update fl env widget fun _ => rfl, ?_, htrace⟩
    exact updateEntries_withoutIP fl w.device list selMac
  edits w t event hs hopen hpress := by
    cases event with
    | updateDevices list selMac => exact absurd rfl (hopen list selMac)
    | select i =>
      dsimp only [reconnectDialog, ReconnectWindow.handle]
      refine ensures_editIf hs fun hi => ⟨?_, .inr ⟨i, hi, rfl, rfl⟩⟩
      exact settled_reconnect_update fl env widget fun _ => rfl
    | edit field text =>
      cases field with
      | mac =>
        dsimp only [reconnectDialog, ReconnectWindow.handle]
        refine ensures_editIf hs fun h => ⟨?_, .inl rfl⟩
        exact settled_reconnect_update fl env widget fun hne => absurd (hs.active.mp h.1) hne
      | currentIp => exact ensures_ignored hs
      | ip => exact ensures_ignored hs
      | subnetMask => exact ensures_ignored hs
      | defaultGateway => exact ensures_ignored hs
    | persistentIp enabled => exact ensures_ignored hs
    | dhcp enabled => exact ensures_ignored hs
    | press => exact absurd rfl hpress
    | clear => exact ensures_ignored hs
  presses w t hs := by
    dsimp only [reconnectDialog, ReconnectWindow.handle]
    refine ensures_button hs fun hvalid => ?_
    dsimp only [reconnectPurpose] at hvalid ⊢
    exact ensures_isReconnect env w t hvalid
  goes w hs hne := by
    have hvalue : w.mac.value = w.device.getMAC fl := hs.value hne
    show w.mac.getMAC = InputMAC.getMAC ⟨w.device.getMAC fl⟩
    rw [← hvalue]

end Reconnect

/-! ### `SetTmpIPWindow` -/

section SetTmpIP

variable {χ σ : Type} (fl : FlChoice χ) (env : WindowEnv σ) (widget : χ)

theorem SetTmpIPWindow.device_update (w : SetTmpIPWindow χ) : (w.update fl).device = w.device := by
  unfold SetTmpIPWindow.update
  rfl

theorem SetTmpIPWindow.device_doSubnetMask (w : SetTmpIPWindow χ) :
    (w.doSubnetMask fl).device = w.device := by
  unfold SetTmpIPWindow.doSubnetMask
  exact SetTmpIPWindow.device_update fl _

theorem SetTmpIPWindow.device_doIP (w : SetTmpIPWindow χ) : (w.doIP fl).device = w.device := by
  unfold SetTmpIPWindow.doIP
  exact SetTmpIPWindow.device_doSubnetMask fl _

/-- What `SetTmpIPWindow` is for. -/
def setTmpIPPurpose : Purpose (setTmpIPDialog fl env widget) where
  buttonActive := SetTmpIPWindow.setIpActive
  valid (w : SetTmpIPWindow χ) := w.mac.isValid && w.toAddressFields.isValid
  asksSubnets (w : SetTmpIPWindow χ) := !w.sameSubnet
  question (w : SetTmpIPWindow χ) := SetTmpIPWindow.question w.mac.value
  command (w : SetTmpIPWindow χ) :=
    .forceIP w.mac.getMAC w.ip.getIP w.subnetMask.getIP w.defaultGateway.getIP
  follows _ := True
  shown list := list.map fun x => (x.1, x.2.1, [])

theorem settled_setTmpIP_update {w : SetTmpIPWindow χ}
    (h : w.device.getMAC fl ≠ [] → w.mac.value = w.device.getMAC fl) :
    Settled fl (setTmpIPPurpose fl env widget) (w.update fl) where
  active := beq_zero_iff
  value := h
  button := by
    dsimp only [setTmpIPPurpose, SetTmpIPWindow.update, AddressFields.isValid]
    rw [Bool.and_assoc, Bool.and_assoc, Bool.and_assoc]
  follows := trivial

theorem settled_setTmpIP_doSubnetMask {w : SetTmpIPWindow χ}
    (h : w.device.getMAC fl ≠ [] → w.mac.value = w.device.getMAC fl) :
    Settled fl (setTmpIPPurpose fl env widget) (w.doSubnetMask fl) := by
  unfold SetTmpIPWindow.doSubnetMask
  exact settled_setTmpIP_update fl env widget h

theorem settled_setTmpIP_doIP {w : SetTmpIPWindow χ}
    (h : w.device.getMAC fl ≠ [] → w.mac.value = w.device.getMAC fl) :
    Settled fl (setTmpIPPurpose fl env widget) (w.doIP fl) := by
  unfold SetTmpIPWindow.doIP
  exact settled_setTmpIP_doSubnetMask fl env widget h

theorem ensures_isSet (w : SetTmpIPWindow χ) (t : List WindowEffect)
    (hvalid : (w.mac.isValid && w.toAddressFields.isValid) = true) :
    Ensures (At w t) (SetTmpIPWindow.isSet env)
      (fun _ => Did w t (Press (!w.sameSubnet) (SetTmpIPWindow.question w.mac.value)
        (.forceIP w.mac.getMAC w.ip.getIP w.subnetMask.getIP w.defaultGateway.getIP)))
      fun _ _ => False := by
  refine ensures_getWin_bind ?_
  rw [if_pos hvalid]
  refine Ensures.tryCatch (ensures_press env _ _ fun t => ensures_attempt env
    (SetTmpIPWindow.question w.mac.value)
    (.forceIP w.mac.getMAC w.ip.getIP w.subnetMask.getIP w.defaultGateway.getIP)
    env.forceIP ?_ fun answer hanswer => ?_) fun e => ensures_alertWhat e
  · rw [if_pos rfl]
    exact (ensures_perform env _).bind fun _ => ensures_hide
  · rw [if_neg hanswer]
    exact ensures_pure fun _ h => h

theorem lawful_setTmpIP : Lawful fl (setTmpIPPurpose fl env widget) where
  opens w t list selMac := by
    refine (ensures_onWin _).conseq (fun _ h => h) (fun _ s hs => ?_) fun _ _ h => h
    obtain ⟨hwin, htrace⟩ := hs
    rw [hwin]
    refine ⟨settled_setTmpIP_update fl env widget fun _ => rfl, ?_, htrace⟩
    exact updateEntries_withoutIP fl w.device list selMac
  edits w t event hs hopen hpress := by
    have hvalue : w.device.getMAC fl ≠ [] → w.mac.value = w.device.getMAC fl := hs.value
    cases event with
    | updateDevices list selMac => exact absurd rfl (hopen list selMac)
    | select i =>
      dsimp only [setTmpIPDialog, SetTmpIPWindow.handle]
      refine ensures_editIf hs fun hi => ⟨?_, .inr ⟨i, hi, rfl, ?_⟩⟩
      · exact settled_setTmpIP_update fl env widget fun _ => rfl
      · exact SetTmpIPWindow.device_update fl { w with
          device := w.device.select fl i
          mac := ⟨(w.device.select fl i).getMAC fl⟩ }
    | edit field text =>
      cases field with
      | mac =>
        dsimp only [setTmpIPDialog, SetTmpIPWindow.handle]
        refine ensures_editIf hs fun h => ⟨?_, .inl ?_⟩
        · exact settled_setTmpIP_update fl env widget fun hne => absurd (hs.active.mp h.1) hne
        · exact SetTmpIPWindow.device_update fl { w with mac := ⟨text⟩ }
      | currentIp => exact ensures_ignored hs
      | ip =>
        dsimp only [setTmpIPDialog, SetTmpIPWindow.handle]
        refine ensures_editIf hs fun _ => ⟨?_, .inl ?_⟩
        · exact settled_setTmpIP_doIP fl env widget hvalue
        · exact SetTmpIPWindow.device_doIP fl { w with ip := ⟨text⟩ }
      | subnetMask =>
        dsimp only [setTmpIPDialog, SetTmpIPWindow.handle]
        refine ensures_editIf hs fun _ => ⟨?_, .inl ?_⟩
        · exact settled_setTmpIP_doSubnetMask fl env widget hvalue
        · exact SetTmpIPWindow.device_doSubnetMask fl { w with subnetMask := ⟨text⟩ }
      | defaultGateway =>
        dsimp only [setTmpIPDialog, SetTmpIPWindow.handle]
        refine ensures_editIf hs fun _ => ⟨?_, .inl ?_⟩
        · exact settled_setTmpIP_update fl env widget hvalue
        · exact SetTmpIPWindow.device_update fl { w with defaultGateway := ⟨text⟩ }
    | persistentIp enabled => exact ensures_ignored hs
    | dhcp enabled => exact ensures_ignored hs
    | press => exact absurd rfl hpress
    | clear =>
      refine ensures_edit rfl (settled_setTmpIP_update fl env widget hvalue) (.inl ?_)
      exact SetTmpIPWindow.device_update fl
        { w with toAddressFields := w.toAddressFields.cleared }
  presses w t hs := by
    dsimp only [setTmpIPDialog, SetTmpIPWindow.handle]
    refine ensures_button hs fun hvalid => ?_
    dsimp only [setTmpIPPurpose] at hvalid ⊢
    exact ensures_isSet env w t hvalid
  goes w hs hne := by
    have hvalue : w.mac.value = w.device.getMAC fl := hs.value hne
    show w.mac.getMAC = InputMAC.getMAC ⟨w.device.getMAC fl⟩
    rw [← hvalue]

end SetTmpIP

/-! ### `ChangeIPConfigWindow` -/

section ChangeIPConfig

variable {χ σ : Type} (fl : FlChoice χ) (env : WindowEnv σ) (widget : χ)

/-- What follows the drop-down besides the MAC field, and the fields that follow the check
button. -/
structure ChangeIPConfigForm.Follows (w : ChangeIPConfigForm χ) : Prop where
  active : w.currentIpActive = true ↔ w.device.getMAC fl = []
  value : w.device.getMAC fl ≠ [] → w.currentIp.value = w.device.getIP fl
  fields : w.ipActive = w.persistentIpEnabled ∧ w.subnetMaskActive = w.persistentIpEnabled ∧
    w.defaultGatewayActive = w.persistentIpEnabled

/-- What `ChangeIPConfigWindow` is for. -/
def changeIPConfigPurpose : Purpose (changeIPConfigDialog fl env widget) where
  buttonActive (w : ChangeIPConfigForm χ) := w.setConfigActive
  valid (w : ChangeIPConfigForm χ) := w.currentIp.isValid && w.persistentOk
  asksSubnets (w : ChangeIPConfigForm χ) := w.persistentIpEnabled && !w.sameSubnet
  question (w : ChangeIPConfigForm χ) := ChangeIPConfigForm.question w.currentIp.value
  command (w : ChangeIPConfigForm χ) := .writeConfig w.currentIp.getIP w.config
  follows w := ChangeIPConfigForm.Follows fl w
  shown list := list

/-- The fields for the MAC address and the current IP address follow the drop-down. -/
def ChangeIPConfigWindow.Filled (w : ChangeIPConfigWindow χ) : Prop :=
  w.device.getMAC fl ≠ [] →
    w.mac.value = w.device.getMAC fl ∧ w.currentIp.value = w.device.getIP fl

theorem ChangeIPConfigWindow.doSubnetMask_eq (w : ChangeIPConfigWindow χ) :
    w.doSubnetMask fl =
      { w with toAddressFields := w.toAddressFields.completeGateway }.update fl := by
  unfold ChangeIPConfigWindow.doSubnetMask
  rfl

theorem ChangeIPConfigWindow.doIP_eq (w : ChangeIPConfigWindow χ) :
    w.doIP fl = ChangeIPConfigWindow.update fl
      { w with toAddressFields := w.toAddressFields.completeMask.completeGateway } := by
  unfold ChangeIPConfigWindow.doIP
  exact ChangeIPConfigWindow.doSubnetMask_eq fl _

namespace ChangeIPConfigForm

/-- The drop-down and the two fields are the same. -/
def SameDevice (w w' : ChangeIPConfigWindow χ) : Prop :=
  w'.device = w.device ∧ w'.mac = w.mac ∧ w'.currentIp = w.currentIp

theorem SameDevice.filled {w w' : ChangeIPConfigWindow χ} (hsame : SameDevice w w')
    (h : w.Filled fl) : w'.Filled fl := by
  obtain ⟨hdevice, hmac, hip⟩ := hsame
  unfold ChangeIPConfigWindow.Filled
  rw [hdevice, hmac, hip]
  exact h

/-- `update` settles the window. -/
theorem settled_onForm {f : ChangeIPConfigWindow χ → ChangeIPConfigWindow χ}
    {w : ChangeIPConfigForm χ} {v : ChangeIPConfigWindow χ}
    (hf : f w.toChangeIPConfigWindow = v.update fl) (h : v.Filled fl) :
    Settled fl (changeIPConfigPurpose fl env widget) (onForm f w) := by
  have heq : onForm f w = { w with toChangeIPConfigWindow := v.update fl } := by
    unfold onForm
    rw [hf]
  rw [heq]
  constructor
  · exact beq_zero_iff
  · exact fun hne => (h hne).1
  · dsimp only [changeIPConfigPurpose, ChangeIPConfigWindow.update, persistentOk,
      AddressFields.isValid]
  · exact ⟨beq_zero_iff, fun hne => (h hne).2, rfl, rfl, rfl⟩

theorem ensures_readCurrentConfigFromDevice (w : ChangeIPConfigForm χ) (t : List WindowEffect) :
    Ensures (At w t) (readCurrentConfigFromDevice env)
      (fun _ s => SameDevice w.toChangeIPConfigWindow s.win.toChangeIPConfigWindow ∧
        s.trace = t) fun _ _ => False := by
  have hsame : ∀ s : Session (ChangeIPConfigForm χ) σ, At w t s →
      SameDevice w.toChangeIPConfigWindow s.win.toChangeIPConfigWindow ∧ s.trace = t := by
    rintro s ⟨rfl, rfl⟩
    exact ⟨⟨rfl, rfl, rfl⟩, rfl⟩
  refine ensures_getWin_bind (Ensures.ite (fun _ => ?_) fun _ => ensures_pure hsame)
  refine Ensures.tryCatch (F := fun _ => At w t) ?_ fun _ => ensures_pure hsame
  refine (ensures_call _).bind fun _ => (ensures_call _).bind fun config => ensures_ofState ?_
  rintro s ⟨rfl, rfl⟩
  exact ⟨⟨rfl, rfl, rfl⟩, rfl⟩

/-- Reading the configuration and `update`. -/
theorem ensures_isChangingCurrentIP {w : ChangeIPConfigForm χ} (h : w.Filled fl)
    (t : List WindowEffect) :
    Ensures (At w t) (isChangingCurrentIP fl env)
      (fun _ s => Settled fl (changeIPConfigPurpose fl env widget) s.win ∧
        s.win.device = w.device ∧ s.trace = t) fun _ _ => False := by
  refine (ensures_readCurrentConfigFromDevice env w t).bind fun _ => ensures_ofState ?_
  rintro s ⟨hsame, htrace⟩
  exact ⟨settled_onForm fl env widget rfl (hsame.filled fl h), hsame.1, htrace⟩

theorem ensures_isChangingDevice (w : ChangeIPConfigForm χ) (t : List WindowEffect) :
    Ensures (At w t) (isChangingDevice fl env)
      (fun _ s => Settled fl (changeIPConfigPurpose fl env widget) s.win ∧
        s.win.device = w.device ∧ s.trace = t) fun _ _ => False := by
  refine (ensures_onWin _).bind fun _ => ?_
  exact ensures_isChangingCurrentIP fl env widget (fun _ => ⟨rfl, rfl⟩) t

theorem ensures_isSet (w : ChangeIPConfigForm χ) (t : List WindowEffect)
    (hvalid : (w.currentIp.isValid && w.persistentOk) = true) :
    Ensures (At w t) (isSet env)
      (fun _ => Did w t (Press (w.persistentIpEnabled && !w.sameSubnet)
        (question w.currentIp.value) (.writeConfig w.currentIp.getIP w.config)))
      fun _ _ => False := by
  refine ensures_getWin_bind ?_
  rw [if_pos hvalid]
  refine Ensures.tryCatch (ensures_press env _ _ fun t => ensures_attempt env
    (question w.currentIp.value) (.writeConfig w.currentIp.getIP w.config)
    (env.gvcpIPConfig w.currentIp.getIP) ?_ fun answer hanswer => ?_) fun e => ?_
  · rw [if_pos rfl]
    exact (ensures_perform env _).bind fun _ => ensures_hide
  · rw [if_neg hanswer]
    exact ensures_pure fun _ h => h
  · cases e with
    | gvcpAccessDenied what => exact ensures_alert _
    | runtimeError what => exact ensures_alert what

end ChangeIPConfigForm

/-- The form changes if the widget gets the event. -/
theorem ensures_editForm {w : ChangeIPConfigForm χ} {t : List WindowEffect} {event : WindowEvent}
    {c : ChangeIPConfigWindow χ → Prop} [DecidablePred c]
    {f : ChangeIPConfigWindow χ → ChangeIPConfigWindow χ}
    (hs : Settled fl (changeIPConfigPurpose fl env widget) w)
    (h : c w.toChangeIPConfigWindow → ∃ v : ChangeIPConfigWindow χ,
      f w.toChangeIPConfigWindow = v.update fl ∧ v.Filled fl ∧ v.device = w.device) :
    Ensures (At w t)
      (onWin (ChangeIPConfigForm.onForm fun w => if c w then f w else w))
      (fun _ s => Settled fl (changeIPConfigPurpose fl env widget) s.win ∧
        Reselects fl event w.device s.win.device ∧ s.trace = t)
      (fun _ _ => False : WindowException → Session (ChangeIPConfigForm χ) σ → Prop) := by
  by_cases hc : c w.toChangeIPConfigWindow
  · obtain ⟨v, hf, hfilled, hdevice⟩ := h hc
    refine ensures_edit rfl (ChangeIPConfigForm.settled_onForm fl env widget
      (f := fun w => if c w then f w else w) ((if_pos hc).trans hf) hfilled) (.inl ?_)
    dsimp only [changeIPConfigDialog, ChangeIPConfigForm.onForm]
    rw [if_pos hc, hf]
    exact hdevice
  · refine ensures_edit ?_ hs (.inl rfl)
    unfold ChangeIPConfigForm.onForm
    dsimp only
    rw [if_neg hc]

theorem filled_of_settled {w : ChangeIPConfigForm χ}
    (hs : Settled fl (changeIPConfigPurpose fl env widget) w) : w.Filled fl :=
  fun hne => ⟨hs.value hne, hs.follows.value hne⟩

theorem lawful_changeIPConfig : Lawful fl (changeIPConfigPurpose fl env widget) where
  opens w t list selMac := by
    dsimp only [changeIPConfigDialog, ChangeIPConfigForm.handle]
    refine (ensures_onWin _).bind fun _ =>
      (ChangeIPConfigForm.ensures_isChangingDevice fl env widget _ t).bind fun _ => ?_
    refine ensures_ofState ?_
    rintro s ⟨hs, hdevice, htrace⟩
    refine ⟨?_, hdevice, htrace⟩
    exact ChangeIPConfigForm.settled_onForm fl env widget rfl (filled_of_settled fl env widget hs)
  edits w t event hs hopen hpress := by
    have hsame : ∀ v : ChangeIPConfigWindow χ,
        ChangeIPConfigForm.SameDevice w.toChangeIPConfigWindow v → v.Filled fl :=
      fun v h => h.filled fl (filled_of_settled fl env widget hs)
    cases event with
    | updateDevices list selMac => exact absurd rfl (hopen list selMac)
    | select i =>
      dsimp only [changeIPConfigDialog, ChangeIPConfigForm.handle]
      refine ensures_getWin_bind (Ensures.ite (fun hi => ?_) fun _ => ensures_ignored hs)
      refine ((ensures_onWin _).bind fun _ =>
        ChangeIPConfigForm.ensures_isChangingDevice fl env widget _ t).conseq
          (fun _ h => h) (fun _ s h => ?_) fun _ _ h => h
      exact ⟨h.1, .inr ⟨i, hi, rfl, h.2.1⟩, h.2.2⟩
    | edit field text =>
      cases field with
      | mac =>
        dsimp only [changeIPConfigDialog, ChangeIPConfigForm.handle]
        refine ensures_editForm fl env widget hs fun h => ⟨{ w with mac := ⟨text⟩ }, rfl, ?_, rfl⟩
        exact fun hne => absurd (hs.active.mp h.1) hne
      | currentIp =>
        dsimp only [changeIPConfigDialog, ChangeIPConfigForm.handle]
        refine ensures_getWin_bind (Ensures.ite (fun h => ?_) fun _ => ensures_ignored hs)
        have hempty : w.device.getMAC fl = [] := hs.follows.active.mp h.1
        refine ((ensures_onWin _).bind fun _ =>
          ChangeIPConfigForm.ensures_isChangingCurrentIP fl env widget
            (w := { w with currentIp := ⟨text⟩ }) (fun hne => absurd hempty hne) t).conseq
              (fun _ h => h) (fun _ s h => ?_) fun _ _ h => h
        exact ⟨h.1, .inl h.2.1, h.2.2⟩
      | ip =>
        dsimp only [changeIPConfigDialog, ChangeIPConfigForm.handle]
        refine ensures_editForm fl env widget hs fun _ =>
          ⟨_, ChangeIPConfigWindow.doIP_eq fl _, ?_, rfl⟩
        exact hsame _ ⟨rfl, rfl, rfl⟩
      | subnetMask =>
        dsimp only [changeIPConfigDialog, ChangeIPConfigForm.handle]
        refine ensures_editForm fl env widget hs fun _ =>
          ⟨_, ChangeIPConfigWindow.doSubnetMask_eq fl _, ?_, rfl⟩
        exact hsame _ ⟨rfl, rfl, rfl⟩
      | defaultGateway =>
        dsimp only [changeIPConfigDialog, ChangeIPConfigForm.handle]
        refine ensures_editForm fl env widget hs fun _ => ⟨_, rfl, ?_, rfl⟩
        exact hsame _ ⟨rfl, rfl, rfl⟩
    | persistentIp enabled =>
      refine ensures_edit rfl (ChangeIPConfigForm.settled_onForm fl env widget rfl ?_) (.inl rfl)
      exact hsame _ ⟨rfl, rfl, rfl⟩
    | dhcp enabled =>
      dsimp only [changeIPConfigDialog, ChangeIPConfigForm.handle]
      refine ensures_edit (d := changeIPConfigDialog fl env widget) (w := w) rfl ?_ (.inl ?_)
      · exact ChangeIPConfigForm.settled_onForm fl env widget rfl (hsame _ ⟨rfl, rfl, rfl⟩)
      · rfl
    | press => exact absurd rfl hpress
    | clear =>
      refine ensures_edit rfl (ChangeIPConfigForm.settled_onForm fl env widget rfl ?_) (.inl rfl)
      exact hsame _ ⟨rfl, rfl, rfl⟩
  presses w t hs := by
    dsimp only [changeIPConfigDialog, ChangeIPConfigForm.handle]
    refine ensures_button hs fun hvalid => ?_
    dsimp only [changeIPConfigPurpose] at hvalid ⊢
    exact ChangeIPConfigForm.ensures_isSet env w t hvalid
  goes w hs hne := by
    have hvalue : w.currentIp.value = w.device.getIP fl := hs.follows.value hne
    show w.currentIp.getIP = InputIP.getIP ⟨w.device.getIP fl⟩
    rw [← hvalue]

end ChangeIPConfig

/-! ### The three windows -/

/-- The windows that send something to a device with the press of a button. -/
inductive ConfigWindow
  | reconnect
  | setTmpIP
  | changeIPConfig
  deriving DecidableEq, Repr

namespace ConfigWindow

variable {χ σ : Type} (fl : FlChoice χ) (env : WindowEnv σ) (widget : χ)

/-- The window. -/
def dialog : ConfigWindow → Dialog χ σ
  | .reconnect => reconnectDialog fl env widget
  | .setTmpIP => setTmpIPDialog fl env widget
  | .changeIPConfig => changeIPConfigDialog fl env widget

/-- What it is for. -/
def purpose : (k : ConfigWindow) → Purpose (k.dialog fl env widget)
  | .reconnect => reconnectPurpose fl env widget
  | .setTmpIP => setTmpIPPurpose fl env widget
  | .changeIPConfig => changeIPConfigPurpose fl env widget

theorem lawful (k : ConfigWindow) : Lawful fl (k.purpose fl env widget) := by
  cases k with
  | reconnect => exact lawful_reconnect fl env widget
  | setTmpIP => exact lawful_setTmpIP fl env widget
  | changeIPConfig => exact lawful_changeIPConfig fl env widget

/-- **Every command was confirmed.**  In every run of a window, whatever the user does and whatever
fails: while the window is shown, its MAC field follows the drop-down and its button is active when
the fields are complete; and each command was sent by a press of the button, with the contents that
the fields of the window had then, which were complete, right after the user had agreed to the
question that names the device, and before it to a first question if gateway and address are in
different subnets. -/
theorem dialogs_sound (k : ConfigWindow) (outside : σ) (events : List WindowEvent) :
    let s := run (k.dialog fl env widget).step ((k.dialog fl env widget).start outside) events
    Sound fl (k.purpose fl env widget) s ∧
      Justified (Confirmed fl (k.purpose fl env widget) outside events) s.trace :=
  ⟨(k.lawful fl env widget).sound_run outside events,
    (k.lawful fl env widget).confirmed_run outside events⟩

/-- **Commands go to the device that is selected.**  A window is opened for a list of devices and
used until an entry of its drop-down is selected: pressing the button configures no other device
than that of the entry, with the contents of the fields. -/
theorem dialogs_goTo (k : ConfigWindow) (outside : σ) (pre post : List WindowEvent)
    {list : List (Str × Str × Str)} (selMac : Str)
    (hlist : Choosable ((k.purpose fl env widget).shown list))
    (hnames : DeviceChoice.NamesSeparate ((k.purpose fl env widget).shown list))
    (hpost : ∀ event ∈ post, ∀ list selMac, event ≠ .updateDevices list selMac)
    (i : ℕ) (name mac ip : Str)
    (hi : ((k.purpose fl env widget).shown list)[i]? = some (name, mac, ip)) :
    let d := k.dialog fl env widget
    let s := run d.step (d.start outside) (pre ++ .updateDevices list selMac :: post)
    s.visible = true → fl.value (d.device s.win).widget = (i + 1 : ℕ) →
      ∃ effects, (d.step s .press).trace = s.trace ++ effects ∧
        ∀ c, .performed c ∈ effects →
          c = (k.purpose fl env widget).command s.win ∧ c.GoesTo mac ip := by
  intro d s hvisible hvalue
  have hfor := (k.lawful fl env widget).isFor_run outside pre post selMac hlist hpost
  exact hfor.goesTo (k.lawful fl env widget) hvisible hlist hnames hvalue hi

/-- A user who agrees to everything, and devices that answer. -/
def agreeing : WindowEnv Unit where
  flChoice _ s := (1, s)
  forceIP s := (.ok (), s)
  gvcpIPConfig _ s := (.ok (), s)
  readConfig _ s := (.ok ⟨true, true, 0x0A000207, 0xFF000000, 0x0A000001⟩, s)
  perform _ s := (.ok (), s)

theorem dialogs_goTo_twoCameras :
    let d := dialog .items agreeing ([], -1) .changeIPConfig
    let s := run d.step (d.start ())
      [.updateDevices DeviceChoice.twoCameras [], .select 2, .persistentIp false]
    ∃ effects, (d.step s .press).trace = s.trace ++ effects ∧
      ∀ c, .performed c ∈ effects →
        c = (purpose .items agreeing ([], -1) .changeIPConfig).command s.win ∧
          c.GoesTo "00:14:2d:2c:6e:bc".toList "10.0.2.8".toList := by
  have hlist : Choosable DeviceChoice.twoCameras := by decide
  have hnames : DeviceChoice.NamesSeparate DeviceChoice.twoCameras := by
    intro x hx
    revert x
    decide
  have hpost : ∀ event ∈ [WindowEvent.select 2, .persistentIp false], ∀ list selMac,
      event ≠ .updateDevices list selMac := by
    intro event hevent list selMac
    rcases List.mem_cons.mp hevent with rfl | hevent
    · simp
    · rw [List.mem_singleton.mp hevent]
      simp
  exact dialogs_goTo .items agreeing ([], -1) .changeIPConfig () [] _ [] hlist hnames hpost 1
    _ _ _ rfl rfl rfl

end ConfigWindow

end Gui
end RcDiscover
