import RcDiscover.Gui.Dialogs
import RcDiscover.Lib.Traces

/-!
# What the windows guarantee

* `Purpose`: what the button of a window is for: when it may be pressed, what is asked before, and
  what is sent;
* `Settled`: the MAC field follows the drop-down, and the button its purpose;
* `Lawful`: what every member function of a window keeps;
* `Confirmed`: what must have happened in a run before a command is sent.

`Lawful.sound_run`, `Lawful.confirmed_run` and `IsFor.goesTo` (**main results**) say what this means
for a window over time: it is settled while it is shown, every command is what the button is for at
that time and was confirmed by the user, and it goes to the device that is selected.
-/

namespace RcDiscover
namespace Gui

open Program Runs Traces

/-! ### The purpose of a window -/

/-- What the button of a window is for. -/
structure Purpose {χ σ : Type} (d : Dialog χ σ) where
  buttonActive : d.W → Bool
  /-- the fields are complete -/
  valid : d.W → Bool
  /-- the addresses are asked for first -/
  asksSubnets : d.W → Bool
  question : d.W → Str
  command : d.W → WindowCommand
  /-- what else follows the drop-down -/
  follows : d.W → Prop
  /-- what the drop-down shows of a list of devices -/
  shown : List (Str × Str × Str) → List (Str × Str × Str)

/-- What may happen from the constructor of the sender on. -/
inductive Attempt (question : Str) (c : WindowCommand) : List WindowEffect → Prop
  | failed (text : Str) : Attempt question c [.alerted text]
  | declined (answer : ℤ) (h : answer ≠ 1) : Attempt question c [.asked question answer]
  | done : Attempt question c [.asked question 1, .performed c]
  | refused (text : Str) :
    Attempt question c [.asked question 1, .performed c, .alerted text]

/-- What may happen when the button is pressed. -/
inductive Press (asksSubnets : Bool) (question : Str) (c : WindowCommand) :
    List WindowEffect → Prop
  | direct {effects : List WindowEffect} (hasks : asksSubnets = false)
    (hrest : Attempt question c effects) : Press asksSubnets question c effects
  | cancelled (hasks : asksSubnets = true) (answer : ℤ) (h : answer ≠ 1) :
    Press asksSubnets question c [.asked subnetsQuestion answer]
  | proceeded {effects : List WindowEffect} (hasks : asksSubnets = true)
    (hrest : Attempt question c effects) :
    Press asksSubnets question c (.asked subnetsQuestion 1 :: effects)

/-- What the user has agreed to before a command. -/
def agreed (asksSubnets : Bool) (question : Str) : List WindowEffect :=
  (if asksSubnets then [.asked subnetsQuestion 1] else []) ++ [.asked question 1]

section Purpose

variable {χ σ : Type} (fl : FlChoice χ) {d : Dialog χ σ} (p : Purpose d)

/-- The MAC field follows the drop-down, and the button may be pressed when the fields are
complete. -/
structure Settled (w : d.W) : Prop where
  active : d.macActive w = true ↔ (d.device w).getMAC fl = []
  value : (d.device w).getMAC fl ≠ [] → (d.mac w).value = (d.device w).getMAC fl
  button : p.buttonActive w = p.valid w
  follows : p.follows w

/-- The command is for the device with these addresses. -/
def WindowCommand.GoesTo (mac ip : Str) : WindowCommand → Prop
  | .forceIP m _ _ _ => m = InputMAC.getMAC ⟨mac⟩
  | .writeConfig a _ => a = InputIP.getIP ⟨ip⟩

/-- The drop-down has the entries that it had, and another one is selected if the user picks it. -/
def Reselects (event : WindowEvent) (device device' : DeviceChoice χ) : Prop :=
  device' = device ∨ ∃ i < (fl.labels device.widget).length,
    event = .select i ∧ device' = device.select fl i

/-- What the member functions of a window keep.  None of them lets an exception escape. -/
structure Lawful : Prop where
  /-- opening the window -/
  opens : ∀ w t list selMac, Ensures (fun s => s.win = w ∧ s.trace = t)
    (d.handle (.updateDevices list selMac))
    (fun _ s => Settled fl p s.win ∧
      d.device s.win = (d.device w).updateEntries fl (p.shown list) selMac ∧ s.trace = t)
    fun _ _ => False
  /-- the other events but the button -/
  edits : ∀ w t event, Settled fl p w → (∀ list selMac, event ≠ .updateDevices list selMac) →
    event ≠ .press → Ensures (fun s => s.win = w ∧ s.trace = t) (d.handle event)
    (fun _ s => Settled fl p s.win ∧ Reselects fl event (d.device w) (d.device s.win) ∧
      s.trace = t)
    fun _ _ => False
  presses : ∀ w t, Settled fl p w → Ensures (fun s => s.win = w ∧ s.trace = t) (d.handle .press)
    (fun _ s => s.win = w ∧ ∃ effects, s.trace = t ++ effects ∧ (effects = [] ∨
      p.valid w = true ∧ Press (p.asksSubnets w) (p.question w) (p.command w) effects))
    fun _ _ => False
  goes : ∀ w, Settled fl p w → (d.device w).getMAC fl ≠ [] →
    (p.command w).GoesTo ((d.device w).getMAC fl) ((d.device w).getIP fl)

/-- A command out of an attempt is the one that was asked for. -/
theorem Attempt.split {question : Str} {c c' : WindowCommand} {effects pre post : List WindowEffect}
    (h : Attempt question c effects) (heq : effects = pre ++ .performed c' :: post) :
    c' = c ∧ pre = [.asked question 1] := by
  cases h with
  | failed text => rcases pre with _ | ⟨e, pre⟩ <;> simp at heq
  | declined answer _ => rcases pre with _ | ⟨e, pre⟩ <;> simp at heq
  | done => rcases pre with _ | ⟨e, _ | ⟨e', pre⟩⟩ <;> simp_all
  | refused text => rcases pre with _ | ⟨e, _ | ⟨e', _ | ⟨e'', pre⟩⟩⟩ <;> simp_all

/-- A command out of a press is the one that was asked for, and the user has agreed. -/
theorem Press.split {asks : Bool} {question : Str} {c c' : WindowCommand}
    {effects pre post : List WindowEffect} (h : Press asks question c effects)
    (heq : effects = pre ++ .performed c' :: post) : c' = c ∧ pre = agreed asks question := by
  cases h with
  | direct hasks hrest =>
    obtain ⟨rfl, rfl⟩ := hrest.split heq
    exact ⟨rfl, by simp [agreed, hasks]⟩
  | cancelled hasks answer _ => rcases pre with _ | ⟨e, pre⟩ <;> simp at heq
  | proceeded hasks hrest =>
    rcases pre with _ | ⟨e, pre⟩
    · simp at heq
    · obtain ⟨rfl, hrest'⟩ := List.cons_eq_cons.mp heq
      obtain ⟨rfl, rfl⟩ := hrest.split hrest'
      exact ⟨rfl, by simp [agreed, hasks]⟩

theorem Press.eq_of_performed {asks : Bool} {question : Str} {c c' : WindowCommand}
    {effects : List WindowEffect} (h : Press asks question c effects)
    (hc : .performed c' ∈ effects) : c' = c := by
  obtain ⟨pre, post, heq⟩ := List.append_of_mem hc
  exact (h.split heq).1

end Purpose

/-! ### What the drop-down shows -/

section Shows

variable {χ : Type} {fl : FlChoice χ} {list : List (Str × Str × Str)} {device : DeviceChoice χ}

variable (fl list device) in
/-- The drop-down has the entries for a list of devices, and one of them is selected. -/
structure Shows : Prop where
  labels : fl.labels device.widget =
    "<CUSTOM>".toList :: list.map fun x => DeviceChoice.label x.1 x.2.1
  ips : device.ipList = [] :: list.map fun x => x.2.2
  value : ∃ k ≤ list.length, fl.value device.widget = (k : ℤ)

theorem shows_updateEntries (h : Choosable list) (s : DeviceChoice χ) (selMac : Str) :
    Shows fl list (s.updateEntries fl list selMac) := by
  obtain ⟨hlabels, hips, hsel, hnone⟩ := DeviceChoice.updateEntries_spec fl h s selMac
  refine ⟨hlabels, hips, ?_⟩
  by_cases hmem : ∃ x ∈ list, x.2.1 = selMac
  · obtain ⟨⟨name, mac, ip⟩, hx, rfl⟩ := hmem
    obtain ⟨k, hk⟩ := List.mem_iff_getElem?.mp hx
    have hlt : k < list.length := (List.getElem?_eq_some_iff.mp hk).1
    exact ⟨k + 1, hlt, hsel k name ip hk⟩
  · push Not at hmem
    exact ⟨0, Nat.zero_le _, hnone hmem⟩

/-- Picking an entry keeps the entries. -/
theorem Shows.reselects {device' : DeviceChoice χ} {event : WindowEvent}
    (h : Shows fl list device) (hsel : Reselects fl event device device') :
    Shows fl list device' := by
  rcases hsel with rfl | ⟨i, hi, -, rfl⟩
  · exact h
  · refine ⟨(fl.labels_setValue _ _).trans h.labels, h.ips, i, ?_, fl.value_setValue i _ hi⟩
    rw [h.labels, List.length_cons, List.length_map] at hi
    omega

/-- **The entry that is selected** leads back to its device. -/
theorem Shows.selected (h : Shows fl list device) (hnames : DeviceChoice.NamesSeparate list)
    {k : ℕ} {name mac ip : Str} (hvalue : fl.value device.widget = (k + 1 : ℕ))
    (hk : list[k]? = some (name, mac, ip)) :
    device.getMAC fl = mac ∧ device.getIP fl = ip := by
  have hlt : k < list.length := (List.getElem?_eq_some_iff.mp hk).1
  have hlabel : (fl.labels device.widget)[k + 1]? = some (DeviceChoice.label name mac) := by
    simp [h.labels, hk]
  have hip : device.ipList[k + 1]? = some ip := by simp [h.ips, hk]
  have hsize := fl.length_labels_lt_size device.widget <| by
    rw [h.labels]
    exact List.cons_ne_nil _ _
  rw [h.labels, List.length_cons, List.length_map] at hsize
  obtain ⟨i, hi, hfind, hiff⟩ := find_label name mac
  have hname : i = name.length := hiff.mpr (hnames _ (List.mem_of_getElem? hk))
  constructor
  · unfold DeviceChoice.getMAC
    dsimp only
    rw [hvalue, if_pos ⟨by omega, by omega⟩, Int.toNat_natCast, List.getD_eq_getElem?_getD, hlabel,
      Option.getD_some, hfind]
    exact (drop_label_eq_iff hi).mpr hname
  · unfold DeviceChoice.getIP
    dsimp only
    have hlen : k + 1 < device.ipList.length := by
      rw [h.ips, List.length_cons, List.length_map]
      omega
    rw [hvalue, if_pos ⟨by omega, by simpa using hlen⟩, Int.toNat_natCast,
      List.getD_eq_getElem?_getD, hip, Option.getD_some]

end Shows

/-! ### A window over time -/

section Runs

variable {χ σ : Type} {fl : FlChoice χ} {d : Dialog χ σ} {p : Purpose d}

/-- A window that is shown is settled. -/
def Sound (fl : FlChoice χ) (p : Purpose d) (s : Session d.W σ) : Prop :=
  s.visible = true → Settled fl p s.win

/-- A command that is performed after the effects was confirmed in the run: the button was pressed
while the window was shown, settled and complete, the command is what the button was for then, and
the user had just agreed. -/
def Confirmed (fl : FlChoice χ) (p : Purpose d) (outside : σ) (events : List WindowEvent)
    (effects : List WindowEffect) : WindowEffect → Prop
  | .performed c => ∃ pre post, events = pre ++ .press :: post ∧
      let s := run d.step (d.start outside) pre
      s.visible = true ∧ Settled fl p s.win ∧ p.valid s.win = true ∧ c = p.command s.win ∧
        effects = s.trace ++ agreed (p.asksSubnets s.win) (p.question s.win)
  | _ => True

/-- Opening a window. -/
theorem Lawful.step_updateDevices (h : Lawful fl p) (s : Session d.W σ)
    (list : List (Str × Str × Str)) (selMac : Str) :
    let s' := d.step s (.updateDevices list selMac)
    Settled fl p s'.win ∧
      d.device s'.win = (d.device s.win).updateEntries fl (p.shown list) selMac ∧
      s'.trace = s.trace := by
  obtain ⟨_, t, hrun, hpost⟩ := (h.opens s.win s.trace list selMac).exists_ok
    (s := { s with visible := true }) ⟨rfl, rfl⟩
  have hstep : d.step s (.updateDevices list selMac) = t := congrArg Prod.snd hrun
  intro s'
  rw [show s' = t from hstep]
  exact hpost

/-- Any other event but the button. -/
theorem Lawful.step_edit (h : Lawful fl p) {s : Session d.W σ} (hvisible : s.visible = true)
    (hs : Settled fl p s.win) {event : WindowEvent}
    (hopen : ∀ list selMac, event ≠ .updateDevices list selMac) (hpress : event ≠ .press) :
    let s' := d.step s event
    Settled fl p s'.win ∧ Reselects fl event (d.device s.win) (d.device s'.win) ∧
      s'.trace = s.trace := by
  obtain ⟨_, t, hrun, hpost⟩ := (h.edits s.win s.trace event hs hopen hpress).exists_ok ⟨rfl, rfl⟩
  have hstep : d.step s event = t := by
    unfold Dialog.step
    split
    · next list selMac => exact absurd rfl (hopen list selMac)
    · rw [if_pos hvisible, hrun]
  intro s'
  rw [show s' = t from hstep]
  exact hpost

/-- The button. -/
theorem Lawful.step_press (h : Lawful fl p) {s : Session d.W σ} (hvisible : s.visible = true)
    (hs : Settled fl p s.win) :
    let s' := d.step s .press
    s'.win = s.win ∧ ∃ effects, s'.trace = s.trace ++ effects ∧ (effects = [] ∨
      p.valid s.win = true ∧
        Press (p.asksSubnets s.win) (p.question s.win) (p.command s.win) effects) := by
  obtain ⟨_, t, hrun, hpost⟩ := (h.presses s.win s.trace hs).exists_ok ⟨rfl, rfl⟩
  have hstep : d.step s .press = t := by
    unfold Dialog.step
    dsimp only
    rw [if_pos hvisible, hrun]
  intro s'
  rw [show s' = t from hstep]
  exact hpost

/-- A hidden window. -/
theorem Dialog.step_of_hidden {s : Session d.W σ} (hvisible : ¬ s.visible = true)
    {event : WindowEvent} (hopen : ∀ list selMac, event ≠ .updateDevices list selMac) :
    d.step s event = s := by
  unfold Dialog.step
  split
  · next list selMac => exact absurd rfl (hopen list selMac)
  · rw [if_neg hvisible]

/-- **One event** keeps a window sound, and it has effects only when it is a press that the window
answers. -/
theorem Sound.step (h : Lawful fl p) {s : Session d.W σ} (hs : Sound fl p s)
    (event : WindowEvent) :
    Sound fl p (d.step s event) ∧ ∃ effects, (d.step s event).trace = s.trace ++ effects ∧
      (effects = [] ∨ event = .press ∧ s.visible = true ∧ p.valid s.win = true ∧
        Press (p.asksSubnets s.win) (p.question s.win) (p.command s.win) effects) := by
  by_cases hopen : ∃ list selMac, event = .updateDevices list selMac
  · obtain ⟨list, selMac, rfl⟩ := hopen
    obtain ⟨hsettled, -, htrace⟩ := h.step_updateDevices s list selMac
    exact ⟨fun _ => hsettled, [], by rw [htrace, List.append_nil], .inl rfl⟩
  have hnot : ∀ list selMac, event ≠ .updateDevices list selMac := fun list selMac heq =>
    hopen ⟨list, selMac, heq⟩
  by_cases hvisible : s.visible = true
  · by_cases hpress : event = .press
    · subst hpress
      obtain ⟨hwin, effects, htrace, heffects⟩ := h.step_press hvisible (hs hvisible)
      refine ⟨fun _ => hwin ▸ hs hvisible, effects, htrace, heffects.imp_right ?_⟩
      exact fun hpressed => ⟨rfl, hvisible, hpressed⟩
    · obtain ⟨hsettled, -, htrace⟩ := h.step_edit hvisible (hs hvisible) hnot hpress
      exact ⟨fun _ => hsettled, [], by rw [htrace, List.append_nil], .inl rfl⟩
  · rw [Dialog.step_of_hidden hvisible hnot]
    exact ⟨hs, [], by rw [List.append_nil], .inl rfl⟩

/-- **Every run** keeps a window sound. -/
theorem Lawful.sound_run (h : Lawful fl p) (outside : σ) (events : List WindowEvent) :
    Sound fl p (run d.step (d.start outside) events) :=
  run_invariant (fun _ event hs => (hs.step h event).1)
    (fun hvisible => absurd hvisible Bool.false_ne_true) events

/-- What was confirmed stays confirmed. -/
theorem Confirmed.append {outside : σ} {events : List WindowEvent} {effects : List WindowEffect}
    {effect : WindowEffect} (h : Confirmed fl p outside events effects effect)
    (later : List WindowEvent) : Confirmed fl p outside (events ++ later) effects effect := by
  cases effect with
  | asked text answer => trivial
  | alerted text => trivial
  | performed c =>
    obtain ⟨pre, post, rfl, hrest⟩ := h
    refine ⟨pre, post ++ later, ?_, hrest⟩
    rw [List.append_assoc, List.cons_append]

/-- What a press performs is confirmed. -/
theorem Press.justified {outside : σ} {events : List WindowEvent} {effects : List WindowEffect} :
    let s := run d.step (d.start outside) events
    s.visible = true → Settled fl p s.win → p.valid s.win = true →
      Press (p.asksSubnets s.win) (p.question s.win) (p.command s.win) effects →
      Justified (fun pre => Confirmed fl p outside (events ++ [.press]) (s.trace ++ pre))
        effects := by
  intro s hvisible hsettled hvalid hpress pre effect post heq
  cases effect with
  | asked text answer => trivial
  | alerted text => trivial
  | performed c =>
    obtain ⟨rfl, rfl⟩ := hpress.split heq
    exact ⟨events, [], rfl, hvisible, hsettled, hvalid, rfl, rfl⟩

/-- **Every command of a run was confirmed.** -/
theorem Lawful.confirmed_run (h : Lawful fl p) (outside : σ) (events : List WindowEvent) :
    Justified (Confirmed fl p outside events) (run d.step (d.start outside) events).trace := by
  induction events using List.reverseRecOn with
  | nil => exact justified_nil
  | append_singleton events event ih =>
    have hsound := h.sound_run outside events
    obtain ⟨-, effects, htrace, heffects⟩ := hsound.step h event
    rw [run_append, run_cons, run_nil, htrace, justified_append_iff]
    refine ⟨ih.mono fun _ _ hconfirmed => hconfirmed.append [event], ?_⟩
    rcases heffects with rfl | ⟨rfl, hvisible, hvalid, hpress⟩
    · exact justified_nil
    · exact Press.justified hvisible (hsound hvisible) hvalid hpress

/-- As long as nothing is selected, the drop-down stays as it is. -/
theorem Sound.device_run (h : Lawful fl p) {s : Session d.W σ} (hs : Sound fl p s)
    {events : List WindowEvent}
    (hevents : ∀ event ∈ events, (∀ list selMac, event ≠ .updateDevices list selMac) ∧
      ∀ i, event ≠ .select i) :
    d.device (run d.step s events).win = d.device s.win := by
  let I : Session d.W σ → Prop := fun t => Sound fl p t ∧ d.device t.win = d.device s.win
  have hrun : I (run d.step s events) := by
    refine run_invariant_of_mem (fun t event hmem ht => ⟨(ht.1.step h event).1, ?_⟩) ⟨hs, rfl⟩
    obtain ⟨hopen, hselect⟩ := hevents event hmem
    refine Eq.trans ?_ ht.2
    by_cases hvisible : t.visible = true
    · have hsettled := ht.1 hvisible
      by_cases hpress : event = .press
      · subst hpress
        rw [(h.step_press hvisible hsettled).1]
      · rcases (h.step_edit hvisible hsettled hopen hpress).2.1 with heq | ⟨i, -, heq, -⟩
        · exact heq
        · exact absurd heq (hselect i)
    · rw [Dialog.step_of_hidden hvisible hopen]
  exact hrun.2

/-- The window is for the devices of this list. -/
def IsFor (fl : FlChoice χ) (p : Purpose d) (list : List (Str × Str × Str))
    (s : Session d.W σ) : Prop :=
  Sound fl p s ∧ (s.visible = true → Shows fl (p.shown list) (d.device s.win))

/-- Until the window is opened for another list. -/
theorem IsFor.step (h : Lawful fl p) {list : List (Str × Str × Str)} {s : Session d.W σ}
    (hs : IsFor fl p list s) {event : WindowEvent}
    (hopen : ∀ list selMac, event ≠ .updateDevices list selMac) :
    IsFor fl p list (d.step s event) := by
  refine ⟨(hs.1.step h event).1, fun _ => ?_⟩
  by_cases hvisible : s.visible = true
  · have hsettled := hs.1 hvisible
    by_cases hpress : event = .press
    · subst hpress
      rw [(h.step_press hvisible hsettled).1]
      exact hs.2 hvisible
    · exact (hs.2 hvisible).reselects (h.step_edit hvisible hsettled hopen hpress).2.1
  · rename_i hshown
    rw [Dialog.step_of_hidden hvisible hopen] at hshown
    exact absurd hshown hvisible

/-- A window that is opened is for the devices of its list, and so it is after other events. -/
theorem Lawful.isFor_run (h : Lawful fl p) (outside : σ) (pre post : List WindowEvent)
    {list : List (Str × Str × Str)} (selMac : Str) (hlist : Choosable (p.shown list))
    (hpost : ∀ event ∈ post, ∀ list selMac, event ≠ .updateDevices list selMac) :
    IsFor fl p list
      (run d.step (d.start outside) (pre ++ .updateDevices list selMac :: post)) := by
  rw [run_append, run_cons]
  refine run_invariant_of_mem (fun s event hmem hs => hs.step h (hpost event hmem)) ?_
  have hsound := h.sound_run outside pre
  refine ⟨(hsound.step h _).1, fun _ => ?_⟩
  obtain ⟨-, hdevice, -⟩ :=
    h.step_updateDevices (run d.step (d.start outside) pre) list selMac
  rw [hdevice]
  exact shows_updateEntries hlist _ _

/-- **What the button sends goes to the device that is selected.** -/
theorem IsFor.goesTo (h : Lawful fl p) {list : List (Str × Str × Str)} {s : Session d.W σ}
    (hs : IsFor fl p list s) (hvisible : s.visible = true) (hlist : Choosable (p.shown list))
    (hnames : DeviceChoice.NamesSeparate (p.shown list)) {k : ℕ} {name mac ip : Str}
    (hvalue : fl.value (d.device s.win).widget = (k + 1 : ℕ))
    (hk : (p.shown list)[k]? = some (name, mac, ip)) :
    ∃ effects, (d.step s .press).trace = s.trace ++ effects ∧
      ∀ c, .performed c ∈ effects → c = p.command s.win ∧ c.GoesTo mac ip := by
  have hsettled := hs.1 hvisible
  obtain ⟨hmac, hip⟩ := (hs.2 hvisible).selected hnames hvalue hk
  have hne : (d.device s.win).getMAC fl ≠ [] := by
    rw [hmac]
    exact (hlist.macText _ (List.mem_of_getElem? hk)).1
  have hgoes := h.goes s.win hsettled hne
  rw [hmac, hip] at hgoes
  obtain ⟨-, effects, htrace, heffects⟩ := h.step_press hvisible hsettled
  refine ⟨effects, htrace, fun c hc => ?_⟩
  rcases heffects with rfl | ⟨-, hpress⟩
  · simp at hc
  · rw [hpress.eq_of_performed hc]
    exact ⟨rfl, hgoes⟩

end Runs

/-! ### The member functions -/

section Members

variable {χ σ W : Type} {w : W} {t : List WindowEffect} {E : WindowException → Session W σ → Prop}

/-- The session is at this window with these effects. -/
def At (w : W) (t : List WindowEffect) (s : Session W σ) : Prop := s.win = w ∧ s.trace = t

/-- The members are those of the window. -/
theorem ensures_getWin_bind {α : Type} {f : W → Handler W σ α} {Q : α → Session W σ → Prop}
    (h : Ensures (At w t) (f w) Q E) : Ensures (At w t) (Handler.getWin >>= f) Q E := by
  rintro s ⟨rfl, rfl⟩
  exact h s ⟨rfl, rfl⟩

theorem ensures_onWin (f : W → W) :
    Ensures (At w t) (Handler.onWin f) (fun _ => At (f w) t) E := by
  refine ensures_ofState ?_
  rintro s ⟨rfl, rfl⟩
  exact ⟨rfl, rfl⟩

theorem ensures_hide : Ensures (At w t) Handler.hide (fun _ => At w t) E :=
  ensures_ofState fun _ h => h

theorem ensures_flChoice (env : WindowEnv σ) (text : Str) :
    Ensures (At w t) (Handler.flChoice env text)
      (fun answer => At w (t ++ [.asked text answer])) E := by
  refine ensures_ofState ?_
  rintro s ⟨rfl, rfl⟩
  exact ⟨rfl, rfl⟩

theorem ensures_call {α : Type} (f : σ → Except WindowException α × σ) :
    Ensures (At w t) (Handler.call f) (fun _ => At w t) fun _ => At w t := by
  rintro s ⟨rfl, rfl⟩
  unfold Handler.call
  rw [exec_ofExcept]
  dsimp only
  cases (f s.outside).1 <;> exact ⟨rfl, rfl⟩

theorem ensures_perform (env : WindowEnv σ) (c : WindowCommand) :
    Ensures (At w t) (Handler.perform env c) (fun _ => At w (t ++ [.performed c]))
      fun _ => At w (t ++ [.performed c]) := by
  rintro s ⟨rfl, rfl⟩
  unfold Handler.perform
  rw [exec_ofExcept]
  dsimp only
  cases (env.perform c s.outside).1 <;> exact ⟨rfl, rfl⟩

end Members

end Gui
end RcDiscover
