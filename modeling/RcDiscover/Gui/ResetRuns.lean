import RcDiscover.Gui.ResetWindow
import RcDiscover.Gui.RowCommands
import RcDiscover.Lib.Repetitions

/-!
# `reset_window.cc`: the window over time

The reset window has a drop-down, an input field for the MAC address, and four buttons that send a
request and hide the window.

* `ResetWindow`, `ResetSession`: the window, and a window with what it has done so far;
* `Rounds`: sending and asking, as long as the user answers with `Try again`;
* `doReset`: how the main window opens it;
* `Recognises`: a device takes a datagram for a magic packet of its own.

`sent_run` and `reset_for_row` (**main results**): in every run, a button only sends magic packets
for the MAC address that the user has just confirmed; and when the window was opened for a row of
the table, no other device than that of the row recognises them.
-/

namespace RcDiscover
namespace Gui

open Program Runs BigEndian Repetitions

/-! ### The window -/

/-- The buttons that send a request. -/
inductive ResetButton
  | resetParameters
  | resetNetwork
  | resetAll
  | switchPartitions
  deriving DecidableEq, Repr

namespace ResetButton

/-- What the button is for, in the text of the question. -/
def funcName : ResetButton → Str
  | .resetParameters => "reset parameters".toList
  | .resetNetwork => "reset network parameters".toList
  | .resetAll => "reset all".toList
  | .switchPartitions => "switch partition".toList

/-- The last byte of the password. -/
def funcId : ResetButton → UInt8
  | .resetParameters => 0xAA
  | .resetNetwork => 0xBB
  | .resetAll => 0xFF
  | .switchPartitions => 0xCC

/-- The password of the button. -/
def password (b : ResetButton) : Vector UInt8 4 := #v[0xEE, 0xEE, 0xEE, b.funcId]

/-- The text of the first dialog. -/
def question (b : ResetButton) (macString : Str) : Str :=
  "Are you sure to ".toList ++ b.funcName ++ " of rc_visard with MAC-address ".toList ++
    macString ++ "?".toList

end ResetButton

/-- The text of the dialogs behind it. -/
def tryAgain : Str :=
  ("Please check whether rc_visard's LED turned white and whether rc_visard " ++
    "is rebooting.").toList

/-- `ResetWindow`. -/
structure ResetWindow (χ : Type) where
  device : DeviceChoice χ
  mac : InputMAC
  macActive : Bool
  buttonActive : ResetButton → Bool

namespace ResetWindow

variable {χ σ : Type} (fl : FlChoice χ) (env : DialogEnv σ) (answers : List ℤ)

/-- `ResetWindow::update`. -/
def update (w : ResetWindow χ) : ResetWindow χ :=
  { w with
    macActive := (w.device.getMAC fl).length == 0
    buttonActive := fun _ => w.mac.isValid }

/-- `ResetWindow::isChangingDevice`. -/
def isChangingDevice (w : ResetWindow χ) : ResetWindow χ :=
  { w with mac := ⟨w.device.getMAC fl⟩ }.update fl

/-- `ResetWindow::updateDevices`. -/
def updateDevices (list : List (Str × Str)) (selMac : Str) (w : ResetWindow χ) : ResetWindow χ :=
  ({ w with device := w.device.update fl list selMac }.isChangingDevice fl).update fl

/-- `ResetWindow::isResetParameters`, up to `hide`. -/
def isResetParameters (w : ResetWindow χ) : Program σ WolException Unit :=
  sendUDPRequest env answers w.mac.value w.mac.getMAC "reset parameters".toList 0xAA

/-- `ResetWindow::isResetNetwork`, up to `hide`. -/
def isResetNetwork (w : ResetWindow χ) : Program σ WolException Unit :=
  sendUDPRequest env answers w.mac.value w.mac.getMAC "reset network parameters".toList 0xBB

/-- `ResetWindow::isResetAll`, up to `hide`. -/
def isResetAll (w : ResetWindow χ) : Program σ WolException Unit :=
  sendUDPRequest env answers w.mac.value w.mac.getMAC "reset all".toList 0xFF

/-- `ResetWindow::isSwitchPartitions`, up to `hide`. -/
def isSwitchPartitions (w : ResetWindow χ) : Program σ WolException Unit :=
  sendUDPRequest env answers w.mac.value w.mac.getMAC "switch partition".toList 0xCC

/-- The callbacks of the buttons. -/
def pressed (w : ResetWindow χ) : ResetButton → Program σ WolException Unit
  | .resetParameters => w.isResetParameters env answers
  | .resetNetwork => w.isResetNetwork env answers
  | .resetAll => w.isResetAll env answers
  | .switchPartitions => w.isSwitchPartitions env answers

theorem pressed_eq (w : ResetWindow χ) (b : ResetButton) :
    w.pressed env answers b =
      sendUDPRequest env answers w.mac.value w.mac.getMAC b.funcName b.funcId := by
  cases b <;> rfl

/-- The new window, with a new `Fl_Choice`. -/
def create (widget : χ) : ResetWindow χ :=
  { device := ⟨fl.setValue 0 (fl.add "<Custom>".toList widget), []⟩
    mac := ⟨[]⟩
    macActive := true
    buttonActive := fun _ => true : ResetWindow χ }.update fl

end ResetWindow

/-! ### A window over time -/

/-- What the window does: a dialog with this text, or a call of `send`. -/
inductive ResetEffect
  | shown (text : Str)
  | sent (c : SendCall)
  deriving DecidableEq, Repr

/-- The environment that also records the dialogs and the calls of `send`. -/
def DialogEnv.traced {σ : Type} (env : DialogEnv σ) : DialogEnv (σ × List ResetEffect) where
  createAndBindForAllInterfaces port s :=
    let r := env.createAndBindForAllInterfaces port s.1
    (r.1, (r.2, s.2))
  enableBroadcast k s :=
    let r := env.enableBroadcast k s.1
    (r.1, (r.2, s.2))
  enableNonBlocking k s :=
    let r := env.enableNonBlocking k s.1
    (r.1, (r.2, s.2))
  send k p s :=
    let r := env.send k p s.1
    (r.1, (r.2, s.2 ++ [.sent ⟨k, p, thrownBy r.1⟩]))
  dialog text s := (env.dialog text s.1, s.2 ++ [.shown text])

/-- A window, whether it is shown, the outside, and what the window has done so far. -/
structure ResetSession (χ σ : Type) where
  win : ResetWindow χ
  visible : Bool
  outside : σ
  trace : List ResetEffect

/-- What happens to the window.  A button comes with the answers that the user will give. -/
inductive ResetEvent
  | updateDevices (list : List (Str × Str)) (selMac : Str)
  | close
  | select (i : ℕ)
  | edit (text : Str)
  | press (b : ResetButton) (answers : List ℤ)

/-- The events that neither open the window nor select a device. -/
def ResetEvent.KeepsDevice : ResetEvent → Prop
  | .updateDevices _ _ | .select _ => False
  | .close | .edit _ | .press _ _ => True

namespace ResetSession

variable {χ σ : Type} (fl : FlChoice χ) (env : DialogEnv σ)

/-- A window before it is opened for the first time. -/
def start (widget : χ) (outside : σ) : ResetSession χ σ :=
  ⟨ResetWindow.create fl widget, false, outside, []⟩

/-- One event.  A window that is hidden gets no events, and neither does a widget that is not
active. -/
def step (s : ResetSession χ σ) : ResetEvent → ResetSession χ σ
  | .updateDevices list selMac =>
    { s with win := s.win.updateDevices fl list selMac, visible := true }
  | .close => { s with visible := false }
  | .select i =>
    if s.visible ∧ i < (fl.labels s.win.device.widget).length then
      { s with win := { s.win with device := s.win.device.select fl i }.isChangingDevice fl }
    else s
  | .edit text =>
    if s.visible ∧ s.win.macActive ∧ text ≠ s.win.mac.value then
      { s with win := { s.win with mac := ⟨text⟩ }.update fl }
    else s
  | .press b answers =>
    if s.visible ∧ s.win.buttonActive b then
      let t := (exec (s.win.pressed env.traced answers b) (s.outside, s.trace)).2
      { s with visible := false, outside := t.1, trace := t.2 }
    else s

end ResetSession

/-! ### What a button sends -/

/-- Sending the packet, and asking whether to send it again, for each answer in turn. -/
inductive Rounds (p : Bytes) : List ℤ → List ResetEffect → Prop
  | waiting : Rounds p [] []
  | closed {answer : ℤ} {answers : List ℤ} (h : answer ≠ 1) : Rounds p (answer :: answers) []
  | failed {answers : List ℤ} {calls : List SendCall} (h : ∀ c ∈ calls, c.packet = p)
    (text : Str) : Rounds p (1 :: answers) (calls.map .sent ++ [.shown text])
  | again {answers : List ℤ} {calls : List SendCall} {effects : List ResetEffect}
    (h : ∀ c ∈ calls, c.packet = p) (hrest : Rounds p answers effects) :
    Rounds p (1 :: answers) (calls.map .sent ++ .shown tryAgain :: effects)

/-- What is sent is the packet, and the user has agreed. -/
theorem Rounds.sent {p : Bytes} {answers : List ℤ} {effects : List ResetEffect}
    (h : Rounds p answers effects) {c : SendCall} (hc : .sent c ∈ effects) :
    answers.head? = some 1 ∧ c.packet = p := by
  induction h with
  | waiting => exact absurd hc List.not_mem_nil
  | closed _ => exact absurd hc List.not_mem_nil
  | failed hcalls text =>
    refine ⟨rfl, hcalls c ?_⟩
    simpa using hc
  | again hcalls _ ih =>
    refine ⟨rfl, ?_⟩
    rcases List.mem_append.mp hc with hc | hc
    · exact hcalls c (by simpa using hc)
    · exact (ih (by simpa using hc)).2

/-- The first question, and what follows it. -/
def Requested (question : Str) (p : Bytes) (answers : List ℤ) (effects : List ResetEffect) :
    Prop :=
  effects = [] ∨ ∃ rest, effects = .shown question :: rest ∧ Rounds p answers rest

theorem Requested.sent {question : Str} {p : Bytes} {answers : List ℤ}
    {effects : List ResetEffect} (h : Requested question p answers effects) {c : SendCall}
    (hc : .sent c ∈ effects) : answers.head? = some 1 ∧ c.packet = p := by
  rcases h with rfl | ⟨rest, rfl, hrest⟩
  · exact absurd hc List.not_mem_nil
  · refine hrest.sent ?_
    rcases List.mem_cons.mp hc with hc | hc
    · exact ResetEffect.noConfusion hc
    · exact hc

section Sending

variable {σ : Type} {env : DialogEnv σ} {p : Bytes} {t : List ResetEffect} {wol : WOL}
  {password : Vector UInt8 4}

/-- Calls of `send` with the packet came behind `t`. -/
def Sending (p : Bytes) (t : List ResetEffect) (s : σ × List ResetEffect) : Prop :=
  ∃ calls : List SendCall, (∀ c ∈ calls, c.packet = p) ∧ s.2 = t ++ calls.map .sent

theorem ensures_onSocket {f : σ × List ResetEffect →
      Except SocketException Unit × (σ × List ResetEffect)} {P : σ × List ResetEffect → Prop}
    (h : ∀ s, P s → P (f s).2) : Ensures P (WOL.onSocket f) (fun _ => P) fun _ => P := by
  intro s hs
  have hf := h s hs
  unfold WOL.onSocket
  rw [exec_ofExcept]
  dsimp only
  cases (f s).1 <;> exact hf

theorem ensures_sendLoop (hp : wol.appendMagicPacket [] (some password) = p) (k n : ℕ) :
    Ensures (Sending p t) (wol.sendLoop env.traced.toWolEnv (some password) k n)
      (fun _ => Sending p t) fun _ => Sending p t := by
  induction n generalizing k with
  | zero => exact ensures_pure fun _ h => h
  | succ n ih =>
    have hsend : Ensures (Sending p t)
        (WOL.onSocket (env.traced.send k (wol.appendMagicPacket [] (some password))))
        (fun _ => Sending p t) fun _ => Sending p t := by
      refine ensures_onSocket fun s hs => ?_
      obtain ⟨calls, hcalls, htrace⟩ := hs
      refine ⟨calls ++ [⟨k, p, thrownBy (env.send k p s.1).1⟩], ?_, ?_⟩
      · intro c hc
        rcases List.mem_append.mp hc with hc | hc
        · exact hcalls c hc
        · rw [List.mem_singleton.mp hc]
      · rw [hp]
        show s.2 ++ [_] = _
        rw [htrace, List.map_append, List.append_assoc]
        rfl
    refine (ensures_onSocket fun s hs => hs).bind fun _ =>
      (ensures_onSocket fun s hs => hs).bind fun _ => Ensures.bind (Ensures.tryCatch hsend ?_)
        fun _ => ih (k + 1)
    intro e
    split
    · exact ensures_pure fun _ h => h
    · exact ensures_throw fun _ h => h

theorem ensures_wolSend (hp : wol.appendMagicPacket [] (some password) = p) :
    Ensures (fun s => s.2 = t) (wol.send env.traced.toWolEnv password)
      (fun _ => Sending p t) fun _ => Sending p t := by
  have hcreate : Ensures (fun s : σ × List ResetEffect => s.2 = t)
      (ofExcept (env.traced.createAndBindForAllInterfaces wol.port))
      (fun _ => Sending p t) fun _ => Sending p t := by
    intro s hs
    have hnone : Sending p t (env.traced.createAndBindForAllInterfaces wol.port s).2 := by
      refine ⟨[], by simp, ?_⟩
      rw [List.map_nil, List.append_nil]
      exact hs
    rw [exec_ofExcept]
    rcases hrun : env.traced.createAndBindForAllInterfaces wol.port s with ⟨_ | _, u⟩
    · rwa [hrun] at hnone
    · rwa [hrun] at hnone
  exact hcreate.bind fun n => ensures_sendLoop hp 0 n

/-- What came behind `t` is a request with these answers. -/
def Behind (A : List ResetEffect → Prop) (t : List ResetEffect) (s : σ × List ResetEffect) : Prop :=
  ∃ effects, A effects ∧ s.2 = t ++ effects

theorem ensures_show (text : Str) :
    Ensures (fun s => s.2 = t) (openDialog env.traced text)
      (fun _ s => s.2 = t ++ [.shown text]) fun _ _ => False :=
  ensures_ofState fun s hs => by
    show s.2 ++ [_] = _
    rw [hs]

/-- **The loop of sending and asking**, with the alert that follows an exception. -/
theorem ensures_rounds (hp : wol.appendMagicPacket [] (some password) = p) (answers : List ℤ)
    (t : List ResetEffect) :
    Ensures (fun s => s.2 = t) (resetLoop env.traced wol password answers)
      (fun _ => Behind (Rounds p answers) t)
      fun _ s => ∀ text, Behind (Rounds p answers) t (s.1, s.2 ++ [.shown text]) := by
  induction answers generalizing t with
  | nil => exact ensures_pure fun s hs => ⟨[], .waiting, by rw [List.append_nil]; exact hs⟩
  | cons answer answers ih =>
    refine Ensures.ite (fun hyes => ?_) fun hno => ?_
    · subst hyes
      have hsend : Ensures (fun s => s.2 = t) (wol.send env.traced.toWolEnv password)
          (fun _ => Sending p t)
          fun _ s => ∀ text, Behind (Rounds p (1 :: answers)) t (s.1, s.2 ++ [.shown text]) := by
        refine (ensures_wolSend hp).conseq (fun _ h => h) (fun _ _ h => h) ?_
        rintro _ s ⟨calls, hcalls, htrace⟩ text
        refine ⟨_, .failed hcalls text, ?_⟩
        rw [htrace, List.append_assoc]
      refine hsend.bind fun _ => ?_
      rintro s ⟨calls, hcalls, htrace⟩
      have hnext : Ensures (fun s => s.2 = t ++ calls.map .sent)
          (openDialog env.traced tryAgain >>= fun _ =>
            resetLoop env.traced wol password answers)
          (fun _ => Behind (Rounds p (1 :: answers)) t)
          fun _ s => ∀ text, Behind (Rounds p (1 :: answers)) t (s.1, s.2 ++ [.shown text]) := by
        refine Ensures.bind ((ensures_show tryAgain).conseq (fun _ h => h) (fun _ _ h => h)
          fun _ _ h => h.elim) fun _ => (ih _).conseq (fun _ h => h) ?_ ?_
        · rintro _ u ⟨effects, hrounds, hu⟩
          refine ⟨_, .again hcalls hrounds, ?_⟩
          rw [hu]
          simp
        · intro _ u hu text
          obtain ⟨effects, hrounds, hu⟩ := hu text
          refine ⟨_, .again hcalls hrounds, ?_⟩
          rw [hu]
          simp
      exact hnext s htrace
    · exact ensures_pure fun s hs => ⟨[], .closed hno, by rw [List.append_nil]; exact hs⟩

variable (env) in
/-- **A request**, whatever fails. -/
theorem ensures_request (macString : Str) (macValue : UInt64) (b : ResetButton)
    (answers : List ℤ) :
    Ensures (fun s => s.2 = t)
      (sendUDPRequest env.traced answers macString macValue b.funcName b.funcId)
      (fun _ =>
        Behind (Requested (b.question macString) (magicPacket macValue b.password) answers) t)
      fun _ _ => False := by
  have hp : (resetWol macValue).appendMagicPacket [] (some b.password) =
      magicPacket macValue b.password := by
    rw [WOL.appendMagicPacket_eq, toList_resetWol, magicPacket]
  have hbehind : ∀ s : σ × List ResetEffect,
      Behind (Rounds (magicPacket macValue b.password) answers)
          (t ++ [.shown (b.question macString)]) s →
        Behind (Requested (b.question macString) (magicPacket macValue b.password) answers) t
          s := by
    rintro s ⟨effects, hrounds, htrace⟩
    refine ⟨_, .inr ⟨effects, rfl, hrounds⟩, ?_⟩
    rw [htrace, List.append_assoc]
    rfl
  refine Ensures.ite (fun _ => ?_) fun _ => ensures_pure fun s hs =>
    ⟨[], .inl rfl, by rw [List.append_nil]; exact hs⟩
  refine Ensures.tryCatch (F := fun _ s => ∀ text,
    Behind (Requested (b.question macString) (magicPacket macValue b.password) answers) t
      (s.1, s.2 ++ [.shown text])) ?_ fun e => ?_
  · refine Ensures.bind ((ensures_show (b.question macString)).conseq (fun _ h => h)
      (fun _ _ h => h) fun _ _ h => h.elim) fun _ => ?_
    exact (ensures_rounds hp answers _).conseq (fun _ h => h) (fun _ s h => hbehind s h)
      fun _ s h text => hbehind _ (h text)
  · cases e with
    | operationNotPermitted => exact ensures_ofState fun s hs => hs _
    | socket e => exact ensures_ofState fun s hs => hs _

end Sending

/-! ### Every run -/

/-- The MAC field follows the drop-down, and the buttons may be pressed when it is complete. -/
structure ResetWindow.Settled {χ : Type} (fl : FlChoice χ) (w : ResetWindow χ) : Prop where
  active : w.macActive = true ↔ w.device.getMAC fl = []
  value : w.device.getMAC fl ≠ [] → w.mac.value = w.device.getMAC fl
  button : ∀ b, w.buttonActive b = w.mac.isValid

section Runs

variable {χ σ : Type} {fl : FlChoice χ} {env : DialogEnv σ}

theorem ResetWindow.settled_update {w : ResetWindow χ}
    (h : w.device.getMAC fl ≠ [] → w.mac.value = w.device.getMAC fl) :
    (w.update fl).Settled fl where
  active := beq_zero_iff
  value := h
  button _ := by dsimp only [ResetWindow.update]

namespace ResetSession

/-- The window follows its drop-down as long as it is shown. -/
def Sound (fl : FlChoice χ) (s : ResetSession χ σ) : Prop := s.visible = true → s.win.Settled fl

theorem Sound.step {s : ResetSession χ σ} (hs : s.Sound fl) (event : ResetEvent) :
    (s.step fl env event).Sound fl := by
  cases event with
  | updateDevices list selMac =>
    exact fun _ => ResetWindow.settled_update fun _ => rfl
  | close => exact fun h => absurd h Bool.false_ne_true
  | select i =>
    unfold ResetSession.step
    dsimp only
    split_ifs with h
    · exact fun _ => ResetWindow.settled_update fun _ => rfl
    · exact hs
  | edit text =>
    unfold ResetSession.step
    dsimp only
    split_ifs with h
    · exact fun _ => ResetWindow.settled_update fun hne =>
        absurd ((hs h.1).active.mp h.2.1) hne
    · exact hs
  | press b answers =>
    unfold ResetSession.step
    dsimp only
    split_ifs with h
    · exact fun hvisible => absurd hvisible Bool.false_ne_true
    · exact hs

variable (fl env) in
theorem sound_run (widget : χ) (outside : σ) (events : List ResetEvent) :
    (run (step fl env) (start fl widget outside) events).Sound fl :=
  run_invariant (fun _ event hs => hs.step event) (fun h => absurd h Bool.false_ne_true) events

variable (env) in
/-- **A press of a button.** -/
theorem Sound.press {s : ResetSession χ σ} (hs : s.Sound fl) (b : ResetButton)
    (answers : List ℤ) :
    ∃ effects, (s.step fl env (.press b answers)).trace = s.trace ++ effects ∧
      Requested (b.question s.win.mac.value) (magicPacket s.win.mac.getMAC b.password) answers
        effects ∧
      (effects ≠ [] → s.visible = true ∧ s.win.mac.getMAC ≠ 0) := by
  by_cases h : s.visible = true ∧ s.win.buttonActive b = true
  · obtain ⟨_, t, hrun, effects, hrequested, htrace⟩ := (ensures_request env (t := s.trace)
      s.win.mac.value s.win.mac.getMAC b answers).exists_ok (s := (s.outside, s.trace)) rfl
    refine ⟨effects, ?_, hrequested, fun _ => ⟨h.1, ?_⟩⟩
    · unfold ResetSession.step
      dsimp only
      rw [if_pos h, ResetWindow.pressed_eq, hrun]
      exact htrace
    · exact of_decide_eq_true (((hs h.1).button b).symm.trans h.2)
  · refine ⟨[], ?_, .inl rfl, fun hne => absurd rfl hne⟩
    unfold ResetSession.step
    dsimp only
    rw [if_neg h, List.append_nil]

/-- Only the buttons send. -/
theorem trace_step {s : ResetSession χ σ} {event : ResetEvent}
    (h : ∀ b answers, event ≠ .press b answers) : (s.step fl env event).trace = s.trace := by
  cases event with
  | updateDevices list selMac => rfl
  | close => rfl
  | select i =>
    unfold ResetSession.step
    dsimp only
    split_ifs <;> rfl
  | edit text =>
    unfold ResetSession.step
    dsimp only
    split_ifs <;> rfl
  | press b answers => exact absurd rfl (h b answers)

variable (fl env) in
/-- **Every packet was asked for.**  Whatever happens to the window and whatever fails: a datagram
that was sent is the magic packet of the button that was pressed, for the MAC address that the
window showed and that was in the question, and the user agreed. -/
theorem sent_run (widget : χ) (outside : σ) (events : List ResetEvent) (c : SendCall)
    (hc : .sent c ∈ (run (step fl env) (start fl widget outside) events).trace) :
    ∃ pre b answers post, events = pre ++ .press b answers :: post ∧
      let w := run (step fl env) (start fl widget outside) pre
      w.visible = true ∧ w.win.Settled fl ∧ w.win.mac.getMAC ≠ 0 ∧
        c.packet = magicPacket w.win.mac.getMAC b.password ∧ answers.head? = some 1 ∧
        ∃ rest, (w.step fl env (.press b answers)).trace =
          w.trace ++ .shown (b.question w.win.mac.value) :: rest ∧ .sent c ∈ rest := by
  induction events using List.reverseRecOn with
  | nil => exact absurd hc List.not_mem_nil
  | append_singleton events event ih =>
    rw [run_append] at hc
    have hearlier : .sent c ∈ (run (step fl env) (start fl widget outside) events).trace →
        ∃ pre b answers post, events ++ [event] = pre ++ .press b answers :: post ∧
          let w := run (step fl env) (start fl widget outside) pre
          w.visible = true ∧ w.win.Settled fl ∧ w.win.mac.getMAC ≠ 0 ∧
            c.packet = magicPacket w.win.mac.getMAC b.password ∧ answers.head? = some 1 ∧
            ∃ rest, (w.step fl env (.press b answers)).trace =
              w.trace ++ .shown (b.question w.win.mac.value) :: rest ∧ .sent c ∈ rest := by
      intro hmem
      obtain ⟨pre, b, answers, post, hsplit, hrest⟩ := ih hmem
      refine ⟨pre, b, answers, post ++ [event], ?_, hrest⟩
      rw [hsplit, List.append_assoc, List.cons_append]
    by_cases hpress : ∃ b answers, event = .press b answers
    · obtain ⟨b, answers, rfl⟩ := hpress
      have hsound := sound_run fl env widget outside events
      obtain ⟨effects, htrace, hrequested, hactive⟩ := hsound.press env b answers
      rw [run_cons, run_nil, htrace] at hc
      rcases List.mem_append.mp hc with hc | hc
      · exact hearlier hc
      · obtain ⟨hvisible, hvalid⟩ := hactive (List.ne_nil_of_mem hc)
        obtain ⟨hagreed, hpacket⟩ := hrequested.sent hc
        refine ⟨events, b, answers, [], rfl, hvisible, hsound hvisible, hvalid, hpacket,
          hagreed, ?_⟩
        rcases hrequested with rfl | ⟨rest, rfl, -⟩
        · exact absurd hc List.not_mem_nil
        · refine ⟨rest, htrace, ?_⟩
          rcases List.mem_cons.mp hc with hc | hc
          · exact ResetEffect.noConfusion hc
          · exact hc
    · have hkeep : ∀ b answers, event ≠ .press b answers := fun b answers heq =>
        hpress ⟨b, answers, heq⟩
      rw [run_cons, run_nil, trace_step hkeep] at hc
      exact hearlier hc

end ResetSession

end Runs

/-- Sockets that accept everything, on one interface. -/
def ResetSession.quiet : DialogEnv Unit where
  createAndBindForAllInterfaces _ s := (.ok 1, s)
  enableBroadcast _ s := (.ok (), s)
  enableNonBlocking _ s := (.ok (), s)
  send _ _ s := (.ok (), s)
  dialog _ s := s

/-- A MAC address that the user types. -/
theorem ResetSession.sent_run_typed :
    let events : List ResetEvent := [.updateDevices [] [], .edit "00:14:2d:00:00:01".toList,
      .press .resetAll [1]]
    let c : SendCall := ⟨0, magicPacket 0x00142D000001 ResetButton.resetAll.password, none⟩
    ∃ pre b answers post, events = pre ++ .press b answers :: post ∧
      let w := run (ResetSession.step .items ResetSession.quiet)
        (ResetSession.start .items ([], -1) ()) pre
      w.visible = true ∧ w.win.Settled .items ∧ w.win.mac.getMAC ≠ 0 ∧
        c.packet = magicPacket w.win.mac.getMAC b.password ∧ answers.head? = some 1 ∧
        ∃ rest, (w.step .items ResetSession.quiet (.press b answers)).trace =
          w.trace ++ .shown (b.question w.win.mac.value) :: rest ∧ .sent c ∈ rest :=
  ResetSession.sent_run .items ResetSession.quiet ([], -1) () _ _ (by decide +kernel)

/-! ### Who recognises the packet -/

/-- A device with this MAC address takes the datagram for a magic packet of its own: six bytes
`0xFF` and sixteen copies of the address are somewhere in it. -/
def Recognises (m : UInt64) (p : Bytes) : Prop := signal 0xFF 16 (digits 6 m.toNat) <:+: p

theorem magicPacket_eq_signal (m : UInt64) (w : Vector UInt8 4) :
    magicPacket m w = signal 0xFF 16 (digits 6 m.toNat) ++ w.toList := by
  rw [magicPacket, signal, length_digits]

theorem digits_injective {m m' : UInt64} (hm : m.toNat < 2 ^ 48) (hm' : m'.toNat < 2 ^ 48)
    (h : digits 6 m.toNat = digits 6 m'.toNat) : m = m' := by
  have hvalue := congrArg BigEndian.value h
  rw [value_digits_of_lt (k := 6) hm, value_digits_of_lt (k := 6) hm'] at hvalue
  exact UInt64.toNat_inj.mp hvalue

/-- **A reset is for one device**: no other one finds its own magic packet in the datagram. -/
theorem recognises_magicPacket_iff {m m' : UInt64} (hm : m.toNat < 2 ^ 48)
    (hm' : m'.toNat < 2 ^ 48) (b : ResetButton) :
    Recognises m' (magicPacket m b.password) ↔ m' = m := by
  have hhead : b.password.toList.head? ≠ some 0xFF := by
    show some (0xEE : UInt8) ≠ some 0xFF
    decide
  have hlength : b.password.toList.length ≤ (digits 6 m.toNat).length := by
    rw [Vector.length_toList, length_digits]
    omega
  unfold Recognises
  rw [magicPacket_eq_signal, infix_signal_iff (by decide) (by rw [length_digits, length_digits])
    hhead hlength]
  exact ⟨fun h => digits_injective hm' hm h, fun h => by rw [h]⟩

/-! ### From a row of the table -/

/-- `DiscoverWindow::doReset`: how the window is opened, if it is. -/
def DeviceList.doReset {τ : Type} (table : FlTableRow τ) (s : DeviceList τ) : Option ResetEvent :=
  let mac := s.getSelectedMAC table
  if s.isRCVisardSelected table || mac.length == 0 then
    some (.updateDevices (s.getCurrentNameMACList true) mac)
  else none

section Row

variable {χ σ τ : Type} (fl : FlChoice χ) (env : DialogEnv σ) (widget : χ) (table : FlTableRow τ)
  {ops : List Op}

/-- The window still shows the device, until it is hidden. -/
theorem ResetSession.device_run {device : DeviceChoice χ} {s : ResetSession χ σ}
    (hs : s.win.device = device) {events : List ResetEvent}
    (hevents : ∀ event ∈ events, event.KeepsDevice) :
    (run (step fl env) s events).win.device = device := by
  let I : ResetSession χ σ → Prop := fun t => t.win.device = device
  refine run_invariant_of_mem (I := I) (fun t event hmem ht => ?_) hs
  have hkeep := hevents event hmem
  cases event with
  | updateDevices list selMac => exact hkeep.elim
  | close => exact ht
  | select i => exact hkeep.elim
  | edit text =>
    show (ResetSession.step fl env t (.edit text)).win.device = device
    unfold ResetSession.step
    dsimp only
    split_ifs <;> exact ht
  | press b answers =>
    show (ResetSession.step fl env t (.press b answers)).win.device = device
    unfold ResetSession.step
    dsimp only
    split_ifs <;> exact ht

/-- The device of the row is an `rc_visard`, and it is in the list of the window. -/
theorem DeviceList.isRCVisardSelected_iff {s : DeviceList τ} {row : ℕ}
    (hrow : s.getSelectedRow table = some row) :
    s.isRCVisardSelected table = true ↔
      ((s.deviceAt (s.index.getD row 0)).item 2).take 9 = "rc_visard".toList := by
  unfold DeviceList.isRCVisardSelected
  rw [hrow]
  exact decide_eq_true_iff

/-- A window that was opened for a list, until another device is selected. -/
theorem ResetSession.device_opened (outside : σ) (pre : List ResetEvent)
    (list : List (Str × Str)) (selMac : Str) {post : List ResetEvent}
    (hpost : ∀ event ∈ post, event.KeepsDevice) :
    (run (step fl env) (start fl widget outside)
        (pre ++ .updateDevices list selMac :: post)).win.device =
      (run (step fl env) (start fl widget outside) pre).win.device.update fl list selMac := by
  rw [run_append, run_cons]
  exact device_run fl env rfl hpost

/-- The main window opens it for an `rc_visard`, when a device is selected. -/
theorem DeviceList.doReset_eq_some {s : DeviceList τ} {row : ℕ} {opened : ResetEvent}
    (hrow : s.getSelectedRow table = some row) (hmac : s.getSelectedMAC table ≠ [])
    (h : s.doReset table = some opened) :
    ((s.deviceAt (s.index.getD row 0)).item 2).take 9 = "rc_visard".toList ∧
      opened = .updateDevices (s.getCurrentNameMACList true) (s.getSelectedMAC table) := by
  unfold DeviceList.doReset at h
  dsimp only at h
  split_ifs at h with hcond
  refine ⟨?_, (Option.some.inj h).symm⟩
  rcases Bool.or_eq_true_iff.mp hcond with hcond | hcond
  · exact (DeviceList.isRCVisardSelected_iff table hrow).mp hcond
  · exact absurd (beq_zero_iff.mp hcond) hmac

/-- What it shows of the devices. -/
theorem DeviceList.update_getCurrentNameMACList (s : DeviceList τ) (device : DeviceChoice χ)
    (selMac : Str) :
    device.update fl (s.getCurrentNameMACList true) selMac = device.updateEntries fl
      ((s.shownDevices.filter fun d => !true || (d.item 2).take 9 = "rc_visard".toList).map
        (ConfigWindow.entry .reconnect)) selMac := by
  unfold DeviceChoice.update DeviceList.getCurrentNameMACList
  rw [List.map_map]
  rfl

variable {table} in
/-- **Resets go to the device of the row.**  The table was filled with answers and used in any way,
the main window opens the window for the selected row, and it is used without selecting another
device: then every datagram that a button sends is the magic packet of the button, the user agreed,
and exactly the device whose answer made the row, an `rc_visard`, recognises it. -/
theorem reset_for_row (outside : σ) (h : Answered ops) (pre post : List ResetEvent)
    (hpost : ∀ event ∈ post, event.KeepsDevice) (b : ResetButton) (answers : List ℤ) :
    let s := run (DeviceList.step table) (DeviceList.init table) ops
    ∀ row opened, s.getSelectedRow table = some row → s.doReset table = some opened →
      let w := run (ResetSession.step fl env) (ResetSession.start fl widget outside)
        (pre ++ opened :: post)
      ∃ info reachable effects, .add (discovered info reachable) ∈ ops ∧
        s.macOfRow row = mac2string info.mac ∧ info.modelName.take 9 = "rc_visard".toList ∧
        (w.step fl env (.press b answers)).trace = w.trace ++ effects ∧
        Requested (b.question (mac2string info.mac)) (magicPacket info.mac b.password) answers
          effects ∧
        ∀ c, .sent c ∈ effects → answers.head? = some 1 ∧
          ∀ m : UInt64, m.toNat < 2 ^ 48 → (Recognises m c.packet ↔ m = info.mac) := by
  intro s row opened hrow hopened w
  let visards := s.shownDevices.filter fun d =>
    !true || (d.item 2).take 9 = "rc_visard".toList
  have hmem := DeviceList.mem_shownDevices_of_selected table hrow
  obtain ⟨hmodel, hopened'⟩ := DeviceList.doReset_eq_some table hrow
    (getSelectedMAC_ne_nil table h row hrow) hopened
  obtain ⟨info, reachable, i, hadd, hplaced⟩ := exists_placed table h
    (ConfigWindow.entry_cells .reconnect) row visards hrow List.filter_sublist
    (List.mem_filter.mpr ⟨hmem, by simpa using hmodel⟩)
  rw [hplaced.selectedMac] at hopened'
  have hmac : mac2string info.mac ≠ [] := (isMacText_mac2string info.mac).1
  have hdevice : w.win.device = (run (ResetSession.step fl env)
      (ResetSession.start fl widget outside) pre).win.device.update fl
        (s.getCurrentNameMACList true) (mac2string info.mac) := by
    rw [← ResetSession.device_opened fl env widget outside pre _ _ hpost, ← hopened']
  have hget : w.win.device.getMAC fl = mac2string info.mac := by
    rw [hdevice, DeviceList.update_getCurrentNameMACList]
    exact (hplaced.selected fl _).2
  -- what the button sends
  have hsound : w.Sound fl := ResetSession.sound_run fl env widget outside _
  obtain ⟨effects, htrace, hrequested, hactive⟩ := hsound.press env b answers
  by_cases hne : effects = []
  · subst hne
    exact ⟨info, reachable, [], hadd, hplaced.macOfRow, hplaced.model ▸ hmodel, htrace, .inl rfl,
      fun c hc => absurd hc List.not_mem_nil⟩
  · have hfield : w.win.mac.value = mac2string info.mac := by
      rw [← hget]
      exact (hsound (hactive hne).1).value (by rw [hget]; exact hmac)
    have hgetMAC : w.win.mac.getMAC = info.mac := by
      rw [← getMAC_mac2string hplaced.mac48, ← hfield]
    rw [hfield, hgetMAC] at hrequested
    refine ⟨info, reachable, effects, hadd, hplaced.macOfRow, hplaced.model ▸ hmodel, htrace,
      hrequested, fun c hc => ?_⟩
    obtain ⟨hagreed, hpacket⟩ := hrequested.sent hc
    refine ⟨hagreed, fun m hm => ?_⟩
    rw [hpacket]
    exact recognises_magicPacket_iff hplaced.mac48 hm b

end Row

theorem reset_for_row_sensorAnswer :
    let s := run (DeviceList.step .flags) (DeviceList.init .flags) sensorOps
    let w := run (ResetSession.step .items ResetSession.quiet)
      (ResetSession.start .items ([], -1) ())
      [.updateDevices (s.getCurrentNameMACList true) (s.getSelectedMAC .flags), .edit "1".toList]
    ∃ info reachable effects, .add (discovered info reachable) ∈ sensorOps ∧
      s.macOfRow 0 = mac2string info.mac ∧ info.modelName.take 9 = "rc_visard".toList ∧
      (w.step .items ResetSession.quiet (.press .resetAll [1, 0])).trace = w.trace ++ effects ∧
      Requested (ResetButton.resetAll.question (mac2string info.mac))
        (magicPacket info.mac ResetButton.resetAll.password) [1, 0] effects ∧
      ∀ c, .sent c ∈ effects → [1, (0 : ℤ)].head? = some 1 ∧
        ∀ m : UInt64, m.toNat < 2 ^ 48 → (Recognises m c.packet ↔ m = info.mac) := by
  refine reset_for_row .items ResetSession.quiet ([], -1) () answered_sensorOps []
    [.edit "1".toList] ?_ .resetAll [1, 0] 0 _ rfl rfl
  intro event hevent
  rw [List.mem_singleton.mp hevent]
  trivial

end Gui
end RcDiscover
