import RcDiscover.Gui.SubnetMask
import RcDiscover.Gvcp.Client
import RcDiscover.Lib.Program
import RcDiscover.Lib.Runs

/-!
# The windows that configure a device

`reconnect_window.cc`, `set_tmp_ip_window.cc` and `change_ip_config_window.cc`: each window shows a
`DeviceChoice` with some input fields, and its button sends something to a device.

* `WindowEnv`: the dialogs of FLTK, and the calls to a device, any of which may throw;
* `Session`: a window with what it has done so far;
* `ReconnectWindow`, `SetTmpIPWindow` and `ChangeIPConfigForm` with their member functions;
* `Dialog`: what the windows have in common, and `Dialog.step` for one event.

A widget that is not active gets no events, and as long as `fl_choice` is open no window does.
-/

namespace RcDiscover
namespace Gui

open Program

/-! ### What a window does -/

/-- A call to a device: `ForceIP::sendCommand`, or `GvcpIPConfig::writeConfig` on an object for the
address. -/
inductive WindowCommand
  | forceIP (mac : UInt64) (ip subnet gateway : UInt32)
  | writeConfig (currentIp : UInt32) (config : Gvcp.IPConfig)
  deriving DecidableEq, Repr

/-- What a window does to the outside: `fl_choice` with the button that the user pressed,
`fl_alert`, and the calls to a device. -/
inductive WindowEffect
  | asked (text : Str) (answer : ℤ)
  | alerted (text : Str)
  | performed (c : WindowCommand)
  deriving DecidableEq, Repr

/-- A `std::runtime_error`, and the subclass that is told apart. -/
inductive WindowException
  | gvcpAccessDenied (what : Str)
  | runtimeError (what : Str)
  deriving DecidableEq, Repr

/-- The calls that leave a window. -/
structure WindowEnv (σ : Type) where
  flChoice : Str → σ → ℤ × σ
  /-- the constructor of `ForceIP` -/
  forceIP : σ → Except WindowException Unit × σ
  /-- the constructor of `GvcpIPConfig` -/
  gvcpIPConfig : UInt32 → σ → Except WindowException Unit × σ
  readConfig : UInt32 → σ → Except WindowException Gvcp.IPConfig × σ
  perform : WindowCommand → σ → Except WindowException Unit × σ

/-- A window, whether it is shown, the outside, and what the window has done so far. -/
structure Session (W σ : Type) where
  win : W
  visible : Bool
  outside : σ
  trace : List WindowEffect

/-- A member function of a window. -/
abbrev Handler (W σ α : Type) := Program (Session W σ) WindowException α

namespace Handler

variable {W σ : Type} (env : WindowEnv σ)

/-- The members of the window. -/
def getWin : Handler W σ W := ofState fun s => (s.win, s)

/-- The members of the window change. -/
def onWin (f : W → W) : Handler W σ Unit := ofState fun s => ((), { s with win := f s.win })

/-- `hide`. -/
def hide : Handler W σ Unit := ofState fun s => ((), { s with visible := false })

/-- `fl_choice`. -/
def flChoice (text : Str) : Handler W σ ℤ :=
  ofState fun s =>
    let r := env.flChoice text s.outside
    (r.1, { s with outside := r.2, trace := s.trace ++ [.asked text r.1] })

/-- `fl_alert`. -/
def flAlert (text : Str) : Handler W σ Unit :=
  ofState fun s => ((), { s with trace := s.trace ++ [.alerted text] })

/-- A call that changes nothing on a device. -/
def call {α : Type} (f : σ → Except WindowException α × σ) : Handler W σ α :=
  ofExcept fun s => ((f s.outside).1, { s with outside := (f s.outside).2 })

/-- A call that configures a device. -/
def perform (c : WindowCommand) : Handler W σ Unit :=
  ofExcept fun s =>
    let r := env.perform c s.outside
    (r.1, { s with outside := r.2, trace := s.trace ++ [.performed c] })

/-- The handler for `std::runtime_error`. -/
def alertWhat : WindowException → Handler W σ Unit
  | .gvcpAccessDenied what => flAlert what
  | .runtimeError what => flAlert what

end Handler

open Handler

/-! ### Events -/

/-- An input field. -/
inductive Field
  | mac
  | currentIp
  | ip
  | subnetMask
  | defaultGateway
  deriving DecidableEq, Repr

/-- What happens to a window: it is opened with names, MAC and IP addresses of devices and the MAC
address of the one that is selected, and the user picks an entry, types into a field, or presses a
button. -/
inductive WindowEvent
  | updateDevices (list : List (Str × Str × Str)) (selMac : Str)
  | select (i : ℕ)
  | edit (field : Field) (text : Str)
  | persistentIp (enabled : Bool)
  | dhcp (enabled : Bool)
  | press
  | clear

/-- The list without IP addresses. -/
def withoutIP (list : List (Str × Str × Str)) : List (Str × Str) := list.map fun x => (x.1, x.2.1)

/-- The text of the first question of two windows. -/
def subnetsQuestion : Str := "IP address and gateway appear to be in different subnets. ".toList

namespace AddressFields

/-- IP address and gateway are in the same subnet. -/
def sameSubnet (f : AddressFields) : Bool :=
  f.ip.getIP &&& f.subnetMask.getIP == f.defaultGateway.getIP &&& f.subnetMask.getIP

/-- All fields are valid. -/
def isValid (f : AddressFields) : Bool :=
  f.ip.isValid && f.subnetMask.isValid && f.defaultGateway.isValid

/-- `isClear` of both windows, up to `update`. -/
def cleared (_ : AddressFields) : AddressFields := ⟨⟨[]⟩, ⟨[]⟩, ⟨[]⟩⟩

end AddressFields

/-! ### `ReconnectWindow` -/

/-- `ReconnectWindow`. -/
structure ReconnectWindow (χ : Type) where
  device : DeviceChoice χ
  mac : InputMAC
  macActive : Bool
  reconnectActive : Bool

namespace ReconnectWindow

variable {χ σ : Type} (fl : FlChoice χ) (env : WindowEnv σ)

/-- `ReconnectWindow::update`. -/
def update (w : ReconnectWindow χ) : ReconnectWindow χ :=
  { w with
    macActive := (w.device.getMAC fl).length == 0
    reconnectActive := w.mac.isValid }

/-- `ReconnectWindow::isChangingDevice`. -/
def isChangingDevice (w : ReconnectWindow χ) : ReconnectWindow χ :=
  { w with mac := ⟨w.device.getMAC fl⟩ }.update fl

/-- `ReconnectWindow::updateDevices`. -/
def updateDevices (list : List (Str × Str)) (selMac : Str) (w : ReconnectWindow χ) :
    ReconnectWindow χ :=
  ({ w with device := w.device.update fl list selMac }.isChangingDevice fl).update fl

/-- The text of the question. -/
def question (macText : Str) : Str :=
  "Are you sure to reconnect device with MAC-address ".toList ++ macText ++ "?".toList

/-- `ReconnectWindow::isReconnect`. -/
def isReconnect : Handler (ReconnectWindow χ) σ Unit := do
  let w ← getWin
  if w.mac.isValid then
    tryCatch (do
      call env.forceIP
      let answer ← flChoice env (question w.mac.value)
      if answer = 1 then
        perform env (.forceIP w.mac.getMAC 0 0 0)
      hide) alertWhat

/-- The new window, with a new `Fl_Choice`. -/
def create (widget : χ) : ReconnectWindow χ :=
  { device := ⟨fl.add "<Custom>".toList widget, []⟩
    mac := ⟨[]⟩
    macActive := true
    reconnectActive := true : ReconnectWindow χ }.update fl

/-- The callbacks. -/
def handle : WindowEvent → Handler (ReconnectWindow χ) σ Unit
  | .updateDevices list selMac => onWin (updateDevices fl (withoutIP list) selMac)
  | .select i =>
    onWin fun w =>
      if i < (fl.labels w.device.widget).length then
        { w with device := w.device.select fl i }.isChangingDevice fl
      else w
  | .edit .mac text =>
    onWin fun w =>
      if w.macActive ∧ text ≠ w.mac.value then { w with mac := ⟨text⟩ }.update fl else w
  | .press => do
    let w ← getWin
    if w.reconnectActive then isReconnect env
  | _ => pure ()

end ReconnectWindow

/-! ### `SetTmpIPWindow` -/

namespace SetTmpIPWindow

variable {χ σ : Type} (fl : FlChoice χ) (env : WindowEnv σ)

/-- `SetTmpIPWindow::isChangingDevice`. -/
def isChangingDevice (w : SetTmpIPWindow χ) : SetTmpIPWindow χ :=
  { w with mac := ⟨w.device.getMAC fl⟩ }.update fl

/-- `SetTmpIPWindow::updateDevices`. -/
def updateDevices (list : List (Str × Str)) (selMac : Str) (w : SetTmpIPWindow χ) :
    SetTmpIPWindow χ :=
  ({ w with device := w.device.update fl list selMac }.isChangingDevice fl).update fl

/-- The text of the second question. -/
def question (macText : Str) : Str :=
  "Are you sure to set the IP address of the device with MAC-address ".toList ++ macText ++
    "?".toList

/-- `SetTmpIPWindow::isSet`. -/
def isSet : Handler (SetTmpIPWindow χ) σ Unit := do
  let w ← getWin
  if w.mac.isValid && w.toAddressFields.isValid then
    tryCatch (do
      let proceed ← if !w.sameSubnet then flChoice env subnetsQuestion else pure 1
      if proceed = 1 then
        call env.forceIP
        let answer ← flChoice env (question w.mac.value)
        if answer = 1 then
          perform env (.forceIP w.mac.getMAC w.ip.getIP w.subnetMask.getIP w.defaultGateway.getIP)
          hide) alertWhat

/-- `SetTmpIPWindow::isClear`. -/
def isClear (w : SetTmpIPWindow χ) : SetTmpIPWindow χ :=
  { w with toAddressFields := w.toAddressFields.cleared }.update fl

/-- The new window, with a new `Fl_Choice`.  There is no `update` in this constructor. -/
def create (widget : χ) : SetTmpIPWindow χ where
  device := ⟨fl.add "<Custom>".toList widget, []⟩
  mac := ⟨[]⟩
  ip := ⟨[]⟩
  subnetMask := ⟨[]⟩
  defaultGateway := ⟨[]⟩
  macActive := true
  setIpActive := true

/-- The callbacks. -/
def handle : WindowEvent → Handler (SetTmpIPWindow χ) σ Unit
  | .updateDevices list selMac => onWin (updateDevices fl (withoutIP list) selMac)
  | .select i =>
    onWin fun w =>
      if i < (fl.labels w.device.widget).length then
        { w with device := w.device.select fl i }.isChangingDevice fl
      else w
  | .edit .mac text =>
    onWin fun w =>
      if w.macActive ∧ text ≠ w.mac.value then { w with mac := ⟨text⟩ }.update fl else w
  | .edit .ip text =>
    onWin fun w => if text ≠ w.ip.value then { w with ip := ⟨text⟩ }.doIP fl else w
  | .edit .subnetMask text =>
    onWin fun w =>
      if text ≠ w.subnetMask.value then { w with subnetMask := ⟨text⟩ }.doSubnetMask fl else w
  | .edit .defaultGateway text =>
    onWin fun w =>
      if text ≠ w.defaultGateway.value then { w with defaultGateway := ⟨text⟩ }.update fl else w
  | .press => do
    let w ← getWin
    if w.setIpActive then isSet env
  | .clear => onWin (isClear fl)
  | _ => pure ()

end SetTmpIPWindow

/-! ### `ChangeIPConfigWindow` -/

/-- `ChangeIPConfigWindow` with the second of its check buttons. -/
structure ChangeIPConfigForm (χ : Type) extends ChangeIPConfigWindow χ where
  dhcpEnabled : Bool

namespace ChangeIPConfigForm

variable {χ σ : Type} (fl : FlChoice χ) (env : WindowEnv σ)

/-- A member function of the window that leaves the check button alone. -/
def onForm (f : ChangeIPConfigWindow χ → ChangeIPConfigWindow χ) (w : ChangeIPConfigForm χ) :
    ChangeIPConfigForm χ :=
  { w with toChangeIPConfigWindow := f w.toChangeIPConfigWindow }

/-- `ChangeIPConfigWindow::readCurrentConfigFromDevice`. -/
def readCurrentConfigFromDevice : Handler (ChangeIPConfigForm χ) σ Unit := do
  let w ← getWin
  if w.currentIp.isValid then
    tryCatch (do
      call (env.gvcpIPConfig w.currentIp.getIP)
      let config ← call (env.readConfig w.currentIp.getIP)
      onWin fun w =>
        { w with
          persistentIpEnabled := config.persistentIpEnabled
          dhcpEnabled := config.dhcpEnabled
          ip := w.ip.setIP config.persistentIp
          subnetMask := w.subnetMask.setIP config.persistentSubnet
          defaultGateway := w.defaultGateway.setIP config.persistentGateway })
      -- the form stays as it is
      fun _ => pure ()

/-- `ChangeIPConfigWindow::isChangingDevice`. -/
def isChangingDevice : Handler (ChangeIPConfigForm χ) σ Unit := do
  onWin fun w => { w with mac := ⟨w.device.getMAC fl⟩, currentIp := ⟨w.device.getIP fl⟩ }
  readCurrentConfigFromDevice env
  onWin (onForm (·.update fl))

/-- `ChangeIPConfigWindow::isChangingCurrentIP`. -/
def isChangingCurrentIP : Handler (ChangeIPConfigForm χ) σ Unit := do
  readCurrentConfigFromDevice env
  onWin (onForm (·.update fl))

/-- `ChangeIPConfigWindow::updateDevices`. -/
def updateDevices (list : List (Str × Str × Str)) (selMac : Str) :
    Handler (ChangeIPConfigForm χ) σ Unit := do
  onWin fun w => { w with device := w.device.updateWithIP fl list selMac }
  isChangingDevice fl env
  onWin (onForm (·.update fl))

/-- The text of the second question. -/
def question (ipText : Str) : Str :=
  "Are you sure to change the IP configuration of the device with current IP address ".toList ++
    ipText ++ "?\nThe device must be reconnected or power cycled for the new ".toList ++
    "configuration to take effect.".toList

/-- The entries of the form are complete. -/
def persistentOk (w : ChangeIPConfigForm χ) : Bool :=
  !w.persistentIpEnabled || w.toAddressFields.isValid

/-- The configuration in the form. -/
def config (w : ChangeIPConfigForm χ) : Gvcp.IPConfig where
  persistentIpEnabled := w.persistentIpEnabled
  dhcpEnabled := w.dhcpEnabled
  persistentIp := w.ip.getIP
  persistentSubnet := w.subnetMask.getIP
  persistentGateway := w.defaultGateway.getIP

/-- `ChangeIPConfigWindow::isSet`. -/
def isSet : Handler (ChangeIPConfigForm χ) σ Unit := do
  let w ← getWin
  if w.currentIp.isValid && w.persistentOk then
    tryCatch (do
      let proceed ← if w.persistentIpEnabled && !w.sameSubnet then flChoice env subnetsQuestion
        else pure 1
      if proceed = 1 then
        call (env.gvcpIPConfig w.currentIp.getIP)
        let answer ← flChoice env (question w.currentIp.value)
        if answer = 1 then
          perform env (.writeConfig w.currentIp.getIP w.config)
          hide) fun
      | .gvcpAccessDenied _ =>
        flAlert ("The device is currently in use by another client and cannot be ".toList ++
          "reconfigured.".toList)
      | .runtimeError what => flAlert what

/-- `ChangeIPConfigWindow::isClear`. -/
def isClear (w : ChangeIPConfigForm χ) : ChangeIPConfigForm χ :=
  onForm (fun w => { w with toAddressFields := w.toAddressFields.cleared }.update fl) w

/-- The new window, with a new `Fl_Choice`. -/
def create (widget : χ) : ChangeIPConfigForm χ :=
  onForm (·.update fl)
    { device := ⟨fl.add "<Custom>".toList widget, []⟩
      mac := ⟨[]⟩
      currentIp := ⟨[]⟩
      ip := ⟨[]⟩
      subnetMask := ⟨[]⟩
      defaultGateway := ⟨[]⟩
      persistentIpEnabled := false
      dhcpEnabled := false
      macActive := true
      currentIpActive := true
      ipActive := true
      subnetMaskActive := true
      defaultGatewayActive := true
      setConfigActive := true }

/-- The callbacks. -/
def handle : WindowEvent → Handler (ChangeIPConfigForm χ) σ Unit
  | .updateDevices list selMac => updateDevices fl env list selMac
  | .select i => do
    let w ← getWin
    if i < (fl.labels w.device.widget).length then
      onWin fun w => { w with device := w.device.select fl i }
      isChangingDevice fl env
  | .edit .mac text =>
    onWin <| onForm fun w =>
      if w.macActive ∧ text ≠ w.mac.value then { w with mac := ⟨text⟩ }.update fl else w
  | .edit .currentIp text => do
    let w ← getWin
    if w.currentIpActive ∧ text ≠ w.currentIp.value then
      onWin fun w => { w with currentIp := ⟨text⟩ }
      isChangingCurrentIP fl env
  | .edit .ip text =>
    onWin <| onForm fun w =>
      if w.ipActive ∧ text ≠ w.ip.value then { w with ip := ⟨text⟩ }.doIP fl else w
  | .edit .subnetMask text =>
    onWin <| onForm fun w =>
      if w.subnetMaskActive ∧ text ≠ w.subnetMask.value then
        { w with subnetMask := ⟨text⟩ }.doSubnetMask fl
      else w
  | .edit .defaultGateway text =>
    onWin <| onForm fun w =>
      if w.defaultGatewayActive ∧ text ≠ w.defaultGateway.value then
        { w with defaultGateway := ⟨text⟩ }.update fl
      else w
  | .persistentIp enabled =>
    onWin <| onForm fun w => { w with persistentIpEnabled := enabled }.update fl
  | .dhcp enabled => onWin fun w => onForm (·.update fl) { w with dhcpEnabled := enabled }
  | .press => do
    let w ← getWin
    if w.setConfigActive then isSet env
  | .clear => onWin (isClear fl)

end ChangeIPConfigForm

/-! ### A window over time -/

/-- What the windows have in common. -/
structure Dialog (χ σ : Type) where
  W : Type
  create : W
  device : W → DeviceChoice χ
  mac : W → InputMAC
  macActive : W → Bool
  handle : WindowEvent → Handler W σ Unit

namespace Dialog

variable {χ σ : Type} (d : Dialog χ σ)

/-- One event.  A window that is hidden gets no events, and `updateDevices` is called for a window
that was shown before. -/
def step (s : Session d.W σ) (event : WindowEvent) : Session d.W σ :=
  match event with
  | .updateDevices list selMac =>
    (exec (d.handle (.updateDevices list selMac)) { s with visible := true }).2
  | event => if s.visible then (exec (d.handle event) s).2 else s

/-- A window before it is opened for the first time. -/
def start (outside : σ) : Session d.W σ := ⟨d.create, false, outside, []⟩

end Dialog

section Instances

variable {χ σ : Type} (fl : FlChoice χ) (env : WindowEnv σ) (widget : χ)

/-- The window of `reconnect_window.cc`. -/
def reconnectDialog : Dialog χ σ where
  W := ReconnectWindow χ
  create := ReconnectWindow.create fl widget
  device := ReconnectWindow.device
  mac := ReconnectWindow.mac
  macActive := ReconnectWindow.macActive
  handle := ReconnectWindow.handle fl env

/-- The window of `set_tmp_ip_window.cc`. -/
def setTmpIPDialog : Dialog χ σ where
  W := SetTmpIPWindow χ
  create := SetTmpIPWindow.create fl widget
  device := SetTmpIPWindow.device
  mac := SetTmpIPWindow.mac
  macActive := SetTmpIPWindow.macActive
  handle := SetTmpIPWindow.handle fl env

/-- The window of `change_ip_config_window.cc`. -/
def changeIPConfigDialog : Dialog χ σ where
  W := ChangeIPConfigForm χ
  create := ChangeIPConfigForm.create fl widget
  device w := w.device
  mac w := w.mac
  macActive w := w.macActive
  handle := ChangeIPConfigForm.handle fl env

end Instances

end Gui
end RcDiscover
