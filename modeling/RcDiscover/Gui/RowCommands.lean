import RcDiscover.Addresses.WellFormed
import RcDiscover.Gui.Aggregation
import RcDiscover.Gui.DialogWindows
import RcDiscover.Gui.DiscoverWindow
import RcDiscover.Gui.Selection

/-!
# From a row of the table to its device

`DiscoverWindow` opens the windows with the list of the visible devices and the device of the
selected row.

* `getCurrentNameMACList`, `getCurrentNameMACIPList`: the lists;
* `openFor`: how the windows are opened;
* `Answered`: the table was filled with answers from the network;
* `Placed`: the record of the selected row, and its place in a drop-down.

`commands_for_row` (**main result**): from an answer over the table, the drop-down and the fields
of a window to a command, the addresses of a device stay together.
-/

namespace RcDiscover
namespace Gui

open BigEndian Runs

/-! ### The lists -/

namespace DeviceList

variable {τ : Type} (s : DeviceList τ)

/-- The devices in the order of the rows. -/
def shownDevices : List DeviceListData := s.index.map s.deviceAt

/-- `DeviceList::getCurrentNameMACList`. -/
def getCurrentNameMACList (onlyRcVisard : Bool) : List (Str × Str) :=
  (s.shownDevices.filter fun d =>
    !onlyRcVisard || (d.item 2).take 9 = "rc_visard".toList).map
      fun d => (d.item 0, d.item 5)

/-- `DeviceList::getCurrentNameMACIPList`. -/
def getCurrentNameMACIPList (onlyRcVisard : Bool) : List (Str × Str × Str) :=
  (s.shownDevices.filter fun d =>
    d.reachable && (!onlyRcVisard || (d.item 2).take 9 = "rc_visard".toList)).map
      fun d => (d.item 0, d.item 5, d.item 4)

variable (fl : FlTableRow τ)

/-- `doReconnect`, `doSetTmpIP` and `doChangeIPConfig` of `DiscoverWindow`. -/
def openFor : ConfigWindow → WindowEvent
  | .reconnect | .setTmpIP =>
    .updateDevices ((s.getCurrentNameMACList false).map fun x => (x.1, x.2, []))
      (s.getSelectedMAC fl)
  | .changeIPConfig => .updateDevices (s.getCurrentNameMACIPList false) (s.getSelectedMAC fl)

/-- The devices that a window offers. -/
def offered : ConfigWindow → List DeviceListData
  | .reconnect | .setTmpIP => s.shownDevices
  | .changeIPConfig => s.shownDevices.filter (·.reachable)

end DeviceList

/-- What a window shows of a device. -/
def ConfigWindow.entry : ConfigWindow → DeviceListData → Str × Str × Str
  | .reconnect, d | .setTmpIP, d => (d.item 0, d.item 5, [])
  | .changeIPConfig, d => (d.item 0, d.item 5, d.item 4)

theorem ConfigWindow.entry_cells (k : ConfigWindow) (d : DeviceListData) :
    (k.entry d).1 = d.item 0 ∧ (k.entry d).2.1 = d.item 5 := by
  cases k <;> exact ⟨rfl, rfl⟩

/-! ### The rows of a sound table -/

namespace DeviceList

variable {τ : Type} {s : DeviceList τ}

theorem Sound.nodup_shownDevices (hs : s.Sound) :
    (s.shownDevices.map fun d => d.item 5).Nodup := by
  unfold shownDevices
  rw [List.map_map]
  refine List.Nodup.map_on (fun i hi j hj heq => ?_) hs.index_nodup
  have hgeti := getElem?_deviceAt (hs.index_lt i hi)
  have hgetj := getElem?_deviceAt (hs.index_lt j hj)
  exact (hs.eq_of_mac hgeti hgetj heq).1

theorem Sound.mem_device (hs : s.Sound) {d : DeviceListData} (hd : d ∈ s.shownDevices) :
    d ∈ s.device := by
  obtain ⟨i, hi, rfl⟩ := List.mem_map.mp hd
  exact List.mem_of_getElem? (getElem?_deviceAt (hs.index_lt i hi))

theorem offered_sublist (k : ConfigWindow) : (s.offered k).Sublist s.shownDevices := by
  cases k with
  | reconnect | setTmpIP => exact List.Sublist.refl _
  | changeIPConfig => exact List.filter_sublist

end DeviceList

/-! ### Answers -/

/-- The name can be shown in a drop-down and told from the address behind it. -/
def Showable (name : Str) : Prop := Plain name ∧ ¬ " - ".toList <:+: name ++ " -".toList

/-- What is added to the table comes from the answer of a device, which has a MAC address of 48
bits and a user-defined name that is `Showable`. -/
def Answered (ops : List Op) : Prop :=
  ∀ a, .add a ∈ ops → ∃ info reachable, a = discovered info reachable ∧
    info.mac.toNat < 2 ^ 48 ∧ Showable info.userName

theorem mem_callsSinceClear {ops : List Op} {a : Discovered} (h : a ∈ callsSinceClear ops) :
    .add a ∈ ops := by
  suffices ∀ calls, a ∈ ops.foldl noteCall calls → a ∈ calls ∨ .add a ∈ ops by
    rcases this [] h with hnil | hmem
    · exact absurd hnil List.not_mem_nil
    · exact hmem
  clear h
  induction ops with
  | nil => exact fun calls h => .inl h
  | cons op ops ih =>
    intro calls h
    rcases ih _ h with hmem | hmem
    · cases op with
      | clear => exact absurd hmem List.not_mem_nil
      | add b =>
        rcases List.mem_append.mp hmem with hmem | hmem
        · exact .inl hmem
        · rw [List.mem_singleton.mp hmem]
          exact .inr List.mem_cons_self
      | filterRCDevices _ | filter _ | setSorting _ _ | sortColumn _ | selectRow _ _
      | removeHighlight => exact .inl hmem
    · exact .inr (List.mem_cons_of_mem _ hmem)

theorem isMacText_mac2string (m : UInt64) : IsMacText (mac2string m) := by
  have hfield : ∀ f ∈ (digits 6 m.toNat).map fun b => setw2 (hex b.toNat),
      ∃ n, Reads 16 f n := by
    intro f hf
    obtain ⟨b, -, rfl⟩ := List.mem_map.mp hf
    exact ⟨b.toNat, reads_setw2_hex b.toNat⟩
  rw [mac2string_eq_join]
  constructor
  · have hlen : 0 < ((digits 6 m.toNat).map fun b => setw2 (hex b.toNat)).length := by
      rw [List.length_map, length_digits]
      omega
    obtain ⟨n, hreads⟩ := hfield _ (List.getElem_mem hlen)
    obtain ⟨c, hc⟩ := List.exists_mem_of_ne_nil _ hreads.ne_nil
    exact List.ne_nil_of_mem (mem_join_of_mem (List.getElem_mem hlen) hc)
  · intro c hc
    rcases mem_join hc with rfl | ⟨f, hf, hc⟩
    · exact .inl rfl
    · obtain ⟨n, hreads⟩ := hfield f hf
      exact .inr (hreads.digits c hc)

/-- The record of the table belongs to an answer. -/
theorem exists_info {τ : Type} (fl : FlTableRow τ) {ops : List Op} (h : Answered ops)
    {d : DeviceListData} (hd : d ∈ (run (DeviceList.step fl) (DeviceList.init fl) ops).device) :
    ∃ info reachable, .add (discovered info reachable) ∈ ops ∧ info.mac.toNat < 2 ^ 48 ∧
      Showable info.userName ∧ d.item 0 = info.userName ∧ d.item 2 = info.modelName ∧
      d.item 4 = ip2string info.ip ∧ d.item 5 = mac2string info.mac := by
  obtain ⟨a, hhead, hitem⟩ := ((collects_run fl ops).record d hd).first
  have ha : a ∈ callsSinceClear ops := by
    have hmem : a ∈ callsFor (d.item 5) (callsSinceClear ops) := List.mem_of_head? hhead
    exact (List.mem_filter.mp hmem).1
  have hadd : .add a ∈ ops := mem_callsSinceClear ha
  obtain ⟨info, reachable, rfl, hmac, hname⟩ := h a hadd
  refine ⟨info, reachable, hadd, hmac, hname, hitem 0 (by decide) (by decide),
    hitem 2 (by decide) (by decide), ?_, ?_⟩
  · rw [hitem 4 (by decide) (by decide), ← threadIp_eq]
    rfl
  · rw [hitem 5 (by decide) (by decide), ← threadMac_eq]
    rfl

/-- Some devices of a table with answers can be chosen. -/
theorem choosable_of_sublist {τ : Type} (table : FlTableRow τ) {ops : List Op} (h : Answered ops)
    {entry : DeviceListData → Str × Str × Str}
    (hentry : ∀ d, (entry d).1 = d.item 0 ∧ (entry d).2.1 = d.item 5) :
    let s := run (DeviceList.step table) (DeviceList.init table) ops
    ∀ l : List DeviceListData, l.Sublist s.shownDevices →
      Choosable (l.map entry) ∧ DeviceChoice.NamesSeparate (l.map entry) := by
  intro s l hsub
  have hs : s.Sound :=
    run_invariant (fun _ op hs => hs.step table op) (DeviceList.sound_init table) ops
  have hshow : ∀ x ∈ l.map entry, IsMacText x.2.1 ∧ Showable x.1 := by
    intro x hx
    obtain ⟨d, hd, rfl⟩ := List.mem_map.mp hx
    obtain ⟨info, -, -, -, hname, h0, -, -, h5⟩ :=
      exists_info table h (hs.mem_device (hsub.subset hd))
    rw [(hentry d).1, (hentry d).2, h0, h5]
    exact ⟨isMacText_mac2string info.mac, hname⟩
  have hmacs : (fun x : Str × Str × Str => x.2.1) ∘ entry = fun d => d.item 5 :=
    funext fun d => (hentry d).2
  refine ⟨⟨?_, fun x hx => (hshow x hx).1, fun x hx => (hshow x hx).2.1⟩,
    fun x hx => (hshow x hx).2.2⟩
  rw [List.map_map, hmacs]
  exact hs.nodup_shownDevices.sublist (hsub.map _)

theorem DeviceList.mem_shownDevices_of_selected {τ : Type} (table : FlTableRow τ)
    {s : DeviceList τ} {row : ℕ} (hrow : s.getSelectedRow table = some row) :
    s.deviceAt (s.index.getD row 0) ∈ s.shownDevices := by
  have hlt : row < s.index.length := ((DeviceList.getSelectedRow_eq_some_iff table).mp hrow).1
  refine List.mem_map_of_mem ?_
  rw [List.getD_eq_getElem _ _ hlt]
  exact List.getElem_mem hlt

/-! ### The place of a row -/

section Placed

variable {χ τ : Type} (table : FlTableRow τ) {ops : List Op}
  {entry : DeviceListData → Str × Str × Str}

/-- The record of the selected row was made by the answer, and it is at this place in a drop-down
for some of the devices. -/
structure Placed (entry : DeviceListData → Str × Str × Str) (s : DeviceList τ) (row : ℕ)
    (l : List DeviceListData) (info : DeviceInfo) (i : ℕ) : Prop where
  mac48 : info.mac.toNat < 2 ^ 48
  macOfRow : s.macOfRow row = mac2string info.mac
  selectedMac : s.getSelectedMAC table = mac2string info.mac
  model : (s.deviceAt (s.index.getD row 0)).item 2 = info.modelName
  ip : (s.deviceAt (s.index.getD row 0)).item 4 = ip2string info.ip
  choosable : Choosable (l.map entry)
  names : DeviceChoice.NamesSeparate (l.map entry)
  place : (l.map entry)[i]? = some (entry (s.deviceAt (s.index.getD row 0)))
  cell : (entry (s.deviceAt (s.index.getD row 0))).2.1 = mac2string info.mac

/-- **The selected row has an answer and a place**, when its device is among those that are
offered. -/
theorem exists_placed (h : Answered ops)
    (hentry : ∀ d, (entry d).1 = d.item 0 ∧ (entry d).2.1 = d.item 5) :
    let s := run (DeviceList.step table) (DeviceList.init table) ops
    ∀ row l, s.getSelectedRow table = some row → l.Sublist s.shownDevices →
      s.deviceAt (s.index.getD row 0) ∈ l →
      ∃ info reachable i, .add (discovered info reachable) ∈ ops ∧
        Placed table entry s row l info i := by
  intro s row l hrow hsub hmem
  have hs : s.Sound :=
    run_invariant (fun _ op hs => hs.step table op) (DeviceList.sound_init table) ops
  obtain ⟨info, reachable, hadd, hmac48, -, -, h2, h4, h5⟩ :=
    exists_info table h (hs.mem_device (hsub.subset hmem))
  obtain ⟨hchoosable, hnames⟩ := choosable_of_sublist table h hentry l hsub
  obtain ⟨i, hi⟩ := List.mem_iff_getElem?.mp (List.mem_map_of_mem (f := entry) hmem)
  have hselected : s.getSelectedMAC table = mac2string info.mac := by
    rw [DeviceList.getSelectedMAC_of_some table hrow, ← h5]
    rfl
  exact ⟨info, reachable, i, hadd, hmac48, h5, hselected, h2, h4, hchoosable, hnames, hi,
    (hentry _).2.trans h5⟩

/-- A selected row has a MAC address. -/
theorem getSelectedMAC_ne_nil (h : Answered ops) :
    let s := run (DeviceList.step table) (DeviceList.init table) ops
    ∀ row, s.getSelectedRow table = some row → s.getSelectedMAC table ≠ [] := by
  intro s row hrow
  obtain ⟨info, reachable, i, -, hplaced⟩ := exists_placed table h
    (ConfigWindow.entry_cells .reconnect) row s.shownDevices hrow (List.Sublist.refl _)
    (DeviceList.mem_shownDevices_of_selected table hrow)
  rw [hplaced.selectedMac]
  exact (isMacText_mac2string info.mac).1

variable {table} {s : DeviceList τ} {row i : ℕ} {l : List DeviceListData} {info : DeviceInfo}

/-- **A drop-down that is opened for the row** selects its device. -/
theorem Placed.selected (h : Placed table entry s row l info i) (fl : FlChoice χ)
    (device : DeviceChoice χ) :
    let t := device.updateEntries fl (l.map entry) (mac2string info.mac)
    fl.value t.widget = (i + 1 : ℕ) ∧ t.getMAC fl = mac2string info.mac := by
  intro t
  rcases hrecord : entry (s.deviceAt (s.index.getD row 0)) with ⟨name, mac, ip⟩
  obtain rfl : mac = mac2string info.mac := (congrArg (fun x => x.2.1) hrecord).symm.trans h.cell
  have hi := h.place
  rw [hrecord] at hi
  have hvalue := (DeviceChoice.updateEntries_spec fl h.choosable device _).2.2.1 i name ip hi
  exact ⟨hvalue, ((shows_updateEntries h.choosable device _).selected h.names hvalue hi).1⟩

end Placed

/-! ### The windows -/

section Windows

variable {χ σ τ : Type} (fl : FlChoice χ) (env : WindowEnv σ) (widget : χ) (table : FlTableRow τ)
  {ops : List Op} (k : ConfigWindow)

/-- How a window shows the list that it is opened with. -/
theorem openFor_eq (s : DeviceList τ) :
    ∃ list, s.openFor table k = .updateDevices list (s.getSelectedMAC table) ∧
      (k.purpose fl env widget).shown list = (s.offered k).map k.entry := by
  cases k with
  | reconnect | setTmpIP =>
    refine ⟨_, rfl, ?_⟩
    show List.map _ (List.map _ _) = List.map _ s.shownDevices
    unfold DeviceList.getCurrentNameMACList
    rw [List.map_map, List.map_map]
    have hall : (s.shownDevices.filter fun d =>
        !false || (d.item 2).take 9 = "rc_visard".toList) = s.shownDevices :=
      List.filter_eq_self.mpr fun _ _ => rfl
    rw [hall]
    rfl
  | changeIPConfig =>
    refine ⟨_, rfl, ?_⟩
    show DeviceList.getCurrentNameMACIPList s false = _
    unfold DeviceList.getCurrentNameMACIPList DeviceList.offered
    have hreachable : (s.shownDevices.filter fun d =>
        d.reachable && (!false || (d.item 2).take 9 = "rc_visard".toList)) =
          s.shownDevices.filter (·.reachable) :=
      List.filter_congr fun d _ => by rw [Bool.not_false, Bool.true_or, Bool.and_true]
    rw [hreachable]
    rfl

/-- The device of the selected row is offered. -/
theorem offered_of_selected {s : DeviceList τ} {row : ℕ}
    (hrow : s.getSelectedRow table = some row)
    (hreach : k = .changeIPConfig → s.isReachableDeviceSelected table = true) :
    s.deviceAt (s.index.getD row 0) ∈ s.offered k := by
  have hmem := DeviceList.mem_shownDevices_of_selected table hrow
  cases k with
  | reconnect | setTmpIP => exact hmem
  | changeIPConfig =>
    have hreachable := hreach rfl
    unfold DeviceList.isReachableDeviceSelected at hreachable
    rw [hrow] at hreachable
    exact List.mem_filter.mpr ⟨hmem, hreachable⟩

/-- The command configures the device of the answer. -/
def WindowCommand.Configures (info : DeviceInfo) : WindowCommand → Prop
  | .forceIP mac _ _ _ => mac = info.mac
  | .writeConfig currentIp _ => currentIp = info.ip

theorem WindowCommand.GoesTo.configures {info : DeviceInfo} (hmac : info.mac.toNat < 2 ^ 48)
    {ip : Str} {c : WindowCommand} (h : c.GoesTo (mac2string info.mac) ip)
    (hip : ∀ currentIp config, c = .writeConfig currentIp config → ip = ip2string info.ip) :
    c.Configures info := by
  cases c with
  | forceIP mac address subnet gateway => exact h.trans (getMAC_mac2string hmac)
  | writeConfig currentIp config =>
    rw [hip currentIp config rfl] at h
    exact h.trans (getIP_ip2string info.ip)

/-- What a window shows of a device, and what it sends. -/
theorem ConfigWindow.entry_cases (device : DeviceListData) :
    ∃ ip, k.entry device = (device.item 0, device.item 5, ip) ∧
      ∀ w currentIp config, (k.purpose fl env widget).command w = .writeConfig currentIp config →
        ip = device.item 4 := by
  cases k with
  | reconnect | setTmpIP => exact ⟨[], rfl, fun w currentIp config h => WindowCommand.noConfusion h⟩
  | changeIPConfig => exact ⟨device.item 4, rfl, fun _ _ _ _ => rfl⟩

/-- **Commands go to the device of the row.**  The table was filled with answers and used in any
way, and a window is opened for the selected row and used without selecting another device: a
command of its button carries the contents of the fields, and it is for the device whose answer
made the row. -/
theorem commands_for_row (outside : σ) (h : Answered ops) (pre post : List WindowEvent)
    (hpost : ∀ event ∈ post, (∀ list selMac, event ≠ .updateDevices list selMac) ∧
      ∀ i, event ≠ .select i) :
    let s := run (DeviceList.step table) (DeviceList.init table) ops
    let d := k.dialog fl env widget
    let w := run d.step (d.start outside) (pre ++ s.openFor table k :: post)
    ∀ row, s.getSelectedRow table = some row →
      (k = .changeIPConfig → s.isReachableDeviceSelected table = true) →
      ∃ info reachable effects, .add (discovered info reachable) ∈ ops ∧
        s.macOfRow row = mac2string info.mac ∧ (d.step w .press).trace = w.trace ++ effects ∧
        ∀ c, .performed c ∈ effects →
          c = (k.purpose fl env widget).command w.win ∧ c.Configures info := by
  intro s d w row hrow hreach
  obtain ⟨info, reachable, i, hadd, hplaced⟩ := exists_placed table h k.entry_cells row
    (s.offered k) hrow (s.offered_sublist k) (offered_of_selected table k hrow hreach)
  obtain ⟨list, hopen, hshown⟩ := openFor_eq fl env widget table k s
  rw [hplaced.selectedMac] at hopen
  obtain ⟨ip, hentry, hcommand⟩ := k.entry_cases fl env widget (s.deviceAt (s.index.getD row 0))
  have hi := hplaced.place
  rw [hentry, show (s.deviceAt (s.index.getD row 0)).item 5 = mac2string info.mac from
    hplaced.macOfRow] at hi
  -- the window is still at this entry when the button is pressed
  have hlawful := k.lawful fl env widget
  have hw : w = run d.step (d.start outside)
      (pre ++ .updateDevices list (mac2string info.mac) :: post) := by
    rw [← hopen]
  have hfor := hlawful.isFor_run outside pre post (mac2string info.mac)
    (hshown ▸ hplaced.choosable) fun event hevent => (hpost event hevent).1
  rw [← hw] at hfor
  have hvalue : fl.value (d.device w.win).widget = (i + 1 : ℕ) := by
    have hdevice := (hlawful.step_updateDevices (run d.step (d.start outside) pre) list
      (mac2string info.mac)).2.1
    have hsound := ((hlawful.sound_run outside pre).step hlawful
      (.updateDevices list (mac2string info.mac))).1.device_run hlawful hpost
    rw [hw, run_append, run_cons, hsound, hdevice, hshown]
    exact (hplaced.selected fl _).1
  refine ⟨info, reachable, ?_⟩
  by_cases hvisible : w.visible = true
  · obtain ⟨effects, htrace, hgoes⟩ := hfor.goesTo hlawful hvisible (hshown ▸ hplaced.choosable)
      (hshown ▸ hplaced.names) hvalue (hshown ▸ hi)
    refine ⟨effects, hadd, hplaced.macOfRow, htrace, fun c hc => ⟨(hgoes c hc).1, ?_⟩⟩
    refine (hgoes c hc).2.configures hplaced.mac48 fun currentIp config heq => ?_
    rw [← hplaced.ip]
    exact hcommand w.win currentIp config ((hgoes c hc).1.symm.trans heq)
  · refine ⟨[], hadd, hplaced.macOfRow, ?_, fun c hc => absurd hc List.not_mem_nil⟩
    have hhidden : d.step w .press = w := by
      refine Dialog.step_of_hidden hvisible fun list selMac heq => ?_
      cases heq
    rw [hhidden, List.append_nil]

end Windows

/-- The answer of a sensor. -/
def sensorAnswer : DeviceInfo :=
  { DeviceInfo.ofIfaceName "eth0".toList with
    mac := 0x00142D2C6EBB
    ip := 0x0A000207
    userName := "cam-left".toList
    modelName := "rc_visard".toList }

/-- The table with this answer, and its row selected. -/
def sensorOps : List Op := [.add (discovered sensorAnswer true), .selectRow 0 true]

theorem answered_sensorOps : Answered sensorOps := by
  intro a ha
  rcases List.mem_cons.mp ha with heq | ha
  · refine ⟨sensorAnswer, true, Op.add.inj heq, by decide, ?_, by decide⟩
    decide
  · exact Op.noConfusion (List.mem_singleton.mp ha)

theorem commands_for_row_sensorAnswer :
    let s := run (DeviceList.step .flags) (DeviceList.init .flags) sensorOps
    let d := ConfigWindow.dialog .items ConfigWindow.agreeing ([], -1) .changeIPConfig
    let w := run d.step (d.start ())
      [s.openFor .flags .changeIPConfig, .persistentIp false]
    ∃ info reachable effects, .add (discovered info reachable) ∈ sensorOps ∧
      s.macOfRow 0 = mac2string info.mac ∧ (d.step w .press).trace = w.trace ++ effects ∧
      ∀ c, .performed c ∈ effects →
        c = (ConfigWindow.purpose .items ConfigWindow.agreeing ([], -1) .changeIPConfig).command
          w.win ∧ c.Configures info := by
  refine commands_for_row .items ConfigWindow.agreeing ([], -1) .flags .changeIPConfig ()
    answered_sensorOps [] [.persistentIp false] ?_ 0 rfl fun _ => rfl
  intro event hevent
  rw [List.mem_singleton.mp hevent]
  exact ⟨fun list selMac heq => WindowEvent.noConfusion heq,
    fun i heq => WindowEvent.noConfusion heq⟩

end Gui
end RcDiscover
