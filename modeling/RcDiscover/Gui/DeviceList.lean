import RcDiscover.Text
import RcDiscover.Lib.Runs
import RcDiscover.Lib.StableInsert

/-!
# `tools/rcdiscover-gui/device_list.cc`: the table of devices

`DeviceList` keeps all discovered devices in `device` and the visible ones, in the order of the
rows, in `index`.  The table itself is an `Fl_Table_Row` of FLTK: `FlTableRow` says what the
code relies on of it, for an arbitrary type of table states.

Calls that only draw or notify (`redraw`, `notifySelectionChange`) are left out.
-/

namespace RcDiscover
namespace Gui

/-! ### FLTK -/

/-- `Fl_Table_Row` of type `SELECT_SINGLE`: a selection flag for each row.  `rowSelected` is
`row_selected(row) != 0`; that call returns -1 for a row that the table does not have. -/
structure FlTableRow (τ : Type) where
  /-- A new table without rows. -/
  init : τ
  rows : τ → ℕ
  rowSelected : τ → ℕ → Bool
  /-- `rows(n)`. -/
  setRows : ℕ → τ → τ
  /-- `select_row(row, flag)`. -/
  selectRow : ℕ → Bool → τ → τ
  rows_init : rows init = 0
  rows_setRows : ∀ n t, rows (setRows n t) = n
  rows_selectRow : ∀ row flag t, rows (selectRow row flag t) = rows t
  rowSelected_of_rows_le : ∀ t row, rows t ≤ row → rowSelected t row = true
  rowSelected_setRows_of_lt : ∀ n t row, row < n → row < rows t →
    rowSelected (setRows n t) row = rowSelected t row
  rowSelected_setRows_of_le : ∀ n t row, row < n → rows t ≤ row →
    rowSelected (setRows n t) row = false
  rowSelected_selectRow : ∀ row flag t r, row < rows t → r < rows t →
    rowSelected (selectRow row flag t) r = (flag && decide (r = row))
  rowSelected_selectRow_of_le : ∀ row flag t r, rows t ≤ row →
    rowSelected (selectRow row flag t) r = rowSelected t r

/-- The table as the list of its flags. -/
def FlTableRow.flags : FlTableRow (List Bool) where
  init := []
  rows := List.length
  rowSelected t row := t.getD row true
  setRows n t := t.take n ++ List.replicate (n - t.length) false
  selectRow row flag t :=
    if row < t.length then (List.range t.length).map fun r => flag && decide (r = row) else t
  rows_init := rfl
  rows_setRows n t := by
    simp only [List.length_append, List.length_take, List.length_replicate]
    omega
  rows_selectRow row flag t := by split_ifs <;> simp
  rowSelected_of_rows_le t row h := by simp [List.getD_eq_getElem?_getD, h]
  rowSelected_setRows_of_lt n t row hn ht := by
    simp [List.getD_eq_getElem?_getD, List.getElem?_append, hn, ht]
  rowSelected_setRows_of_le n t row hn ht := by
    have hsub : row - min n t.length < n - t.length := by omega
    simp [List.getD_eq_getElem?_getD, List.getElem?_append, hsub, Nat.not_lt.2 ht]
  rowSelected_selectRow row flag t r hrow hr := by
    simp [List.getD_eq_getElem?_getD, hrow, hr]
  rowSelected_selectRow_of_le row flag t r h := by simp [Nat.not_lt.2 h]

/-! ### Devices -/

/-- The number of columns, for the numerals of type `Fin 8`. -/
instance neZeroColumns : NeZero 8 := ⟨by decide⟩

/-- `DeviceListData`.  The `std::set` of interfaces is kept as the sorted list of its elements. -/
structure DeviceListData where
  item : Fin 8 → Str
  interfaceList : List Str
  reachable : Bool
  newDiscovery : Bool

/-- The arguments of `DeviceList::add`. -/
structure Discovered where
  name : Str
  manufacturer : Str
  model : Str
  sn : Str
  ip : Str
  mac : Str
  interface : Str
  reachable : Bool
  deriving DecidableEq, Repr

/-- The bytes of `u8"\u2713"` and `u8"\u2717"`. -/
def reachableMark (reachable : Bool) : Str :=
  if reachable then ['\u00e2', '\u009c', '\u0093'] else ['\u00e2', '\u009c', '\u0097']

namespace DeviceListData

/-- `item[col]`; only the columns 0 to 7 exist. -/
def cell (d : DeviceListData) (col : ℤ) : Str :=
  if h : 0 ≤ col ∧ col < 8 then d.item ⟨col.toNat, by omega⟩ else []

/-- The branch of `add` for a device that is already listed. -/
def addInterface (d : DeviceListData) (interface : Str) (reachable : Bool) : DeviceListData :=
  if interface ∈ d.interfaceList then d
  else
    let interfaceList := d.interfaceList.orderedInsert (· ≤ ·) interface
    let reachable := d.reachable || reachable
    { d with
      item := Function.update (Function.update d.item 6 (", ".toList.intercalate interfaceList)) 7
        (reachableMark reachable)
      interfaceList
      reachable }

/-- The record of a device that is not listed yet. -/
def ofDiscovered (a : Discovered) (newDiscovery : Bool) : DeviceListData where
  item := ![a.name, a.manufacturer, a.model, a.sn, a.ip, a.mac, a.interface,
    reachableMark a.reachable]
  interfaceList := [a.interface]
  reachable := a.reachable
  newDiscovery := newDiscovery

/-- What a read behind the end of `device` yields; there is none. -/
instance : Inhabited DeviceListData := ⟨⟨fun _ => [], [], false, false⟩⟩

end DeviceListData

/-- `DeviceList`. -/
structure DeviceList (τ : Type) where
  previousMacList : Finset Str
  newDiscovery : Bool
  device : List DeviceListData
  index : List ℕ
  sortCol : ℤ
  sortDown : Bool
  filterRc : Bool
  filterValue : Str
  table : τ

/-! ### Visible rows -/

/-- The checks at the beginning of `addDeviceIndex`. -/
def passesFilter (filterRc : Bool) (filterValue : Str) (d : DeviceListData) : Bool :=
  if filterRc = true ∧ (d.item 2).take 3 ≠ "rc_".toList then false
  else if filterValue ≠ [] then
    [0, 1, 2, 3, 4, 5, 6].any fun k : Fin 8 => decide (filterValue <:+: d.item k)
  else true

/-- `item[sort_col].compare(…)*dir < 0`: the row of `d` belongs in front of that of `e`. -/
def SortsBefore (col : ℤ) (down : Bool) (d e : DeviceListData) : Prop :=
  if down then d.cell col < e.cell col else e.cell col < d.cell col

instance (col : ℤ) (down : Bool) (d e : DeviceListData) : Decidable (SortsBefore col down d e) := by
  unfold SortsBefore
  infer_instance

namespace DeviceList

variable {τ : Type}

/-- `device[i]`. -/
def deviceAt (s : DeviceList τ) (i : ℕ) : DeviceListData := s.device.getD i default

/-- `device[i]` is visible. -/
def visible (s : DeviceList τ) (i : ℕ) : Bool :=
  passesFilter s.filterRc s.filterValue (s.deviceAt i)

/-- The row of `device[i]` belongs in front of that of `device[j]`. -/
def Before (s : DeviceList τ) (i j : ℕ) : Prop :=
  SortsBefore s.sortCol s.sortDown (s.deviceAt i) (s.deviceAt j)

instance (s : DeviceList τ) : DecidableRel s.Before := fun i j => by
  unfold Before
  infer_instance

/-- `DeviceList::addDeviceIndex`. -/
def addDeviceIndex (s : DeviceList τ) (i : ℕ) : Bool × DeviceList τ :=
  if s.visible i then (true, { s with index := s.index.orderedInsert s.Before i })
  else (false, s)

/-- `DeviceList::updateDeviceIndices`. -/
def updateDeviceIndices (s : DeviceList τ) : DeviceList τ :=
  (List.range s.device.length).foldl (fun s i => (s.addDeviceIndex i).2) { s with index := [] }

/-! ### Operations -/

variable (fl : FlTableRow τ)

/-- The state after the constructor. -/
def init : DeviceList τ where
  previousMacList := ∅
  newDiscovery := false
  device := []
  index := []
  sortCol := 0
  sortDown := true
  filterRc := true
  filterValue := []
  table := fl.setRows 0 fl.init

/-- `DeviceList::clear`. -/
def clear (s : DeviceList τ) : DeviceList τ :=
  { s with
    previousMacList := (s.device.map fun d => d.item 5).toFinset
    newDiscovery := false
    device := []
    index := []
    table := fl.setRows 0 s.table }

/-- The branch of `add` for a device that is not listed yet, up to the new row. -/
def appended (s : DeviceList τ) (a : Discovered) : DeviceList τ :=
  let newDiscovery := decide (s.previousMacList.Nonempty ∧ a.mac ∉ s.previousMacList)
  { s with
    newDiscovery := s.newDiscovery || newDiscovery
    device := s.device ++ [DeviceListData.ofDiscovered a newDiscovery] }

/-- `DeviceList::add`. -/
def add (s : DeviceList τ) (a : Discovered) : DeviceList τ :=
  match s.device.findIdx? fun d => d.item 5 = a.mac with
  -- the index stays as it is, although cells have changed
  | some k => { s with device := s.device.modify k fun d => d.addInterface a.interface a.reachable }
  | none =>
    match (s.appended a).addDeviceIndex ((s.appended a).device.length - 1) with
    | (true, s) => { s with table := fl.setRows s.index.length s.table }
    | (false, s) => s

/-- `DeviceList::filterRCDevices`. -/
def filterRCDevices (s : DeviceList τ) (filterRc : Bool) : DeviceList τ :=
  let s := { s with filterRc }.updateDeviceIndices
  { s with table := fl.selectRow 0 false (fl.setRows s.index.length s.table) }

/-- `DeviceList::filter`. -/
def filter (s : DeviceList τ) (filterValue : Str) : DeviceList τ :=
  let s := { s with filterValue }.updateDeviceIndices
  { s with table := fl.selectRow 0 false (fl.setRows s.index.length s.table) }

/-- `DeviceList::setSorting`. -/
def setSorting (s : DeviceList τ) (sortCol : ℤ) (sortDown : Bool) : DeviceList τ :=
  let s := { s with sortCol, sortDown }.updateDeviceIndices
  -- no `rows(index.size())`, unlike `filter`
  { s with table := fl.selectRow 0 false s.table }

/-- `DeviceList::sortColumn`. -/
def sortColumn (s : DeviceList τ) (c : ℤ) : DeviceList τ :=
  let s := if s.sortCol = c then { s with sortDown := !s.sortDown }
    else { s with sortCol := c, sortDown := true }
  let s := s.updateDeviceIndices
  { s with table := fl.selectRow 0 false s.table }

/-- The part of `DeviceList::handle` that removes the highlighting of new devices. -/
def removeHighlight (s : DeviceList τ) : DeviceList τ :=
  if s.newDiscovery then
    { s with
      newDiscovery := false
      device := s.device.map fun d => { d with newDiscovery := false } }
  else s

/-- `DeviceList::getSelectedRow`, with `none` for -1. -/
def getSelectedRow (s : DeviceList τ) : Option ℕ :=
  (List.range s.index.length).foldl
    (fun sel i => if fl.rowSelected s.table i then some i else sel) none

/-- `DeviceList::getSelectedMAC`. -/
def getSelectedMAC (s : DeviceList τ) : Str :=
  match s.getSelectedRow fl with
  | some sel => (s.deviceAt (s.index.getD sel 0)).item 5
  | none => []

/-- `DeviceList::isReachableDeviceSelected`. -/
def isReachableDeviceSelected (s : DeviceList τ) : Bool :=
  match s.getSelectedRow fl with
  | some sel => (s.deviceAt (s.index.getD sel 0)).reachable
  | none => false

/-- `DeviceList::isRCVisardSelected`. -/
def isRCVisardSelected (s : DeviceList τ) : Bool :=
  match s.getSelectedRow fl with
  | some sel => ((s.deviceAt (s.index.getD sel 0)).item 2).take 9 = "rc_visard".toList
  | none => false

end DeviceList

/-! ### Runs -/

/-- The operations on the table: calls from the window with columns 0 to 7, and what the user
does with the rows. -/
inductive Op
  | clear
  | add (a : Discovered)
  | filterRCDevices (filterRc : Bool)
  | filter (filterValue : Str)
  | setSorting (sortCol : Fin 8) (sortDown : Bool)
  | sortColumn (c : Fin 8)
  | selectRow (row : ℕ) (flag : Bool)
  | removeHighlight

/-- The operation rebuilds the index. -/
def Op.Rebuilds : Op → Prop
  | .filterRCDevices _ | .filter _ | .setSorting _ _ | .sortColumn _ => True
  | _ => False

/-- One operation. -/
def DeviceList.step {τ : Type} (fl : FlTableRow τ) (s : DeviceList τ) : Op → DeviceList τ
  | .clear => s.clear fl
  | .add a => s.add fl a
  | .filterRCDevices filterRc => s.filterRCDevices fl filterRc
  | .filter filterValue => s.filter fl filterValue
  | .setSorting sortCol sortDown => s.setSorting fl sortCol.val sortDown
  | .sortColumn c => s.sortColumn fl c.val
  | .selectRow row flag => { s with table := fl.selectRow row flag s.table }
  | .removeHighlight => s.removeHighlight

/-! ### What the operations do -/

namespace DeviceList

variable {τ : Type} (fl : FlTableRow τ)

/-- The visible devices in the order of the rows, built from scratch. -/
def sortedIndex (s : DeviceList τ) : List ℕ :=
  StableInsert.insertAll s.Before s.visible (List.range s.device.length) []

/-- `updateDeviceIndices` rebuilds the index from devices, filter and sort settings. -/
theorem updateDeviceIndices_eq (s : DeviceList τ) :
    s.updateDeviceIndices = { s with index := s.sortedIndex } := by
  have hfold : ∀ (xs l : List ℕ),
      xs.foldl (fun s i => (s.addDeviceIndex i).2) { s with index := l } =
        { s with index := StableInsert.insertAll s.Before s.visible xs l } := by
    intro xs
    induction xs with
    | nil => exact fun l => rfl
    | cons i xs ih =>
      intro l
      have hstep : (addDeviceIndex { s with index := l } i).2 =
          { s with index := if s.visible i then l.orderedInsert s.Before i else l } := by
        by_cases hv : s.visible i = true
        · have hv' : visible { s with index := l } i = true := hv
          rw [addDeviceIndex, if_pos hv', if_pos hv]
          rfl
        · have hv' : ¬ visible { s with index := l } i = true := hv
          rw [addDeviceIndex, if_neg hv', if_neg hv]
      rw [List.foldl_cons, hstep, ih]
      rfl
  exact hfold (List.range s.device.length) []

/-- The operations on the filter and on the sort settings: they change no device and rebuild the
index. -/
theorem step_rebuilt (s : DeviceList τ) {op : Op} (h : op.Rebuilds) :
    (s.step fl op).device = s.device ∧ (s.step fl op).index = (s.step fl op).sortedIndex := by
  cases op with
  | clear | add _ | selectRow _ _ | removeHighlight => exact absurd h id
  | filterRCDevices filterRc =>
    simp only [step, filterRCDevices, updateDeviceIndices_eq, true_and]
    rfl
  | filter filterValue =>
    simp only [step, filter, updateDeviceIndices_eq, true_and]
    rfl
  | setSorting sortCol sortDown =>
    simp only [step, setSorting, updateDeviceIndices_eq, true_and]
    rfl
  | sortColumn c =>
    simp only [step, sortColumn, updateDeviceIndices_eq]
    split_ifs
    · exact ⟨rfl, rfl⟩
    · exact ⟨rfl, rfl⟩

/-- **Inversion of `add`**: an interface is added to the one record with the MAC address, or
there is none and a record is appended, with or without a row. -/
theorem add_cases (s : DeviceList τ) (a : Discovered) :
    (∃ k d, s.device[k]? = some d ∧ d.item 5 = a.mac ∧
      s.add fl a = { s with
        device := s.device.modify k fun d => d.addInterface a.interface a.reachable }) ∨
    ((∀ d ∈ s.device, d.item 5 ≠ a.mac) ∧ (s.appended a).visible s.device.length = true ∧
      s.add fl a = { s.appended a with
        index := s.index.orderedInsert (s.appended a).Before s.device.length
        table := fl.setRows (s.index.length + 1) s.table }) ∨
    ((∀ d ∈ s.device, d.item 5 ≠ a.mac) ∧ (s.appended a).visible s.device.length = false ∧
      s.add fl a = s.appended a) := by
  rcases hk : s.device.findIdx? fun d => decide (d.item 5 = a.mac) with _ | k
  · right
    have hnew : ∀ d ∈ s.device, d.item 5 ≠ a.mac := by
      simpa [List.findIdx?_eq_none_iff] using hk
    have hlen : (s.appended a).device.length - 1 = s.device.length := by simp [appended]
    rw [add, hk, hlen]
    cases hv : (s.appended a).visible s.device.length with
    | true =>
      refine .inl ⟨hnew, rfl, ?_⟩
      rw [addDeviceIndex, if_pos hv]
      simp only [List.orderedInsert_length]
      rfl
    | false =>
      refine .inr ⟨hnew, rfl, ?_⟩
      rw [addDeviceIndex, if_neg (by simp [hv])]
  · left
    obtain ⟨hlt, hmac, -⟩ := List.findIdx?_eq_some_iff_getElem.1 hk
    refine ⟨k, s.device[k], List.getElem?_eq_getElem hlt, by simpa using hmac, ?_⟩
    rw [add, hk]

end DeviceList

end Gui
end RcDiscover
