import RcDiscover.Gui.VisibleRows

/-!
# The selected device

FLTK keeps the selection as a flag of a row number, while the device of a row changes when `add`
inserts a row above it.  `add_selection_iff` says exactly when the MAC address that
`getSelectedMAC` returns survives a call of `add` (or becomes empty): the flagged row must stay
above the new one.
-/

namespace RcDiscover
namespace Gui

open Runs StableInsert

variable {τ : Type} (fl : FlTableRow τ)

/-! ### Flags -/

namespace FlTableRow

/-- The table has the row and its flag is set. -/
def Flagged (t : τ) (row : ℕ) : Prop := row < fl.rows t ∧ fl.rowSelected t row = true

/-- At most one row is flagged. -/
def SelectsSingle (t : τ) : Prop := ∀ row row', fl.Flagged t row → fl.Flagged t row' → row = row'

variable {fl} {t : τ}

/-- A new row count keeps the flags of the rows that stay, and flags no new row. -/
theorem flagged_setRows_iff {n row : ℕ} :
    fl.Flagged (fl.setRows n t) row ↔ row < n ∧ fl.Flagged t row := by
  unfold Flagged
  rw [fl.rows_setRows]
  refine and_congr_right fun hn => ?_
  by_cases hrow : row < fl.rows t
  · rw [fl.rowSelected_setRows_of_lt n t row hn hrow]
    exact ⟨fun h => ⟨hrow, h⟩, fun h => h.2⟩
  · rw [fl.rowSelected_setRows_of_le n t row hn (Nat.not_lt.1 hrow)]
    exact ⟨nofun, fun h => absurd h.1 hrow⟩

theorem SelectsSingle.setRows (h : fl.SelectsSingle t) (n : ℕ) :
    fl.SelectsSingle (fl.setRows n t) := fun row row' hrow hrow' =>
  h row row' (flagged_setRows_iff.1 hrow).2 (flagged_setRows_iff.1 hrow').2

theorem SelectsSingle.selectRow (h : fl.SelectsSingle t) (row : ℕ) (flag : Bool) :
    fl.SelectsSingle (fl.selectRow row flag t) := by
  by_cases hlt : row < fl.rows t
  · have hflag : ∀ r, fl.Flagged (fl.selectRow row flag t) r → r = row := by
      rintro r ⟨hr, hsel⟩
      rw [fl.rows_selectRow] at hr
      rw [fl.rowSelected_selectRow row flag t r hlt hr, Bool.and_eq_true] at hsel
      simpa using hsel.2
    exact fun r r' hr hr' => (hflag r hr).trans (hflag r' hr').symm
  · have hsame : ∀ r, fl.Flagged (fl.selectRow row flag t) r → fl.Flagged t r := by
      rintro r ⟨hr, hsel⟩
      rw [fl.rows_selectRow] at hr
      rw [fl.rowSelected_selectRow_of_le row flag t r (Nat.not_lt.1 hlt)] at hsel
      exact ⟨hr, hsel⟩
    exact fun r r' hr hr' => h r r' (hsame r hr) (hsame r' hr')

end FlTableRow

namespace DeviceList

variable {s : DeviceList τ}

/-- At most one row is flagged after all operations. -/
theorem selectsSingle_step (h : fl.SelectsSingle s.table) (op : Op) :
    fl.SelectsSingle (s.step fl op).table := by
  cases op with
  | clear => exact h.setRows 0
  | add a =>
    rw [DeviceList.step]
    rcases add_cases fl s a with ⟨k, d, -, -, hadd⟩ | ⟨-, -, hadd⟩ | ⟨-, -, hadd⟩
    · rw [hadd]
      exact h
    · rw [hadd]
      exact h.setRows _
    · rw [hadd]
      exact h
  | filterRCDevices filterRc =>
    simp only [DeviceList.step, filterRCDevices, updateDeviceIndices_eq]
    exact (h.setRows _).selectRow 0 false
  | filter filterValue =>
    simp only [DeviceList.step, filter, updateDeviceIndices_eq]
    exact (h.setRows _).selectRow 0 false
  | setSorting sortCol sortDown =>
    simp only [DeviceList.step, setSorting, updateDeviceIndices_eq]
    exact h.selectRow 0 false
  | sortColumn c =>
    simp only [DeviceList.step, sortColumn, updateDeviceIndices_eq]
    split_ifs <;> exact h.selectRow 0 false
  | selectRow row flag => exact h.selectRow row flag
  | removeHighlight =>
    simp only [DeviceList.step, removeHighlight]
    split_ifs <;> exact h

theorem selectsSingle_init : fl.SelectsSingle (init fl).table := by
  rintro row row' ⟨hrow, -⟩
  rw [init, fl.rows_setRows] at hrow
  exact absurd hrow (Nat.not_lt_zero row)

/-! ### `getSelectedRow` -/

/-- `getSelectedRow` returns the last row that FLTK reports as selected. -/
theorem getSelectedRow_eq_some_iff {i : ℕ} :
    s.getSelectedRow fl = some i ↔ i < s.index.length ∧ fl.rowSelected s.table i = true ∧
      ∀ j, i < j → j < s.index.length → fl.rowSelected s.table j = false := by
  unfold getSelectedRow
  induction s.index.length with
  | zero => simp
  | succ n ih =>
    rw [List.range_succ, List.foldl_append, List.foldl_cons, List.foldl_nil]
    by_cases hn : fl.rowSelected s.table n = true
    · rw [if_pos hn, Option.some.injEq]
      constructor
      · rintro rfl
        exact ⟨by omega, hn, fun j hj hj' => absurd hj' (by omega)⟩
      · rintro ⟨hi, -, hlast⟩
        by_contra hne
        have := hlast n (by omega) (by omega)
        rw [hn] at this
        cases this
    · rw [if_neg hn, ih]
      have hn' : fl.rowSelected s.table n = false := by simpa using hn
      constructor
      · rintro ⟨hi, hsel, hlast⟩
        refine ⟨by omega, hsel, fun j hj hj' => ?_⟩
        by_cases hjn : j = n
        · exact hjn ▸ hn'
        · exact hlast j hj (by omega)
      · rintro ⟨hi, hsel, hlast⟩
        have hne : i ≠ n := fun he => hn (he ▸ hsel)
        exact ⟨by omega, hsel, fun j hj hj' => hlast j hj (by omega)⟩

theorem getSelectedRow_eq_none (h : ∀ i < s.index.length, fl.rowSelected s.table i = false) :
    s.getSelectedRow fl = none := by
  rcases hsel : s.getSelectedRow fl with _ | i
  · rfl
  · obtain ⟨hi, hflag, -⟩ := (getSelectedRow_eq_some_iff fl).1 hsel
    rw [h i hi] at hflag
    cases hflag

/-- The MAC address of the device in a row. -/
def macOfRow (s : DeviceList τ) (row : ℕ) : Str := (s.deviceAt (s.index.getD row 0)).item 5

theorem getSelectedMAC_of_some {row : ℕ} (h : s.getSelectedRow fl = some row) :
    s.getSelectedMAC fl = s.macOfRow row := by
  simp only [getSelectedMAC, h]
  rfl

theorem getSelectedMAC_of_none (h : s.getSelectedRow fl = none) : s.getSelectedMAC fl = [] := by
  simp only [getSelectedMAC, h]

/-- When FLTK has no row beyond the index to answer -1 for, the flag decides. -/
theorem getSelectedMAC_of_flagged (hone : fl.SelectsSingle s.table)
    (hrows : s.index.length ≤ fl.rows s.table) {row : ℕ} (h : fl.Flagged s.table row) :
    s.getSelectedMAC fl = if row < s.index.length then s.macOfRow row else [] := by
  have hothers : ∀ j < s.index.length, j ≠ row → fl.rowSelected s.table j = false := by
    intro j hj hne
    by_contra hsel
    exact hne (hone j row ⟨by omega, by simpa using hsel⟩ h)
  by_cases hlt : row < s.index.length
  · rw [if_pos hlt]
    apply getSelectedMAC_of_some
    rw [getSelectedRow_eq_some_iff]
    exact ⟨hlt, h.2, fun j hj hj' => hothers j hj' (by omega)⟩
  · rw [if_neg hlt]
    apply getSelectedMAC_of_none
    exact getSelectedRow_eq_none fl fun j hj => hothers j hj (by omega)

/-- When FLTK lacks a row of the index, its answer -1 makes the last row the selected one. -/
theorem getSelectedMAC_of_rows_lt (hrows : fl.rows s.table < s.index.length) :
    s.getSelectedMAC fl = s.macOfRow (s.index.length - 1) := by
  apply getSelectedMAC_of_some
  rw [getSelectedRow_eq_some_iff]
  exact ⟨by omega, fl.rowSelected_of_rows_le _ _ (by omega), fun j hj hj' => by omega⟩

/-- The selection depends on the index, on the table and on the MAC addresses in the rows. -/
theorem getSelectedMAC_congr {s' : DeviceList τ} (hindex : s'.index = s.index)
    (htable : s'.table = s.table)
    (hmac : ∀ i ∈ s.index, (s'.deviceAt i).item 5 = (s.deviceAt i).item 5) :
    s'.getSelectedMAC fl = s.getSelectedMAC fl := by
  have hrow : s'.getSelectedRow fl = s.getSelectedRow fl := by
    rw [DeviceList.getSelectedRow, DeviceList.getSelectedRow, hindex, htable]
  rcases hsel : s.getSelectedRow fl with _ | row
  · rw [getSelectedMAC_of_none fl hsel, getSelectedMAC_of_none fl (hrow.trans hsel)]
  · obtain ⟨hlt, -, -⟩ := (getSelectedRow_eq_some_iff fl).1 hsel
    rw [getSelectedMAC_of_some fl hsel, getSelectedMAC_of_some fl (hrow.trans hsel), macOfRow,
      macOfRow, hindex]
    apply hmac
    rw [List.getD_eq_getElem?_getD, List.getElem?_eq_getElem hlt]
    exact List.getElem_mem hlt

/-- Rows with the same MAC address are the same. -/
theorem Sound.macOfRow_inj (hs : s.Sound) {i j : ℕ} (hi : i < s.index.length)
    (hj : j < s.index.length) (h : s.macOfRow i = s.macOfRow j) : i = j := by
  have hget : ∀ {k : ℕ} (hk : k < s.index.length), s.index.getD k 0 = s.index[k] := fun hk => by
    rw [List.getD_eq_getElem?_getD, List.getElem?_eq_getElem hk, Option.getD_some]
  have hlt : ∀ {k : ℕ} (hk : k < s.index.length), s.index[k] < s.device.length := fun hk =>
    hs.index_lt _ (List.getElem_mem hk)
  have heq := (hs.eq_of_mac (getElem?_deviceAt (hlt hi)) (getElem?_deviceAt (hlt hj)) (by
    simpa only [macOfRow, hget hi, hget hj] using h)).1
  exact (List.Nodup.getElem_inj_iff hs.index_nodup).1 heq

/-! ### `add` -/

/-- The first row that belongs below a new device, or the number of rows. -/
def insertRow (s : DeviceList τ) (a : Discovered) : ℕ :=
  s.index.findIdx fun i => SortsBefore s.sortCol s.sortDown
    (DeviceListData.ofDiscovered a false) (s.deviceAt i)

/-- The selection survives the call of `add`: the MAC address is listed already, or the new
device is not visible, or a flagged row of the table stays above the new one.  Where it does
not, the device that takes its place has no MAC address. -/
def KeepsSelection (s : DeviceList τ) (a : Discovered) : Prop :=
  (∃ d ∈ s.device, d.item 5 = a.mac) ∨
  passesFilter s.filterRc s.filterValue (DeviceListData.ofDiscovered a false) = false ∨
  ∀ row, fl.Flagged s.table row → row ≤ s.index.length →
    if row < s.insertRow a then s.index.length ≤ fl.rows s.table ∨ s.macOfRow row = []
    else if row = s.insertRow a then a.mac = []
    else s.macOfRow (row - 1) = []

section Add

variable {a : Discovered}

/-- The new record is found at the end of `device`. -/
theorem deviceAt_appended_last (s : DeviceList τ) (a : Discovered) :
    ((s.appended a).deviceAt s.device.length).item =
      (DeviceListData.ofDiscovered a false).item := by
  have hlast : (s.appended a).device[s.device.length]? = some (DeviceListData.ofDiscovered a
      (decide (s.previousMacList.Nonempty ∧ a.mac ∉ s.previousMacList))) := by
    simp [appended]
  rw [deviceAt_of_getElem? hlast]
  rfl

theorem insertRow_eq (hs : s.Sound) (a : Discovered) :
    s.insertRow a = s.index.findIdx fun i => (s.appended a).Before s.device.length i := by
  have hbefore : ∀ i ∈ s.index, (s.appended a).Before s.device.length i ↔
      SortsBefore s.sortCol s.sortDown (DeviceListData.ofDiscovered a false) (s.deviceAt i) := by
    intro i hi
    unfold Before SortsBefore DeviceListData.cell
    rw [deviceAt_appended_last, deviceAt_appended (hs.index_lt i hi)]
    rfl
  apply le_antisymm
  · exact List.findIdx_le_findIdx fun i hi h => by simpa [← hbefore i hi] using h
  · exact List.findIdx_le_findIdx fun i hi h => by simpa [hbefore i hi] using h

theorem insertRow_le (s : DeviceList τ) (a : Discovered) : s.insertRow a ≤ s.index.length :=
  List.findIdx_le_length

/-- The MAC addresses of the rows after a row has been inserted. -/
theorem macOfRow_inserted (hs : s.Sound) (t : τ) {row : ℕ} (hrow : row ≤ s.index.length) :
    macOfRow { s.appended a with
        index := s.index.orderedInsert (s.appended a).Before s.device.length
        table := t } row =
      if row < s.insertRow a then s.macOfRow row
      else if row = s.insertRow a then a.mac else s.macOfRow (row - 1) := by
  have hle := s.insertRow_le a
  have hold : ∀ {row : ℕ}, row < s.index.length →
      ((s.appended a).deviceAt (s.index.getD row 0)).item 5 = s.macOfRow row := by
    intro row hrow
    rw [macOfRow, deviceAt_appended]
    rw [List.getD_eq_getElem?_getD, List.getElem?_eq_getElem hrow]
    exact hs.index_lt _ (List.getElem_mem hrow)
  change ((s.appended a).deviceAt
    ((s.index.orderedInsert (s.appended a).Before s.device.length).getD row 0)).item 5 = _
  rw [List.getD_eq_getElem?_getD, getElem?_orderedInsert, ← insertRow_eq hs]
  by_cases hlt : row < s.insertRow a
  · rw [if_pos hlt, if_pos hlt, ← List.getD_eq_getElem?_getD]
    exact hold (by omega)
  · rw [if_neg hlt, if_neg hlt]
    by_cases heq : row = s.insertRow a
    · rw [if_pos heq, if_pos heq, Option.getD_some, deviceAt_appended_last]
      rfl
    · rw [if_neg heq, if_neg heq, ← List.getD_eq_getElem?_getD]
      exact hold (by omega)

/-- Where the selection is before a row is inserted, when a row is flagged: in no row of the
index, in the flagged row, or in the last row because FLTK answers -1 for it. -/
theorem getSelectedMAC_cases (hone : fl.SelectsSingle s.table) {row : ℕ}
    (hrow : fl.Flagged s.table row) :
    s.getSelectedMAC fl = [] ∨ ∃ j < s.index.length, s.getSelectedMAC fl = s.macOfRow j ∧
      ((s.index.length ≤ fl.rows s.table ∧ j = row) ∨
        (fl.rows s.table < s.index.length ∧ j = s.index.length - 1)) := by
  rcases Nat.lt_or_ge (fl.rows s.table) s.index.length with hR | hR
  · exact .inr ⟨s.index.length - 1, by omega, getSelectedMAC_of_rows_lt fl hR, .inr ⟨hR, rfl⟩⟩
  · rw [getSelectedMAC_of_flagged fl hone hR hrow]
    by_cases hlt : row < s.index.length
    · rw [if_pos hlt]
      exact .inr ⟨row, hlt, rfl, .inl ⟨hR, rfl⟩⟩
    · exact .inl (if_neg hlt)

/-- A MAC address of another row is the selected one or empty only when it is empty. -/
theorem eq_selected_or_nil_iff (hone : fl.SelectsSingle s.table) {row : ℕ}
    (hrow : fl.Flagged s.table row) {x : Str}
    (hx : ∀ j < s.index.length, ((s.index.length ≤ fl.rows s.table ∧ j = row) ∨
      (fl.rows s.table < s.index.length ∧ j = s.index.length - 1)) → x ≠ s.macOfRow j) :
    (x = s.getSelectedMAC fl ∨ x = []) ↔ x = [] := by
  constructor
  · rintro (h | h)
    · rcases getSelectedMAC_cases fl hone hrow with hempty | ⟨j, hj, hmac, hcase⟩
      · exact h.trans hempty
      · exact absurd (h.trans hmac) (hx j hj hcase)
    · exact h
  · exact .inr

/-- The device in a row of the index is one of the list. -/
theorem Sound.deviceAt_mem (hs : s.Sound) {j : ℕ} (hj : j < s.index.length) :
    s.deviceAt (s.index.getD j 0) ∈ s.device := by
  apply List.mem_of_getElem? (i := s.index.getD j 0)
  apply getElem?_deviceAt
  rw [List.getD_eq_getElem?_getD, List.getElem?_eq_getElem hj]
  exact hs.index_lt _ (List.getElem_mem hj)

/-- What the insertion of a row does to a selection whose flag is on the given row. -/
def InsertionKeeps (s : DeviceList τ) (a : Discovered) (row : ℕ) : Prop :=
  if row < s.insertRow a then s.index.length ≤ fl.rows s.table ∨ s.macOfRow row = []
  else if row = s.insertRow a then a.mac = []
  else s.macOfRow (row - 1) = []

/-- The MAC address that is in the flagged row after the insertion, compared with the selected one
before it. -/
theorem inserted_row_iff (hs : s.Sound) (hone : fl.SelectsSingle s.table)
    (hnew : ∀ d ∈ s.device, d.item 5 ≠ a.mac) {row : ℕ} (hrow : fl.Flagged s.table row)
    (hle : row ≤ s.index.length) (x : Str)
    (hx : x = if row < s.insertRow a then s.macOfRow row
      else if row = s.insertRow a then a.mac else s.macOfRow (row - 1)) :
    (x = s.getSelectedMAC fl ∨ x = []) ↔ s.InsertionKeeps fl a row := by
  have hk := s.insertRow_le a
  have hflag := hrow.1
  unfold InsertionKeeps
  by_cases hlt : row < s.insertRow a
  · rw [if_pos hlt] at hx ⊢
    by_cases hR : s.index.length ≤ fl.rows s.table
    · have hkeep : x = s.getSelectedMAC fl := by
        rw [hx, getSelectedMAC_of_flagged fl hone hR hrow, if_pos (by omega)]
      exact ⟨fun _ => .inl hR, fun _ => .inl hkeep⟩
    · rw [eq_selected_or_nil_iff fl hone hrow, or_iff_right hR, hx]
      intro j hj hcase heq
      have := hs.macOfRow_inj (by omega) hj (hx.symm.trans heq)
      omega
  · rw [if_neg hlt] at hx ⊢
    by_cases heq : row = s.insertRow a
    · rw [if_pos heq] at hx ⊢
      rw [eq_selected_or_nil_iff fl hone hrow, hx]
      intro j hj _ hmac
      exact hnew _ (hs.deviceAt_mem hj) (hmac.symm.trans hx)
    · rw [if_neg heq] at hx ⊢
      rw [eq_selected_or_nil_iff fl hone hrow, hx]
      intro j hj hcase hmac
      have := hs.macOfRow_inj (by omega) hj (hx.symm.trans hmac)
      omega

/-- The MAC address of the selection before and after a row has been inserted. -/
theorem inserted_selection_iff (hs : s.Sound) (hone : fl.SelectsSingle s.table)
    (hnew : ∀ d ∈ s.device, d.item 5 ≠ a.mac) :
    let s' : DeviceList τ := { s.appended a with
      index := s.index.orderedInsert (s.appended a).Before s.device.length
      table := fl.setRows (s.index.length + 1) s.table }
    (s'.getSelectedMAC fl = s.getSelectedMAC fl ∨ s'.getSelectedMAC fl = []) ↔
      ∀ row, fl.Flagged s.table row → row ≤ s.index.length → s.InsertionKeeps fl a row := by
  intro s'
  have hlen : s'.index.length = s.index.length + 1 := List.orderedInsert_length ..
  have hrows : fl.rows s'.table = s'.index.length := by rw [fl.rows_setRows, hlen]
  have hflag : ∀ row, fl.Flagged s'.table row ↔ row ≤ s.index.length ∧ fl.Flagged s.table row := by
    intro row
    rw [FlTableRow.flagged_setRows_iff, Nat.lt_succ_iff]
  by_cases hex : ∃ row ≤ s.index.length, fl.Flagged s.table row
  · obtain ⟨row, hle, hrow⟩ := hex
    have hafter : s'.getSelectedMAC fl = s'.macOfRow row := by
      rw [getSelectedMAC_of_flagged fl (hone.setRows _) hrows.ge ((hflag row).2 ⟨hle, hrow⟩),
        if_pos (by omega)]
    rw [inserted_row_iff fl hs hone hnew hrow hle _
      (hafter.trans (macOfRow_inserted hs _ hle))]
    constructor
    · intro h row' hrow' _
      rwa [hone row' row hrow' hrow]
    · exact fun h => h row hrow hle
  · have hnone : s'.getSelectedMAC fl = [] := by
      apply getSelectedMAC_of_none
      apply getSelectedRow_eq_none
      intro i hi
      by_contra hsel
      have := (hflag i).1 ⟨by omega, by simpa using hsel⟩
      exact hex ⟨i, this⟩
    exact ⟨fun _ row hrow hle => absurd ⟨row, hle, hrow⟩ hex, fun _ => .inr hnone⟩

/-- **When the selection survives `add`**: in every state that the operations reach, the MAC
address of the selection after the call is the one before or empty exactly when no row is
inserted at or above the flagged one. -/
theorem add_selection_iff (fl : FlTableRow τ) (ops : List Op) (a : Discovered) :
    let s := run (DeviceList.step fl) (init fl) ops
    ((s.add fl a).getSelectedMAC fl = s.getSelectedMAC fl ∨ (s.add fl a).getSelectedMAC fl = []) ↔
      s.KeepsSelection fl a := by
  intro s
  have hs : s.Sound := run_invariant (fun _ op h => h.step fl op) (sound_init fl) ops
  have hone : fl.SelectsSingle s.table :=
    run_invariant (I := fun s : DeviceList τ => fl.SelectsSingle s.table)
      (fun _ op h => selectsSingle_step fl h op) (selectsSingle_init fl) ops
  have hpasses : (s.appended a).visible s.device.length =
      passesFilter s.filterRc s.filterValue (DeviceListData.ofDiscovered a false) := by
    unfold visible passesFilter
    rw [deviceAt_appended_last]
    rfl
  rcases add_cases fl s a with ⟨k, d, hd, hmac, h⟩ | ⟨hnew, hvis, h⟩ | ⟨hnew, hvis, h⟩
  · -- no row changes its device
    have hsame : (s.add fl a).getSelectedMAC fl = s.getSelectedMAC fl := by
      rw [h]
      refine getSelectedMAC_congr fl rfl rfl fun i hi => ?_
      rw [deviceAt_modify _ (hs.index_lt i hi)]
      by_cases hk : k = i
      · rw [if_pos hk]
        exact DeviceListData.addInterface_item _ _ _ (by decide) (by decide)
      · rw [if_neg hk]
    exact ⟨fun _ => .inl ⟨d, List.mem_of_getElem? hd, hmac⟩, fun _ => .inl hsame⟩
  · rw [h]
    have hlisted : ¬ ∃ d ∈ s.device, d.item 5 = a.mac := fun ⟨d, hd, hmac⟩ => hnew d hd hmac
    have hshown : ¬ passesFilter s.filterRc s.filterValue (DeviceListData.ofDiscovered a false) =
        false := by
      rw [← hpasses, hvis]
      decide
    unfold KeepsSelection
    rw [or_iff_right hlisted, or_iff_right hshown]
    exact inserted_selection_iff fl hs hone hnew
  · have hsame : (s.add fl a).getSelectedMAC fl = s.getSelectedMAC fl := by
      rw [h]
      refine getSelectedMAC_congr fl rfl rfl fun i hi => ?_
      rw [deviceAt_appended (hs.index_lt i hi)]
    exact ⟨fun _ => .inr (.inl (hpasses ▸ hvis)), fun _ => .inl hsame⟩

/-- The first row is selected, and a device is found that belongs above it. -/
theorem selection_lost :
    ¬ ∀ (ops : List Op) (a : Discovered),
      let s := run (DeviceList.step FlTableRow.flags) (init FlTableRow.flags) ops
      (s.add FlTableRow.flags a).getSelectedMAC FlTableRow.flags =
          s.getSelectedMAC FlTableRow.flags ∨
        (s.add FlTableRow.flags a).getSelectedMAC FlTableRow.flags = [] := by
  intro h
  have hsel := h [.add ⟨"b".toList, [], "rc_visard".toList, [], [], "mac b".toList, [], true⟩,
    .selectRow 0 true] ⟨"a".toList, [], "rc_visard".toList, [], [], "mac a".toList, [], true⟩
  revert hsel
  decide

end Add

end DeviceList

end Gui
end RcDiscover
