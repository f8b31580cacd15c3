import RcDiscover.Gui.VisibleRows

/-!
# The row count that FLTK knows

FLTK draws the rows below `rows()` and answers -1 for the selection of any other row, so the
code relies on `rows()` being the length of the index (`RowsMatch`).  The operations that filter
set the row count after rebuilding the index, the ones that sort do not: they rely on as many
devices being visible as before.  Since `add` can change the visibility of a listed device
without touching the index, this may fail; `always_rowsMatch_iff` says that it is all that can.
-/

namespace RcDiscover
namespace Gui
namespace DeviceList

open Runs

variable {τ : Type} (fl : FlTableRow τ) {s : DeviceList τ}

/-- The row count given to FLTK is the length of the index, and the index is in range. -/
structure RowsMatch (fl : FlTableRow τ) (s : DeviceList τ) : Prop where
  rows_eq : fl.rows s.table = s.index.length
  index_lt : ∀ i ∈ s.index, i < s.device.length

/-- A row that FLTK draws has an entry in the index, and the entry is a device. -/
theorem RowsMatch.drawCell (h : s.RowsMatch fl) {row : ℕ} (hrow : row < fl.rows s.table) :
    ∃ i d, s.index[row]? = some i ∧ s.device[i]? = some d := by
  have hlt : row < s.index.length := h.rows_eq ▸ hrow
  have hi := h.index_lt _ (List.getElem_mem hlt)
  exact ⟨s.index[row], s.device[s.index[row]], List.getElem?_eq_getElem hlt,
    List.getElem?_eq_getElem hi⟩

/-- `getSelectedRow` only asks for rows that FLTK has. -/
theorem RowsMatch.getSelectedRow (h : s.RowsMatch fl) {row : ℕ} (hrow : row < s.index.length) :
    row < fl.rows s.table := h.rows_eq ▸ hrow

/-- The number of devices that are visible under the current filter. -/
def visibleCount (s : DeviceList τ) : ℕ :=
  s.device.countP (passesFilter s.filterRc s.filterValue)

theorem length_sortedIndex (s : DeviceList τ) : s.sortedIndex.length = s.visibleCount := by
  have hmap : (List.range s.device.length).map s.deviceAt = s.device := by
    apply List.ext_getElem?
    intro i
    rw [List.getElem?_map]
    rcases Nat.lt_or_ge i s.device.length with hi | hi
    · rw [List.getElem?_range hi, Option.map_some, getElem?_deviceAt hi]
    · rw [List.getElem?_eq_none hi, List.getElem?_eq_none (by simpa using hi), Option.map_none]
  calc s.sortedIndex.length = ((List.range s.device.length).filter s.visible).length := by
        simpa [sortedIndex] using
          (StableInsert.insertAll_perm s.visible (List.range s.device.length) []).length_eq
    _ = (List.range s.device.length).countP s.visible := List.countP_eq_length_filter.symm
    _ = ((List.range s.device.length).map s.deviceAt).countP
          (passesFilter s.filterRc s.filterValue) := List.countP_map.symm
    _ = s.visibleCount := by rw [hmap, visibleCount]

/-- The step keeps the row count right: when it sorts, as many devices are visible as the table
has rows. -/
def KeepsCount (fl : FlTableRow τ) (s : DeviceList τ) : Op → Prop
  | .setSorting _ _ => s.visibleCount = fl.rows s.table
  | .sortColumn _ => s.visibleCount = fl.rows s.table
  | _ => True

/-- The table after a rebuilt index that FLTK is told of. -/
theorem rowsMatch_rebuilt (hindex : s.index = s.sortedIndex)
    (htable : fl.rows s.table = s.index.length) : s.RowsMatch fl :=
  ⟨htable, fun _ hi => (mem_sortedIndex.1 (hindex ▸ hi)).1⟩

/-- What a step does to a right row count. -/
theorem rowsMatch_step_iff (hs : s.Sound) (h : s.RowsMatch fl) (op : Op) :
    (s.step fl op).RowsMatch fl ↔ s.KeepsCount fl op := by
  have hsorted : ∀ s' : DeviceList τ, s'.index = s'.sortedIndex → s'.visibleCount = s.visibleCount →
      s'.table = fl.selectRow 0 false s.table →
      (s'.RowsMatch fl ↔ s.visibleCount = fl.rows s.table) := by
    intro s' hindex hcount htable
    have hrows : fl.rows s'.table = s'.index.length ↔ s.visibleCount = fl.rows s.table := by
      rw [htable, fl.rows_selectRow, hindex, length_sortedIndex, hcount]
      exact eq_comm
    exact ⟨fun h' => hrows.1 h'.rows_eq, fun h' => rowsMatch_rebuilt fl hindex (hrows.2 h')⟩
  cases op with
  | clear => exact ⟨fun _ => trivial, fun _ => ⟨fl.rows_setRows .., nofun⟩⟩
  | add a =>
    refine ⟨fun _ => trivial, fun _ => ⟨?_, (hs.step fl (.add a)).index_lt⟩⟩
    rw [DeviceList.step]
    rcases add_cases fl s a with ⟨k, d, -, -, hadd⟩ | ⟨-, -, hadd⟩ | ⟨-, -, hadd⟩
    · rw [hadd]
      exact h.rows_eq
    · rw [hadd, List.orderedInsert_length]
      exact fl.rows_setRows ..
    · rw [hadd]
      exact h.rows_eq
  | filterRCDevices filterRc =>
    refine ⟨fun _ => trivial, fun _ => ?_⟩
    simp only [DeviceList.step, filterRCDevices, updateDeviceIndices_eq]
    exact rowsMatch_rebuilt fl rfl (by rw [fl.rows_selectRow, fl.rows_setRows])
  | filter filterValue =>
    refine ⟨fun _ => trivial, fun _ => ?_⟩
    simp only [DeviceList.step, filter, updateDeviceIndices_eq]
    exact rowsMatch_rebuilt fl rfl (by rw [fl.rows_selectRow, fl.rows_setRows])
  | setSorting sortCol sortDown =>
    simp only [DeviceList.step, setSorting, updateDeviceIndices_eq]
    exact hsorted _ rfl rfl rfl
  | sortColumn c =>
    simp only [DeviceList.step, sortColumn, updateDeviceIndices_eq]
    by_cases hc : s.sortCol = (c.val : ℤ)
    · simp only [if_pos hc]
      exact hsorted _ rfl rfl rfl
    · simp only [if_neg hc]
      exact hsorted _ rfl rfl rfl
  | selectRow row flag =>
    refine ⟨fun _ => trivial, fun _ => ⟨?_, h.index_lt⟩⟩
    exact (fl.rows_selectRow ..).trans h.rows_eq
  | removeHighlight =>
    refine ⟨fun _ => trivial, fun _ => ⟨?_, (hs.step fl .removeHighlight).index_lt⟩⟩
    simp only [DeviceList.step, removeHighlight]
    split_ifs <;> exact h.rows_eq

theorem rowsMatch_init : (init fl).RowsMatch fl := ⟨fl.rows_setRows .., nofun⟩

/-- **The row count is right throughout a run exactly when every sorting finds as many visible
devices as the table has rows.**  In a state with the right row count every row that FLTK draws
is in range, and only rows that it has are asked for. -/
theorem always_rowsMatch_iff (fl : FlTableRow τ) (ops : List Op) :
    (Always (DeviceList.step fl) (RowsMatch fl) (init fl) ops ↔
      Along (DeviceList.step fl) (KeepsCount fl) (init fl) ops) ∧
    (Along (DeviceList.step fl) (KeepsCount fl) (init fl) ops →
      Always (DeviceList.step fl) (fun s =>
        (∀ row < fl.rows s.table, ∃ i d, s.index[row]? = some i ∧ s.device[i]? = some d) ∧
          ∀ row < s.index.length, row < fl.rows s.table) (init fl) ops) := by
  have hiff := always_iff_along (P := RowsMatch fl) (I := Sound) (C := KeepsCount fl)
    (s := init fl) (fun _ op hs => hs.step fl op)
    (fun _ op hs h => rowsMatch_step_iff fl hs h op) (sound_init fl) (rowsMatch_init fl) ops
  refine ⟨hiff, fun hkeep => ?_⟩
  rw [always_iff_forall_run]
  intro pre hpre
  have hmatch := always_iff_forall_run.1 (hiff.2 hkeep) pre hpre
  exact ⟨fun row hrow => hmatch.drawCell fl hrow, fun row hrow => hmatch.getSelectedRow fl hrow⟩

/-- A table filtered by an interface: the device answers over this interface too, and then the
table is sorted. -/
theorem rowsMatch_broken :
    ¬ ∀ ops : List Op, RowsMatch FlTableRow.flags
      (run (DeviceList.step FlTableRow.flags) (init FlTableRow.flags) ops) := by
  intro h
  have hrows := (h [.filter "eth1".toList,
    .add ⟨[], [], "rc_visard".toList, [], [], "a".toList, "eth0".toList, true⟩,
    .add ⟨[], [], "rc_visard".toList, [], [], "a".toList, "eth1".toList, true⟩,
    .sortColumn 1]).rows_eq
  revert hrows
  decide

end DeviceList

end Gui
end RcDiscover
