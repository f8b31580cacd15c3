import RcDiscover.Gui.Config
import RcDiscover.Gui.DiscoverWindow

/-!
# The sort column from the configuration file

`main` hands the number that it has read for `sort_col` to `DeviceList::setSorting`, which stores it
unchecked; `addDeviceIndex` indexes the cells of a record with it.  The only check is in
`getSorting`, where the table's settings are written back: on the variable of `main`.

`always_columnInRange_iff` (**main result**): the column stays in range throughout a run, and the
one that is written at the end is the table's, exactly when the file has no number outside of 0 to 7
for it.
-/

namespace RcDiscover
namespace Gui

open Runs

/-- `sort_col` is an index of `item`. -/
def DeviceList.ColumnInRange {τ : Type} (s : DeviceList τ) : Prop := 0 ≤ s.sortCol ∧ s.sortCol < 8

variable {τ : Type} (fl : FlTableRow τ)

/-- The list after `main` has created the window from a file with this content. -/
def configuredList (content : Str) : DeviceList τ :=
  let c := loadConfiguration content
  (DiscoverWindow.create fl (decide (c.onlyRC ≠ 0)) [] c.sortCol.toInt c.sortDown).list

/-- The sorting that `main` writes when it ends with the list `s`. -/
def storedSorting (content : Str) (s : DeviceList τ) : Int32 × Bool :=
  let c := loadConfiguration content
  getSorting (Int32.ofInt s.sortCol, s.sortDown) (c.sortCol, c.sortDown)

/-- The last number that the file has for `sort_col`, in front of an unreadable setting, is a
column. -/
def ColumnConfigured (content : Str) : Prop :=
  ∀ v, lastReading "sort_col".toList (pairs (tokens content)) = some v → 0 ≤ v ∧ v < 8

/-! ### The column -/

theorem sortCol_loadConfiguration (content : Str) :
    (loadConfiguration content).sortCol =
      (lastReading "sort_col".toList (pairs (tokens content))).getD 0 := by
  rw [loadConfiguration_eq, loadPairs_eq]
  rfl

/-- What `main` has read is a column. -/
theorem columnConfigured_iff (content : Str) :
    ColumnConfigured content ↔
      0 ≤ (loadConfiguration content).sortCol ∧ (loadConfiguration content).sortCol < 8 := by
  rw [ColumnConfigured, sortCol_loadConfiguration]
  cases lastReading "sort_col".toList (pairs (tokens content)) with
  | none => exact iff_of_true nofun (by decide)
  | some v => simp

theorem sortCol_configuredList (content : Str) :
    (configuredList fl content).sortCol = (loadConfiguration content).sortCol.toInt := by
  simp only [configuredList, DiscoverWindow.create, DeviceList.setSorting,
    DeviceList.updateDeviceIndices_eq]

theorem columnInRange_configuredList_iff (content : Str) :
    (configuredList fl content).ColumnInRange ↔ ColumnConfigured content := by
  rw [DeviceList.ColumnInRange, sortCol_configuredList, columnConfigured_iff, Int32.le_iff_toInt_le,
    Int32.lt_iff_toInt_lt]
  rfl

/-- The operations choose columns or leave the column as it is. -/
theorem sortCol_step (s : DeviceList τ) (op : Op) :
    (s.step fl op).sortCol = s.sortCol ∨ ∃ c : Fin 8, (s.step fl op).sortCol = c.val := by
  cases op with
  | clear => exact .inl rfl
  | add a =>
    left
    rcases s.add_cases fl a with ⟨k, d, -, -, h⟩ | ⟨-, -, h⟩ | ⟨-, -, h⟩
    · simp only [DeviceList.step, h]
    · simp only [DeviceList.step, h, DeviceList.appended]
    · simp only [DeviceList.step, h, DeviceList.appended]
  | filterRCDevices filterRc =>
    left
    simp only [DeviceList.step, DeviceList.filterRCDevices, DeviceList.updateDeviceIndices_eq]
  | filter filterValue =>
    left
    simp only [DeviceList.step, DeviceList.filter, DeviceList.updateDeviceIndices_eq]
  | setSorting sortCol sortDown =>
    refine .inr ⟨sortCol, ?_⟩
    simp only [DeviceList.step, DeviceList.setSorting, DeviceList.updateDeviceIndices_eq]
  | sortColumn c =>
    simp only [DeviceList.step, DeviceList.sortColumn, DeviceList.updateDeviceIndices_eq]
    split_ifs
    · exact .inl rfl
    · exact .inr ⟨c, rfl⟩
  | selectRow row flag => exact .inl rfl
  | removeHighlight =>
    left
    simp only [DeviceList.step, DeviceList.removeHighlight]
    split_ifs <;> rfl

theorem DeviceList.ColumnInRange.step {s : DeviceList τ} (h : s.ColumnInRange) (op : Op) :
    (s.step fl op).ColumnInRange := by
  rcases sortCol_step fl s op with hcol | ⟨c, hcol⟩
  · rwa [ColumnInRange, hcol]
  · rw [ColumnInRange, hcol]
    omega

/-- In the range, a sorting step compares cells that exist. -/
theorem DeviceList.ColumnInRange.cell {s : DeviceList τ} (h : s.ColumnInRange) :
    ∃ c : Fin 8, ∀ d : DeviceListData, d.cell s.sortCol = d.item c :=
  ⟨⟨s.sortCol.toNat, by have := h.1; have := h.2; omega⟩, fun _ => dif_pos h⟩

/-- What is written is the table's column, when the check of `getSorting` lets it through. -/
theorem storedSorting_of_columnConfigured {content : Str} (h : ColumnConfigured content)
    {s : DeviceList τ} (hs : s.ColumnInRange) :
    (storedSorting content s).1.toInt = s.sortCol := by
  obtain ⟨hle, hlt⟩ := hs
  rw [storedSorting, getSorting, if_pos ((columnConfigured_iff content).1 h)]
  exact Int32.toInt_ofInt_of_le (by omega) (by omega)

/-- **The column stays in range exactly when the file has none outside.** -/
theorem always_columnInRange_iff (content : Str) (ops : List Op) :
    Always (DeviceList.step fl) DeviceList.ColumnInRange (configuredList fl content) ops ∧
      (storedSorting content (run (DeviceList.step fl) (configuredList fl content) ops)).1.toInt =
        (run (DeviceList.step fl) (configuredList fl content) ops).sortCol ↔
    ColumnConfigured content := by
  constructor
  · rintro ⟨halways, -⟩
    rw [← columnInRange_configuredList_iff fl]
    exact always_iff_forall_run.1 halways [] List.nil_prefix
  · intro h
    have hstart := (columnInRange_configuredList_iff fl content).2 h
    have hrun : ∀ pre : List Op,
        (run (DeviceList.step fl) (configuredList fl content) pre).ColumnInRange :=
      run_invariant (fun s op hs => hs.step fl op) hstart
    exact ⟨always_iff_forall_run.2 fun pre _ => hrun pre,
      storedSorting_of_columnConfigured h (hrun ops)⟩

/-- A file that asks for the column 8. -/
theorem not_always_columnInRange_eight :
    ¬ ∀ (content : Str) (ops : List Op),
      Always (DeviceList.step .flags) DeviceList.ColumnInRange (configuredList .flags content)
        ops := by
  intro h
  have hstart := always_iff_forall_run.1 (h "sort_col 8\n".toList []) [] List.nil_prefix
  rw [run_nil, columnInRange_configuredList_iff] at hstart
  exact absurd (hstart 8 (by decide)).2 (by decide)

end Gui
end RcDiscover
