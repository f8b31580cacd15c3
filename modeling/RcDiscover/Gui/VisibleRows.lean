import RcDiscover.Gui.DeviceList

/-!
# The rows of the table

`Sound` is what holds of the table after all operations: MAC addresses identify the records and
the index holds positions of records, none twice.

`VisibleRows` is what the index is for: it holds exactly the visible devices, in the order of the
sort column.  All operations but one re-establish it.  The branch of `add` that adds an interface
to a listed device changes the cells 6 and 7 of its record and leaves the index as it is;
`KeepsRows` says when the index still fits, and `always_visibleRows_iff` that the rows are right
throughout a run exactly when this is so at each such step.
-/

namespace RcDiscover
namespace Gui

open Runs StableInsert

variable {τ : Type} (fl : FlTableRow τ)

/-! ### Records -/

namespace DeviceListData

theorem addInterface_of_mem {d : DeviceListData} {interface : Str} (h : interface ∈ d.interfaceList)
    (reachable : Bool) : d.addInterface interface reachable = d := if_pos h

/-- Adding an interface changes the cells 6 and 7 only. -/
theorem addInterface_item (d : DeviceListData) (interface : Str) (reachable : Bool) {c : Fin 8}
    (h6 : c ≠ 6) (h7 : c ≠ 7) : (d.addInterface interface reachable).item c = d.item c := by
  unfold addInterface
  by_cases h : interface ∈ d.interfaceList
  · rw [if_pos h]
  · simp [h, h6, h7]

/-- The text of the interface cell after an interface has been added. -/
def interfacesWith (d : DeviceListData) (interface : Str) : Str :=
  ", ".toList.intercalate (d.interfaceList.orderedInsert (· ≤ ·) interface)

section AddInterface

variable {d : DeviceListData} {interface : Str} (h : interface ∉ d.interfaceList)
include h

theorem addInterface_item_six (reachable : Bool) :
    (d.addInterface interface reachable).item 6 = d.interfacesWith interface := by
  rw [addInterface, if_neg h, interfacesWith]
  rfl

theorem addInterface_item_seven (reachable : Bool) :
    (d.addInterface interface reachable).item 7 = reachableMark (d.reachable || reachable) := by
  rw [addInterface, if_neg h]
  rfl

end AddInterface

theorem cell_eq_item (d : DeviceListData) (c : Fin 8) : d.cell c.val = d.item c := by
  rw [cell, dif_pos (by omega)]
  rfl

/-- The order of the rows does not change with the cells 6 and 7 when another column sorts them. -/
theorem addInterface_cell (d : DeviceListData) (interface : Str) (reachable : Bool) {col : ℤ}
    (h6 : col ≠ 6) (h7 : col ≠ 7) : (d.addInterface interface reachable).cell col = d.cell col := by
  by_cases hcol : 0 ≤ col ∧ col < 8
  · obtain ⟨c, rfl⟩ : ∃ c : Fin 8, col = c.val := ⟨⟨col.toNat, by omega⟩, by simp; omega⟩
    rw [cell_eq_item, cell_eq_item]
    refine d.addInterface_item interface reachable ?_ ?_
    · rintro rfl
      exact h6 rfl
    · rintro rfl
      exact h7 rfl
  · rw [cell, cell, dif_neg hcol, dif_neg hcol]

end DeviceListData

namespace DeviceList

variable {s : DeviceList τ}

theorem deviceAt_of_getElem? {i : ℕ} {d : DeviceListData} (h : s.device[i]? = some d) :
    s.deviceAt i = d := by
  rw [deviceAt, List.getD_eq_getElem?_getD, h, Option.getD_some]

theorem getElem?_deviceAt {i : ℕ} (h : i < s.device.length) :
    s.device[i]? = some (s.deviceAt i) := by
  rw [deviceAt, List.getD_eq_getElem?_getD, List.getElem?_eq_getElem h, Option.getD_some]

theorem deviceAt_appended {a : Discovered} {i : ℕ} (h : i < s.device.length) :
    (s.appended a).deviceAt i = s.deviceAt i := by
  apply deviceAt_of_getElem?
  rw [appended, List.getElem?_append_left h, getElem?_deviceAt h]

theorem deviceAt_modify {k i : ℕ} (f : DeviceListData → DeviceListData)
    (h : i < s.device.length) :
    deviceAt { s with device := s.device.modify k f } i =
      if k = i then f (s.deviceAt i) else s.deviceAt i := by
  apply deviceAt_of_getElem?
  rw [List.getElem?_modify, getElem?_deviceAt h]
  by_cases hk : k = i <;> simp [hk]

theorem deviceAt_map {f : DeviceListData → DeviceListData} (hf : f default = default) (i : ℕ) :
    deviceAt { s with device := s.device.map f } i = f (s.deviceAt i) := by
  simp only [deviceAt, List.getD_eq_getElem?_getD, List.getElem?_map]
  cases s.device[i]? with
  | none => exact hf.symm
  | some d => rfl

/-! ### What always holds -/

/-- No MAC address is listed twice, and no row shows a record twice or one that is not there. -/
structure Sound (s : DeviceList τ) : Prop where
  macs : (s.device.map fun d => d.item 5).Nodup
  index_nodup : s.index.Nodup
  index_lt : ∀ i ∈ s.index, i < s.device.length

theorem Sound.eq_of_mac (hs : s.Sound) {i j : ℕ} {d e : DeviceListData}
    (hi : s.device[i]? = some d) (hj : s.device[j]? = some e) (h : d.item 5 = e.item 5) :
    i = j ∧ d = e := by
  have hlt : ∀ {k : ℕ} {f : DeviceListData}, s.device[k]? = some f →
      (s.device.map fun d => d.item 5)[k]? = some (f.item 5) := by
    intro k f hk
    rw [List.getElem?_map, hk, Option.map_some]
  have hij : i = j := by
    refine (List.getElem?_inj ?_ hs.macs).1 ((hlt hi).trans (h ▸ (hlt hj).symm))
    simpa using (List.getElem?_eq_some_iff.1 hi).1
  subst hij
  exact ⟨rfl, Option.some.inj (hi.symm.trans hj)⟩

theorem mem_sortedIndex {i : ℕ} :
    i ∈ s.sortedIndex ↔ i < s.device.length ∧ s.visible i = true := by
  rw [sortedIndex, (insertAll_perm s.visible _ []).mem_iff]
  simp

theorem sortedIndex_nodup (s : DeviceList τ) : s.sortedIndex.Nodup := by
  rw [sortedIndex, (insertAll_perm s.visible _ []).nodup_iff]
  simpa using List.nodup_range.filter _

theorem sound_of_index_eq (h : (s.device.map fun d => d.item 5).Nodup)
    (hindex : s.index = s.sortedIndex) : s.Sound :=
  ⟨h, hindex ▸ s.sortedIndex_nodup, fun _ hi => (mem_sortedIndex.1 (hindex ▸ hi)).1⟩

theorem map_modify_mac {k : ℕ} {f : DeviceListData → DeviceListData}
    (hf : ∀ d, (f d).item 5 = d.item 5) (l : List DeviceListData) :
    (l.modify k f).map (fun d => d.item 5) = l.map fun d => d.item 5 := by
  apply List.ext_getElem?
  intro i
  rw [List.getElem?_map, List.getElem?_map, List.getElem?_modify]
  cases l[i]? with
  | none => rfl
  | some d => by_cases hk : k = i <;> simp [hk, hf]

theorem Sound.add (hs : s.Sound) (a : Discovered) : (s.add fl a).Sound := by
  obtain ⟨hmacs, hnodup, hlt⟩ := hs
  rcases add_cases fl s a with ⟨k, d, -, -, h⟩ | ⟨hnew, -, h⟩ | ⟨hnew, -, h⟩
  · rw [h]
    refine ⟨?_, hnodup, fun i hi => by simpa using hlt i hi⟩
    rw [map_modify_mac fun d => d.addInterface_item _ _ (by decide) (by decide)]
    exact hmacs
  all_goals
    have hmacs' : ((s.appended a).device.map fun d => d.item 5).Nodup := by
      simp only [appended, List.map_append, List.map_singleton]
      refine List.nodup_append.2 ⟨hmacs, List.nodup_singleton _, ?_⟩
      intro m hm m' hm' heq
      obtain ⟨d, hd, rfl⟩ := List.mem_map.1 hm
      rw [List.mem_singleton.1 hm'] at heq
      exact hnew d hd heq
    have hlt' : ∀ i ∈ s.index, i < (s.appended a).device.length := by
      intro i hi
      have := hlt i hi
      simp only [appended, List.length_append, List.length_singleton]
      omega
    rw [h]
  · have hperm := List.perm_orderedInsert (s.appended a).Before s.device.length s.index
    refine ⟨hmacs', ?_, fun i hi => ?_⟩
    · rw [hperm.nodup_iff, List.nodup_cons]
      exact ⟨fun hi => (hlt _ hi).false, hnodup⟩
    · rcases List.mem_cons.1 (hperm.mem_iff.1 hi) with rfl | hi
      · simp [appended]
      · exact hlt' i hi
  · exact ⟨hmacs', hnodup, hlt'⟩

/-- **`Sound` holds after all operations.** -/
theorem Sound.step (hs : s.Sound) (op : Op) : (s.step fl op).Sound := by
  by_cases hop : op.Rebuilds
  · obtain ⟨hdevice, hindex⟩ := step_rebuilt fl s hop
    exact sound_of_index_eq (hdevice ▸ hs.macs) hindex
  cases op with
  | clear => exact ⟨List.nodup_nil, List.nodup_nil, nofun⟩
  | add a => exact hs.add fl a
  | filterRCDevices _ | filter _ | setSorting _ _ | sortColumn _ => exact absurd trivial hop
  | selectRow row flag => exact ⟨hs.macs, hs.index_nodup, hs.index_lt⟩
  | removeHighlight =>
    simp only [DeviceList.step, removeHighlight]
    split_ifs
    · refine ⟨?_, hs.index_nodup, fun i hi => by simpa using hs.index_lt i hi⟩
      simpa [Function.comp_def] using hs.macs
    · exact hs

theorem sound_init : (init fl).Sound := ⟨List.nodup_nil, List.nodup_nil, nofun⟩

end DeviceList

/-! ### Visibility and order -/

/-- The record is visible under the filter settings. -/
def Visible (filterRc : Bool) (filterValue : Str) (d : DeviceListData) : Prop :=
  (filterRc = true → "rc_".toList <+: d.item 2) ∧
    (filterValue ≠ [] → ∃ k : Fin 8, k < 7 ∧ filterValue <:+: d.item k)

theorem passesFilter_iff (filterRc : Bool) (filterValue : Str) (d : DeviceListData) :
    passesFilter filterRc filterValue d = true ↔ Visible filterRc filterValue d := by
  have hrc : (d.item 2).take 3 = "rc_".toList ↔ "rc_".toList <+: d.item 2 := by
    rw [List.prefix_iff_eq_take]
    exact eq_comm
  have hany : ([0, 1, 2, 3, 4, 5, 6].any fun k : Fin 8 =>
      decide (filterValue <:+: d.item k)) = true ↔
      ∃ k : Fin 8, k < 7 ∧ filterValue <:+: d.item k := by
    simp only [List.any_eq_true, decide_eq_true_eq]
    have hlt : ∀ k : Fin 8, k ∈ [0, 1, 2, 3, 4, 5, 6] ↔ k < 7 := by decide
    exact exists_congr fun k => and_congr_left fun _ => hlt k
  unfold passesFilter Visible
  by_cases h1 : filterRc = true ∧ (d.item 2).take 3 ≠ "rc_".toList
  · rw [if_pos h1]
    refine ⟨nofun, fun h => absurd (hrc.2 (h.1 h1.1)) h1.2⟩
  · have hrc' : filterRc = true → "rc_".toList <+: d.item 2 :=
      fun hf => hrc.1 (by_contra fun hne => h1 ⟨hf, hne⟩)
    rw [if_neg h1]
    by_cases h2 : filterValue ≠ []
    · rw [if_pos h2, hany]
      exact ⟨fun h => ⟨hrc', fun _ => h⟩, fun h => h.2 h2⟩
    · rw [if_neg h2]
      exact ⟨fun _ => ⟨hrc', fun h => absurd h h2⟩, fun _ => rfl⟩

/-- An added interface does not change whether the record is visible, unless only the interface
cell decides it. -/
theorem visible_addInterface_iff {filterRc : Bool} {filterValue : Str} {d : DeviceListData}
    {interface : Str} (h : interface ∉ d.interfaceList) (reachable : Bool) :
    (Visible filterRc filterValue (d.addInterface interface reachable) ↔
        Visible filterRc filterValue d) ↔
      ((filterRc = true → "rc_".toList <+: d.item 2) → filterValue ≠ [] →
          (∀ c : Fin 8, c < 6 → ¬ filterValue <:+: d.item c) →
        (filterValue <:+: d.interfacesWith interface ↔ filterValue <:+: d.item 6)) := by
  have hcells : ∀ e : DeviceListData, (∀ c : Fin 8, c < 6 → e.item c = d.item c) →
      ((∃ k : Fin 8, k < 7 ∧ filterValue <:+: e.item k) ↔
        (∃ c : Fin 8, c < 6 ∧ filterValue <:+: d.item c) ∨ filterValue <:+: e.item 6) := by
    intro e he
    constructor
    · rintro ⟨k, hk, hin⟩
      by_cases h6 : k = 6
      · exact .inr (h6 ▸ hin)
      · have hk6 : k < 6 := by omega
        exact .inl ⟨k, hk6, he k hk6 ▸ hin⟩
    · rintro (⟨c, hc, hin⟩ | hin)
      · exact ⟨c, by omega, he c hc ▸ hin⟩
      · exact ⟨6, by decide, hin⟩
  have hitem : ∀ c : Fin 8, c < 6 → (d.addInterface interface reachable).item c = d.item c :=
    fun c hc => d.addInterface_item _ _ (by omega) (by omega)
  unfold Visible
  rw [hcells _ hitem, hcells d fun _ _ => rfl, hitem 2 (by decide),
    DeviceListData.addInterface_item_six h]
  have hnone : (∀ c : Fin 8, c < 6 → ¬ filterValue <:+: d.item c) ↔
      ¬ ∃ c : Fin 8, c < 6 ∧ filterValue <:+: d.item c := by
    simp
  rw [hnone]
  by_cases hval : filterValue = []
  · simp [hval]
  by_cases hin : ∃ c : Fin 8, c < 6 ∧ filterValue <:+: d.item c
  · simp [hin]
  · simp only [hin, false_or, not_false_eq_true, true_imp_iff, ne_eq, hval, and_congr_right_iff]

/-- The cell text `x` may stand above `y`. -/
def CellLe (down : Bool) (x y : Str) : Prop := if down then x ≤ y else y ≤ x

/-- The row of `d` may stand above that of `e`. -/
def RowLe (col : ℤ) (down : Bool) (d e : DeviceListData) : Prop :=
  if down then d.cell col ≤ e.cell col else e.cell col ≤ d.cell col

theorem rowLe_iff_cellLe {col : ℤ} {down : Bool} {d e : DeviceListData} :
    RowLe col down d e ↔ CellLe down (d.cell col) (e.cell col) := Iff.rfl

instance (col : ℤ) (down : Bool) (d e : DeviceListData) : Decidable (RowLe col down d e) := by
  unfold RowLe
  infer_instance

section Order

variable {col : ℤ} {down : Bool} {d e f : DeviceListData}

theorem rowLe_of_sortsBefore (h : SortsBefore col down d e) : RowLe col down d e := by
  unfold SortsBefore at h
  unfold RowLe
  split_ifs at h ⊢
  · exact h.le
  · exact h.le

theorem not_sortsBefore_iff : ¬ SortsBefore col down d e ↔ RowLe col down e d := by
  unfold SortsBefore RowLe
  split_ifs <;> exact not_lt

theorem RowLe.trans (h : RowLe col down d e) (h' : RowLe col down e f) : RowLe col down d f := by
  unfold RowLe at *
  split_ifs at *
  · exact h.trans h'
  · exact h'.trans h

end Order

namespace DeviceList

variable {s : DeviceList τ}

/-- The row of `device[i]` may stand above that of `device[j]`. -/
def InOrder (s : DeviceList τ) (i j : ℕ) : Prop :=
  RowLe s.sortCol s.sortDown (s.deviceAt i) (s.deviceAt j)

instance (s : DeviceList τ) : DecidableRel s.InOrder := fun i j => by
  unfold InOrder
  infer_instance

theorem InOrder.trans {i j k : ℕ} (h : s.InOrder i j) (h' : s.InOrder j k) : s.InOrder i k :=
  RowLe.trans h h'

theorem inOrder_of_before (i j : ℕ) (h : s.Before i j) : s.InOrder i j := rowLe_of_sortsBefore h

theorem inOrder_of_not_before (i j : ℕ) (h : ¬ s.Before i j) : s.InOrder j i :=
  not_sortsBefore_iff.1 h

/-- The index holds exactly the positions of the visible devices, each once, and consecutive
rows are in the order of the sort column. -/
structure VisibleRows (s : DeviceList τ) : Prop where
  mem_iff : ∀ i, i ∈ s.index ↔
    ∃ d, s.device[i]? = some d ∧ Visible s.filterRc s.filterValue d
  nodup : s.index.Nodup
  ordered : s.index.IsChain s.InOrder

theorem isChain_inOrder_iff {l : List ℕ} : l.IsChain s.InOrder ↔ l.Pairwise s.InOrder := by
  have : IsTrans ℕ s.InOrder := ⟨fun _ _ _ => InOrder.trans⟩
  exact List.isChain_iff_pairwise

theorem visible_iff {i : ℕ} (h : i < s.device.length) :
    s.visible i = true ↔ ∃ d, s.device[i]? = some d ∧ Visible s.filterRc s.filterValue d := by
  rw [visible, passesFilter_iff]
  simp [getElem?_deviceAt h]

theorem pairwise_orderedInsert_before {i : ℕ} {l : List ℕ} (h : l.Pairwise s.InOrder) :
    (l.orderedInsert s.Before i).Pairwise s.InOrder :=
  pairwise_orderedInsert inOrder_of_before inOrder_of_not_before (fun _ _ _ => InOrder.trans) i h

/-- The rows are right when the index has been rebuilt. -/
theorem visibleRows_of_index_eq (h : s.index = s.sortedIndex) : s.VisibleRows := by
  constructor
  · intro i
    rw [h, mem_sortedIndex]
    constructor
    · exact fun hi => (visible_iff hi.1).1 hi.2
    · rintro ⟨d, hd, hv⟩
      obtain ⟨hi, -⟩ := List.getElem?_eq_some_iff.1 hd
      exact ⟨hi, (visible_iff hi).2 ⟨d, hd, hv⟩⟩
  · exact h ▸ s.sortedIndex_nodup
  · rw [isChain_inOrder_iff, h]
    exact pairwise_insertAll inOrder_of_before inOrder_of_not_before (fun _ _ _ => InOrder.trans)
      s.visible _ List.Pairwise.nil

/-! ### Steps -/

/-- The record `d` is in order with the rows above and below that of `device[k]`. -/
def Fits (s : DeviceList τ) (k : ℕ) (d : DeviceListData) : Prop :=
  ∀ above below, s.index = above ++ k :: below →
    (∀ i ∈ above, RowLe s.sortCol s.sortDown (s.deviceAt i) d) ∧
      ∀ j ∈ below, RowLe s.sortCol s.sortDown d (s.deviceAt j)

/-- The text `x` in column `c` of the row of `device[k]` is in order with the rows above and
below. -/
def FitsCell (s : DeviceList τ) (k : ℕ) (c : Fin 8) (x : Str) : Prop :=
  ∀ above below, s.index = above ++ k :: below →
    (∀ i ∈ above, CellLe s.sortDown ((s.deviceAt i).item c) x) ∧
      ∀ j ∈ below, CellLe s.sortDown x ((s.deviceAt j).item c)

/-- The step keeps the rows right.  One that adds an interface to a listed device does so when
the filter either does not depend on the interface cell or finds its text there before and after,
and the row stays in its place if the table is sorted by one of the two cells that change. -/
def KeepsRows (s : DeviceList τ) : Op → Prop
  | .add a => ∀ k d, s.device[k]? = some d → d.item 5 = a.mac → a.interface ∉ d.interfaceList →
    ((s.filterRc = true → "rc_".toList <+: d.item 2) → s.filterValue ≠ [] →
        (∀ c : Fin 8, c < 6 → ¬ s.filterValue <:+: d.item c) →
      (s.filterValue <:+: d.interfacesWith a.interface ↔ s.filterValue <:+: d.item 6)) ∧
    (s.sortCol = 6 → s.FitsCell k 6 (d.interfacesWith a.interface)) ∧
    (s.sortCol = 7 → s.FitsCell k 7 (reachableMark (d.reachable || a.reachable)))
  | _ => True

theorem fits_iff_fitsCell {c : Fin 8} (hc : s.sortCol = c.val) {k : ℕ} {d : DeviceListData} :
    s.Fits k d ↔ s.FitsCell k c (d.item c) := by
  simp only [Fits, FitsCell, rowLe_iff_cellLe, hc, DeviceListData.cell_eq_item]

/-- A row that is in its place stays there when the cell of the sort column stays the same. -/
theorem VisibleRows.fits_of_cell_eq (hv : s.VisibleRows) {k : ℕ} {d : DeviceListData}
    (h : d.cell s.sortCol = (s.deviceAt k).cell s.sortCol) : s.Fits k d := by
  intro above below hindex
  have hpw := isChain_inOrder_iff.1 hv.ordered
  rw [hindex, List.pairwise_append, List.pairwise_cons] at hpw
  obtain ⟨-, ⟨hbelow, -⟩, habove⟩ := hpw
  simp only [rowLe_iff_cellLe, h]
  exact ⟨fun i hi => habove i hi k List.mem_cons_self, fun j hj => hbelow j hj⟩

/-- An added interface leaves the row in its place. -/
theorem fits_addInterface_iff (hv : s.VisibleRows) {k : ℕ} {d : DeviceListData}
    (hd : s.device[k]? = some d) {interface : Str} (h : interface ∉ d.interfaceList)
    (reachable : Bool) :
    s.Fits k (d.addInterface interface reachable) ↔
      (s.sortCol = 6 → s.FitsCell k 6 (d.interfacesWith interface)) ∧
        (s.sortCol = 7 → s.FitsCell k 7 (reachableMark (d.reachable || reachable))) := by
  by_cases h6 : s.sortCol = 6
  · rw [fits_iff_fitsCell (c := 6) h6, DeviceListData.addInterface_item_six h]
    simp [h6]
  by_cases h7 : s.sortCol = 7
  · rw [fits_iff_fitsCell (c := 7) h7, DeviceListData.addInterface_item_seven h]
    simp [h7]
  · simp only [h6, h7, false_imp_iff, and_self, iff_true]
    apply hv.fits_of_cell_eq
    rw [d.addInterface_cell _ _ h6 h7, deviceAt_of_getElem? hd]

section Modify

variable {k : ℕ} {d : DeviceListData}

/-- A record is changed in its place: the index still holds the visible devices. -/
theorem mem_index_modify_iff (hv : s.VisibleRows) (hd : s.device[k]? = some d)
    (f : DeviceListData → DeviceListData) :
    (∀ i, i ∈ s.index ↔
        ∃ e, (s.device.modify k f)[i]? = some e ∧ Visible s.filterRc s.filterValue e) ↔
      (Visible s.filterRc s.filterValue (f d) ↔ Visible s.filterRc s.filterValue d) := by
  constructor
  · intro h
    have hafter := h k
    have hbefore := hv.mem_iff k
    simp only [List.getElem?_modify, hd, Option.map_eq_map, Option.map_some, if_true,
      Option.some.injEq, exists_eq_left'] at hafter hbefore
    exact hafter.symm.trans hbefore
  · intro h i
    rw [hv.mem_iff i]
    by_cases hik : k = i
    · subst hik
      simp [hd, h]
    · simp [hik]

/-- A record is changed in its place: the rows are still in order. -/
theorem inOrder_modify_iff (hs : s.Sound) (hv : s.VisibleRows) (hd : s.device[k]? = some d)
    (f : DeviceListData → DeviceListData) :
    s.index.Pairwise (InOrder { s with device := s.device.modify k f }) ↔ s.Fits k (f d) := by
  have hdk : s.deviceAt k = d := deviceAt_of_getElem? hd
  have hinOrder : ∀ i ∈ s.index, ∀ j ∈ s.index,
      InOrder { s with device := s.device.modify k f } i j ↔
        RowLe s.sortCol s.sortDown (if k = i then f (s.deviceAt i) else s.deviceAt i)
          (if k = j then f (s.deviceAt j) else s.deviceAt j) := by
    intro i hi j hj
    rw [InOrder, deviceAt_modify f (hs.index_lt i hi), deviceAt_modify f (hs.index_lt j hj)]
  -- only the pairs with `k` have to be looked at again
  rw [pairwise_iff_of_agree_off hs.index_nodup (isChain_inOrder_iff.1 hv.ordered)]
  · refine forall₃_congr fun above below h => ?_
    have hk : k ∈ s.index := by simp [h]
    have hnodup := hs.index_nodup
    rw [h, List.nodup_middle, List.nodup_cons, List.mem_append, not_or] at hnodup
    refine and_congr (forall₂_congr fun i hi => ?_) (forall₂_congr fun j hj => ?_)
    · have hne : k ≠ i := fun he => hnodup.1.1 (he ▸ hi)
      rw [hinOrder i (by simp [h, hi]) k hk, if_neg hne, if_pos rfl, hdk]
    · have hne : k ≠ j := fun he => hnodup.1.2 (he ▸ hj)
      rw [hinOrder k hk j (by simp [h, hj]), if_neg hne, if_pos rfl, hdk]
  · intro i hi j hj hik hjk
    rw [hinOrder i hi j hj, if_neg (Ne.symm hik), if_neg (Ne.symm hjk)]
    rfl

/-- A record is changed in its place: the rows are right afterwards exactly when it is visible if
it was before, and in order with the other rows. -/
theorem visibleRows_modify_iff (hs : s.Sound) (hv : s.VisibleRows) (hd : s.device[k]? = some d)
    (f : DeviceListData → DeviceListData) :
    VisibleRows { s with device := s.device.modify k f } ↔
      (Visible s.filterRc s.filterValue (f d) ↔ Visible s.filterRc s.filterValue d) ∧
        s.Fits k (f d) := by
  rw [← mem_index_modify_iff hv hd f, ← inOrder_modify_iff hs hv hd f]
  constructor
  · exact fun h => ⟨h.mem_iff, isChain_inOrder_iff.1 h.ordered⟩
  · exact fun h => ⟨h.1, hv.nodup, isChain_inOrder_iff.2 h.2⟩

end Modify

theorem VisibleRows.removeHighlight (hv : s.VisibleRows) :
    VisibleRows { s with
      newDiscovery := false
      device := s.device.map fun d => { d with newDiscovery := false } } := by
  refine ⟨fun i => ?_, hv.nodup, hv.ordered.imp fun i j hij => ?_⟩
  · rw [hv.mem_iff i, List.getElem?_map]
    cases s.device[i]? with
    | none => simp
    | some d => simp [Visible]
  · have hat := fun i => deviceAt_map (s := s)
      (f := fun d => { d with newDiscovery := false }) rfl i
    unfold InOrder at hij ⊢
    change RowLe _ _ (deviceAt { s with device := _ } i) (deviceAt { s with device := _ } j)
    rw [hat i, hat j]
    exact hij

/-- A new record keeps the rows right, with a row of its own if it is visible. -/
theorem VisibleRows.append (hs : s.Sound) (hv : s.VisibleRows) (a : Discovered) (t : τ) :
    VisibleRows { s.appended a with
      index := if (s.appended a).visible s.device.length = true then
        s.index.orderedInsert (s.appended a).Before s.device.length else s.index
      table := t } := by
  have hlast : (s.appended a).device[s.device.length]? =
      some ((s.appended a).deviceAt s.device.length) :=
    getElem?_deviceAt (by simp [appended])
  have hvis := visible_iff (s := s.appended a) (i := s.device.length) (by simp [appended])
  have hold : ∀ i < s.device.length, (s.appended a).device[i]? = s.device[i]? := fun i hi =>
    List.getElem?_append_left hi
  have hpw : s.index.Pairwise (s.appended a).InOrder := by
    refine (isChain_inOrder_iff.1 hv.ordered).imp_of_mem fun {i j} hi hj hij => ?_
    unfold InOrder at hij ⊢
    rw [deviceAt_appended (hs.index_lt i hi), deviceAt_appended (hs.index_lt j hj)]
    exact hij
  have hmem : ∀ i, (∃ d, (s.appended a).device[i]? = some d ∧
        Visible s.filterRc s.filterValue d) ↔
      (i = s.device.length ∧ (s.appended a).visible s.device.length = true) ∨ i ∈ s.index := by
    intro i
    rw [hv.mem_iff i]
    rcases lt_trichotomy i s.device.length with hi | rfl | hi
    · simp [hold i hi, hi.ne]
    · have hnone : s.device[s.device.length]? = none := List.getElem?_eq_none le_rfl
      simp only [hnone, reduceCtorEq, false_and, exists_false, or_false, true_and]
      exact hvis.symm
    · have hnone : (s.appended a).device[i]? = none := by
        rw [List.getElem?_eq_none_iff]
        simp only [appended, List.length_append, List.length_singleton]
        omega
      simp [hnone, List.getElem?_eq_none hi.le, hi.ne']
  by_cases h : (s.appended a).visible s.device.length = true
  · simp only [if_pos h]
    have hperm := List.perm_orderedInsert (s.appended a).Before s.device.length s.index
    refine ⟨fun i => ?_, ?_, isChain_inOrder_iff.2 (pairwise_orderedInsert_before hpw)⟩
    · rw [hperm.mem_iff, List.mem_cons]
      exact ((hmem i).trans (by simp [h])).symm
    · rw [hperm.nodup_iff, List.nodup_cons]
      exact ⟨fun hi => (hs.index_lt _ hi).false, hs.index_nodup⟩
  · simp only [if_neg h]
    refine ⟨fun i => ?_, hs.index_nodup, isChain_inOrder_iff.2 hpw⟩
    exact ((hmem i).trans (by simp [h])).symm

/-- What `add` does to right rows. -/
theorem visibleRows_add_iff (hs : s.Sound) (hv : s.VisibleRows) (a : Discovered) :
    (s.add fl a).VisibleRows ↔ s.KeepsRows (.add a) := by
  have hunlisted : (∀ d ∈ s.device, d.item 5 ≠ a.mac) → s.KeepsRows (.add a) :=
    fun hnew k d hd hmac => absurd hmac (hnew d (List.mem_of_getElem? hd))
  rcases add_cases fl s a with ⟨k, d, hd, hmac, h⟩ | ⟨hnew, hvis, h⟩ | ⟨hnew, hvis, h⟩
  · rw [h]
    have huniq : ∀ k' d', s.device[k']? = some d' → d'.item 5 = a.mac → k = k' ∧ d = d' :=
      fun k' d' hd' hmac' => hs.eq_of_mac hd hd' (hmac.trans hmac'.symm)
    by_cases hin : a.interface ∈ d.interfaceList
    · -- a repeated answer changes nothing
      have hid : VisibleRows { s with device := s.device.modify k fun d => d } := by
        rwa [show s.device.modify k (fun d => d) = s.device from List.modify_id ..]
      rw [visibleRows_modify_iff hs hv hd] at hid
      rw [visibleRows_modify_iff hs hv hd, DeviceListData.addInterface_of_mem hin]
      refine ⟨fun _ k' d' hd' hmac' hin' => absurd ?_ hin', fun _ => hid⟩
      obtain ⟨rfl, rfl⟩ := huniq k' d' hd' hmac'
      exact hin
    · rw [visibleRows_modify_iff hs hv hd, visible_addInterface_iff hin,
        fits_addInterface_iff hv hd hin]
      constructor
      · intro hkeep k' d' hd' hmac' _
        obtain ⟨rfl, rfl⟩ := huniq k' d' hd' hmac'
        exact hkeep
      · exact fun hkeep => hkeep k d hd hmac hin
  · have hrows := VisibleRows.append hs hv a (fl.setRows (s.index.length + 1) s.table)
    rw [if_pos hvis] at hrows
    exact ⟨fun _ => hunlisted hnew, fun _ => h ▸ hrows⟩
  · have hrows := VisibleRows.append hs hv a s.table
    rw [if_neg (by simp [hvis])] at hrows
    exact ⟨fun _ => hunlisted hnew, fun _ => h ▸ hrows⟩

/-- What a step does to right rows. -/
theorem visibleRows_step_iff (hs : s.Sound) (hv : s.VisibleRows) (op : Op) :
    (s.step fl op).VisibleRows ↔ s.KeepsRows op := by
  by_cases hop : op.Rebuilds
  · have hkeeps : s.KeepsRows op := by
      cases op with
      | add a => exact absurd hop id
      | _ => trivial
    exact ⟨fun _ => hkeeps, fun _ => visibleRows_of_index_eq (step_rebuilt fl s hop).2⟩
  cases op with
  | clear =>
    refine ⟨fun _ => trivial, fun _ => ?_⟩
    exact visibleRows_of_index_eq rfl
  | add a => exact visibleRows_add_iff fl hs hv a
  | filterRCDevices _ | filter _ | setSorting _ _ | sortColumn _ => exact absurd trivial hop
  | selectRow row flag => exact ⟨fun _ => trivial, fun _ => ⟨hv.mem_iff, hv.nodup, hv.ordered⟩⟩
  | removeHighlight =>
    refine ⟨fun _ => trivial, fun _ => ?_⟩
    simp only [DeviceList.step, removeHighlight]
    split_ifs
    · exact hv.removeHighlight
    · exact hv

theorem visibleRows_init : (init fl).VisibleRows := visibleRows_of_index_eq rfl

/-- **The rows are right throughout a run exactly when every added interface keeps them right.** -/
theorem always_visibleRows_iff (fl : FlTableRow τ) (ops : List Op) :
    Always (DeviceList.step fl) VisibleRows (init fl) ops ↔
      Along (DeviceList.step fl) KeepsRows (init fl) ops :=
  always_iff_along (P := VisibleRows) (I := Sound) (C := KeepsRows) (s := init fl)
    (fun _ op hs => hs.step fl op) (fun _ op hs hv => visibleRows_step_iff fl hs hv op)
    (sound_init fl) (visibleRows_init fl) ops

/-- A table sorted by interfaces: the second device answers over one more, and its row should move
up. -/
theorem visibleRows_broken :
    ¬ ∀ ops : List Op, VisibleRows
      (run (DeviceList.step FlTableRow.flags) (init FlTableRow.flags) ops) := by
  intro h
  have hrows := (h [.setSorting 6 true,
    .add ⟨[], [], "rc_visard".toList, [], [], "a".toList, "eth1".toList, true⟩,
    .add ⟨[], [], "rc_visard".toList, [], [], "b".toList, "eth2".toList, true⟩,
    .add ⟨[], [], "rc_visard".toList, [], [], "b".toList, "eth0".toList, true⟩]).ordered
  revert hrows
  decide

end DeviceList

end Gui
end RcDiscover
