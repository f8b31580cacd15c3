import RcDiscover.Gui.VisibleRows

/-!
# The order of the index

`addDeviceIndex` looks for the place of a device row by row, inserts it inside of the loop, and
finds out from the size of the index afterwards whether it still has to be appended.

* `scan`, `addDeviceIndexByScan`: the function with its loop; `addDeviceIndexByScan_eq` that it is
  `addDeviceIndex`;
* `StableBefore`: the order of the rows, with ties in the order of the positions.

`index_stable` (**main result**): the rebuilt index is the stable sort of the visible positions, and
a device that is appended gets the place that rebuilding would give it.
-/

namespace RcDiscover
namespace Gui
namespace DeviceList

open StableInsert

variable {τ : Type}

/-! ### The loop -/

/-- The loop of `addDeviceIndex` from row `k` on: the value of `k` and the index when it is left. -/
def scan (s : DeviceList τ) (i k : ℕ) (index : List ℕ) : ℕ × List ℕ :=
  if h : k < index.length then
    if s.Before i index[k] then (k, index.insertIdx k i) else scan s i (k + 1) index
  else (k, index)
termination_by index.length - k

/-- The test behind the loop: a position that was not inserted is appended. -/
def pushBack (i k : ℕ) (index : List ℕ) : List ℕ :=
  if index.length ≤ k then index ++ [i] else index

/-- `DeviceList::addDeviceIndex`, with its loop. -/
def addDeviceIndexByScan (s : DeviceList τ) (i : ℕ) : Bool × DeviceList τ :=
  if s.visible i then
    let (k, index) := s.scan i 0 s.index
    (true, { s with index := pushBack i k index })
  else (false, s)

/-- `DeviceList::updateDeviceIndices`, with this loop. -/
def updateDeviceIndicesByScan (s : DeviceList τ) : DeviceList τ :=
  (List.range s.device.length).foldl (fun s i => (s.addDeviceIndexByScan i).2)
    { s with index := [] }

theorem insertIdx_length_append (i : ℕ) (front rows : List ℕ) :
    (front ++ rows).insertIdx front.length i = front ++ i :: rows := by
  induction front with
  | nil => rfl
  | cons j front ih =>
    rw [List.cons_append, List.length_cons, List.insertIdx_succ_cons, ih, List.cons_append]

/-- **The loop inserts exactly once**, in front of the first row that comes behind, or the test
behind the loop appends. -/
theorem pushBack_scan (s : DeviceList τ) (i : ℕ) {front : List ℕ}
    (hfront : ∀ j ∈ front, ¬ s.Before i j) (rows : List ℕ) :
    pushBack i (s.scan i front.length (front ++ rows)).1
      (s.scan i front.length (front ++ rows)).2 = (front ++ rows).orderedInsert s.Before i := by
  rw [orderedInsert_append hfront]
  induction rows generalizing front with
  | nil =>
    unfold scan
    simp [pushBack]
  | cons j rows ih =>
    have hlt : front.length < (front ++ j :: rows).length := by simp
    have hget : (front ++ j :: rows)[front.length] = j := by simp
    unfold scan
    rw [dif_pos hlt, hget, List.orderedInsert_cons]
    by_cases hbefore : s.Before i j
    · -- the index has grown, so that nothing is appended
      rw [if_pos hbefore, if_pos hbefore, insertIdx_length_append, pushBack, if_neg (by simp)]
    · have hfront' : ∀ x ∈ front ++ [j], ¬ s.Before i x := by
        rw [List.forall_mem_append, List.forall_mem_singleton]
        exact ⟨hfront, hbefore⟩
      have hrec := ih hfront'
      rw [List.length_append, List.length_singleton, List.append_assoc, List.append_assoc,
        List.singleton_append, List.singleton_append] at hrec
      rw [if_neg hbefore, if_neg hbefore]
      exact hrec

theorem addDeviceIndexByScan_eq (s : DeviceList τ) (i : ℕ) :
    s.addDeviceIndexByScan i = s.addDeviceIndex i := by
  have hscan : pushBack i (s.scan i 0 s.index).1 (s.scan i 0 s.index).2 =
      s.index.orderedInsert s.Before i :=
    s.pushBack_scan i (fun j hj => absurd hj List.not_mem_nil) s.index
  unfold addDeviceIndexByScan addDeviceIndex
  rw [← hscan]

theorem updateDeviceIndicesByScan_eq (s : DeviceList τ) :
    s.updateDeviceIndicesByScan = { s with index := s.sortedIndex } := by
  rw [← updateDeviceIndices_eq]
  unfold updateDeviceIndicesByScan updateDeviceIndices
  simp only [addDeviceIndexByScan_eq]

/-! ### Stability -/

/-- The row of `device[i]` comes above that of `device[j]`: by their cells in the sort column, or
by their positions where these are equal. -/
def StableBefore (s : DeviceList τ) (i j : ℕ) : Prop :=
  SortsBefore s.sortCol s.sortDown (s.deviceAt i) (s.deviceAt j) ∨
    (s.deviceAt i).cell s.sortCol = (s.deviceAt j).cell s.sortCol ∧ i < j

theorem StableBefore.trans {s : DeviceList τ} {i j k : ℕ} (h : s.StableBefore i j)
    (h' : s.StableBefore j k) : s.StableBefore i k := by
  unfold StableBefore SortsBefore at *
  rcases h with h | ⟨heq, hlt⟩ <;> rcases h' with h' | ⟨heq', hlt'⟩
  · left
    split_ifs at *
    · exact h.trans h'
    · exact h'.trans h
  · rw [← heq']
    exact .inl h
  · rw [heq]
    exact .inl h'
  · exact .inr ⟨heq.trans heq', hlt.trans hlt'⟩

/-- A row in front of which nothing is inserted stays above, if it was there first. -/
theorem stableBefore_of_not_before {s : DeviceList τ} {i j : ℕ} (h : ¬ s.Before i j) (hlt : j < i) :
    s.StableBefore j i := by
  have hle := s.inOrder_of_not_before i j h
  unfold InOrder RowLe at hle
  unfold StableBefore SortsBefore
  split_ifs at * with hdown
  · exact hle.lt_or_eq.imp id fun heq => ⟨heq, hlt⟩
  · exact hle.lt_or_eq.imp id fun heq => ⟨heq.symm, hlt⟩

theorem pairwise_sortedIndex (s : DeviceList τ) : s.sortedIndex.Pairwise s.StableBefore := by
  have hnot : ∀ i j : ℕ, ¬ s.Before i j → j < i → s.StableBefore j i := fun i j =>
    stableBefore_of_not_before
  exact pairwise_insertAll_stable (fun i j h => .inl h) hnot (fun i j k => StableBefore.trans)
    s.visible List.pairwise_lt_range .nil fun j hj => absurd hj List.not_mem_nil

/-- A device behind the others changes nothing for them. -/
theorem sortedIndex_append (s : DeviceList τ) (index : List ℕ) (d : DeviceListData) :
    let t := { s with index, device := s.device ++ [d] }
    t.sortedIndex =
      if t.visible s.device.length then s.sortedIndex.orderedInsert t.Before s.device.length
      else s.sortedIndex := by
  intro t
  have hat : ∀ i ∈ List.range s.device.length, t.deviceAt i = s.deviceAt i := by
    intro i hi
    apply deviceAt_of_getElem?
    rw [show t.device = s.device ++ [d] from rfl, List.getElem?_append_left (List.mem_range.1 hi),
      getElem?_deviceAt (List.mem_range.1 hi)]
  have hrest : insertAll t.Before t.visible (List.range s.device.length) [] = s.sortedIndex := by
    apply insertAll_congr
    · intro i hi
      unfold visible
      rw [hat i hi]
    · intro i hi j hj
      unfold Before
      rw [hat i hi, hat j (hj.resolve_right List.not_mem_nil)]
  rw [← hrest]
  unfold sortedIndex
  rw [show t.device.length = s.device.length + 1 by simp [t], List.range_succ]
  unfold insertAll
  rw [List.foldl_append]
  rfl

/-- **The index is the stable sort of the visible positions, and a device that is appended gets the
place that rebuilding would give it.** -/
theorem index_stable (s : DeviceList τ) :
    let t := s.updateDeviceIndicesByScan
    (∀ i, i ∈ t.index ↔ ∃ d, s.device[i]? = some d ∧ Visible s.filterRc s.filterValue d) ∧
    t.index.Nodup ∧ t.index.Pairwise s.StableBefore ∧
    ∀ d : DeviceListData,
      let u := { t with device := t.device ++ [d] }
      (u.addDeviceIndexByScan t.device.length).2 = u.updateDeviceIndicesByScan := by
  intro t
  have ht : t = { s with index := s.sortedIndex } := s.updateDeviceIndicesByScan_eq
  clear_value t
  subst ht
  have hrows : VisibleRows { s with index := s.sortedIndex } := visibleRows_of_index_eq rfl
  refine ⟨hrows.mem_iff, hrows.nodup, s.pairwise_sortedIndex, fun d => ?_⟩
  intro u
  have happend := s.sortedIndex_append s.sortedIndex d
  rw [addDeviceIndexByScan_eq, updateDeviceIndicesByScan_eq]
  unfold addDeviceIndex
  rw [show u.sortedIndex = _ from happend]
  split_ifs
  · rfl
  · rfl

end DeviceList
end Gui
end RcDiscover
