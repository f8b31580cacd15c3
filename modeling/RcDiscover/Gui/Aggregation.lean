import RcDiscover.Gui.VisibleRows

/-!
# One record for all answers of a device

`DeviceList::add` is called for each answer of a device, with the interface on which it came and
with its own result of the ping.  `Merges` is what the record of a MAC address holds after the calls
for it, and `Aggregates` what it is for: the set of the interfaces, and reachable when one of
the answers was.

The flag is updated together with the interfaces only, so that a call with a known interface has no
influence on it.  `aggregates_iff` (**main result**): the record is as it should be exactly when the
ping result of such a call was not needed (`SeenWhenNew`).
-/

namespace RcDiscover
namespace Gui

open Runs

/-! ### Records -/

/-- One of the calls came with a new interface and with a device that was reachable. -/
def SeenWhenNew (calls : List Discovered) : Prop :=
  ∃ before a after, calls = before ++ a :: after ∧ a.reachable = true ∧
    ∀ b ∈ before, b.interface ≠ a.interface

/-- What the record holds after the calls for its MAC address. -/
structure Merges (calls : List Discovered) (d : DeviceListData) : Prop where
  first : ∃ a, calls.head? = some a ∧ ∀ c : Fin 8, c ≠ 6 → c ≠ 7 →
    d.item c = (DeviceListData.ofDiscovered a false).item c
  sorted : d.interfaceList.Pairwise (· < ·)
  mem_interfaceList : ∀ x, x ∈ d.interfaceList ↔ ∃ a ∈ calls, a.interface = x
  interfaces : d.item 6 = ", ".toList.intercalate d.interfaceList
  reachable : d.reachable = true ↔ SeenWhenNew calls
  mark : d.item 7 = reachableMark d.reachable

/-- What the record should hold after the calls for its MAC address. -/
structure Aggregates (calls : List Discovered) (d : DeviceListData) : Prop where
  first : ∃ a, calls.head? = some a ∧ ∀ c : Fin 8, c ≠ 6 → c ≠ 7 →
    d.item c = (DeviceListData.ofDiscovered a false).item c
  sorted : d.interfaceList.Pairwise (· < ·)
  mem_interfaceList : ∀ x, x ∈ d.interfaceList ↔ ∃ a ∈ calls, a.interface = x
  interfaces : d.item 6 = ", ".toList.intercalate d.interfaceList
  reachable : d.reachable = true ↔ ∃ a ∈ calls, a.reachable = true
  mark : d.item 7 = reachableMark true ↔ d.reachable = true

section Records

variable {calls : List Discovered} {d : DeviceListData} {a : Discovered}

theorem SeenWhenNew.exists_reachable (h : SeenWhenNew calls) : ∃ a ∈ calls, a.reachable = true := by
  obtain ⟨before, a, after, rfl, ha, -⟩ := h
  exact ⟨a, by simp, ha⟩

/-- A further call counts when its interface is new. -/
theorem seenWhenNew_concat :
    SeenWhenNew (calls ++ [a]) ↔
      SeenWhenNew calls ∨ a.reachable = true ∧ ∀ b ∈ calls, b.interface ≠ a.interface := by
  constructor
  · rintro ⟨before, x, after, hsplit, hx, hnew⟩
    rcases List.eq_nil_or_concat' after with rfl | ⟨init, last, rfl⟩
    · obtain ⟨rfl, hax⟩ := List.append_inj' hsplit rfl
      obtain rfl : a = x := by simpa using hax
      exact .inr ⟨hx, hnew⟩
    · rw [← List.cons_append, ← List.append_assoc] at hsplit
      obtain ⟨rfl, -⟩ := List.append_inj' hsplit rfl
      exact .inl ⟨before, x, init, rfl, hx, hnew⟩
  · rintro (⟨before, x, after, rfl, hx, hnew⟩ | ⟨ha, hnew⟩)
    · exact ⟨before, x, after ++ [a], by simp, hx, hnew⟩
    · exact ⟨calls, a, [], rfl, ha, hnew⟩

/-- The record of a device that was not listed. -/
theorem merges_ofDiscovered (a : Discovered) (newDiscovery : Bool) :
    Merges [a] (DeviceListData.ofDiscovered a newDiscovery) where
  first := ⟨a, rfl, fun _ _ _ => rfl⟩
  sorted := List.pairwise_singleton _ _
  mem_interfaceList x := by
    simp only [DeviceListData.ofDiscovered, List.mem_singleton, exists_eq_left]
    exact eq_comm
  interfaces := by simp [DeviceListData.ofDiscovered]
  reachable := by
    have h : SeenWhenNew ([] ++ [a]) ↔ _ := seenWhenNew_concat
    have hnil : ¬ SeenWhenNew [] := fun h => by simpa using h.exists_reachable
    simp only [List.nil_append, hnil, false_or, List.not_mem_nil, false_imp_iff, implies_true,
      and_true] at h
    exact h.symm
  mark := rfl

/-- **One more call for a listed device.** -/
theorem Merges.addInterface (h : Merges calls d) (a : Discovered) :
    Merges (calls ++ [a]) (d.addInterface a.interface a.reachable) := by
  obtain ⟨x, hx, hfirst⟩ := h.first
  have hhead : (calls ++ [a]).head? = some x := by rw [List.head?_append, hx, Option.some_or]
  by_cases hmem : a.interface ∈ d.interfaceList
  · -- the record stays as it is, whatever the ping result
    obtain ⟨b, hb, hbi⟩ := (h.mem_interfaceList _).1 hmem
    rw [DeviceListData.addInterface_of_mem hmem]
    refine ⟨⟨x, hhead, hfirst⟩, h.sorted, fun y => ?_, h.interfaces, ?_, h.mark⟩
    · rw [h.mem_interfaceList]
      constructor
      · rintro ⟨c, hc, rfl⟩
        exact ⟨c, List.mem_append_left _ hc, rfl⟩
      · rintro ⟨c, hc, rfl⟩
        rcases List.mem_append.1 hc with hc | hc
        · exact ⟨c, hc, rfl⟩
        · exact ⟨b, hb, by rw [hbi, List.mem_singleton.1 hc]⟩
    · rw [h.reachable, seenWhenNew_concat, or_iff_left]
      exact fun hnew => hnew.2 b hb hbi
  · have hnew : ∀ b ∈ calls, b.interface ≠ a.interface :=
      fun b hb hbi => hmem ((h.mem_interfaceList _).2 ⟨b, hb, hbi⟩)
    have hlist : (d.addInterface a.interface a.reachable).interfaceList =
        d.interfaceList.orderedInsert (· ≤ ·) a.interface := by
      rw [DeviceListData.addInterface, if_neg hmem]
    have hreach : (d.addInterface a.interface a.reachable).reachable =
        (d.reachable || a.reachable) := by
      rw [DeviceListData.addInterface, if_neg hmem]
    have hperm := List.perm_orderedInsert (· ≤ ·) a.interface d.interfaceList
    refine ⟨⟨x, hhead, fun c h6 h7 => ?_⟩, ?_, fun y => ?_, ?_, ?_, ?_⟩
    · rw [d.addInterface_item _ _ h6 h7, hfirst c h6 h7]
    · rw [hlist]
      have hnodup : (d.interfaceList.orderedInsert (· ≤ ·) a.interface).Nodup := by
        rw [hperm.nodup_iff, List.nodup_cons]
        exact ⟨hmem, h.sorted.imp fun hlt => hlt.ne⟩
      have hsorted := (h.sorted.imp fun hlt => le_of_lt hlt).orderedInsert a.interface
      exact (hsorted.and hnodup).imp fun hlt => lt_of_le_of_ne hlt.1 hlt.2
    · rw [hlist, hperm.mem_iff, List.mem_cons, h.mem_interfaceList]
      simp [or_and_right, exists_or, eq_comm, or_comm]
    · rw [DeviceListData.addInterface_item_six hmem, hlist, DeviceListData.interfacesWith]
    · rw [hreach, Bool.or_eq_true, h.reachable, seenWhenNew_concat]
      exact or_congr_right ⟨fun ha => ⟨ha, hnew⟩, And.left⟩
    · rw [DeviceListData.addInterface_item_seven hmem, hreach]

theorem reachableMark_eq_true_iff (reachable : Bool) :
    reachableMark reachable = reachableMark true ↔ reachable = true := by
  cases reachable <;> decide

/-- **When the record is as it should be.** -/
theorem Merges.aggregates_iff_seen (h : Merges calls d) :
    Aggregates calls d ↔ ((∃ a ∈ calls, a.reachable = true) → SeenWhenNew calls) := by
  constructor
  · intro hagg hany
    exact h.reachable.1 (hagg.reachable.2 hany)
  · intro hseen
    refine ⟨h.first, h.sorted, h.mem_interfaceList, h.interfaces, ?_, ?_⟩
    · rw [h.reachable]
      exact ⟨SeenWhenNew.exists_reachable, hseen⟩
    · rw [h.mark, reachableMark_eq_true_iff]

/-- The interfaces do not depend on the order of the calls. -/
theorem Merges.interfaceList_eq {calls' : List Discovered} {d' : DeviceListData}
    (h : Merges calls d) (h' : Merges calls' d') (hperm : calls'.Perm calls) :
    d'.interfaceList = d.interfaceList := by
  have hmem : ∀ x, x ∈ d'.interfaceList ↔ x ∈ d.interfaceList := by
    intro x
    rw [h.mem_interfaceList, h'.mem_interfaceList]
    exact exists_congr fun a => and_congr_left fun _ => hperm.mem_iff
  exact ((List.perm_ext_iff_of_nodup (h'.sorted.imp fun hlt => hlt.ne)
    (h.sorted.imp fun hlt => hlt.ne)).2 hmem).eq_of_pairwise
      (fun _ _ _ _ hlt hlt' => absurd hlt' hlt.asymm) h'.sorted h.sorted

end Records

/-! ### The list -/

/-- The calls for the MAC address. -/
def callsFor (mac : Str) (calls : List Discovered) : List Discovered :=
  calls.filter fun a => a.mac = mac

/-- The calls of `add` since the last `clear`, after one more operation. -/
def noteCall (calls : List Discovered) : Op → List Discovered
  | .clear => []
  | .add a => calls ++ [a]
  | _ => calls

/-- The calls of `add` since the last `clear` of a run. -/
def callsSinceClear (ops : List Op) : List Discovered := ops.foldl noteCall []

/-- There is a record for each MAC address of the calls, and for no other. -/
structure Collects (calls : List Discovered) (device : List DeviceListData) : Prop where
  listed : ∀ a ∈ calls, ∃ d ∈ device, d.item 5 = a.mac
  record : ∀ d ∈ device, Merges (callsFor (d.item 5) calls) d

section Steps

variable {τ : Type} {calls : List Discovered} {s : DeviceList τ} {mac : Str} {a : Discovered}

theorem callsFor_concat :
    callsFor mac (calls ++ [a]) =
      if a.mac = mac then callsFor mac calls ++ [a] else callsFor mac calls := by
  rw [callsFor, List.filter_append]
  split_ifs with h <;> simp [callsFor, h]

theorem callsFor_eq_nil (h : ∀ a ∈ calls, a.mac ≠ mac) : callsFor mac calls = [] := by
  rw [callsFor, List.filter_eq_nil_iff]
  simpa using h

/-- The records after the one at `k` has been changed. -/
theorem mem_modify_iff (hs : s.Sound) {k : ℕ} {d : DeviceListData} (hk : s.device[k]? = some d)
    (f : DeviceListData → DeviceListData) (e : DeviceListData) :
    e ∈ s.device.modify k f ↔ e = f d ∨ e ∈ s.device ∧ e.item 5 ≠ d.item 5 := by
  simp only [List.mem_iff_getElem?, List.getElem?_modify]
  constructor
  · rintro ⟨i, hi⟩
    by_cases hik : k = i
    · subst hik
      left
      simpa [hk, eq_comm] using hi
    · have hi : s.device[i]? = some e := by simpa [hik] using hi
      exact .inr ⟨⟨i, hi⟩, fun he => hik (hs.eq_of_mac hk hi he.symm).1⟩
  · rintro (rfl | ⟨⟨i, hi⟩, he⟩)
    · exact ⟨k, by simp [hk]⟩
    · have hik : k ≠ i := by
        rintro rfl
        rw [hk] at hi
        exact he (Option.some.inj hi ▸ rfl)
      exact ⟨i, by simp [hik, hi]⟩

/-- A call for a listed device. -/
theorem Collects.addInterface (hs : s.Sound) (h : Collects calls s.device) {k : ℕ}
    {d : DeviceListData} (hk : s.device[k]? = some d) (hmac : d.item 5 = a.mac) :
    Collects (calls ++ [a])
      (s.device.modify k fun d => d.addInterface a.interface a.reachable) := by
  have hmem := mem_modify_iff hs hk fun d => d.addInterface a.interface a.reachable
  have hmac' : (d.addInterface a.interface a.reachable).item 5 = a.mac :=
    (d.addInterface_item _ _ (by decide) (by decide)).trans hmac
  constructor
  · intro b hb
    by_cases hba : b.mac = a.mac
    · exact ⟨_, (hmem _).2 (.inl rfl), hmac'.trans hba.symm⟩
    · rcases List.mem_append.1 hb with hb | hb
      · obtain ⟨e, he, hemac⟩ := h.listed b hb
        exact ⟨e, (hmem e).2 (.inr ⟨he, by rwa [hemac, hmac]⟩), hemac⟩
      · exact absurd (congrArg Discovered.mac (List.mem_singleton.1 hb)) hba
  · intro e he
    rcases (hmem e).1 he with rfl | ⟨he, hne⟩
    · rw [hmac', callsFor_concat, if_pos rfl, ← hmac]
      exact (h.record d (List.mem_of_getElem? hk)).addInterface a
    · rw [callsFor_concat, if_neg (hmac ▸ hne.symm)]
      exact h.record e he

/-- A call for a device that is not listed. -/
theorem Collects.append (h : Collects calls s.device) (hfresh : ∀ d ∈ s.device, d.item 5 ≠ a.mac)
    (newDiscovery : Bool) :
    Collects (calls ++ [a]) (s.device ++ [DeviceListData.ofDiscovered a newDiscovery]) := by
  have hitem : (DeviceListData.ofDiscovered a newDiscovery).item 5 = a.mac := rfl
  constructor
  · intro b hb
    rcases List.mem_append.1 hb with hb | hb
    · obtain ⟨e, he, hemac⟩ := h.listed b hb
      exact ⟨e, List.mem_append_left _ he, hemac⟩
    · refine ⟨_, List.mem_append_right _ (List.mem_singleton_self _), ?_⟩
      rw [List.mem_singleton.1 hb, hitem]
  · intro e he
    rcases List.mem_append.1 he with he | he
    · rw [callsFor_concat, if_neg (hfresh e he).symm]
      exact h.record e he
    · have hnone : callsFor a.mac calls = [] := callsFor_eq_nil fun b hb hba => by
        obtain ⟨d, hd, hdmac⟩ := h.listed b hb
        exact hfresh d hd (hdmac.trans hba)
      rw [List.mem_singleton.1 he, hitem, callsFor_concat, if_pos rfl, hnone]
      exact merges_ofDiscovered a newDiscovery

theorem Collects.add (fl : FlTableRow τ) (hs : s.Sound) (h : Collects calls s.device)
    (a : Discovered) : Collects (calls ++ [a]) (s.add fl a).device := by
  rcases s.add_cases fl a with ⟨k, d, hk, hmac, hadd⟩ | ⟨hfresh, -, hadd⟩ | ⟨hfresh, -, hadd⟩
  · rw [hadd]
    exact h.addInterface hs hk hmac
  · rw [hadd]
    exact h.append hfresh _
  · rw [hadd]
    exact h.append hfresh _

/-- **One operation.** -/
theorem Collects.step (fl : FlTableRow τ) (hs : s.Sound) (h : Collects calls s.device) (op : Op) :
    Collects (noteCall calls op) (s.step fl op).device := by
  by_cases hop : op.Rebuilds
  · have hcalls : noteCall calls op = calls := by
      cases op <;> first | rfl | exact absurd hop id
    rw [hcalls, (s.step_rebuilt fl hop).1]
    exact h
  cases op with
  | clear => exact ⟨nofun, nofun⟩
  | add a => exact h.add fl hs a
  | filterRCDevices _ | filter _ | setSorting _ _ | sortColumn _ => exact absurd trivial hop
  | selectRow row flag => exact h
  | removeHighlight =>
    simp only [DeviceList.step, DeviceList.removeHighlight, noteCall]
    split_ifs
    · refine ⟨fun a ha => ?_, fun e he => ?_⟩
      · obtain ⟨d, hd, hmac⟩ := h.listed a ha
        exact ⟨_, List.mem_map_of_mem hd, hmac⟩
      · obtain ⟨d, hd, rfl⟩ := List.mem_map.1 he
        have hrec := h.record d hd
        exact ⟨hrec.first, hrec.sorted, hrec.mem_interfaceList, hrec.interfaces, hrec.reachable,
          hrec.mark⟩
    · exact h

/-- **After every run.** -/
theorem collects_run (fl : FlTableRow τ) (ops : List Op) :
    Collects (callsSinceClear ops) (run (DeviceList.step fl) (DeviceList.init fl) ops).device := by
  suffices ∀ (calls : List Discovered) (s : DeviceList τ), s.Sound → Collects calls s.device →
      Collects (ops.foldl noteCall calls) (run (DeviceList.step fl) s ops).device from
    this [] _ (DeviceList.sound_init fl) ⟨nofun, nofun⟩
  induction ops with
  | nil => exact fun calls s _ h => h
  | cons op ops ih => exact fun calls s hs h => ih _ _ (hs.step fl op) (h.step fl hs op)

/-- The records of the MAC address after the operations. -/
def recordsOf (fl : FlTableRow τ) (ops : List Op) (mac : Str) : List DeviceListData :=
  (run (DeviceList.step fl) (DeviceList.init fl) ops).device.filter fun d => d.item 5 = mac

/-- There is one record for a MAC address, and it holds what the calls for it make of it. -/
theorem recordsOf_eq (fl : FlTableRow τ) {ops : List Op}
    (h : ∃ a ∈ callsSinceClear ops, a.mac = mac) :
    ∃ d, recordsOf fl ops mac = [d] ∧ Merges (callsFor mac (callsSinceClear ops)) d := by
  obtain ⟨a, ha, rfl⟩ := h
  have hcollects := collects_run fl ops
  have hsound : (run (DeviceList.step fl) (DeviceList.init fl) ops).Sound :=
    run_invariant (fun _ op hs => hs.step fl op) (DeviceList.sound_init fl) ops
  obtain ⟨d, hd, hmac⟩ := hcollects.listed a ha
  refine ⟨d, ?_, hmac ▸ hcollects.record d hd⟩
  have hone : ∀ e ∈ recordsOf fl ops a.mac, e = d := by
    intro e he
    obtain ⟨he, hemac⟩ := List.mem_filter.1 he
    obtain ⟨i, hi⟩ := List.mem_iff_getElem?.1 he
    obtain ⟨j, hj⟩ := List.mem_iff_getElem?.1 hd
    exact (hsound.eq_of_mac hi hj (by simpa [hmac] using hemac)).2
  have hnodup : (recordsOf fl ops a.mac).Nodup := (hsound.macs.of_map _).filter _
  have hmem : d ∈ recordsOf fl ops a.mac := List.mem_filter.2 ⟨hd, by simpa using hmac⟩
  exact List.perm_singleton.1 ((List.perm_ext_iff_of_nodup hnodup (List.nodup_singleton d)).2
    fun e => ⟨fun he => List.mem_singleton.2 (hone e he), fun he => List.mem_singleton.1 he ▸ hmem⟩)

/-- **The answers of a device are collected in one record**, which is as it should be exactly when
one of the reachable answers came with a new interface or none was reachable.  The interfaces do not
depend on the order of the calls, and where this holds for two orders, nor does the flag. -/
theorem aggregates_iff (fl : FlTableRow τ) (ops : List Op) (mac : Str)
    (h : ∃ a ∈ callsSinceClear ops, a.mac = mac) :
    ((∃ d, recordsOf fl ops mac = [d] ∧ Aggregates (callsFor mac (callsSinceClear ops)) d) ↔
      ((∃ a ∈ callsFor mac (callsSinceClear ops), a.reachable = true) →
        SeenWhenNew (callsFor mac (callsSinceClear ops)))) ∧
    ∀ ops', (callsFor mac (callsSinceClear ops')).Perm (callsFor mac (callsSinceClear ops)) →
      ∃ d d', recordsOf fl ops mac = [d] ∧ recordsOf fl ops' mac = [d'] ∧
        d'.interfaceList = d.interfaceList ∧
        (Aggregates (callsFor mac (callsSinceClear ops)) d →
          Aggregates (callsFor mac (callsSinceClear ops')) d' → d'.reachable = d.reachable) := by
  obtain ⟨d, hd, hmerges⟩ := recordsOf_eq fl h
  refine ⟨?_, fun ops' hperm => ?_⟩
  · rw [← hmerges.aggregates_iff_seen, hd]
    constructor
    · rintro ⟨e, he, hagg⟩
      obtain rfl : d = e := by simpa using he
      exact hagg
    · exact fun hagg => ⟨d, rfl, hagg⟩
  · have h' : ∃ a ∈ callsSinceClear ops', a.mac = mac := by
      obtain ⟨a, ha, hmac⟩ := h
      have hmem := hperm.mem_iff.2 (List.mem_filter.2 ⟨ha, by simpa using hmac⟩)
      exact ⟨a, (List.mem_filter.1 hmem).1, hmac⟩
    obtain ⟨d', hd', hmerges'⟩ := recordsOf_eq fl h'
    refine ⟨d, d', hd, hd', hmerges.interfaceList_eq hmerges' hperm, fun hagg hagg' => ?_⟩
    rw [Bool.eq_iff_iff, hagg.reachable, hagg'.reachable]
    exact exists_congr fun a => and_congr_left fun _ => hperm.mem_iff

end Steps

/-- An answer of one device. -/
def answer (interface : Str) (reachable : Bool) : Discovered :=
  ⟨"cam".toList, "Roboception".toList, "rc_visard".toList, "02912345".toList, "10.0.2.7".toList,
    "00:14:2d:2c:6e:bb".toList, interface, reachable⟩

/-- Two answers on different interfaces, of which the first one was not reachable. -/
theorem aggregates_two_interfaces :
    ∃ d, recordsOf .flags [.add (answer "eth1".toList false), .add (answer "eth0".toList true)]
        (answer [] true).mac = [d] ∧
      Aggregates [answer "eth1".toList false, answer "eth0".toList true] d := by
  let ops : List Op := [.add (answer "eth1".toList false), .add (answer "eth0".toList true)]
  have h : ∃ a ∈ callsSinceClear ops, a.mac = (answer [] true).mac :=
    ⟨answer "eth1".toList false, by simp [ops, callsSinceClear, noteCall], rfl⟩
  have hseen : SeenWhenNew [answer "eth1".toList false, answer "eth0".toList true] :=
    ⟨[answer "eth1".toList false], answer "eth0".toList true, [], rfl, rfl, by decide⟩
  exact (aggregates_iff .flags ops _ h).1.2 fun _ => hseen

/-- A second answer on the same interface is reachable, the first one was not. -/
theorem not_aggregates_known_interface :
    ¬ ∀ (ops : List Op) (mac : Str), (∃ a ∈ callsSinceClear ops, a.mac = mac) →
      ∃ d, recordsOf .flags ops mac = [d] ∧
        Aggregates (callsFor mac (callsSinceClear ops)) d := by
  intro h
  let a := answer "eth0".toList true
  let ops : List Op := [.add (answer "eth0".toList false), .add a]
  have hcall : a ∈ callsSinceClear ops := by simp [ops, callsSinceClear, noteCall]
  obtain ⟨d, hd, hagg⟩ := h ops a.mac ⟨a, hcall, rfl⟩
  have hrecord : recordsOf .flags ops a.mac =
      [DeviceListData.ofDiscovered (answer "eth0".toList false) false] := rfl
  obtain rfl : DeviceListData.ofDiscovered (answer "eth0".toList false) false = d :=
    List.singleton_inj.1 (hrecord.symm.trans hd)
  exact absurd (hagg.reachable.2 ⟨a, List.mem_filter.2 ⟨hcall, by simp⟩, rfl⟩) (by decide)

end Gui
end RcDiscover
