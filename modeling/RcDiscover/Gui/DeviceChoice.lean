import RcDiscover.Text

/-!
# `tools/rcdiscover-gui/device_choice.cc`: the drop-down with the devices

A `DeviceChoice` shows a label with name and MAC address for each device, and keeps the IP addresses
in a list of its own.  `getIP` finds the address by the position of the entry, `getMAC` cuts the MAC
address out of the label, behind the first `" - "`.

* `FlChoice`: what the code relies on of FLTK's `Fl_Choice`;
* `find_label`: where the separator is found;
* `mapsBack_iff` (**main result**): the entries lead back to their devices exactly when no name has
  a separator of its own.
-/

namespace RcDiscover
namespace Gui

/-! ### FLTK -/

/-- The text has none of the characters that `Fl_Menu_::add` takes for something else. -/
def Plain (s : Str) : Prop := '/' ∉ s ∧ '\\' ∉ s ∧ '&' ∉ s ∧ s.head? ≠ some '_'

instance (s : Str) : Decidable (Plain s) := inferInstanceAs (Decidable (_ ∧ _))

/-- `Fl_Choice`: the labels of its items and the selected position, -1 for none.  `size` counts the
end of the menu as well, and `add` appends a label that the menu does not have. -/
structure FlChoice (χ : Type) where
  labels : χ → List Str
  size : χ → ℤ
  value : χ → ℤ
  clear : χ → χ
  add : Str → χ → χ
  /-- `value(i)`, or the user selects the item. -/
  setValue : ℤ → χ → χ
  labels_clear : ∀ w, labels (clear w) = []
  labels_add : ∀ s w, Plain s → s ∉ labels w → labels (add s w) = labels w ++ [s]
  labels_setValue : ∀ i w, labels (setValue i w) = labels w
  value_setValue : ∀ (i : ℕ) w, i < (labels w).length → value (setValue i w) = i
  length_labels_lt_size : ∀ w, labels w ≠ [] → ((labels w).length : ℤ) < size w

/-- The menu as the list of its labels, in which a label that is there already is replaced. -/
def FlChoice.items : FlChoice (List Str × ℤ) where
  labels w := w.1
  size w := if w.1 = [] then 0 else w.1.length + 1
  value w := w.2
  clear _ := ([], -1)
  add s w := (if s ∈ w.1 then w.1 else w.1 ++ [s], w.2)
  setValue i w := (w.1, i)
  labels_clear _ := rfl
  labels_add _ _ _ h := if_neg h
  labels_setValue _ _ := rfl
  value_setValue _ _ _ := rfl
  length_labels_lt_size w h := by
    rw [if_neg h]
    omega

/-! ### The widget -/

/-- `std::string::find`. -/
def find (pat : Str) : Str → Option ℕ
  | [] => if pat = [] then some 0 else none
  | c :: s => if pat.isPrefixOf (c :: s) then some 0 else (find pat s).map (· + 1)

/-- `DeviceChoice`. -/
structure DeviceChoice (χ : Type) where
  widget : χ
  ipList : List Str

namespace DeviceChoice

variable {χ : Type} (fl : FlChoice χ)

/-- `DeviceChoice::getMAC`. -/
def getMAC (s : DeviceChoice χ) : Str :=
  let i := fl.value s.widget
  if 0 ≤ i ∧ i < fl.size s.widget then
    let label := (fl.labels s.widget).getD i.toNat []
    match find " - ".toList label with
    | some i => label.drop (i + 3)
    | none => []
  else []

/-- `DeviceChoice::getIP`. -/
def getIP (s : DeviceChoice χ) : Str :=
  let i := fl.value s.widget
  if 0 ≤ i ∧ i.toNat < s.ipList.length then s.ipList.getD i.toNat [] else []

/-- The text of an entry. -/
def label (name mac : Str) : Str := name ++ " - ".toList ++ mac

/-- The loop of `update` from position `i` on, over names, MAC and IP addresses. -/
def updateLoop (selMac : Str) : ℕ → List (Str × Str × Str) → DeviceChoice χ → ℕ →
    DeviceChoice χ × ℕ
  | _, [], s, sel => (s, sel)
  | i, (name, mac, ip) :: list, s, sel =>
    updateLoop selMac (i + 1) list
      { widget := fl.add (label name mac) s.widget, ipList := s.ipList ++ [ip] }
      (if mac = selMac then i + 1 else sel)

/-- The common part of both functions `update`. -/
def updateEntries (s : DeviceChoice χ) (list : List (Str × Str × Str)) (selMac : Str) :
    DeviceChoice χ :=
  let s : DeviceChoice χ :=
    { widget := fl.add "<CUSTOM>".toList (fl.clear s.widget), ipList := [[]] }
  let (s, sel) := updateLoop fl selMac 0 list s 0
  { s with widget := fl.setValue sel s.widget }

/-- `DeviceChoice::update` with names and MAC addresses. -/
def update (s : DeviceChoice χ) (list : List (Str × Str)) (selMac : Str) : DeviceChoice χ :=
  s.updateEntries fl (list.map fun x => (x.1, x.2, [])) selMac

/-- `DeviceChoice::update` with names, MAC and IP addresses. -/
def updateWithIP (s : DeviceChoice χ) (list : List (Str × Str × Str)) (selMac : Str) :
    DeviceChoice χ :=
  s.updateEntries fl list selMac

/-- The user selects the entry at the position. -/
def select (s : DeviceChoice χ) (i : ℕ) : DeviceChoice χ :=
  { s with widget := fl.setValue i s.widget }

end DeviceChoice

/-! ### Labels -/

section Find

variable {pat s : Str}

theorem find_cons_of_prefix {c : Char} (h : pat <+: c :: s) : find pat (c :: s) = some 0 := by
  rw [find, if_pos (List.isPrefixOf_iff_prefix.2 h)]

theorem find_cons_of_not_prefix {c : Char} (h : ¬ pat <+: c :: s) :
    find pat (c :: s) = (find pat s).map (· + 1) := by
  rw [find, if_neg (mt List.isPrefixOf_iff_prefix.1 h)]

/-- **Where the separator is found**: behind the name, unless there is one before. -/
theorem find_label (name mac : Str) :
    ∃ k ≤ name.length, find " - ".toList (DeviceChoice.label name mac) = some k ∧
      (k = name.length ↔ ¬ " - ".toList <:+: name ++ " -".toList) := by
  induction name with
  | nil => exact ⟨0, le_rfl, find_cons_of_prefix ⟨mac, rfl⟩, iff_of_true rfl (by decide)⟩
  | cons c name ih =>
    obtain ⟨k, hk, hfind, hiff⟩ := ih
    have hcons : DeviceChoice.label (c :: name) mac = c :: DeviceChoice.label name mac := rfl
    have hprefix : " - ".toList <+: DeviceChoice.label (c :: name) mac ↔
        " - ".toList <+: c :: name ++ " -".toList := by
      have hlabel : DeviceChoice.label (c :: name) mac =
          (c :: name ++ " -".toList) ++ (' ' :: mac) := by
        simp [DeviceChoice.label]
      rw [hlabel]
      exact ⟨fun h => List.prefix_of_prefix_length_le h (List.prefix_append _ _) (by simp),
        fun h => h.trans (List.prefix_append _ _)⟩
    rw [List.cons_append, List.infix_cons_iff, ← List.cons_append, ← hprefix]
    by_cases hp : " - ".toList <+: DeviceChoice.label (c :: name) mac
    · refine ⟨0, Nat.zero_le _, hcons ▸ find_cons_of_prefix (hcons ▸ hp), ?_⟩
      exact iff_of_false (by simp) fun h => h (.inl hp)
    · refine ⟨k + 1, Nat.succ_le_succ hk, ?_, ?_⟩
      · rw [hcons, find_cons_of_not_prefix (hcons ▸ hp), hfind, Option.map_some]
      · rw [List.length_cons, Nat.add_right_cancel_iff, hiff, or_iff_right hp]

/-- What is cut out of a label. -/
theorem drop_label_eq_iff {k : ℕ} {name mac : Str} (hk : k ≤ name.length) :
    (DeviceChoice.label name mac).drop (k + 3) = mac ↔ k = name.length := by
  constructor
  · intro h
    have hlen := congrArg List.length h
    simp only [DeviceChoice.label, List.length_drop, List.length_append] at hlen
    have hsep : " - ".toList.length = 3 := rfl
    omega
  · rintro rfl
    have hlen : (name ++ " - ".toList).length = name.length + 3 := List.length_append
    rw [DeviceChoice.label, ← hlen, List.drop_left]

end Find

/-! ### Entries and devices -/

/-- A MAC address in hexadecimal digits and colons. -/
def IsMacText (s : Str) : Prop := s ≠ [] ∧ ∀ c ∈ s, c = ':' ∨ (digitValue 16 c).isSome = true

-- over the characters of the text, not over all characters
instance (s : Str) : Decidable (IsMacText s) :=
  @instDecidableAnd _ _ inferInstance (List.decidableBAll _ s)

/-- The devices of a list: their MAC addresses are distinct texts, and their names can be shown. -/
structure Choosable (list : List (Str × Str × Str)) : Prop where
  macs : (list.map fun x => x.2.1).Nodup
  macText : ∀ x ∈ list, IsMacText x.2.1
  plain : ∀ x ∈ list, Plain x.1

theorem choosable_iff {list : List (Str × Str × Str)} :
    Choosable list ↔ (list.map fun x => x.2.1).Nodup ∧ ∀ x ∈ list, IsMacText x.2.1 ∧ Plain x.1 :=
  ⟨fun h => ⟨h.macs, fun x hx => ⟨h.macText x hx, h.plain x hx⟩⟩,
    fun h => ⟨h.1, fun x hx => (h.2 x hx).1, fun x hx => (h.2 x hx).2⟩⟩

instance (list : List (Str × Str × Str)) : Decidable (Choosable list) :=
  @decidable_of_iff' _ _ choosable_iff
    (@instDecidableAnd _ _ inferInstance (List.decidableBAll _ list))

namespace DeviceChoice

variable {χ : Type} (fl : FlChoice χ)

/-- The entries lead back to the devices of the list, and the device with `selMac` is selected. -/
structure MapsBack (s : DeviceChoice χ) (list : List (Str × Str × Str)) (selMac : Str) :
    Prop where
  custom : (s.select fl 0).getMAC fl = [] ∧ (s.select fl 0).getIP fl = []
  entry : ∀ k name mac ip, list[k]? = some (name, mac, ip) →
    (s.select fl (k + 1)).getMAC fl = mac ∧ (s.select fl (k + 1)).getIP fl = ip
  selected : ∀ k name ip, list[k]? = some (name, selMac, ip) → fl.value s.widget = (k + 1 : ℕ)
  unselected : (∀ x ∈ list, x.2.1 ≠ selMac) → fl.value s.widget = 0

/-- No name has a separator, alone or with the beginning of the one that follows it. -/
def NamesSeparate (list : List (Str × Str × Str)) : Prop :=
  ∀ x ∈ list, ¬ " - ".toList <:+: x.1 ++ " -".toList

theorem plain_label {name mac : Str} (hname : Plain name) (hmac : IsMacText mac) :
    Plain (label name mac) := by
  have hchar : ∀ {c : Char}, c ∉ name → c ∉ " - ".toList → c ≠ ':' → digitValue 16 c = none →
      c ∉ label name mac := by
    intro c hn hsep hcolon hdigit hmem
    rcases List.mem_append.1 hmem with hmem | hmem
    · exact (List.mem_append.1 hmem).elim hn hsep
    · rcases hmac.2 c hmem with hc | hc
      · exact hcolon hc
      · simp [hdigit] at hc
  obtain ⟨hslash, hback, hamp, hhead⟩ := hname
  refine ⟨hchar hslash (by decide) (by decide) (by decide),
    hchar hback (by decide) (by decide) (by decide),
    hchar hamp (by decide) (by decide) (by decide), ?_⟩
  cases name with
  | nil => exact nofun
  | cons c name => exact hhead

/-- The MAC address is what follows the last blank of a label. -/
theorem takeWhile_reverse_label {mac : Str} (hmac : IsMacText mac) (name : Str) :
    (label name mac).reverse.takeWhile (· ≠ ' ') = mac.reverse := by
  have hblank : ∀ c ∈ mac.reverse, decide (c ≠ ' ') = true := by
    intro c hc
    rw [decide_eq_true_eq]
    rintro rfl
    rcases hmac.2 _ (List.mem_reverse.1 hc) with hc | hc
    · exact absurd hc (by decide)
    · exact absurd hc (by decide)
  have hlabel : (label name mac).reverse = mac.reverse ++ ' ' :: (name ++ " -".toList).reverse := by
    simp [label]
  rw [hlabel, List.takeWhile_append_of_pos hblank, List.takeWhile_cons_of_neg (by simp),
    List.append_nil]

/-- Different devices have different labels. -/
theorem label_ne {name name' mac mac' : Str} (hmac : IsMacText mac) (hmac' : IsMacText mac')
    (hne : mac ≠ mac') : label name mac ≠ label name' mac' := by
  intro heq
  have htail := takeWhile_reverse_label hmac name
  rw [heq, takeWhile_reverse_label hmac' name', List.reverse_inj] at htail
  exact hne htail.symm

/-- The first label of the menu is not that of a device. -/
theorem label_ne_custom (name mac : Str) : label name mac ≠ "<CUSTOM>".toList := by
  intro heq
  have hblank : ' ' ∈ label name mac := by simp [label]
  rw [heq] at hblank
  exact absurd hblank (by decide)

/-- The loop of `update`, on a menu without the labels of the list. -/
theorem updateLoop_spec (selMac : Str) {list : List (Str × Str × Str)} (h : Choosable list)
    (i : ℕ) (s : DeviceChoice χ) (sel : ℕ)
    (hnew : ∀ x ∈ list, label x.1 x.2.1 ∉ fl.labels s.widget) :
    let r := updateLoop fl selMac i list s sel
    fl.labels r.1.widget = fl.labels s.widget ++ list.map (fun x => label x.1 x.2.1) ∧
      r.1.ipList = s.ipList ++ list.map (fun x => x.2.2) ∧
      (∀ k name ip, list[k]? = some (name, selMac, ip) → r.2 = i + k + 1) ∧
      ((∀ x ∈ list, x.2.1 ≠ selMac) → r.2 = sel) := by
  induction list generalizing i s sel with
  | nil => simp [updateLoop]
  | cons x list ih =>
    obtain ⟨name, mac, ip⟩ := x
    have hrest : Choosable list := ⟨(List.nodup_cons.1 h.macs).2,
      fun y hy => h.macText y (List.mem_cons_of_mem _ hy),
      fun y hy => h.plain y (List.mem_cons_of_mem _ hy)⟩
    have hmac : IsMacText mac := h.macText _ List.mem_cons_self
    have hadd : fl.labels (fl.add (label name mac) s.widget) =
        fl.labels s.widget ++ [label name mac] :=
      fl.labels_add _ _ (plain_label (h.plain _ List.mem_cons_self) hmac)
        (hnew _ List.mem_cons_self)
    have hnew' : ∀ y ∈ list, label y.1 y.2.1 ∉ fl.labels (fl.add (label name mac) s.widget) := by
      intro y hy hmem
      rw [hadd] at hmem
      rcases List.mem_append.1 hmem with hmem | hmem
      · exact hnew y (List.mem_cons_of_mem _ hy) hmem
      · refine label_ne (hrest.macText y hy) hmac ?_ (List.mem_singleton.1 hmem)
        exact fun heq => (List.nodup_cons.1 h.macs).1 (List.mem_map.2 ⟨y, hy, heq⟩)
    obtain ⟨hlabels, hips, hsel, hnone⟩ := ih hrest (i + 1)
      { widget := fl.add (label name mac) s.widget, ipList := s.ipList ++ [ip] }
      (if mac = selMac then i + 1 else sel) hnew'
    refine ⟨?_, ?_, ?_, ?_⟩
    · rw [updateLoop, hlabels, hadd]
      simp
    · rw [updateLoop, hips]
      simp
    · intro k name' ip' hk
      rw [updateLoop]
      cases k with
      | zero =>
        -- no later entry has the same MAC address
        obtain ⟨rfl, rfl, rfl⟩ : name = name' ∧ mac = selMac ∧ ip = ip' := by simpa using hk
        rw [hnone, if_pos rfl, Nat.add_zero]
        intro y hy heq
        exact (List.nodup_cons.1 h.macs).1 (List.mem_map.2 ⟨y, hy, heq⟩)
      | succ k =>
        rw [hsel k name' ip' hk]
        omega
    · intro hall
      have hne : mac ≠ selMac := hall _ List.mem_cons_self
      rw [updateLoop, hnone fun y hy => hall y (List.mem_cons_of_mem _ hy), if_neg hne]

/-- What `update` leaves behind. -/
theorem updateEntries_spec {list : List (Str × Str × Str)} (h : Choosable list)
    (s : DeviceChoice χ) (selMac : Str) :
    let t := s.updateEntries fl list selMac
    fl.labels t.widget = "<CUSTOM>".toList :: list.map (fun x => label x.1 x.2.1) ∧
      t.ipList = [] :: list.map (fun x => x.2.2) ∧
      (∀ k name ip, list[k]? = some (name, selMac, ip) → fl.value t.widget = (k + 1 : ℕ)) ∧
      ((∀ x ∈ list, x.2.1 ≠ selMac) → fl.value t.widget = 0) := by
  have hcustom : Plain "<CUSTOM>".toList := by
    refine ⟨by decide, by decide, by decide, by decide⟩
  have hadd : fl.labels (fl.add "<CUSTOM>".toList (fl.clear s.widget)) = ["<CUSTOM>".toList] := by
    rw [fl.labels_add _ _ hcustom (by simp [fl.labels_clear]), fl.labels_clear, List.nil_append]
  obtain ⟨hlabels, hips, hsel, hnone⟩ := updateLoop_spec fl selMac h 0
    { widget := fl.add "<CUSTOM>".toList (fl.clear s.widget), ipList := [[]] } 0 fun x _ => by
      rw [hadd, List.mem_singleton]
      exact label_ne_custom x.1 x.2.1
  rw [hadd] at hlabels
  simp only [updateEntries]
  generalize updateLoop fl selMac 0 list _ 0 = r at hlabels hips hsel hnone ⊢
  rw [fl.labels_setValue, hlabels]
  refine ⟨rfl, hips, fun k name ip hk => ?_, fun hall => ?_⟩
  · have hlt := (List.getElem?_eq_some_iff.1 hk).1
    rw [hsel k name ip hk, fl.value_setValue]
    · simp
    · rw [hlabels]
      simpa using hlt
  · rw [hnone hall, fl.value_setValue]
    · rfl
    · simp [hlabels]

section Select

variable {fl} {s : DeviceChoice χ} {k : ℕ} {x : Str}

/-- The entry that the user has selected. -/
theorem getMAC_select (hx : (fl.labels s.widget)[k]? = some x) :
    (s.select fl k).getMAC fl =
      match find " - ".toList x with
      | some i => x.drop (i + 3)
      | none => [] := by
  have hlt := (List.getElem?_eq_some_iff.1 hx).1
  have hne : fl.labels s.widget ≠ [] := List.ne_nil_of_length_pos (by omega)
  have hlabels : fl.labels (fl.setValue k s.widget) = fl.labels s.widget := fl.labels_setValue _ _
  have hsize := fl.length_labels_lt_size (fl.setValue k s.widget) (hlabels ▸ hne)
  rw [hlabels] at hsize
  simp only [getMAC, select, hlabels, fl.value_setValue k _ hlt]
  rw [if_pos ⟨by omega, by omega⟩, Int.toNat_natCast, List.getD_eq_getElem?_getD, hx,
    Option.getD_some]

theorem getIP_select (hlt : k < (fl.labels s.widget).length) (hx : s.ipList[k]? = some x) :
    (s.select fl k).getIP fl = x := by
  have hk := (List.getElem?_eq_some_iff.1 hx).1
  simp only [getIP, select, fl.value_setValue k _ hlt]
  rw [if_pos ⟨by omega, by simpa using hk⟩, Int.toNat_natCast, List.getD_eq_getElem?_getD, hx,
    Option.getD_some]

end Select

/-- **The common part of both functions.** -/
theorem mapsBack_updateEntries_iff {list : List (Str × Str × Str)} (h : Choosable list)
    (s : DeviceChoice χ) (selMac : Str) :
    MapsBack fl (s.updateEntries fl list selMac) list selMac ↔ NamesSeparate list := by
  obtain ⟨hlabels, hips, hsel, hnone⟩ := updateEntries_spec fl h s selMac
  have hentry : ∀ {k : ℕ} {name mac ip : Str}, list[k]? = some (name, mac, ip) →
      (((s.updateEntries fl list selMac).select fl (k + 1)).getMAC fl = mac ↔
        ¬ " - ".toList <:+: name ++ " -".toList) ∧
      ((s.updateEntries fl list selMac).select fl (k + 1)).getIP fl = ip := by
    intro k name mac ip hk
    have hlt := (List.getElem?_eq_some_iff.1 hk).1
    have hlabel : (fl.labels (s.updateEntries fl list selMac).widget)[k + 1]? =
        some (label name mac) := by
      simp [hlabels, hk]
    have hip : (s.updateEntries fl list selMac).ipList[k + 1]? = some ip := by simp [hips, hk]
    obtain ⟨i, hi, hfind, hiff⟩ := find_label name mac
    refine ⟨?_, getIP_select (by simpa [hlabels] using hlt) hip⟩
    rw [getMAC_select hlabel, hfind, ← hiff]
    exact drop_label_eq_iff hi
  constructor
  · rintro hmaps ⟨name, mac, ip⟩ hx
    obtain ⟨k, hk⟩ := List.mem_iff_getElem?.1 hx
    exact (hentry hk).1.1 (hmaps.entry k name mac ip hk).1
  · intro hnames
    refine ⟨⟨?_, ?_⟩, fun k name mac ip hk => ?_, hsel, hnone⟩
    · have hlabel : (fl.labels (s.updateEntries fl list selMac).widget)[0]? =
          some "<CUSTOM>".toList := by simp [hlabels]
      rw [getMAC_select hlabel]
      rfl
    · exact getIP_select (by simp [hlabels]) (by simp [hips])
    · exact ⟨(hentry hk).1.2 (hnames _ (List.mem_of_getElem? hk)), (hentry hk).2⟩

/-- **The drop-down maps its entries back to their devices exactly when no name has a separator**,
with addresses and without. -/
theorem mapsBack_iff {list : List (Str × Str × Str)} (h : Choosable list) (s : DeviceChoice χ)
    (selMac : Str) :
    (MapsBack fl (s.updateWithIP fl list selMac) list selMac ↔ NamesSeparate list) ∧
    (MapsBack fl (s.update fl (list.map fun x => (x.1, x.2.1)) selMac)
        (list.map fun x => (x.1, x.2.1, [])) selMac ↔ NamesSeparate list) := by
  refine ⟨mapsBack_updateEntries_iff fl h s selMac, ?_⟩
  have hwithout : Choosable (list.map fun x => (x.1, x.2.1, ([] : Str))) := by
    refine ⟨by simpa [Function.comp_def] using h.macs, fun x hx => ?_, fun x hx => ?_⟩
    · obtain ⟨y, hy, rfl⟩ := List.mem_map.1 hx
      exact h.macText y hy
    · obtain ⟨y, hy, rfl⟩ := List.mem_map.1 hx
      exact h.plain y hy
  have hupdate : s.update fl (list.map fun x => (x.1, x.2.1)) selMac =
      s.updateEntries fl (list.map fun x => (x.1, x.2.1, ([] : Str))) selMac := by
    rw [update, List.map_map]
    rfl
  rw [hupdate, mapsBack_updateEntries_iff fl hwithout]
  simp only [NamesSeparate, List.forall_mem_map]

/-- Two devices, one of them with a dash in its name. -/
def twoCameras : List (Str × Str × Str) :=
  [("cam-left".toList, "00:14:2d:2c:6e:bb".toList, "10.0.2.7".toList),
    ("cam right".toList, "00:14:2d:2c:6e:bc".toList, "10.0.2.8".toList)]

theorem mapsBack_twoCameras :
    MapsBack .items (updateWithIP .items ⟨([], -1), []⟩ twoCameras "00:14:2d:2c:6e:bc".toList)
      twoCameras "00:14:2d:2c:6e:bc".toList := by
  have h : Choosable twoCameras := by decide
  have hnames : NamesSeparate twoCameras := by
    intro x hx
    revert x
    decide
  exact (mapsBack_iff .items h _ _).1.2 hnames

/-- A name with a separator of its own. -/
theorem not_mapsBack_dash :
    ¬ ∀ (list : List (Str × Str × Str)) (selMac : Str), Choosable list →
      MapsBack .items (updateWithIP .items ⟨([], -1), []⟩ list selMac) list selMac := by
  intro h
  let list : List (Str × Str × Str) := [("cam - left".toList, "00:14:2d:2c:6e:bb".toList, [])]
  have hchoosable : Choosable list := by decide
  have hentry := ((h list [] hchoosable).entry 0 _ _ _ rfl).1
  exact absurd hentry (by decide)

end DeviceChoice

end Gui
end RcDiscover
