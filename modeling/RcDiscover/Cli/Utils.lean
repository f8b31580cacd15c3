import RcDiscover.DeviceInfo
import RcDiscover.Lib.Destutter
import RcDiscover.Utils
import Mathlib.Data.List.Sort

/-!
# `rcdiscover-cli/cli_utils.cc`

What the commands of the command line tool share: the `-f` option, the filter on the records
that were received, and the table of devices.

* `parseFilterArguments`, `filterDevice`, `discoverWithFilter`, `printDeviceTable`;
* `filterDevice_eq_some_true_iff`: a record is accepted when it satisfies each category;
* `mem_of_discoverWithFilter`, `pairwise_uniqueInfos`: what is returned was received and accepted,
  in strictly ascending order of MAC address and interface.

`wildcardMatch` may be undefined (`none`), and so may what calls it.  `std::sort` is any function
with the guarantees of the standard (`StdSort`).
-/

namespace RcDiscover
namespace Cli

/-! ### The `-f` option -/

/-- `DeviceFilter`. -/
structure DeviceFilter where
  name : List Str
  serial : List Str
  mac : List Str
  iface : List Str
  model : List Str
  deriving DecidableEq, Repr

/-- `DeviceFilter{}`. -/
def DeviceFilter.empty : DeviceFilter := ⟨[], [], [], [], []⟩

/-- `parseFilterArguments` on the arguments that are left: the number of arguments consumed and
the extended filter, or the text of the `std::invalid_argument`. -/
def parseFilterArguments (argv : List Str) (filter : DeviceFilter) :
    Except Str (ℕ × DeviceFilter) :=
  match argv with
  | [] => .error "-f expects an option".toList
  | p :: _ =>
    if p.take 5 = "name=".toList then
      .ok (1, { filter with name := filter.name ++ [p.drop 5] })
    else if p.take 7 = "serial=".toList then
      .ok (1, { filter with serial := filter.serial ++ [p.drop 7] })
    else if p.take 4 = "mac=".toList then
      .ok (1, { filter with mac := filter.mac ++ [p.drop 4] })
    else if p.take 6 = "iface=".toList then
      .ok (1, { filter with iface := filter.iface ++ [p.drop 6] })
    else if p.take 6 = "model=".toList then
      .ok (1, { filter with model := filter.model ++ [p.drop 6] })
    else .error ("Unknown option for parameter -f: ".toList ++ p)

/-! ### Filtering -/

/-- `std::any_of` with `wildcardMatch`: it stops at the first pattern that matches. -/
def anyOf (str : Str) : List Str → Option Bool
  | [] => some false
  | f :: filter =>
    match wildcardMatches str f with
    | none => none
    | some true => some true
    | some false => anyOf str filter

/-- The lambda `matches_filter`. -/
def matchesFilter (str : Str) (filter : List Str) : Option Bool :=
  if filter = [] then some true else anyOf str filter

/-- The name under which a device is filtered and printed. -/
def displayName (d : DeviceInfo) : Str := if d.userName = [] then d.modelName else d.userName

/-- `filterDevice`. -/
def filterDevice (d : DeviceInfo) (filter : DeviceFilter) : Option Bool := do
  if !(← matchesFilter (displayName d) filter.name) then return false
  if !(← matchesFilter d.serialNumber filter.serial) then return false
  if !(← matchesFilter (mac2string d.mac) filter.mac) then return false
  if !(← matchesFilter d.ifaceName filter.iface) then return false
  if !(← matchesFilter d.modelName filter.model) then return false
  return true

/-- `std::sort` on records: a permutation in ascending order, stable or not. -/
structure StdSort where
  sort : List DeviceInfo → List DeviceInfo
  perm : ∀ l, (sort l).Perm l
  sorted : ∀ l, (sort l).Pairwise fun d e => d.key ≤ e.key

/-- The records that `std::sort` and `std::unique` leave: one for each pair of MAC address and
interface. -/
def uniqueInfos (σ : StdSort) (infos : List DeviceInfo) : List DeviceInfo :=
  (σ.sort infos).destutter fun d e => d.key ≠ e.key

/-- The last loop of `discoverWithFilter`. -/
def filterDevices (filter : DeviceFilter) : List DeviceInfo → Option (List DeviceInfo)
  | [] => some []
  | info :: infos => do
    let accepted ← filterDevice info filter
    let rest ← filterDevices filter infos
    return if accepted then info :: rest else rest

/-- `discoverWithFilter` on the records that its collecting loop has received. -/
def discoverWithFilter (σ : StdSort) (infos : List DeviceInfo) (filter : DeviceFilter) :
    Option (List DeviceInfo) :=
  filterDevices filter (uniqueInfos σ infos)

/-! ### Printing -/

/-- `column_width[col]`. -/
def columnWidth (rows : List (List Str)) (col : ℕ) : ℕ :=
  (rows.map fun row => (row.getD col []).length).foldl max 0

/-- One line of `printTable`. -/
def printRow (rows : List (List Str)) (row : List Str) : Str :=
  (row.zipIdx.flatMap fun x =>
    if x.2 < row.length - 1 then
      x.1 ++ List.replicate (columnWidth rows x.2 - x.1.length) ' ' ++ ['\t']
    else x.1) ++ ['\n']

/-- `printTable`. -/
def printTable (rows : List (List Str)) : Str := rows.flatMap (printRow rows)

/-- The row with which a record starts in `printDeviceTable`. -/
def deviceRow (iponly serialonly : Bool) (d : DeviceInfo) : List Str :=
  if iponly then [ip2string d.ip]
  else if serialonly then [d.serialNumber]
  else [displayName d, d.serialNumber, ip2string d.ip, mac2string d.mac, d.modelName, d.ifaceName]

/-- The loop of `printDeviceTable`, with `last_info`. -/
def deviceRows (iponly serialonly : Bool) :
    List (List Str) → Option DeviceInfo → List DeviceInfo → List (List Str)
  | rows, _, [] => rows
  | rows, none, info :: devices =>
    deviceRows iponly serialonly (rows ++ [deviceRow iponly serialonly info]) (some info) devices
  | rows, some last, info :: devices =>
    if info.mac = last.mac ∧ !iponly ∧ !serialonly then
      -- append this interface to the existing interface list
      deviceRows iponly serialonly
        (rows.modifyLast fun row => row.modifyLast (· ++ ',' :: info.ifaceName)) (some last) devices
    else
      deviceRows iponly serialonly (rows ++ [deviceRow iponly serialonly info]) (some info) devices

/-- `printDeviceTable`. -/
def printDeviceTable (devices : List DeviceInfo) (printHeader iponly serialonly : Bool) : Str :=
  let header : List (List Str) :=
    if printHeader then
      [["Name".toList, "Serial Number".toList, "IP".toList, "MAC".toList, "Model".toList,
        "Interface(s)".toList]]
    else []
  printTable (deviceRows iponly serialonly header none devices)

/-! ### Categories -/

/-- The five categories of the filter. -/
inductive Category
  | name
  | serial
  | mac
  | iface
  | model
  deriving DecidableEq, Repr

/-- How the argument of `-f` names the category. -/
def Category.key : Category → Str
  | name => "name=".toList
  | serial => "serial=".toList
  | mac => "mac=".toList
  | iface => "iface=".toList
  | model => "model=".toList

/-- What the patterns of the category are matched with. -/
def Category.text (d : DeviceInfo) : Category → Str
  | name => displayName d
  | serial => d.serialNumber
  | mac => mac2string d.mac
  | iface => d.ifaceName
  | model => d.modelName

/-- The patterns given for a category. -/
def DeviceFilter.patterns (filter : DeviceFilter) : Category → List Str
  | .name => filter.name
  | .serial => filter.serial
  | .mac => filter.mac
  | .iface => filter.iface
  | .model => filter.model

/-- One more pattern for a category. -/
def DeviceFilter.add (filter : DeviceFilter) (c : Category) (pattern : Str) : DeviceFilter :=
  match c with
  | .name => { filter with name := filter.name ++ [pattern] }
  | .serial => { filter with serial := filter.serial ++ [pattern] }
  | .mac => { filter with mac := filter.mac ++ [pattern] }
  | .iface => { filter with iface := filter.iface ++ [pattern] }
  | .model => { filter with model := filter.model ++ [pattern] }

theorem DeviceFilter.patterns_add (filter : DeviceFilter) (c c' : Category) (pattern : Str) :
    (filter.add c pattern).patterns c' =
      if c = c' then filter.patterns c' ++ [pattern] else filter.patterns c' := by
  cases c <;> cases c' <;> rfl

/-- An argument that names a category is consumed. -/
theorem parseFilterArguments_key (c : Category) (pattern : Str) (argv : List Str)
    (filter : DeviceFilter) :
    parseFilterArguments ((c.key ++ pattern) :: argv) filter = .ok (1, filter.add c pattern) := by
  cases c <;> rfl

/-- Whatever is consumed is one argument that names a category. -/
theorem exists_key_of_parseFilterArguments {argv : List Str} {filter filter' : DeviceFilter} {n : ℕ}
    (h : parseFilterArguments argv filter = .ok (n, filter')) :
    n = 1 ∧ ∃ (c : Category) (pattern : Str) (rest : List Str),
      argv = (c.key ++ pattern) :: rest ∧ filter' = filter.add c pattern := by
  cases argv with
  | nil => simp [parseFilterArguments] at h
  | cons p rest =>
    have hsplit : ∀ (k : ℕ) (key : Str), p.take k = key → key ++ p.drop k = p := by
      rintro k key rfl
      exact List.take_append_drop k p
    simp only [parseFilterArguments] at h
    split_ifs at h with hname hserial hmac hiface hmodel <;>
      simp only [Except.ok.injEq, Prod.mk.injEq] at h <;>
      obtain ⟨rfl, rfl⟩ := h
    · exact ⟨rfl, .name, p.drop 5, rest, congrArg (· :: rest) (hsplit 5 _ hname).symm, rfl⟩
    · exact ⟨rfl, .serial, p.drop 7, rest, congrArg (· :: rest) (hsplit 7 _ hserial).symm, rfl⟩
    · exact ⟨rfl, .mac, p.drop 4, rest, congrArg (· :: rest) (hsplit 4 _ hmac).symm, rfl⟩
    · exact ⟨rfl, .iface, p.drop 6, rest, congrArg (· :: rest) (hsplit 6 _ hiface).symm, rfl⟩
    · exact ⟨rfl, .model, p.drop 6, rest, congrArg (· :: rest) (hsplit 6 _ hmodel).symm, rfl⟩

/-! ### What is accepted -/

theorem anyOf_eq_some_true {str : Str} {filter : List Str} (h : anyOf str filter = some true) :
    ∃ f ∈ filter, wildcardMatches str f = some true := by
  induction filter with
  | nil => simp [anyOf] at h
  | cons f filter ih =>
    rw [anyOf] at h
    split at h
    · simp at h
    · next hf => exact ⟨f, List.mem_cons_self, hf⟩
    · obtain ⟨g, hg, hmatch⟩ := ih h
      exact ⟨g, List.mem_cons_of_mem _ hg, hmatch⟩

/-- An accepted text matches one of the patterns, if there are any. -/
theorem matchesFilter_eq_some_true {str : Str} {filter : List Str}
    (h : matchesFilter str filter = some true) (hne : filter ≠ []) :
    ∃ f ∈ filter, wildcardMatches str f = some true := by
  rw [matchesFilter, if_neg hne] at h
  exact anyOf_eq_some_true h

/-- Where `wildcardMatch` returns on all patterns, a text is accepted exactly when there are no
patterns or one of them matches. -/
theorem matchesFilter_eq_some_true_iff {str : Str} {filter : List Str}
    (hdef : ∀ f ∈ filter, wildcardMatches str f ≠ none) :
    matchesFilter str filter = some true ↔
      filter = [] ∨ ∃ f ∈ filter, wildcardMatches str f = some true := by
  by_cases hnil : filter = []
  · simp [matchesFilter, hnil]
  constructor
  · exact fun h => .inr (matchesFilter_eq_some_true h hnil)
  · rintro (h | ⟨g, hg, hmatch⟩)
    · exact absurd h hnil
    rw [matchesFilter, if_neg hnil]
    clear hnil
    induction filter with
    | nil => simp at hg
    | cons f filter ih =>
      rw [anyOf]
      split
      · next hf => exact absurd hf (hdef f List.mem_cons_self)
      · rfl
      · next hf =>
        rcases List.mem_cons.1 hg with rfl | hg
        · rw [hf] at hmatch
          simp at hmatch
        · exact ih (fun f hf => hdef f (List.mem_cons_of_mem _ hf)) hg

/-- **A record is accepted when it satisfies each category.** -/
theorem filterDevice_eq_some_true_iff (d : DeviceInfo) (filter : DeviceFilter) :
    filterDevice d filter = some true ↔
      ∀ c : Category, matchesFilter (c.text d) (filter.patterns c) = some true := by
  have hall : (∀ c : Category, matchesFilter (c.text d) (filter.patterns c) = some true) ↔
      matchesFilter (displayName d) filter.name = some true ∧
      matchesFilter d.serialNumber filter.serial = some true ∧
      matchesFilter (mac2string d.mac) filter.mac = some true ∧
      matchesFilter d.ifaceName filter.iface = some true ∧
      matchesFilter d.modelName filter.model = some true := by
    constructor
    · exact fun h => ⟨h .name, h .serial, h .mac, h .iface, h .model⟩
    · rintro ⟨h1, h2, h3, h4, h5⟩ (_ | _ | _ | _ | _)
      exacts [h1, h2, h3, h4, h5]
  rw [hall, filterDevice]
  rcases matchesFilter (displayName d) filter.name with _ | _ | _ <;> simp
  rcases matchesFilter d.serialNumber filter.serial with _ | _ | _ <;> simp
  rcases matchesFilter (mac2string d.mac) filter.mac with _ | _ | _ <;> simp
  rcases matchesFilter d.ifaceName filter.iface with _ | _ | _ <;> simp
  rcases matchesFilter d.modelName filter.model with _ | _ | _ <;> simp

/-- The returned records, when the filter was defined on all of them. -/
theorem filterDevices_eq_some {filter : DeviceFilter} {infos devices : List DeviceInfo}
    (h : filterDevices filter infos = some devices) :
    devices = infos.filter fun d => filterDevice d filter = some true := by
  induction infos generalizing devices with
  | nil => simpa [filterDevices] using h.symm
  | cons info infos ih =>
    simp only [filterDevices, Option.bind_eq_bind, Option.bind_eq_some_iff, Option.pure_def,
      Option.some.injEq] at h
    obtain ⟨accepted, hacc, rest, hrest, rfl⟩ := h
    rw [List.filter_cons, ← ih hrest, hacc]
    cases accepted <;> simp

theorem mem_of_mem_uniqueInfos {σ : StdSort} {infos : List DeviceInfo} {d : DeviceInfo}
    (hd : d ∈ uniqueInfos σ infos) : d ∈ infos :=
  (σ.perm infos).subset ((List.destutter_sublist _ _).subset hd)

/-- What `discoverWithFilter` returns was received and passes the filter. -/
theorem mem_of_discoverWithFilter {σ : StdSort} {infos devices : List DeviceInfo}
    {filter : DeviceFilter} (h : discoverWithFilter σ infos filter = some devices) {d : DeviceInfo}
    (hd : d ∈ devices) : d ∈ infos ∧ filterDevice d filter = some true := by
  rw [filterDevices_eq_some h, List.mem_filter, decide_eq_true_iff] at hd
  exact ⟨mem_of_mem_uniqueInfos hd.1, hd.2⟩

/-- The records that are left are in strictly ascending order. -/
theorem pairwise_uniqueInfos (σ : StdSort) (infos : List DeviceInfo) :
    (uniqueInfos σ infos).Pairwise fun d e => d.key < e.key := by
  rw [uniqueInfos]
  convert Destutter.pairwise_destutter_key DeviceInfo.key (σ.sorted infos)

/-- Of each received pair of MAC address and interface a record is left. -/
theorem exists_mem_uniqueInfos (σ : StdSort) {infos : List DeviceInfo} {d : DeviceInfo}
    (hd : d ∈ infos) : ∃ e ∈ uniqueInfos σ infos, e.key = d.key := by
  have hsorted : d ∈ σ.sort infos := (σ.perm infos).mem_iff.2 hd
  obtain ⟨e, he, hkey⟩ := Destutter.exists_mem_destutter_key DeviceInfo.key hsorted
  refine ⟨e, ?_, hkey⟩
  rw [uniqueInfos]
  convert he

theorem nodup_uniqueInfos (σ : StdSort) (infos : List DeviceInfo) :
    (uniqueInfos σ infos).Nodup := by
  refine (pairwise_uniqueInfos σ infos).imp fun {d e} hlt => ?_
  rintro rfl
  exact lt_irrefl _ hlt

/-- Where MAC address and interface determine the record, none is lost. -/
theorem mem_uniqueInfos_iff {σ : StdSort} {infos : List DeviceInfo}
    (hkey : ∀ d ∈ infos, ∀ e ∈ infos, d.key = e.key → d = e) (d : DeviceInfo) :
    d ∈ uniqueInfos σ infos ↔ d ∈ infos := by
  refine ⟨mem_of_mem_uniqueInfos, fun hd => ?_⟩
  obtain ⟨e, he, hde⟩ := exists_mem_uniqueInfos σ hd
  exact hkey e (mem_of_mem_uniqueInfos he) d hd hde ▸ he

end Cli

end RcDiscover
