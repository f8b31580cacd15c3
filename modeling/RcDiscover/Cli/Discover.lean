import RcDiscover.Addresses
import RcDiscover.Cli.Safety
import RcDiscover.Lib.Blocks
import Mathlib.Data.List.ModifyLast

/-!
# `rcdiscover_discover.cc`

The command `ls`: it collects the responses, sorts them, drops those of equal MAC address and
interface, filters, and prints the table.  It has its own copy of what `discoverWithFilter` does.

`deviceRows_eq_blocks` turns the loop of `printDeviceTable`, which appends to the row that it has
written last, into one row for each block of neighbours with the same MAC address.
`printed_printTable` says what is then printed: the line of each row, in their order, with the
cells padded to the widths of the columns.
`runDiscover_rows` (**main result**) puts the stages together: whatever the order in which the
responses came, the printed table has one row for each MAC address that was accepted, with all of
its interfaces.
-/

namespace RcDiscover
namespace Cli

open Program Blocks

/-! ### Options -/

/-- The local variables of `runDiscover` that the options set. -/
structure DiscoverOptions where
  printheader : Bool
  iponly : Bool
  serialonly : Bool
  deviceFilter : DeviceFilter
  deriving DecidableEq, Repr

/-- Their values before the options are read. -/
def DiscoverOptions.default : DiscoverOptions := ⟨true, false, false, .empty⟩

/-- `printHelp` of `discover`. -/
def discoverHelp (command : Str) : Str :=
  command ++ " [<args>]\n".toList ++ "\n".toList ++
    "-h, --help         Show this help and exit\n".toList ++
    "-f name=<name>     Filter by name\n".toList ++
    "-f serial=<serial> Filter by serial number\n".toList ++
    "-f mac=<mac>       Filter by MAC address\n".toList ++
    "-f iface=<mac>     Filter by interface name\n".toList ++
    "-f model=<model>   Filter by model name\n".toList ++
    "--iponly           Show only the IP addresses of discovered sensors\n".toList ++
    "--serialonly       Show only the serial number of discovered sensors\n".toList

/-- How the option loop ends. -/
inductive DiscoverParsed
  | exit (effects : List Effect) (code : ℤ)
  | done (options : DiscoverOptions)
  deriving DecidableEq, Repr

/-- The option loop of `runDiscover`.  `skip` arguments have been consumed by an option already. -/
def discoverOptionLoop (help : Str) : ℕ → DiscoverOptions → List Str → DiscoverParsed
  | _, o, [] => .done o
  | skip + 1, o, _ :: argv => discoverOptionLoop help skip o argv
  | 0, o, p :: argv =>
    if p = "-iponly".toList ∨ p = "--iponly".toList then
      discoverOptionLoop help 0 { o with iponly := true, printheader := false } argv
    else if p = "-serialonly".toList ∨ p = "--serialonly".toList then
      discoverOptionLoop help 0 { o with serialonly := true, printheader := false } argv
    else if p = "-f".toList then
      match parseFilterArguments argv o.deviceFilter with
      | .error what => .exit [.cerr (what ++ "\n".toList)] 1
      | .ok (n, filter) =>
        discoverOptionLoop help n { o with deviceFilter := filter, printheader := false } argv
    else if p = "-h".toList ∨ p = "--help".toList then .exit [.cout help] 0
    else .exit [.cerr ("Invalid argument: ".toList ++ p ++ "\n".toList), .cerr help] 1

/-! ### The command -/

/-- The loop of `runDiscover` that goes through all valid entries. -/
def filteredInfos (filter : DeviceFilter) : List DeviceInfo → Option (List DeviceInfo)
  | [] => some []
  | info :: infos =>
    if !info.isValid then filteredInfos filter infos
    else do
      let accepted ← filterDevice info filter
      let rest ← filteredInfos filter infos
      return if accepted then info :: rest else rest

/-- What `runDiscover` makes of the responses that its loop has collected. -/
def processInfos (σ : StdSort) (infos : List DeviceInfo) (filter : DeviceFilter) :
    Option (List DeviceInfo) :=
  filteredInfos filter (uniqueInfos σ infos)

/-- Broadcast, collect and process. -/
def receiveInfos (env : CliEnv) (filter : DeviceFilter) :
    Program (List Effect) Abort (List DeviceInfo) :=
  ofExcept fun trace =>
    match env.discover filter.iface with
    | .error e => (.error e, trace)
    | .ok infos =>
      match processInfos env.sort infos filter with
      | none => (.error .undefined, trace)
      | some devices => (.ok devices, trace)

/-- `runDiscover`. -/
def runDiscover (env : CliEnv) (command : Str) (argv : List Str) :
    Program (List Effect) Abort ℤ :=
  match discoverOptionLoop (discoverHelp command) 0 .default argv with
  | .exit effects code => exit effects code
  | .done o => do
    let devices ← receiveInfos env o.deviceFilter
    exit [.cout (printDeviceTable devices o.printheader o.iponly o.serialonly)] 0

/-! ### Filtering -/

section Filtering

variable {filter : DeviceFilter} {infos : List DeviceInfo} {σ : StdSort}

/-- `wildcardMatch` returns on the patterns of the filter. -/
def Defined (filter : DeviceFilter) (d : DeviceInfo) : Prop :=
  ∀ c : Category, ∀ f ∈ filter.patterns c, wildcardMatches (c.text d) f ≠ none

theorem anyOf_ne_none {str : Str} {patterns : List Str}
    (h : ∀ f ∈ patterns, wildcardMatches str f ≠ none) : anyOf str patterns ≠ none := by
  induction patterns with
  | nil => simp [anyOf]
  | cons f patterns ih =>
    rw [anyOf]
    split
    · next hf => exact absurd hf (h f List.mem_cons_self)
    · simp
    · exact ih fun g hg => h g (List.mem_cons_of_mem f hg)

theorem matchesFilter_ne_none {str : Str} {patterns : List Str}
    (h : ∀ f ∈ patterns, wildcardMatches str f ≠ none) : matchesFilter str patterns ≠ none := by
  rw [matchesFilter]
  split_ifs
  · simp
  · exact anyOf_ne_none h

theorem filterDevice_ne_none {d : DeviceInfo} (h : Defined filter d) :
    filterDevice d filter ≠ none := by
  have hsome : ∀ c : Category, ∃ b, matchesFilter (c.text d) (filter.patterns c) = some b :=
    fun c => Option.ne_none_iff_exists'.1 (matchesFilter_ne_none (h c))
  obtain ⟨b₁, hname⟩ : ∃ b, matchesFilter (displayName d) filter.name = some b := hsome .name
  obtain ⟨b₂, hserial⟩ : ∃ b, matchesFilter d.serialNumber filter.serial = some b := hsome .serial
  obtain ⟨b₃, hmac⟩ : ∃ b, matchesFilter (mac2string d.mac) filter.mac = some b := hsome .mac
  obtain ⟨b₄, hiface⟩ : ∃ b, matchesFilter d.ifaceName filter.iface = some b := hsome .iface
  obtain ⟨b₅, hmodel⟩ : ∃ b, matchesFilter d.modelName filter.model = some b := hsome .model
  rw [filterDevice, hname, hserial, hmac, hiface, hmodel]
  cases b₁ <;> cases b₂ <;> cases b₃ <;> cases b₄ <;> cases b₅ <;> simp

theorem filterDevices_ne_none (h : ∀ d ∈ infos, Defined filter d) :
    filterDevices filter infos ≠ none := by
  induction infos with
  | nil => simp [filterDevices]
  | cons d infos ih =>
    obtain ⟨b, hb⟩ := Option.ne_none_iff_exists'.1 (filterDevice_ne_none (h d List.mem_cons_self))
    obtain ⟨rest, hrest⟩ :=
      Option.ne_none_iff_exists'.1 (ih fun e he => h e (List.mem_cons_of_mem d he))
    simp [filterDevices, hb, hrest]

/-- On valid records the two copies of the loop agree. -/
theorem filteredInfos_eq_filterDevices (h : ∀ d ∈ infos, d.isValid = true) :
    filteredInfos filter infos = filterDevices filter infos := by
  induction infos with
  | nil => rfl
  | cons d infos ih =>
    rw [filteredInfos, filterDevices, ih fun e he => h e (List.mem_cons_of_mem d he),
      h d List.mem_cons_self]
    rfl

theorem processInfos_eq_discoverWithFilter (h : ∀ d ∈ infos, d.isValid = true) :
    processInfos σ infos filter = discoverWithFilter σ infos filter :=
  filteredInfos_eq_filterDevices fun d hd => h d (mem_of_mem_uniqueInfos hd)

/-- The order of the responses and the choices of `std::sort` make no difference. -/
theorem uniqueInfos_eq_of_perm (hkey : ∀ d ∈ infos, ∀ e ∈ infos, d.key = e.key → d = e)
    {σ' : StdSort} {infos' : List DeviceInfo} (hperm : infos'.Perm infos) :
    uniqueInfos σ' infos' = uniqueInfos σ infos := by
  have hkey' : ∀ d ∈ infos', ∀ e ∈ infos', d.key = e.key → d = e := fun d hd e he =>
    hkey d (hperm.subset hd) e (hperm.subset he)
  have hsame : (uniqueInfos σ' infos').Perm (uniqueInfos σ infos) := by
    rw [List.perm_ext_iff_of_nodup (nodup_uniqueInfos σ' infos') (nodup_uniqueInfos σ infos)]
    intro d
    rw [mem_uniqueInfos_iff hkey', mem_uniqueInfos_iff hkey, hperm.mem_iff]
  refine hsame.eq_of_pairwise ?_ (pairwise_uniqueInfos σ' infos') (pairwise_uniqueInfos σ infos)
  exact fun d e _ _ hlt hlt' => absurd hlt hlt'.asymm

end Filtering

/-! ### The table -/

theorem join_concat {sep : Char} {fields : List Str} (hne : fields ≠ []) (g : Str) :
    join sep (fields ++ [g]) = join sep fields ++ sep :: g := by
  obtain ⟨f, fields, rfl⟩ := List.exists_cons_of_ne_nil hne
  clear hne
  induction fields generalizing f with
  | nil => rfl
  | cons h fields ih =>
    have htail := ih h
    simp only [List.cons_append] at htail ⊢
    rw [join, join, htail, List.append_assoc]
    rfl

/-- The row of a device and of the records of the same device that follow. -/
def blockRow (b : DeviceInfo × List DeviceInfo) : List Str :=
  [displayName b.1, b.1.serialNumber, ip2string b.1.ip, mac2string b.1.mac, b.1.modelName,
    join ',' ((b.1 :: b.2).map DeviceInfo.ifaceName)]

/-- The MAC address, as a number. -/
abbrev macKey (d : DeviceInfo) : ℕ := d.mac.toNat

theorem macKey_eq_iff {d e : DeviceInfo} : macKey d = macKey e ↔ d.mac = e.mac := UInt64.toNat_inj

theorem modifyLast_blockRow (d : DeviceInfo) (bs : List DeviceInfo) (info : DeviceInfo) :
    (blockRow (d, bs)).modifyLast (· ++ ',' :: info.ifaceName) = blockRow (d, bs ++ [info]) := by
  have hjoin := @join_concat ',' ((d :: bs).map DeviceInfo.ifaceName) (by simp) info.ifaceName
  have hmap : (d :: bs).map DeviceInfo.ifaceName ++ [info.ifaceName] =
      (d :: (bs ++ [info])).map DeviceInfo.ifaceName := by
    simp
  have hsplit : ∀ ifaces : Str, [displayName d, d.serialNumber, ip2string d.ip, mac2string d.mac,
      d.modelName, ifaces] = [displayName d, d.serialNumber, ip2string d.ip, mac2string d.mac,
      d.modelName] ++ [ifaces] := fun _ => rfl
  rw [hmap] at hjoin
  simp only [blockRow]
  rw [hsplit, List.modifyLast_concat, ← hjoin]
  rfl

/-- The records of the device that was printed last go into its row. -/
theorem deviceRows_some (rows : List (List Str)) (d : DeviceInfo) (bs devices : List DeviceInfo) :
    deviceRows false false (rows ++ [blockRow (d, bs)]) (some d) devices =
      deviceRows false false
        (rows ++ [blockRow (d, bs ++ devices.takeWhile (macKey · = macKey d))]) none
        (devices.dropWhile (macKey · = macKey d)) := by
  induction devices generalizing bs with
  | nil => simp [deviceRows]
  | cons info devices ih =>
    rw [deviceRows]
    by_cases hmac : info.mac = d.mac
    · have hkey : macKey info = macKey d := macKey_eq_iff.2 hmac
      rw [if_pos ⟨hmac, by simp⟩, List.modifyLast_concat, modifyLast_blockRow, ih,
        List.takeWhile_cons_of_pos (by simpa using hkey),
        List.dropWhile_cons_of_pos (by simpa using hkey), List.append_assoc]
      rfl
    · have hkey : macKey info ≠ macKey d := mt macKey_eq_iff.1 hmac
      rw [if_neg fun h => hmac h.1, List.takeWhile_cons_of_neg (by simpa using hkey),
        List.dropWhile_cons_of_neg (by simpa using hkey), List.append_nil, deviceRows]

/-- **The loop writes one row for each block** of neighbours with the same MAC address. -/
theorem deviceRows_eq_blocks (rows : List (List Str)) (devices : List DeviceInfo) :
    deviceRows false false rows none devices =
      rows ++ (blocks macKey devices).map blockRow := by
  induction devices using blocks.induct macKey generalizing rows with
  | case1 => simp [deviceRows]
  | case2 d devices ih =>
    rw [deviceRows, blocks_cons, List.map_cons]
    have hrow : deviceRow false false d = blockRow (d, []) := rfl
    rw [hrow, deviceRows_some, ih, List.nil_append, List.append_assoc]
    rfl

/-- With `--iponly` or `--serialonly` there is one row for each record. -/
theorem deviceRows_only {iponly serialonly : Bool} (h : iponly = true ∨ serialonly = true)
    (rows : List (List Str)) (last : Option DeviceInfo) (devices : List DeviceInfo) :
    deviceRows iponly serialonly rows last devices =
      rows ++ devices.map (deviceRow iponly serialonly) := by
  induction devices generalizing rows last with
  | nil => cases last <;> simp [deviceRows]
  | cons info devices ih =>
    cases last with
    | none => rw [deviceRows, ih, List.append_assoc]; rfl
    | some last =>
      have hnot : ¬ (info.mac = last.mac ∧ !iponly ∧ !serialonly) := by
        rcases h with rfl | rfl <;> simp
      rw [deviceRows, if_neg hnot, ih, List.append_assoc]
      rfl

/-! ### The lines -/

/-- The width of a column: no cell of it is longer, and no smaller width will do. -/
def IsWidth (table : List (List Str)) (col w : ℕ) : Prop :=
  IsLeast {w | ∀ row ∈ table, ∀ cell, row[col]? = some cell → cell.length ≤ w} w

/-- The line of a row: its cells with a tabulator between any two of them, each but the last one
filled with blanks to the width of its column. -/
def IsLine (table : List (List Str)) (row : List Str) (line : Str) : Prop :=
  ∃ cells : List Str, line = join '\t' cells ∧ cells.length = row.length ∧
    ∀ col cell, row[col]? = some cell →
      (col + 1 = row.length → cells[col]? = some cell) ∧
      (col + 1 < row.length → ∃ blanks, IsWidth table col (cell.length + blanks) ∧
        cells[col]? = some (cell ++ List.replicate blanks ' '))

/-- The text is that of the table: the line of each row, in the order of the rows. -/
def Printed (table : List (List Str)) (text : Str) : Prop :=
  ∃ lines, List.Forall₂ (IsLine table) table lines ∧ text = lines.flatMap (· ++ ['\n'])

/-- The loop over all rows finds the width. -/
theorem isWidth_columnWidth (table : List (List Str)) (col : ℕ) :
    IsWidth table col (columnWidth table col) := by
  have hmax : ∀ (l : List ℕ) (n w : ℕ), l.foldl max n ≤ w ↔ n ≤ w ∧ ∀ m ∈ l, m ≤ w := by
    intro l
    induction l with
    | nil => simp
    | cons m l ih =>
      intro n w
      rw [List.foldl_cons, ih, max_le_iff, List.forall_mem_cons, and_assoc]
  have hle : ∀ w, columnWidth table col ≤ w ↔
      ∀ row ∈ table, ∀ cell, row[col]? = some cell → cell.length ≤ w := by
    intro w
    simp only [columnWidth, hmax, Nat.zero_le, true_and, List.forall_mem_map,
      List.getD_eq_getElem?_getD]
    refine forall₂_congr fun row _ => ?_
    cases row[col]? <;> simp
  exact ⟨(hle _).1 le_rfl, fun w hw => (hle w).2 hw⟩

/-- The loop over the cells of a row puts a tabulator after each but the last one. -/
theorem flatMap_zipIdx_eq_join (fill : Str × ℕ → Str) (row : List Str) (n : ℕ) :
    ((row.zipIdx n).flatMap fun x =>
        if x.2 < n + row.length - 1 then fill x ++ ['\t'] else x.1) =
      join '\t' ((row.zipIdx n).map fun x =>
        if x.2 < n + row.length - 1 then fill x else x.1) := by
  induction row generalizing n with
  | nil => rfl
  | cons cell row ih =>
    cases row with
    | nil => simp [join]
    | cons cell' row =>
      have hlen : n + (cell :: cell' :: row).length - 1 = n + 1 + (cell' :: row).length - 1 := by
        simp only [List.length_cons]
        omega
      have hn : n < n + 1 + (cell' :: row).length - 1 := by
        simp only [List.length_cons]
        omega
      have htail := ih (n + 1)
      rw [hlen, List.zipIdx_cons, List.flatMap_cons, htail, List.map_cons, if_pos hn, if_pos hn,
        List.zipIdx_cons, List.map_cons, join, List.append_assoc]
      rfl

theorem exists_line_of_printRow {table : List (List Str)} {row : List Str} (hrow : row ∈ table) :
    ∃ line, IsLine table row line ∧ printRow table row = line ++ ['\n'] := by
  have hjoin := flatMap_zipIdx_eq_join
    (fun x => x.1 ++ List.replicate (columnWidth table x.2 - x.1.length) ' ') row 0
  simp only [Nat.zero_add] at hjoin
  refine ⟨_, ⟨_, hjoin, by simp, fun col cell hcell => ?_⟩, rfl⟩
  have hget : row.zipIdx[col]? = some (cell, col) := by
    rw [List.getElem?_zipIdx, hcell]
    simp
  constructor
  · intro hlast
    rw [List.getElem?_map, hget, Option.map_some, if_neg (by simp only; omega)]
  · intro hlt
    have hwidth := isWidth_columnWidth table col
    have hle : cell.length ≤ columnWidth table col :=
      hwidth.1 row hrow cell hcell
    refine ⟨columnWidth table col - cell.length, ?_, ?_⟩
    · rwa [Nat.add_sub_cancel' hle]
    · rw [List.getElem?_map, hget, Option.map_some, if_pos (by simp only; omega)]

/-- **`printTable` prints the line of every row**, in their order. -/
theorem printed_printTable (table : List (List Str)) : Printed table (printTable table) := by
  choose! line hline hrow using fun row (h : row ∈ table) => exists_line_of_printRow h
  refine ⟨table.map line, ?_, ?_⟩
  · rw [List.forall₂_map_right_iff, List.forall₂_same]
    exact hline
  · rw [printTable, List.flatMap_map]
    exact List.flatMap_congr hrow

example : printTable [["Name".toList, "IP".toList], ["rc".toList, "10.0.0.2".toList]] =
    "Name\tIP\nrc  \t10.0.0.2\n".toList := by decide

/-! ### What is printed -/

/-- A response that passes the filter. -/
def Accepted (filter : DeviceFilter) (infos : List DeviceInfo) (d : DeviceInfo) : Prop :=
  d ∈ infos ∧ filterDevice d filter = some true

/-- The row of the device with the MAC address `m`: it starts with the data that the device
reported on the first of its interfaces, and ends with all of these. -/
def IsRowOf (filter : DeviceFilter) (infos : List DeviceInfo) (m : UInt64) (row : List Str) :
    Prop :=
  ∃ (d : DeviceInfo) (ifaces : List Str), Accepted filter infos d ∧ d.mac = m ∧
    ifaces.Pairwise (· < ·) ∧ ifaces.head? = some d.ifaceName ∧
    (∀ i, i ∈ ifaces ↔ ∃ e, Accepted filter infos e ∧ e.mac = m ∧ e.ifaceName = i) ∧
    row = [displayName d, d.serialNumber, ip2string d.ip, mac2string m, d.modelName,
      join ',' ifaces]

/-- The rows of the table for these responses. -/
structure Table (o : DiscoverOptions) (infos : List DeviceInfo) (rows : List (List Str)) :
    Prop where
  devices : o.iponly = false → o.serialonly = false → ∃ ms : List UInt64,
    (ms.map UInt64.toNat).Pairwise (· < ·) ∧
    (∀ m, m ∈ ms ↔ ∃ d, Accepted o.deviceFilter infos d ∧ d.mac = m) ∧
    List.Forall₂ (IsRowOf o.deviceFilter infos) ms rows
  records : o.iponly = true ∨ o.serialonly = true → ∃ ds : List DeviceInfo,
    (ds.Pairwise fun d e => d.key < e.key) ∧ (∀ d, d ∈ ds ↔ Accepted o.deviceFilter infos d) ∧
    rows = ds.map (deviceRow o.iponly o.serialonly)

/-- The header of `printDeviceTable`. -/
def tableHeader (printheader : Bool) : List (List Str) :=
  if printheader then
    [["Name".toList, "Serial Number".toList, "IP".toList, "MAC".toList, "Model".toList,
      "Interface(s)".toList]]
  else []

/-- The header is the first row and is not appended to. -/
theorem printDeviceTable_eq (devices : List DeviceInfo) (printheader iponly serialonly : Bool) :
    printDeviceTable devices printheader iponly serialonly =
      printTable (tableHeader printheader ++ deviceRows iponly serialonly [] none devices) := by
  change printTable (deviceRows iponly serialonly (tableHeader printheader) none devices) = _
  congr 1
  by_cases h : iponly = true ∨ serialonly = true
  · rw [deviceRows_only h, deviceRows_only h, List.nil_append]
  · simp only [not_or, Bool.not_eq_true] at h
    rw [h.1, h.2, deviceRows_eq_blocks, deviceRows_eq_blocks, List.nil_append]

section Rows

variable {filter : DeviceFilter} {infos devices : List DeviceInfo}

/-- The blocks of the accepted records are the rows of their MAC addresses. -/
theorem isRowOf_blockRow (hsorted : devices.Pairwise fun d e => d.key < e.key)
    (hmem : ∀ d, d ∈ devices ↔ Accepted filter infos d) {b : DeviceInfo × List DeviceInfo}
    (hb : b ∈ blocks macKey devices) : IsRowOf filter infos b.1.mac (blockRow b) := by
  obtain ⟨d, bs⟩ := b
  have hmacs : devices.Pairwise fun d e => macKey d ≤ macKey e :=
    hsorted.imp fun hlt => Prod.Lex.monotone_fst _ _ hlt.le
  have hblock : d :: bs = devices.filter (macKey · = macKey d) :=
    cons_eq_filter_of_mem_blocks hmacs hb
  have hin : ∀ e, e ∈ d :: bs ↔ Accepted filter infos e ∧ e.mac = d.mac := by
    intro e
    rw [hblock, List.mem_filter, hmem, decide_eq_true_iff, macKey_eq_iff]
  refine ⟨d, (d :: bs).map DeviceInfo.ifaceName, (hmem d).1 (mem_of_mem_blocks macKey hb), rfl, ?_,
    rfl, fun i => ?_, rfl⟩
  · -- of two records of one device the interface decides
    rw [List.pairwise_map]
    refine List.Pairwise.imp_of_mem ?_ (hblock ▸ hsorted.filter _)
    intro e f he hf hlt
    have hmac : e.mac = f.mac := ((hin e).1 he).2.trans ((hin f).1 hf).2.symm
    rcases Prod.Lex.toLex_lt_toLex.1 hlt with hlt | ⟨-, hlt⟩
    · exact absurd hlt (by simp [hmac])
    · exact hlt
  · rw [List.mem_map]
    simp only [hin, and_assoc]

theorem table_deviceRows {o : DiscoverOptions}
    (hsorted : devices.Pairwise fun d e => d.key < e.key)
    (hmem : ∀ d, d ∈ devices ↔ Accepted o.deviceFilter infos d) :
    Table o infos (deviceRows o.iponly o.serialonly [] none devices) where
  devices hip hserial := by
    have hmacs : devices.Pairwise fun d e => macKey d ≤ macKey e :=
      hsorted.imp fun hlt => Prod.Lex.monotone_fst _ _ hlt.le
    refine ⟨(blocks macKey devices).map fun b => b.1.mac, ?_, fun m => ?_, ?_⟩
    · rw [List.map_map]
      exact pairwise_blocks hmacs
    · have hkeys : m.toNat ∈ (blocks macKey devices).map (fun b => macKey b.1) ↔
          ∃ d ∈ devices, macKey d = m.toNat := mem_keys_blocks_iff devices m.toNat
      simp only [List.mem_map, UInt64.toNat_inj, hmem] at hkeys
      simpa only [List.mem_map] using hkeys
    · rw [hip, hserial, deviceRows_eq_blocks, List.nil_append, List.forall₂_map_left_iff,
        List.forall₂_map_right_iff, List.forall₂_same]
      exact fun b hb => isRowOf_blockRow hsorted hmem hb
  records h := ⟨devices, hsorted, hmem, by rw [deviceRows_only h, List.nil_append]⟩

/-- What `discoverWithFilter` returns, from responses that it does not lose any of. -/
theorem discoverWithFilter_spec {σ : StdSort}
    (hkey : ∀ d ∈ infos, ∀ e ∈ infos, d.key = e.key → d = e)
    (hdef : ∀ d ∈ infos, Defined filter d) :
    ∃ devices, discoverWithFilter σ infos filter = some devices ∧
      (devices.Pairwise fun d e => d.key < e.key) ∧
      ∀ d, d ∈ devices ↔ Accepted filter infos d := by
  obtain ⟨devices, hdevices⟩ := Option.ne_none_iff_exists'.1
    (filterDevices_ne_none fun d hd => hdef d (mem_of_mem_uniqueInfos (σ := σ) hd))
  have heq := filterDevices_eq_some hdevices
  refine ⟨devices, hdevices, ?_, fun d => ?_⟩
  · rw [heq]
    exact (pairwise_uniqueInfos σ infos).filter _
  · rw [heq, List.mem_filter, mem_uniqueInfos_iff hkey, decide_eq_true_iff, Accepted]

end Rows

theorem exec_runDiscover {env : CliEnv} {command : Str} {argv : List Str} {o : DiscoverOptions}
    {infos devices : List DeviceInfo}
    (hopts : discoverOptionLoop (discoverHelp command) 0 .default argv = .done o)
    (hreceived : env.discover o.deviceFilter.iface = .ok infos)
    (hdevices : processInfos env.sort infos o.deviceFilter = some devices) :
    exec (runDiscover env command argv) [] =
      (.ok 0, [.cout (printDeviceTable devices o.printheader o.iponly o.serialonly)]) := by
  have hreceive : exec (receiveInfos env o.deviceFilter) [] = (.ok devices, []) := by
    rw [receiveInfos, exec_ofExcept]
    simp only [hreceived, hdevices]
  rw [runDiscover, hopts]
  simp only
  rw [exec_bind_ok hreceive]
  rfl

/-- **The table lists every accepted device once with all its interfaces**, whatever the order in
which the responses came. -/
theorem runDiscover_rows {env : CliEnv} {command : Str} {argv : List Str} {o : DiscoverOptions}
    {infos : List DeviceInfo}
    (hopts : discoverOptionLoop (discoverHelp command) 0 .default argv = .done o)
    (hreceived : env.discover o.deviceFilter.iface = .ok infos)
    (hvalid : ∀ d ∈ infos, d.isValid = true)
    (hkey : ∀ d ∈ infos, ∀ e ∈ infos, d.key = e.key → d = e)
    (hdef : ∀ d ∈ infos, Defined o.deviceFilter d) :
    ∃ (devices : List DeviceInfo) (rows : List (List Str)) (text : Str),
      exec (runDiscover env command argv) [] = (.ok 0, [.cout text]) ∧
      Printed (tableHeader o.printheader ++ rows) text ∧
      Table o infos rows ∧
      processInfos env.sort infos o.deviceFilter = some devices ∧
      discoverWithFilter env.sort infos o.deviceFilter = some devices ∧
      ∀ (env' : CliEnv) (infos' : List DeviceInfo), infos'.Perm infos →
        env'.discover o.deviceFilter.iface = .ok infos' →
        exec (runDiscover env' command argv) [] = exec (runDiscover env command argv) [] := by
  obtain ⟨devices, hdevices, hsorted, hmem⟩ :=
    discoverWithFilter_spec (σ := env.sort) hkey hdef
  have hprocess : processInfos env.sort infos o.deviceFilter = some devices := by
    rw [processInfos_eq_discoverWithFilter hvalid, hdevices]
  have hrun := exec_runDiscover hopts hreceived hprocess
  refine ⟨devices, deviceRows o.iponly o.serialonly [] none devices, _, hrun, ?_,
    table_deviceRows hsorted hmem, hprocess, hdevices, ?_⟩
  · rw [printDeviceTable_eq]
    exact printed_printTable _
  · intro env' infos' hperm hreceived'
    have hprocess' : processInfos env'.sort infos' o.deviceFilter = some devices := by
      rw [processInfos, uniqueInfos_eq_of_perm (σ := env.sort) hkey hperm]
      exact hprocess
    rw [exec_runDiscover hopts hreceived' hprocess', hrun]

/-- A sensor that answers on two interfaces. -/
theorem runDiscover_rows_two_interfaces :
    let infos := [visard "eth1".toList, visard "eth0".toList]
    ∃ (devices : List DeviceInfo) (rows : List (List Str)) (text : Str),
      exec (runDiscover (receiving infos) "rcdiscover".toList []) [] = (.ok 0, [.cout text]) ∧
      Printed (tableHeader true ++ rows) text ∧
      Table .default infos rows ∧
      discoverWithFilter .insertion infos .empty = some devices := by
  intro infos
  have hvalid : ∀ d ∈ infos, d.isValid = true := by decide
  have hkey : ∀ d ∈ infos, ∀ e ∈ infos, d.key = e.key → d = e := by decide
  have hdef : ∀ d ∈ infos, Defined DiscoverOptions.default.deviceFilter d := by
    intro d _ c f hf
    cases c <;> simp [DiscoverOptions.default, DeviceFilter.empty, DeviceFilter.patterns] at hf
  have hopts : discoverOptionLoop (discoverHelp "rcdiscover".toList) 0 .default [] =
      .done .default := rfl
  have hreceived : (receiving infos).discover DiscoverOptions.default.deviceFilter.iface =
      .ok infos := rfl
  obtain ⟨devices, rows, text, hrun, hprinted, htable, -, hdevices, -⟩ :=
    runDiscover_rows hopts hreceived hvalid hkey hdef
  exact ⟨devices, rows, text, hrun, hprinted, htable, hdevices⟩

end Cli
end RcDiscover
