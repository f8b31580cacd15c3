import RcDiscover.Streams

/-!
# The configuration file of `rcdiscover-gui.cc`

`main` writes its settings as lines of a key and a value, with the filter text as it is, and reads
them back as words, of which each two are a key and a value.

* `storeConfiguration`, `loadConfiguration`: the two ends;
* `loadLoop_eq_loadPairs`: the reading loop on the pairs of words of the file;
* `loadConfiguration_storeConfiguration_iff` (**main result**): the settings are read back exactly
  when the words of the filter text do not get in the way (`Undisturbed`).
-/

namespace RcDiscover
namespace Gui

/-- The settings that `main` keeps in the file. -/
structure Config where
  width : Int32
  height : Int32
  onlyRC : Int32
  sortCol : Int32
  sortDown : Bool
  deriving DecidableEq

/-- The values that `main` starts with. -/
def Config.default : Config := ⟨1180, 394, 1, 0, true⟩

/-! ### Both ends -/

/-- `out << key << ' ' << value << std::endl`. -/
def line (key value : Str) : Str := key ++ ' ' :: value ++ ['\n']

/-- `DeviceList::getSorting` with the settings of the list, on the variables of `main`. -/
def getSorting (list : Int32 × Bool) (sort : Int32 × Bool) : Int32 × Bool :=
  if 0 ≤ sort.1 ∧ sort.1 < 8 then list else sort

/-- What `main` writes at the end.  `c` are the settings of the window and `sort` is what `main` has
set at the start. -/
def storeConfiguration (sort : Int32 × Bool) (c : Config) (filter : Str) : Str :=
  let sort := getSorting (c.sortCol, c.sortDown) sort
  line "width".toList (decimalInt c.width) ++ line "height".toList (decimalInt c.height) ++
    line "only_rc".toList (decimalInt c.onlyRC) ++
    (if 0 < filter.length then line "filter".toList filter else []) ++
    line "sort_col".toList (decimalInt sort.1) ++
    line "sort_down".toList (if sort.2 then "1".toList else "0".toList)

/-- The tests in the body of the reading loop, of which one applies at most.  `none`: `std::stoi`
throws. -/
def assign (c : Config) (key value : Str) : Option Config :=
  if key = "width".toList then (stoi value).toOption.map fun v => { c with width := v }
  else if key = "height".toList then (stoi value).toOption.map fun v => { c with height := v }
  else if key = "only_rc".toList then (stoi value).toOption.map fun v => { c with onlyRC := v }
  else if key = "sort_col".toList then (stoi value).toOption.map fun v => { c with sortCol := v }
  else if key = "sort_down".toList then
    (stoi value).toOption.map fun v => { c with sortDown := decide (v ≠ (0 : Int32)) }
  else some c

/-- The reading loop `while (in >> key >> value)`, with what an exception leaves behind.  `fuel`
bounds the number of passes; each of them takes characters from the file. -/
def loadLoop : ℕ → Config → IStream → Config
  | 0, c, _ => c
  | fuel + 1, c, is =>
    let (key, is) := is.extractString []
    let (value, is) := is.extractString []
    if is.fail then c
    else if 0 < value.length then
      match assign c key value with
      | some c => loadLoop fuel c is
      | none => c
    else loadLoop fuel c is

/-- What `main` reads from a file with this content. -/
def loadConfiguration (content : Str) : Config :=
  loadLoop (content.length + 1) .default (.ofStr content)

/-! ### The pairs of words -/

/-- The words in pairs; a last one without partner is dropped. -/
def pairs : List Str → List (Str × Str)
  | key :: value :: ts => (key, value) :: pairs ts
  | _ => []

/-- The reading loop on the pairs. -/
def loadPairs (c : Config) : List (Str × Str) → Config
  | [] => c
  | p :: ps =>
    match assign c p.1 p.2 with
    | some c => loadPairs c ps
    | none => c

/-- **The loop reads the words of the file in pairs.** -/
theorem loadLoop_eq_loadPairs (fuel : ℕ) (c : Config) (s : Str) (h : s.length < fuel) :
    loadLoop fuel c ⟨s, s.isEmpty, false⟩ = loadPairs c (pairs (tokens s)) := by
  induction fuel generalizing c s with
  | zero => omega
  | succ fuel ih =>
    rw [loadLoop]
    rcases htok : tokens s with _ | ⟨key, ts⟩
    · have hfail := extractString_fail [] (extractString_nil [] htok)
      simp only [hfail, if_true]
      rfl
    obtain ⟨rest, hkey, hrest, hlen⟩ := extractString_cons [] htok
    simp only [hkey]
    rcases ts with _ | ⟨value, ts⟩
    · have hfail := extractString_nil [] hrest
      simp only [hfail, if_true]
      rfl
    obtain ⟨rest', hvalue, hrest', hlen'⟩ := extractString_cons [] hrest
    have hloop : ∀ c, loadLoop fuel c ⟨rest', rest'.isEmpty, false⟩ = loadPairs c (pairs ts) :=
      fun c => hrest' ▸ ih c rest' (by omega)
    have hpos : 0 < value.length := List.length_pos_iff.2 (ne_nil_of_mem_tokens (s := rest)
      (hrest ▸ List.mem_cons_self))
    simp only [hvalue, Bool.false_eq_true, if_false, if_pos hpos, pairs, loadPairs, hloop]

theorem loadConfiguration_eq (content : Str) :
    loadConfiguration content = loadPairs .default (pairs (tokens content)) := by
  rw [loadConfiguration, ← loadLoop_eq_loadPairs _ _ _ (Nat.lt_succ_self _)]
  cases content with
  | nil => rfl
  | cons x content => rfl

/-! ### Readings of a setting -/

/-- The keys that the loop looks for. -/
def settingKeys : List Str :=
  ["width".toList, "height".toList, "only_rc".toList, "sort_col".toList, "sort_down".toList]

/-- The reading of one pair for one setting. -/
def reading (key : Str) (p : Str × Str) : Option Int32 :=
  if p.1 = key then (stoi p.2).toOption else none

/-- The loop goes on behind the pair. -/
def readable (p : Str × Str) : Bool :=
  settingKeys.all fun key => decide (p.1 ≠ key) || (stoi p.2).toOption.isSome

/-- The last reading of a setting before the loop ends. -/
def lastReading (key : Str) : List (Str × Str) → Option Int32
  | [] => none
  | p :: ps => if readable p then (lastReading key ps).or (reading key p) else none

/-- The settings that replace those of `c`. -/
def Config.override (c : Config) (r : Str → Option Int32) : Config where
  width := (r "width".toList).getD c.width
  height := (r "height".toList).getD c.height
  onlyRC := (r "only_rc".toList).getD c.onlyRC
  sortCol := (r "sort_col".toList).getD c.sortCol
  sortDown := ((r "sort_down".toList).map fun v => decide (v ≠ (0 : Int32))).getD c.sortDown

/-- The keys differ, so that one test at most applies. -/
theorem nodup_settingKeys : settingKeys.Nodup := by decide

theorem assign_eq (c : Config) (p : Str × Str) :
    assign c p.1 p.2 = if readable p then some (c.override fun key => reading key p) else none := by
  obtain ⟨key, value⟩ := p
  have hnodup := nodup_settingKeys
  simp only [assign, readable, reading, Config.override, settingKeys, List.all_cons,
    List.all_nil] at hnodup ⊢
  generalize "width".toList = width, "height".toList = height, "only_rc".toList = onlyRC,
    "sort_col".toList = sortCol, "sort_down".toList = sortDown at hnodup ⊢
  simp only [List.nodup_cons, List.mem_cons, List.not_mem_nil, or_false, not_or] at hnodup
  obtain ⟨⟨h12, h13, h14, h15⟩, ⟨h23, h24, h25⟩, ⟨h34, h35⟩, h45, -⟩ := hnodup
  by_cases hkey : key = width ∨ key = height ∨ key = onlyRC ∨ key = sortCol ∨ key = sortDown
  · rcases hkey with rfl | rfl | rfl | rfl | rfl <;> cases hv : (stoi value).toOption <;>
      simp [*, Ne.symm]
  · simp only [not_or] at hkey
    simp [hkey]

theorem override_override (c : Config) (r r' : Str → Option Int32) :
    (c.override r).override r' = c.override fun key => (r' key).or (r key) := by
  have hgetD : ∀ {α : Type} (o o' : Option α) (d : α), o'.getD (o.getD d) = (o'.or o).getD d := by
    intro α o o' d
    cases o' <;> rfl
  simp only [Config.override, hgetD, Option.map_or]

/-- The loop leaves the last readings. -/
theorem loadPairs_eq (c : Config) (ps : List (Str × Str)) :
    loadPairs c ps = c.override fun key => lastReading key ps := by
  induction ps generalizing c with
  | nil => rfl
  | cons p ps ih =>
    rw [loadPairs, assign_eq]
    by_cases hp : readable p = true
    · simp only [hp, if_true, ih, override_override, lastReading]
    · simp only [lastReading, if_neg hp]
      rfl

theorem lastReading_append (key : Str) (ps qs : List (Str × Str)) :
    lastReading key (ps ++ qs) =
      if ps.all readable then (lastReading key qs).or (lastReading key ps)
      else lastReading key ps := by
  induction ps with
  | nil => simp [lastReading]
  | cons p ps ih =>
    rw [List.cons_append, lastReading, lastReading, ih, List.all_cons]
    by_cases hp : readable p = true
    · by_cases hps : ps.all readable = true
      · simp only [hp, hps, if_true, Bool.and_self, Option.or_assoc]
      · simp [hps]
    · simp [hp]

theorem lastReading_eq_none {key : Str} {ps : List (Str × Str)}
    (h : ∀ p ∈ ps, reading key p = none) : lastReading key ps = none := by
  induction ps with
  | nil => rfl
  | cons p ps ih =>
    rw [lastReading, h p List.mem_cons_self, ih fun q hq => h q (List.mem_cons_of_mem p hq)]
    exact ite_self none

/-! ### The words of the file -/

theorem pairs_append {ts : List Str} (h : Even ts.length) (us : List Str) :
    pairs (ts ++ us) = pairs ts ++ pairs us := by
  induction ts using pairs.induct with
  | case1 key value ts ih =>
    have heven : Even ts.length := by
      simpa [Nat.even_add_one] using h
    rw [List.cons_append, List.cons_append, pairs, pairs, ih heven, List.cons_append]
  | case2 ts hts =>
    rcases ts with _ | ⟨t, _ | ⟨t', ts⟩⟩
    · rfl
    · simp at h
    · exact absurd rfl (hts t t' ts)

/-- A line that begins with a word. -/
theorem tokens_line {key : Str} (hne : key ≠ []) (hkey : key.any isSpace = false)
    (value rest : Str) :
    tokens (line key value ++ rest) = key :: (tokens value ++ tokens rest) := by
  have hspace : isSpace ' ' = true := rfl
  have hline : line key value ++ rest = key ++ ' ' :: (value ++ '\n' :: rest) := by simp [line]
  have hword : ∀ c ∈ key, isSpace c = false := by simpa using hkey
  rw [hline, tokens_append_cons key hspace, tokens_word hne hword, tokens_append_cons value rfl]
  rfl

theorem tokens_decimalInt (z : Int32) : tokens (decimalInt z) = [decimalInt z] := by
  refine tokens_word (decimalInt_ne_nil z) fun c hc => ?_
  rcases mem_decimalInt hc with rfl | hc
  · rfl
  · exact isSpace_eq_false_of_digit hc

/-- The words of the line with the filter text. -/
def filterWords (filter : Str) : List Str :=
  if filter = [] then [] else "filter".toList :: tokens filter

/-- The lines in front of it. -/
def headPairs (c : Config) : List (Str × Str) :=
  [("width".toList, decimalInt c.width), ("height".toList, decimalInt c.height),
    ("only_rc".toList, decimalInt c.onlyRC)]

/-- The lines behind it. -/
def sortWords (sort : Int32 × Bool) : List Str :=
  ["sort_col".toList, decimalInt sort.1, "sort_down".toList,
    if sort.2 then "1".toList else "0".toList]

theorem pairs_tokens_storeConfiguration (sort : Int32 × Bool) (c : Config) (filter : Str) :
    pairs (tokens (storeConfiguration sort c filter)) =
      headPairs c ++
        pairs (filterWords filter ++ sortWords (getSorting (c.sortCol, c.sortDown) sort)) := by
  have hfilter : ∀ rest, tokens ((if 0 < filter.length then line "filter".toList filter else []) ++
      rest) = filterWords filter ++ tokens rest := by
    intro rest
    by_cases hf : filter = []
    · simp [hf, filterWords]
    · rw [if_pos (List.length_pos_iff.2 hf), filterWords, if_neg hf,
        tokens_line (by decide) rfl]
      rfl
  have hsort : ∀ down : Bool, tokens (line "sort_down".toList
      (if down then "1".toList else "0".toList)) =
        ["sort_down".toList, if down then "1".toList else "0".toList] := by decide
  rw [storeConfiguration]
  simp only [List.append_assoc]
  rw [tokens_line (by decide) rfl, tokens_line (by decide) rfl,
    tokens_line (by decide) rfl, hfilter, tokens_line (by decide) rfl, hsort]
  simp only [tokens_decimalInt, List.cons_append, List.nil_append, pairs, headPairs, sortWords]

/-- The pairs that the loop makes from words of the filter text only; the first word is the value
of the key `filter`. -/
def between (filter : Str) : List (Str × Str) := pairs (tokens filter).tail

/-- The lines behind the filter text are read. -/
def Reached (filter : Str) : Prop :=
  filter = [] ∨ (tokens filter).length % 2 = 1 ∧ (between filter).all readable = true

instance (filter : Str) : Decidable (Reached filter) := by
  unfold Reached
  infer_instance

/-- Nothing is read from a value that is a key. -/
theorem reading_sort_col (key t : Str) : reading key (t, "sort_col".toList) = none := by
  have hstoi : (stoi "sort_col".toList).toOption = none := by decide
  rw [reading, hstoi, ite_self]

theorem reading_sort_down (key t : Str) : reading key (t, "sort_down".toList) = none := by
  have hstoi : (stoi "sort_down".toList).toOption = none := by decide
  rw [reading, hstoi, ite_self]

/-- Behind an even number of words the lines of the file are what is read. -/
theorem lastReading_aligned {ts : List Str} (h : Even ts.length) (key : Str) (us : List Str) :
    lastReading key (pairs (ts ++ us)) =
      (if (pairs ts).all readable = true then lastReading key (pairs us) else none).or
        (lastReading key (pairs ts)) := by
  rw [pairs_append h, lastReading_append]
  split_ifs <;> rfl

/-- Behind an odd number of words the keys of the lines are taken as values. -/
theorem lastReading_shifted {ts : List Str} (h : Odd ts.length) (key : Str)
    (sort : Int32 × Bool) :
    lastReading key (pairs (ts ++ sortWords sort)) = lastReading key (pairs ts) := by
  have hne : ts ≠ [] := by
    rintro rfl
    exact absurd h (by decide)
  obtain ⟨init, last, rfl⟩ := (List.eq_nil_or_concat' ts).resolve_left hne
  have heven : Even init.length := by
    simpa [Nat.odd_add_one] using h
  have hlast : pairs [last] = [] := rfl
  rw [List.append_assoc, pairs_append heven, pairs_append heven, hlast, List.append_nil,
    lastReading_append, lastReading_eq_none, Option.none_or, ite_self]
  intro p hp
  have hp : p = (last, "sort_col".toList) ∨ p = (decimalInt sort.1, "sort_down".toList) := by
    simpa [sortWords, pairs] using hp
  rcases hp with rfl | rfl
  · exact reading_sort_col key _
  · exact reading_sort_down key _

/-- The line with the filter text begins with no setting. -/
theorem pairs_filter {key : Str} (hkey : key ≠ "filter".toList) (ts : List Str) :
    lastReading key (pairs ("filter".toList :: ts)) = lastReading key (pairs ts.tail) ∧
      (pairs ("filter".toList :: ts)).all readable = (pairs ts.tail).all readable := by
  rcases ts with _ | ⟨t, ts⟩
  · exact ⟨rfl, rfl⟩
  have hreadable : readable ("filter".toList, t) = true := rfl
  have hreading : reading key ("filter".toList, t) = none := if_neg hkey.symm
  rw [pairs, lastReading, hreading, Option.or_none, List.all_cons, hreadable, Bool.true_and]
  exact ⟨if_pos rfl, rfl⟩

/-- **The readings behind the first three lines.** -/
theorem lastReading_filterWords {key : Str} (hkey : key ≠ "filter".toList) (filter : Str)
    (sort : Int32 × Bool) :
    lastReading key (pairs (filterWords filter ++ sortWords sort)) =
      (if Reached filter then lastReading key (pairs (sortWords sort)) else none).or
        (lastReading key (between filter)) := by
  by_cases hf : filter = []
  · subst hf
    have hnone : lastReading key (between []) = none := rfl
    rw [if_pos (.inl rfl), hnone, Option.or_none]
    rfl
  obtain ⟨hread, hall⟩ := pairs_filter hkey (tokens filter)
  rw [filterWords, if_neg hf, between]
  rcases Nat.even_or_odd ("filter".toList :: tokens filter).length with heven | hodd
  · have hreached : Reached filter ↔ (pairs (tokens filter).tail).all readable = true := by
      rw [List.length_cons, Nat.even_add_one, Nat.not_even_iff] at heven
      simp [Reached, hf, heven, between]
    rw [lastReading_aligned heven, hread, hall, if_congr hreached rfl rfl]
  · have hlost : ¬ Reached filter := by
      rw [List.length_cons, Nat.odd_add_one, Nat.not_odd_iff] at hodd
      simp [Reached, hf, hodd]
    rw [lastReading_shifted hodd, hread, if_neg hlost]
    rfl

/-- A line of the file. -/
theorem lastReading_cons_decimalInt (key k : Str) (z : Int32) (ps : List (Str × Str)) :
    readable (k, decimalInt z) = true ∧ lastReading key ((k, decimalInt z) :: ps) =
      (lastReading key ps).or (if k = key then some z else none) := by
  have hstoi : (stoi (decimalInt z)).toOption = some z := by
    rw [stoi_decimalInt]
    rfl
  have hreadable : readable (k, decimalInt z) = true := by simp [readable, hstoi]
  refine ⟨hreadable, ?_⟩
  rw [lastReading, if_pos hreadable, reading, hstoi]

theorem lastReading_headPairs (key : Str) (c : Config) :
    lastReading key (headPairs c) =
      ((if "only_rc".toList = key then some c.onlyRC else none).or
        (if "height".toList = key then some c.height else none)).or
        (if "width".toList = key then some c.width else none) := by
  simp only [headPairs, lastReading_cons_decimalInt]
  rfl

theorem lastReading_sortWords (key : Str) (sort : Int32 × Bool) :
    lastReading key (pairs (sortWords sort)) =
      (if "sort_down".toList = key then some (if sort.2 then (1 : Int32) else 0) else none).or
        (if "sort_col".toList = key then some sort.1 else none) := by
  have hdown : ∀ down : Bool, (if down then "1".toList else "0".toList) =
      decimalInt (if down then 1 else 0) := by decide
  rw [sortWords, hdown]
  simp only [pairs, lastReading_cons_decimalInt]
  rfl

/-- What the loop reads for each setting. -/
theorem lastReading_storeConfiguration {key : Str} (hkey : key ≠ "filter".toList)
    (sort : Int32 × Bool) (c : Config) (filter : Str) :
    lastReading key (pairs (tokens (storeConfiguration sort c filter))) =
      ((if Reached filter then
          lastReading key (pairs (sortWords (getSorting (c.sortCol, c.sortDown) sort)))
        else none).or (lastReading key (between filter))).or (lastReading key (headPairs c)) := by
  have hhead : (headPairs c).all readable = true := by
    simp only [headPairs, List.all_cons, (lastReading_cons_decimalInt key _ _ []).1]
    rfl
  rw [pairs_tokens_storeConfiguration, lastReading_append, if_pos hhead,
    lastReading_filterWords hkey]

/-- **What is read back.** -/
theorem loadConfiguration_storeConfiguration (sort : Int32 × Bool) (c : Config) (filter : Str) :
    loadConfiguration (storeConfiguration sort c filter) =
      { width := (lastReading "width".toList (between filter)).getD c.width
        height := (lastReading "height".toList (between filter)).getD c.height
        onlyRC := (lastReading "only_rc".toList (between filter)).getD c.onlyRC
        sortCol := if Reached filter then (getSorting (c.sortCol, c.sortDown) sort).1
          else (lastReading "sort_col".toList (between filter)).getD 0
        sortDown := if Reached filter then (getSorting (c.sortCol, c.sortDown) sort).2
          else ((lastReading "sort_down".toList (between filter)).map fun v =>
            decide (v ≠ (0 : Int32))).getD true } := by
  -- a setting in front of the filter text, and one behind it
  have hhead : ∀ (key : Str) (v d : Int32), key ≠ "filter".toList →
      (∀ sort, lastReading key (pairs (sortWords sort)) = none) →
      lastReading key (headPairs c) = some v →
      (lastReading key (pairs (tokens (storeConfiguration sort c filter)))).getD d =
        (lastReading key (between filter)).getD v := by
    intro key v d hkey hsort hv
    rw [lastReading_storeConfiguration hkey, hsort, hv, ite_self, Option.none_or]
    cases lastReading key (between filter) <;> rfl
  have htail : ∀ (key : Str) {v : Int32}, key ≠ "filter".toList →
      lastReading key (pairs (sortWords (getSorting (c.sortCol, c.sortDown) sort))) = some v →
      lastReading key (headPairs c) = none →
      lastReading key (pairs (tokens (storeConfiguration sort c filter))) =
        if Reached filter then some v else lastReading key (between filter) := by
    intro key v hkey hv hhead
    rw [lastReading_storeConfiguration hkey, hv, hhead, Option.or_none]
    split_ifs <;> simp
  have hcol := htail "sort_col".toList (by decide) (lastReading_sortWords _ _)
    (lastReading_headPairs _ _)
  have hdown := htail "sort_down".toList (by decide) (lastReading_sortWords _ _)
    (lastReading_headPairs _ _)
  have hbool : ∀ down : Bool, decide ((if down then (1 : Int32) else 0) ≠ 0) = down := by decide
  have hwidth := hhead "width".toList c.width Config.default.width (by decide)
    (lastReading_sortWords _) (lastReading_headPairs _ c)
  have hheight := hhead "height".toList c.height Config.default.height (by decide)
    (lastReading_sortWords _) (lastReading_headPairs _ c)
  have honlyRC := hhead "only_rc".toList c.onlyRC Config.default.onlyRC (by decide)
    (lastReading_sortWords _) (lastReading_headPairs _ c)
  rw [loadConfiguration_eq, loadPairs_eq, Config.override, hwidth, hheight, honlyRC, hcol, hdown]
  by_cases hreached : Reached filter
  · simp only [if_pos hreached, Option.map_some, Option.getD_some, hbool]
  · simp only [if_neg hreached]
    rfl

/-! ### When the settings survive -/

/-- The words of the filter text do not get in the way.  `sort` is what `main` has set at the
start. -/
structure Undisturbed (sort : Int32 × Bool) (c : Config) (filter : Str) : Prop where
  width : (lastReading "width".toList (between filter)).getD c.width = c.width
  height : (lastReading "height".toList (between filter)).getD c.height = c.height
  onlyRC : (lastReading "only_rc".toList (between filter)).getD c.onlyRC = c.onlyRC
  sorting :
    if Reached filter then getSorting (c.sortCol, c.sortDown) sort = (c.sortCol, c.sortDown)
    else (lastReading "sort_col".toList (between filter)).getD 0 = c.sortCol ∧
      ((lastReading "sort_down".toList (between filter)).map fun v => decide (v ≠ (0 : Int32))).getD
        true = c.sortDown

/-- **The settings are read back exactly when the filter text does not get in the way.** -/
theorem loadConfiguration_storeConfiguration_iff (sort : Int32 × Bool) (c : Config)
    (filter : Str) :
    loadConfiguration (storeConfiguration sort c filter) = c ↔ Undisturbed sort c filter := by
  rw [loadConfiguration_storeConfiguration]
  obtain ⟨width, height, onlyRC, sortCol, sortDown⟩ := c
  rw [Config.mk.injEq]
  constructor
  · rintro ⟨hwidth, hheight, honlyRC, hcol, hdown⟩
    refine ⟨hwidth, hheight, honlyRC, ?_⟩
    split_ifs with hreached
    · rw [if_pos hreached] at hcol hdown
      exact Prod.ext hcol hdown
    · rw [if_neg hreached] at hcol hdown
      exact ⟨hcol, hdown⟩
  · intro h
    have hsorting := h.sorting
    refine ⟨h.width, h.height, h.onlyRC, ?_, ?_⟩
    · split_ifs at hsorting ⊢
      · exact congrArg Prod.fst hsorting
      · exact hsorting.1
    · split_ifs at hsorting ⊢
      · exact congrArg Prod.snd hsorting
      · exact hsorting.2

/-- A filter text of two words: the sorting is not read. -/
theorem not_loadConfiguration_two_words :
    ¬ ∀ (sort : Int32 × Bool) (c : Config) (filter : Str), 0 ≤ sort.1 ∧ sort.1 < 8 →
      0 ≤ c.sortCol ∧ c.sortCol < 8 → loadConfiguration (storeConfiguration sort c filter) = c := by
  intro h
  have hload := h (0, true) ⟨1180, 394, 1, 3, false⟩ "foo bar".toList (by decide) (by decide)
  exact absurd hload (by decide)

end Gui
end RcDiscover
