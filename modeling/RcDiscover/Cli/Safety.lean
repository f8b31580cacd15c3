import RcDiscover.Cli.Commands
import RcDiscover.Lib.BigEndian

/-!
# Commands are issued on explicit request only

The options of a command line as data (`Opt`, `render`), and what stands behind a command that was
issued (`Warrant`): the user has named devices, a received record satisfies all given patterns, the
user has confirmed, and for `forceip` the addresses are the three last arguments.

* `exists_opts_of_optionLoop`, `optionLoop_render`: the option loop reads exactly the rendered
  options;
* `run_warranted` (**main result**): every command that a run issues has a warrant, whatever the
  arguments, the received records and the answer are.
-/

namespace RcDiscover
namespace Cli

open Program

/-! ### Options -/

/-- An option of the command line. -/
inductive Opt
  | yes
  | filter (c : Category) (pattern : Str)
  deriving DecidableEq, Repr

/-- The arguments that make up the option. -/
def Opt.args : Opt → List Str
  | yes => ["-y".toList]
  | filter c pattern => ["-f".toList, c.key ++ pattern]

/-- A list of options as arguments. -/
def render (opts : List Opt) : List Str := opts.flatMap Opt.args

/-- What an option does to the filter. -/
def Opt.addTo (filter : DeviceFilter) : Opt → DeviceFilter
  | yes => filter
  | .filter c pattern => filter.add c pattern

/-- The filter that the options give. -/
def filterOf (opts : List Opt) : DeviceFilter := opts.foldl Opt.addTo .empty

/-- The patterns that the options give for a category. -/
def patternsOf (opts : List Opt) (c : Category) : List Str :=
  opts.filterMap fun
    | .yes => none
    | .filter c' pattern => if c' = c then some pattern else none

theorem patterns_foldl_addTo (opts : List Opt) (filter : DeviceFilter) (c : Category) :
    (opts.foldl Opt.addTo filter).patterns c = filter.patterns c ++ patternsOf opts c := by
  induction opts generalizing filter with
  | nil => simp [patternsOf]
  | cons opt opts ih =>
    rw [List.foldl_cons, ih]
    cases opt with
    | yes => rfl
    | filter c' pattern =>
      rw [Opt.addTo, DeviceFilter.patterns_add]
      by_cases h : c' = c
      · simp [patternsOf, h]
      · simp [patternsOf, h]

theorem patterns_filterOf (opts : List Opt) (c : Category) :
    (filterOf opts).patterns c = patternsOf opts c := by
  rw [filterOf, patterns_foldl_addTo]
  cases c <;> rfl

theorem mem_patternsOf {opts : List Opt} {c : Category} {pattern : Str} :
    pattern ∈ patternsOf opts c ↔ .filter c pattern ∈ opts := by
  rw [patternsOf, List.mem_filterMap]
  constructor
  · rintro ⟨opt, hopt, h⟩
    cases opt with
    | yes => simp at h
    | filter c' pattern' =>
      dsimp only at h
      split_ifs at h with hc
      obtain rfl := Option.some.inj h
      rwa [← hc]
  · exact fun h => ⟨_, h, if_pos rfl⟩

/-! ### The option loop -/

section OptionLoop

variable {help : Str} {operands : Bool}

/-- What may be left when the loop has ended: nothing, or operands. -/
def Operands (operands : Bool) (rest : List Str) : Prop :=
  rest = [] ∨ operands = true ∧ ∃ p tail, rest = p :: tail ∧ p.head? ≠ some '-'

/-- **What the loop accepts is a list of options**, and it has the effect of these options. -/
theorem exists_opts_of_optionLoop {skip : ℕ} {filter filter' : DeviceFilter} {yes yes' : Bool}
    {argv rest : List Str}
    (h : optionLoop help operands skip filter yes argv = .done filter' yes' rest) :
    ∃ opts, argv.drop skip = render opts ++ rest ∧ filter' = opts.foldl Opt.addTo filter ∧
      (yes' = true ↔ yes = true ∨ Opt.yes ∈ opts) ∧ Operands operands rest := by
  induction argv generalizing skip filter yes with
  | nil =>
    simp only [optionLoop, Parsed.done.injEq] at h
    obtain ⟨rfl, rfl, rfl⟩ := h
    exact ⟨[], by simp [render], rfl, by simp, .inl rfl⟩
  | cons p argv ih =>
    -- `skip` arguments belong to an option that has been read already
    cases skip with
    | succ skip => exact ih h
    | zero =>
      rw [optionLoop] at h
      split_ifs at h with hy hf hh hp
      · obtain ⟨opts, hargv, hfilter, hyes, hrest⟩ := ih h
        refine ⟨.yes :: opts, ?_, hfilter, by simp [hyes], hrest⟩
        rw [List.drop_zero] at hargv ⊢
        rw [hy, hargv]
        rfl
      · split at h
        · simp at h
        · next n filter₁ hparse =>
          obtain ⟨rfl, c, pattern, rest₁, rfl, rfl⟩ := exists_key_of_parseFilterArguments hparse
          obtain ⟨opts, hargv, hfilter, hyes, hrest⟩ := ih h
          refine ⟨.filter c pattern :: opts, ?_, hfilter, by simp [hyes], hrest⟩
          rw [List.drop_succ_cons, List.drop_zero] at hargv
          rw [List.drop_zero, hf, hargv]
          rfl
      · simp only [Parsed.done.injEq] at h
        obtain ⟨rfl, rfl, rfl⟩ := h
        exact ⟨[], rfl, rfl, by simp, .inr ⟨hp.1, p, argv, rfl, hp.2⟩⟩

/-- **The loop reads rendered options** and goes on with what follows them. -/
theorem optionLoop_render (opts : List Opt) (filter : DeviceFilter) (yes : Bool) (rest : List Str) :
    optionLoop help operands 0 filter yes (render opts ++ rest) =
      optionLoop help operands 0 (opts.foldl Opt.addTo filter) (yes || Opt.yes ∈ opts) rest := by
  induction opts generalizing filter yes with
  | nil => simp [render]
  | cons opt opts ih =>
    cases opt with
    | yes =>
      have hargs : render (.yes :: opts) ++ rest = "-y".toList :: (render opts ++ rest) := rfl
      rw [hargs, optionLoop, if_pos rfl, ih]
      simp [Opt.addTo]
    | filter c pattern =>
      have hargs : render (.filter c pattern :: opts) ++ rest =
          "-f".toList :: (c.key ++ pattern) :: (render opts ++ rest) := rfl
      rw [hargs, optionLoop, if_neg (by decide), if_pos rfl, parseFilterArguments_key]
      simp only [optionLoop, ih]
      simp [Opt.addTo]

/-- A help option ends the loop wherever an option may stand. -/
theorem optionLoop_help (opts : List Opt) {h : Str} (hh : h = "-h".toList ∨ h = "--help".toList)
    (rest : List Str) :
    optionLoop help operands 0 .empty false (render opts ++ h :: rest) =
      .exit [.cout help] 0 := by
  rw [optionLoop_render, optionLoop, if_neg, if_neg, if_pos hh]
  · rcases hh with rfl | rfl <;> decide
  · rcases hh with rfl | rfl <;> decide

end OptionLoop

/-! ### Which commands a program issues -/

/-- All commands of the trace satisfy `W`. -/
def Only (W : Command → Prop) (trace : List Effect) : Prop := ∀ c, .issued c ∈ trace → W c

/-- The effects are output only. -/
def Quiet (effects : List Effect) : Prop := ∀ c, .issued c ∉ effects

/-- The program issues only commands that satisfy `W`. -/
def Issues {α : Type} (W : Command → Prop) (m : Program (List Effect) Abort α) : Prop :=
  Ensures (Only W) m (fun _ => Only W) (fun _ => Only W)

section Issues

variable {α β : Type} {W : Command → Prop} {env : CliEnv}

theorem Issues.only {m : Program (List Effect) Abort α} (h : Issues W m) :
    Only W (exec m []).2 := by
  have hnil : Only W [] := fun c hc => absurd hc List.not_mem_nil
  rcases hm : exec m [] with ⟨e | a, t⟩
  · exact h.error hnil hm
  · exact h.ok hnil hm

theorem Issues.bind {m : Program (List Effect) Abort α} {f : α → Program (List Effect) Abort β}
    (hm : Issues W m) (hf : ∀ a, Issues W (f a)) : Issues W (m >>= f) :=
  Ensures.bind hm hf

theorem issues_emit {effects : List Effect} (h : Quiet effects) : Issues W (emit effects) := by
  refine ensures_ofState fun trace ht c hc => ?_
  rcases List.mem_append.1 hc with hc | hc
  · exact ht c hc
  · exact absurd hc (h c)

theorem issues_exit {effects : List Effect} (h : Quiet effects) (code : ℤ) :
    Issues W (exit effects code) :=
  (issues_emit h).bind fun _ => ensures_pure fun _ ht => ht

theorem issues_issue {c : Command} (h : W c) : Issues W (issue env c) := by
  intro trace ht
  have hsnoc : Only W (trace ++ [.issued c]) := by
    intro c' hc
    rcases List.mem_append.1 hc with hc | hc
    · exact ht c' hc
    · obtain rfl : c' = c := by simpa using hc
      exact h
  rw [issue, exec_ofExcept]
  rcases env.send trace c with e | ⟨⟩
  · exact hsnoc
  · exact hsnoc

theorem issues_issueAll {cmd : DeviceInfo → Command} {devices : List DeviceInfo}
    (h : ∀ d ∈ devices, W (cmd d)) : Issues W (issueAll env cmd devices) := by
  induction devices with
  | nil => exact issues_exit (by simp [Quiet]) 0
  | cons d devices ih =>
    exact (issues_issue (h d List.mem_cons_self)).bind fun _ =>
      ih fun e he => h e (List.mem_cons_of_mem _ he)

/-- The user has confirmed. -/
def Confirmed (env : CliEnv) (yes : Bool) : Prop :=
  yes = true ∨ env.answer = "y".toList ∨ env.answer = "Y".toList

theorem issues_confirmAndIssue {yes : Bool} {title : Str} {cmd : DeviceInfo → Command}
    {devices : List DeviceInfo} (h : Confirmed env yes → ∀ d ∈ devices, W (cmd d)) :
    Issues W (confirmAndIssue env yes title cmd devices) := by
  refine (issues_emit (by simp [Quiet])).bind fun _ => Ensures.ite (fun hyes => ?_) fun hno => ?_
  · exact issues_issueAll (h (.inl hyes))
  refine (issues_emit (by simp [Quiet])).bind fun _ => Ensures.ite (fun hcancel => ?_) fun hgo => ?_
  · exact issues_exit (by simp [Quiet]) 0
  · exact issues_issueAll (h (.inr (by tauto)))

theorem issues_collect_bind {filter : DeviceFilter}
    {f : List DeviceInfo → Program (List Effect) Abort β}
    (h : ∀ infos devices, env.discover filter.iface = .ok infos →
      discoverWithFilter env.sort infos filter = some devices → Issues W (f devices)) :
    Issues W (collect env filter >>= f) := by
  refine Ensures.bind (Q := fun devices trace => (∃ infos, env.discover filter.iface = .ok infos ∧
    discoverWithFilter env.sort infos filter = some devices) ∧ Only W trace) ?_ fun devices => ?_
  · intro trace ht
    rw [collect, exec_ofExcept]
    rcases hinfos : env.discover filter.iface with e | infos
    · exact ht
    rcases hdev : discoverWithFilter env.sort infos filter with _ | devices
    · simpa [hdev] using ht
    · simpa [hdev] using ht
  · refine Ensures.of_and ?_
    rintro ⟨infos, hinfos, hdev⟩
    exact h infos devices hinfos hdev

/-- When the loop ends the run, it has only printed. -/
theorem quiet_of_optionLoop {help : Str} {operands : Bool} {skip : ℕ} {filter : DeviceFilter}
    {yes : Bool} {argv : List Str} {effects : List Effect} {code : ℤ}
    (h : optionLoop help operands skip filter yes argv = .exit effects code) : Quiet effects := by
  induction argv generalizing skip filter yes with
  | nil => simp [optionLoop] at h
  | cons p argv ih =>
    cases skip with
    | succ skip => exact ih h
    | zero =>
      rw [optionLoop] at h
      split_ifs at h
      · exact ih h
      · split at h
        · simp only [Parsed.exit.injEq] at h
          simp [← h.1, Quiet]
        · exact ih h
      · simp only [Parsed.exit.injEq] at h
        simp [← h.1, Quiet]
      · simp only [Parsed.exit.injEq] at h
        simp [← h.1, Quiet]

theorem issues_withOptions {help : Str} {operands : Bool} {argv : List Str}
    {body : DeviceFilter → Bool → List Str → Program (List Effect) Abort ℤ}
    (h : ∀ opts rest, argv = render opts ++ rest → Operands operands rest →
      (∃ c ∈ [Category.mac, .name, .serial], patternsOf opts c ≠ []) →
      Issues W (body (filterOf opts) (Opt.yes ∈ opts) rest)) :
    Issues W (withOptions help operands argv body) := by
  rw [withOptions]
  split
  · next effects code hloop => exact issues_exit (quiet_of_optionLoop hloop) code
  · next filter yes rest hloop =>
    obtain ⟨opts, hargv, rfl, hyes, hrest⟩ := exists_opts_of_optionLoop hloop
    refine Ensures.ite (fun hnone => issues_exit (by simp [Quiet]) 1) fun hsome => ?_
    have hbool : yes = decide (Opt.yes ∈ opts) := by
      rw [Bool.eq_iff_iff, decide_eq_true_iff, hyes]
      simp
    rw [hbool]
    refine h opts rest hargv hrest ?_
    by_contra hall
    push Not at hall
    refine hsome ⟨?_, ?_, ?_⟩
    · exact (patterns_filterOf opts .mac).trans (hall .mac (by simp))
    · exact (patterns_filterOf opts .name).trans (hall .name (by simp))
    · exact (patterns_filterOf opts .serial).trans (hall .serial (by simp))

/-- A command without operands has nothing but options. -/
theorem issues_withOptions_only {help : Str} {argv : List Str}
    {body : DeviceFilter → Bool → List Str → Program (List Effect) Abort ℤ}
    (h : ∀ opts, argv = render opts →
      (∃ c ∈ [Category.mac, .name, .serial], patternsOf opts c ≠ []) →
      Issues W (body (filterOf opts) (Opt.yes ∈ opts) [])) :
    Issues W (withOptions help false argv body) := by
  refine issues_withOptions fun opts rest hargv hrest hnamed => ?_
  obtain rfl : rest = [] := by simpa [Operands] using hrest
  rw [List.append_nil] at hargv
  exact h opts hargv hnamed

end Issues

/-! ### Warrants -/

/-- The record satisfies, in each category for which the options give patterns, one of them. -/
def Passes (d : DeviceInfo) (opts : List Opt) : Prop :=
  ∀ c pattern, .filter c pattern ∈ opts →
    ∃ pattern', .filter c pattern' ∈ opts ∧ wildcardMatches (c.text d) pattern' = some true

/-- The device was selected and the selection was confirmed: a name, a serial number or a MAC
address was given, a record with this MAC address was received and passes, and `-y` was given or
the answer was `y` or `Y`. -/
structure Selected (env : CliEnv) (opts : List Opt) (mac : UInt64) : Prop where
  named : ∃ c ∈ [Category.mac, .name, .serial], ∃ pattern, .filter c pattern ∈ opts
  received : ∃ infos, env.discover (patternsOf opts .iface) = .ok infos ∧
    ∃ d ∈ infos, d.mac = mac ∧ Passes d opts
  confirmed : .yes ∈ opts ∨ env.answer = "y".toList ∨ env.answer = "Y".toList

/-- What stands behind a command that the tool may issue with these arguments. -/
inductive Warrant (env : CliEnv) : Tool → List Str → Command → Prop
  | reset {op : Str} {resetCommand : ResetCommand} {opts : List Opt} {mac : UInt64}
      (hop : (op, resetCommand) ∈ resetCommands) (hsel : Selected env opts mac) :
      Warrant env .reset (op :: render opts) (.wol mac 9 [0xEE, 0xEE, 0xEE, resetCommand.id])
  | reconnect {opts : List Opt} {mac : UInt64} (hsel : Selected env opts mac) :
      Warrant env .reconnect (render opts) (.forceIP mac 0 0 0)
  | forceip {opts : List Opt} {mac : UInt64} {argIp argMask argGateway : Str}
      {ip mask gateway : List UInt8} {x y z : UInt32} (hsel : Selected env opts mac)
      (hip : string2ip argIp = .ok ip) (hmask : string2ip argMask = .ok mask)
      (hgateway : string2ip argGateway = .ok gateway) (hx : x.toNat = BigEndian.value ip)
      (hy : y.toNat = BigEndian.value mask) (hz : z.toNat = BigEndian.value gateway) :
      Warrant env .forceip (render opts ++ [argIp, argMask, argGateway]) (.forceIP mac x y z)

/-- A record that `discoverWithFilter` returns makes its device selected. -/
theorem selected_of_discoverWithFilter {env : CliEnv} {opts : List Opt}
    (hnamed : ∃ c ∈ [Category.mac, .name, .serial], patternsOf opts c ≠ [])
    {infos devices : List DeviceInfo} (hinfos : env.discover (filterOf opts).iface = .ok infos)
    (hdev : discoverWithFilter env.sort infos (filterOf opts) = some devices)
    (hconf : Confirmed env (Opt.yes ∈ opts)) {d : DeviceInfo} (hd : d ∈ devices) :
    Selected env opts d.mac := by
  obtain ⟨hmem, haccept⟩ := mem_of_discoverWithFilter hdev hd
  rw [filterDevice_eq_some_true_iff] at haccept
  refine ⟨?_, ⟨infos, ?_, d, hmem, rfl, ?_⟩, ?_⟩
  · obtain ⟨c, hc, hne⟩ := hnamed
    obtain ⟨pattern, hpattern⟩ := List.exists_mem_of_ne_nil _ hne
    exact ⟨c, hc, pattern, mem_patternsOf.1 hpattern⟩
  · rwa [← patterns_filterOf opts .iface]
  · intro c pattern hpattern
    have hne : (filterOf opts).patterns c ≠ [] := by
      rw [patterns_filterOf]
      exact List.ne_nil_of_mem (mem_patternsOf.2 hpattern)
    obtain ⟨pattern', hpattern', hmatch⟩ := matchesFilter_eq_some_true (haccept c) hne
    rw [patterns_filterOf] at hpattern'
    exact ⟨pattern', mem_patternsOf.1 hpattern', hmatch⟩
  · simpa [Confirmed] using hconf

/-- What is done with the devices that were found may rely on their being selected. -/
theorem issues_selected {W : Command → Prop} {env : CliEnv} {opts : List Opt}
    (hnamed : ∃ c ∈ [Category.mac, .name, .serial], patternsOf opts c ≠ [])
    {f : List DeviceInfo → Program (List Effect) Abort ℤ}
    (h : ∀ devices, (Confirmed env (Opt.yes ∈ opts) → ∀ d ∈ devices, Selected env opts d.mac) →
      Issues W (f devices)) : Issues W (collect env (filterOf opts) >>= f) := by
  refine issues_collect_bind fun infos devices hinfos hdev => h devices fun hconf d hd => ?_
  exact selected_of_discoverWithFilter hnamed hinfos hdev hconf hd

theorem issues_runReset (env : CliEnv) (command : Str) (argv : List Str) :
    Issues (Warrant env .reset argv) (runReset env command argv) := by
  cases argv with
  | nil => exact issues_exit (by simp [Quiet]) 1
  | cons argv0 argv =>
    refine Ensures.ite (fun _ => issues_exit (by simp [Quiet]) 0) fun _ => ?_
    split
    · exact issues_exit (by simp [Quiet]) 1
    · next resetCommand hop =>
      refine issues_withOptions_only fun opts hargv hnamed => ?_
      refine issues_selected hnamed fun devices hselected => ?_
      refine Ensures.ite (fun _ => issues_exit (by simp [Quiet]) 0) fun _ => ?_
      refine issues_confirmAndIssue fun hconf d hd => ?_
      rw [hargv]
      obtain ⟨before, after, htable, -⟩ := List.lookup_eq_some_iff.1 hop
      have hmem : (argv0, resetCommand) ∈ resetCommands := by simp [htable]
      exact .reset hmem (hselected hconf d hd)

theorem issues_runReconnect (env : CliEnv) (command : Str) (argv : List Str) :
    Issues (Warrant env .reconnect argv) (runReconnect env command argv) := by
  refine issues_withOptions_only fun opts hargv hnamed => ?_
  refine issues_selected hnamed fun devices hselected => ?_
  refine Ensures.ite (fun _ => issues_exit (by simp [Quiet]) 0) fun _ => ?_
  refine issues_confirmAndIssue fun hconf d hd => ?_
  rw [hargv]
  exact .reconnect (hselected hconf d hd)

theorem issues_runForceIP (env : CliEnv) (command : Str) (argv : List Str) :
    Issues (Warrant env .forceip argv) (runForceIP env command argv) := by
  refine issues_withOptions fun opts rest hargv hrest hnamed => ?_
  split
  · next argIp argMask argGateway =>
    split
    · exact issues_exit (by simp [Quiet]) 1
    next ip hip =>
    split
    · exact issues_exit (by simp [Quiet]) 1
    next mask hmask =>
    split
    · exact issues_exit (by simp [Quiet]) 1
    next gateway hgateway =>
    refine issues_selected hnamed fun devices hselected => ?_
    refine Ensures.ite (fun _ => issues_exit (by simp [Quiet]) 0) fun _ => ?_
    refine Ensures.ite (fun _ => issues_exit (by simp [Quiet]) 0) fun _ => ?_
    refine issues_confirmAndIssue fun hconf d hd => ?_
    rw [hargv]
    exact .forceip (hselected hconf d hd) hip hmask hgateway (toNat_byteArrayToIp hip)
      (toNat_byteArrayToIp hmask) (toNat_byteArrayToIp hgateway)
  · exact issues_exit (by simp [Quiet]) 1

/-- The tool issues only commands with a warrant. -/
theorem issues_run (env : CliEnv) (tool : Tool) (command : Str) (argv : List Str) :
    Issues (Warrant env tool argv) (tool.run env command argv) := by
  cases tool with
  | reset => exact issues_runReset env command argv
  | reconnect => exact issues_runReconnect env command argv
  | forceip => exact issues_runForceIP env command argv

/-! ### Arguments that lead to no command -/

/-- The option loop of the tool on its arguments; `reset` takes its operation first. -/
def Tool.loop (command : Str) (argv : List Str) : Tool → Parsed
  | reset => optionLoop (resetHelp command) false 0 .empty false argv.tail
  | reconnect => optionLoop (reconnectHelp command) false 0 .empty false argv
  | forceip => optionLoop (forceIPHelp command) true 0 .empty false argv

/-- `-h` or `--help` stands where an option may stand. -/
inductive AsksForHelp : Tool → List Str → Prop
  | first {h : Str} {rest : List Str} (hh : h = "-h".toList ∨ h = "--help".toList) :
      AsksForHelp .reset (h :: rest)
  | reset {op h : Str} {opts : List Opt} {rest : List Str}
      (hh : h = "-h".toList ∨ h = "--help".toList) :
      AsksForHelp .reset (op :: (render opts ++ h :: rest))
  | reconnect {h : Str} {opts : List Opt} {rest : List Str}
      (hh : h = "-h".toList ∨ h = "--help".toList) :
      AsksForHelp .reconnect (render opts ++ h :: rest)
  | forceip {h : Str} {opts : List Opt} {rest : List Str}
      (hh : h = "-h".toList ∨ h = "--help".toList) :
      AsksForHelp .forceip (render opts ++ h :: rest)

/-- Where the option loop ends the run, nothing is issued. -/
theorem issues_run_of_exit {env : CliEnv} (tool : Tool) {command : Str} {argv : List Str}
    {effects : List Effect} {code : ℤ} (h : tool.loop command argv = .exit effects code) :
    Issues (fun _ => False) (tool.run env command argv) := by
  have hopts : ∀ {help : Str} {operands : Bool} {args : List Str}
      {body : DeviceFilter → Bool → List Str → Program (List Effect) Abort ℤ},
      optionLoop help operands 0 .empty false args = .exit effects code →
      Issues (fun _ => False) (withOptions help operands args body) := by
    intro help operands args body hloop
    rw [withOptions, hloop]
    exact issues_exit (quiet_of_optionLoop hloop) code
  cases tool with
  | reset =>
    cases argv with
    | nil => exact issues_exit (by simp [Quiet]) 1
    | cons argv0 argv =>
      refine Ensures.ite (fun _ => issues_exit (by simp [Quiet]) 0) fun _ => ?_
      split
      · exact issues_exit (by simp [Quiet]) 1
      · exact hopts h
  | reconnect => exact hopts h
  | forceip => exact hopts h

/-- Who asks for help gets it and nothing else. -/
theorem issues_run_of_asksForHelp {env : CliEnv} {tool : Tool} {command : Str} {argv : List Str}
    (h : AsksForHelp tool argv) : Issues (fun _ => False) (tool.run env command argv) := by
  cases h with
  | first hh => exact Ensures.ite (fun _ => issues_exit (by simp [Quiet]) 0) fun hn => absurd hh hn
  | reset hh => exact issues_run_of_exit .reset (optionLoop_help _ hh _)
  | reconnect hh => exact issues_run_of_exit .reconnect (optionLoop_help _ hh _)
  | forceip hh => exact issues_run_of_exit .forceip (optionLoop_help _ hh _)

/-- **Commands are issued on explicit, confirmed request only.**  Whatever the arguments, the
received records and the answer are, every command that a run issues has a warrant; arguments that
the option loop rejects, or that ask for help, issue none. -/
theorem run_warranted (env : CliEnv) (tool : Tool) (command : Str) (argv : List Str) :
    (∀ c, .issued c ∈ (exec (tool.run env command argv) []).2 → Warrant env tool argv c) ∧
    (∀ effects code, tool.loop command argv = .exit effects code →
      ∀ c, .issued c ∉ (exec (tool.run env command argv) []).2) ∧
    (AsksForHelp tool argv → ∀ c, .issued c ∉ (exec (tool.run env command argv) []).2) :=
  ⟨(issues_run env tool command argv).only, fun _ _ h c => (issues_run_of_exit tool h).only c,
    fun h c => (issues_run_of_asksForHelp h).only c⟩

/-! ### A confirmed run -/

/-- `std::sort` as insertion sort. -/
def StdSort.insertion : StdSort where
  sort := List.insertionSort fun d e => d.key ≤ e.key
  perm := List.perm_insertionSort _
  sorted l := by
    have : Std.Total fun d e : DeviceInfo => d.key ≤ e.key := ⟨fun d e => le_total _ _⟩
    have : IsTrans DeviceInfo fun d e => d.key ≤ e.key := ⟨fun _ _ _ => le_trans⟩
    exact List.pairwise_insertionSort _ l

/-- An environment in which these records are received and nothing throws. -/
def receiving (infos : List DeviceInfo) : CliEnv where
  sort := .insertion
  discover _ := .ok infos
  answer := []
  send _ _ := .ok ()

/-- A sensor that answers on the interface. -/
def visard (iface : Str) : DeviceInfo :=
  { DeviceInfo.ofIfaceName iface with mac := 0x00142D000001, modelName := "rc_visard".toList }

/-- `-f mac=00:14:2d:00:00:01 -y`. -/
def visardOpts : List Opt := [.filter .mac "00:14:2d:00:00:01".toList, .yes]

theorem filterDevice_visard (iface : Str) :
    filterDevice (visard iface) (filterOf visardOpts) = some true := by
  have hmac : mac2string (visard iface).mac = "00:14:2d:00:00:01".toList := by
    change mac2string 0x00142D000001 = _
    decide
  rw [filterDevice_eq_some_true_iff]
  rintro (_ | _ | _ | _ | _)
  · rfl
  · rfl
  · have hself := wildcardMatches_self "00:14:2d:00:00:01".toList
    rw [Category.text, hmac, show (filterOf visardOpts).patterns .mac =
      ["00:14:2d:00:00:01".toList] from rfl, matchesFilter, if_neg (by decide), anyOf, hself]
  · rfl
  · rfl

/-- Reconnecting a named sensor has its warrant. -/
theorem reconnect_visard_warranted :
    Warrant (receiving [visard "eth0".toList]) .reconnect (render visardOpts)
      (.forceIP 0x00142D000001 0 0 0) := by
  have hreturned : discoverWithFilter .insertion [visard "eth0".toList] (filterOf visardOpts) =
      some [visard "eth0".toList] := by
    change filterDevices (filterOf visardOpts) [visard "eth0".toList] = _
    rw [filterDevices, filterDevice_visard]
    rfl
  have hcollect : exec (collect (receiving [visard "eth0".toList]) (filterOf visardOpts)) [] =
      (.ok [visard "eth0".toList], []) := by
    simp only [collect, exec_ofExcept, receiving, hreturned]
  have hrun : exec (Tool.run .reconnect (receiving [visard "eth0".toList]) "rcdiscover".toList
      (render visardOpts)) [] = exec (confirmAndIssue (receiving [visard "eth0".toList]) true
        "Reconnecting the following devices:\n".toList (fun d => .forceIP d.mac 0 0 0)
        [visard "eth0".toList]) [] := exec_bind_ok hcollect
  refine (run_warranted _ .reconnect "rcdiscover".toList (render visardOpts)).1 _ ?_
  rw [hrun]
  exact .tail _ (.tail _ (.head _))

end Cli

end RcDiscover
