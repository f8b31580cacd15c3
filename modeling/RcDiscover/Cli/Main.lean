import RcDiscover.Cli.Discover
import RcDiscover.Discover.Acknowledgements

/-!
# `rcdiscover.cc`

The command line tool picks a command by its first argument and hands the others on.

* `commands`, `main`: the table of commands, and the function `main`;
* `MainWarrant`: what stands behind something that the tool sends;
* `Ended`: how the exit status, the error output and what was sent belong together.

`main_warranted` (**main result**): whatever the command line, what is received and the answer of
the user are, the tool sends only what the command named by the first argument has a warrant for;
and if `main` returns, it returns 1 exactly when it has reported an error, and then it has sent
nothing.
`main_acknowledged` goes back to the network: what is sent is for a device that has acknowledged a
discovery command of the same process.
-/

namespace RcDiscover
namespace Cli

open Program

/-! ### The table of commands -/

/-- A `Command` of the table: its description and its function. -/
structure CommandEntry where
  description : Str
  fn : CliEnv → Str → List Str → Program (List Effect) Abort ℤ

/-- `commands`, in the order of the map. -/
def commands : List (Str × CommandEntry) := [
  ("forceip".toList, ⟨"Temporarily set the IP of a device".toList, runForceIP⟩),
  ("ls".toList, ⟨"List available devices".toList, runDiscover⟩),
  ("reconnect".toList, ⟨"Reconnect a device".toList, runReconnect⟩),
  ("reset".toList, ⟨"Reset a device's parameters".toList, runReset⟩)]

/-- The name of a command that acts on devices. -/
def Tool.name : Tool → Str
  | reset => "reset".toList
  | reconnect => "reconnect".toList
  | forceip => "forceip".toList

/-- `help_string`. -/
def helpString (argv0 : Str) : Str :=
  "Usage: ".toList ++ argv0 ++ " [-h | --help] [--version] <command> [<args>]\n\n".toList ++
    "Available commands are:\n".toList ++
    (commands.flatMap fun cmd =>
      "    ".toList ++ cmd.1 ++
        List.replicate (getMaxCommandLen commands + 3 - cmd.1.length) ' ' ++
        cmd.2.description ++ "\n".toList) ++
    "\n".toList ++ "If no command is given, 'ls' is assumed.\n".toList ++
    "See '".toList ++ argv0 ++ " <command> --help' for command-specific help.".toList

/-- `command_str`, from the arguments in front of those of the command. -/
def commandStr (words : List Str) : Str :=
  words.foldl (fun s word => (if s = [] then s else s ++ [' ']) ++ word) []

/-- The end of `main`: the command that was found, or the help text. -/
def runCommand (env : CliEnv) (argv0 : Str) (command : Option CommandEntry) (words : List Str)
    (argv : List Str) : Program (List Effect) Abort ℤ :=
  match command with
  | none => exit [.cerr "Invalid command\n".toList, .cerr (helpString argv0 ++ "\n".toList)] 1
  | some command => command.fn env (commandStr words) argv

/-- `main` on the name of the program and its arguments. -/
def main (packageVersion : Str) (env : CliEnv) (argv0 : Str) (args : List Str) :
    Program (List Effect) Abort ℤ :=
  match args with
  | [] => runCommand env argv0 (commands.lookup "ls".toList) [argv0] []
  | argv1 :: rest =>
    if argv1 = "--help".toList ∨ argv1 = "-h".toList then
      exit [.cout (helpString argv0 ++ "\n".toList)] 0
    else if argv1 = "--version".toList then exit [.cout (packageVersion ++ "\n".toList)] 0
    else if argv1 ≠ [] ∧ argv1.head? ≠ some '-' then
      runCommand env argv0 (commands.lookup argv1) [argv0, argv1] rest
    else runCommand env argv0 (commands.lookup "ls".toList) [argv0] (argv1 :: rest)

/-- What is in the table: `ls`, and the commands that act on devices. -/
theorem lookup_commands {name : Str} {command : CommandEntry}
    (h : commands.lookup name = some command) :
    command.fn = runDiscover ∨ ∃ tool : Tool, name = tool.name ∧ command.fn = tool.run := by
  obtain ⟨before, after, htable, -⟩ := List.lookup_eq_some_iff.1 h
  have hmem : (name, command) ∈ commands := by simp [htable]
  simp only [commands, List.mem_cons, List.not_mem_nil, or_false, Prod.mk.injEq] at hmem
  obtain ⟨hname, rfl⟩ | ⟨-, rfl⟩ | ⟨hname, rfl⟩ | ⟨hname, rfl⟩ := hmem
  · exact .inr ⟨.forceip, hname, rfl⟩
  · exact .inl rfl
  · exact .inr ⟨.reconnect, hname, rfl⟩
  · exact .inr ⟨.reset, hname, rfl⟩

/-! ### What is sent -/

/-- The first argument names a command that acts on devices, and the others are a warrant. -/
inductive MainWarrant (env : CliEnv) : List Str → Command → Prop
  | of {tool : Tool} {argv : List Str} {c : Command} (h : Warrant env tool argv c) :
    MainWarrant env (tool.name :: argv) c

/-- Listing the devices sends nothing to them. -/
theorem issues_runDiscover {W : Command → Prop} (env : CliEnv) (command : Str) (argv : List Str) :
    Issues W (runDiscover env command argv) := by
  have hquiet : ∀ {help : Str} {skip : ℕ} {o : DiscoverOptions} {argv : List Str}
      {effects : List Effect} {code : ℤ},
      discoverOptionLoop help skip o argv = .exit effects code → Quiet effects := by
    intro help skip o argv effects code h
    induction argv generalizing skip o with
    | nil => simp [discoverOptionLoop] at h
    | cons p argv ih =>
      cases skip with
      | succ skip => exact ih h
      | zero =>
        rw [discoverOptionLoop] at h
        split_ifs at h
        · exact ih h
        · exact ih h
        · split at h
          · simp only [DiscoverParsed.exit.injEq] at h
            simp [← h.1, Quiet]
          · exact ih h
        · simp only [DiscoverParsed.exit.injEq] at h
          simp [← h.1, Quiet]
        · simp only [DiscoverParsed.exit.injEq] at h
          simp [← h.1, Quiet]
  unfold runDiscover
  split
  · next hloop => exact issues_exit (hquiet hloop) _
  · refine Issues.bind (m := receiveInfos env _) (fun trace htrace => ?_) fun devices =>
      issues_exit (by simp [Quiet]) 0
    rw [receiveInfos, exec_ofExcept]
    split
    · next h => split at h <;> grind
    · next h => split at h <;> grind

theorem only_main (packageVersion : Str) (env : CliEnv) (argv0 : Str) (args : List Str) :
    Only (MainWarrant env args) (exec (main packageVersion env argv0 args) []).2 := by
  have hls : ∀ words argv, Only (MainWarrant env args)
      (exec (runCommand env argv0 (commands.lookup "ls".toList) words argv) []).2 :=
    fun words argv => (issues_runDiscover env (commandStr words) argv).only
  have hexit : ∀ {effects : List Effect} (code : ℤ), Quiet effects →
      Only (MainWarrant env args) (exec (exit effects code) []).2 := fun code h =>
    (issues_exit h code).only
  unfold main
  split
  · exact hls _ _
  · next argv1 rest =>
    split_ifs with hhelp hversion hname
    · exact hexit 0 (by simp [Quiet])
    · exact hexit 0 (by simp [Quiet])
    · unfold runCommand
      split
      · exact hexit 1 (by simp [Quiet])
      · next command hcommand =>
        rcases lookup_commands hcommand with hfn | ⟨tool, rfl, hfn⟩
        · rw [hfn]
          exact (issues_runDiscover env _ rest).only
        · rw [hfn]
          exact fun c hc => .of ((issues_run env tool _ rest).only c hc)
    · exact hls _ _

/-! ### How the tool ends -/

/-- Nothing was written to the error output. -/
def NoError (trace : List Effect) : Prop := ∀ text, .cerr text ∉ trace

/-- The exit status says whether an error was reported, and then nothing was sent. -/
def Ended (code : ℤ) (trace : List Effect) : Prop :=
  code = 0 ∧ NoError trace ∨ code = 1 ∧ (∃ text, .cerr text ∈ trace) ∧ Quiet trace

/-- Only output so far, and no error. -/
def Clean (trace : List Effect) : Prop := NoError trace ∧ Quiet trace

/-- The program ends well, or in an exception that it does not report. -/
def Ends (P : List Effect → Prop) (m : Program (List Effect) Abort ℤ) : Prop :=
  Ensures P m Ended fun _ => NoError

section Ends

variable {env : CliEnv} {help : Str} {trace effects : List Effect}

theorem NoError.append (h : NoError trace) (h' : NoError effects) :
    NoError (trace ++ effects) := fun text hmem => by
  rcases List.mem_append.mp hmem with hmem | hmem
  · exact h text hmem
  · exact h' text hmem

theorem Quiet.append (h : Quiet trace) (h' : Quiet effects) : Quiet (trace ++ effects) :=
  fun c hmem => by
    rcases List.mem_append.mp hmem with hmem | hmem
    · exact h c hmem
    · exact h' c hmem

theorem ends_exit {code : ℤ} (h : Ended code effects) : Ends Clean (exit effects code) := by
  refine Ensures.bind (Q := fun _ => Ended code) (ensures_ofState fun trace ht => ?_) fun _ =>
    ensures_pure fun _ ht => ht
  rcases h with ⟨hcode, hno⟩ | ⟨hcode, ⟨text, hmem⟩, hquiet⟩
  · exact .inl ⟨hcode, ht.1.append hno⟩
  · exact .inr ⟨hcode, ⟨text, List.mem_append_right _ hmem⟩, ht.2.append hquiet⟩

theorem ended_zero (h : NoError effects) : Ended 0 effects := .inl ⟨rfl, h⟩

/-- The error and the help text. -/
theorem ended_one {first second : Effect} (hfirst : Quiet [first]) (text : Str)
    (hsecond : second = .cerr text) : Ended 1 [first, second] := by
  subst hsecond
  exact .inr ⟨rfl, ⟨text, by simp⟩, hfirst.append (by simp [Quiet])⟩

theorem clean_emit (hno : NoError effects) (hquiet : Quiet effects) {E : Abort → List Effect → Prop} :
    Ensures Clean (emit effects) (fun _ => Clean) E :=
  ensures_ofState fun _ ht => ⟨ht.1.append hno, ht.2.append hquiet⟩

theorem ends_issueAll (cmd : DeviceInfo → Command) (devices : List DeviceInfo) :
    Ends NoError (issueAll env cmd devices) := by
  induction devices with
  | nil =>
    refine Ensures.bind (Q := fun _ => Ended 0) (ensures_ofState fun trace ht => ?_) fun _ =>
      ensures_pure fun _ ht => ht
    exact .inl ⟨rfl, ht.append (by simp [NoError])⟩
  | cons d devices ih =>
    have hissue : Ensures NoError (issue env (cmd d)) (fun _ => NoError) fun _ => NoError := by
      intro trace ht
      have hsent : NoError (trace ++ [.issued (cmd d)]) := ht.append (by simp [NoError])
      rw [issue, exec_ofExcept]
      dsimp only
      cases env.send trace (cmd d) <;> exact hsent
    exact hissue.bind fun _ => ih

theorem ends_confirmAndIssue {yes : Bool} {title : Str} {cmd : DeviceInfo → Command}
    {devices : List DeviceInfo} : Ends Clean (confirmAndIssue env yes title cmd devices) := by
  have hissue : Ends Clean (issueAll env cmd devices) :=
    (ends_issueAll cmd devices).conseq (fun _ h => h.1) (fun _ _ h => h) fun _ _ h => h
  refine (clean_emit (by simp [NoError]) (by simp [Quiet])).bind fun _ =>
    Ensures.ite (fun _ => hissue) fun _ => ?_
  refine (clean_emit (by simp [NoError]) (by simp [Quiet])).bind fun _ =>
    Ensures.ite (fun _ => ends_exit (ended_zero (by simp [NoError]))) fun _ => hissue

theorem ends_collect_bind {filter : DeviceFilter}
    {f : List DeviceInfo → Program (List Effect) Abort ℤ} (h : ∀ devices, Ends Clean (f devices)) :
    Ends Clean (collect env filter >>= f) := by
  refine Ensures.bind (Q := fun _ => Clean) (fun trace ht => ?_) h
  rw [collect, exec_ofExcept]
  rcases env.discover filter.iface with e | infos
  · exact ht.1
  rcases hdev : discoverWithFilter env.sort infos filter with _ | devices
  · simpa [hdev] using ht.1
  · simpa [hdev] using ht

/-- How the option loop ends the run. -/
theorem ended_of_optionLoop {operands : Bool} {skip : ℕ} {filter : DeviceFilter} {yes : Bool}
    {argv : List Str} {code : ℤ}
    (h : optionLoop help operands skip filter yes argv = .exit effects code) :
    Ended code effects := by
  induction argv generalizing skip filter yes with
  | nil => simp [optionLoop] at h
  | cons p argv ih =>
    cases skip with
    | succ skip => exact ih h
    | zero =>
      rw [optionLoop] at h
      split_ifs at h
      · exact ih h
      · split at h
        · obtain ⟨rfl, rfl⟩ := Parsed.exit.inj h
          exact ended_one (by simp [Quiet]) _ rfl
        · exact ih h
      · obtain ⟨rfl, rfl⟩ := Parsed.exit.inj h
        exact ended_zero (by simp [NoError])
      · obtain ⟨rfl, rfl⟩ := Parsed.exit.inj h
        exact ended_one (by simp [Quiet]) _ rfl

theorem ends_withOptions {operands : Bool} {argv : List Str}
    {body : DeviceFilter → Bool → List Str → Program (List Effect) Abort ℤ}
    (h : ∀ filter yes rest, Ends Clean (body filter yes rest)) :
    Ends Clean (withOptions help operands argv body) := by
  rw [withOptions]
  split
  · next hloop => exact ends_exit (ended_of_optionLoop hloop)
  · next filter yes rest _ =>
    exact Ensures.ite (fun _ => ends_exit (ended_one (by simp [Quiet]) _ rfl)) fun _ =>
      h filter yes rest

theorem ends_runReset (command : Str) (argv : List Str) :
    Ends Clean (runReset env command argv) := by
  cases argv with
  | nil => exact ends_exit (ended_one (by simp [Quiet]) _ rfl)
  | cons argv0 argv =>
    refine Ensures.ite (fun _ => ends_exit (ended_zero (by simp [NoError]))) fun _ => ?_
    split
    · exact ends_exit (ended_one (by simp [Quiet]) _ rfl)
    · refine ends_withOptions fun filter yes rest => ends_collect_bind fun devices => ?_
      exact Ensures.ite (fun _ => ends_exit (ended_zero (by simp [NoError]))) fun _ =>
        ends_confirmAndIssue

theorem ends_runReconnect (command : Str) (argv : List Str) :
    Ends Clean (runReconnect env command argv) := by
  refine ends_withOptions fun filter yes rest => ends_collect_bind fun devices => ?_
  exact Ensures.ite (fun _ => ends_exit (ended_zero (by simp [NoError]))) fun _ =>
    ends_confirmAndIssue

theorem ends_runForceIP (command : Str) (argv : List Str) :
    Ends Clean (runForceIP env command argv) := by
  refine ends_withOptions fun filter yes rest => ?_
  split
  · split
    · exact ends_exit (ended_one (by simp [Quiet]) _ rfl)
    split
    · exact ends_exit (ended_one (by simp [Quiet]) _ rfl)
    split
    · exact ends_exit (ended_one (by simp [Quiet]) _ rfl)
    refine ends_collect_bind fun devices => ?_
    refine Ensures.ite (fun _ => ends_exit (ended_zero (by simp [NoError]))) fun _ => ?_
    exact Ensures.ite (fun _ => ends_exit (ended_zero (by simp [NoError]))) fun _ =>
      ends_confirmAndIssue
  · exact ends_exit (ended_one (by simp [Quiet]) _ rfl)

theorem ended_of_discoverOptionLoop {skip : ℕ} {o : DiscoverOptions} {argv : List Str} {code : ℤ}
    (h : discoverOptionLoop help skip o argv = .exit effects code) : Ended code effects := by
  induction argv generalizing skip o with
  | nil => simp [discoverOptionLoop] at h
  | cons p argv ih =>
    cases skip with
    | succ skip => exact ih h
    | zero =>
      rw [discoverOptionLoop] at h
      split_ifs at h
      · exact ih h
      · exact ih h
      · split at h
        · obtain ⟨rfl, rfl⟩ := DiscoverParsed.exit.inj h
          exact .inr ⟨rfl, ⟨_, List.mem_cons_self⟩, by simp [Quiet]⟩
        · exact ih h
      · obtain ⟨rfl, rfl⟩ := DiscoverParsed.exit.inj h
        exact ended_zero (by simp [NoError])
      · obtain ⟨rfl, rfl⟩ := DiscoverParsed.exit.inj h
        exact ended_one (by simp [Quiet]) _ rfl

theorem ends_runDiscover (command : Str) (argv : List Str) :
    Ends Clean (runDiscover env command argv) := by
  unfold runDiscover
  split
  · next hloop => exact ends_exit (ended_of_discoverOptionLoop hloop)
  · next o _ =>
    refine Ensures.bind (Q := fun _ => Clean) (fun trace ht => ?_) fun devices =>
      ends_exit (ended_zero (by simp [NoError]))
    rw [receiveInfos, exec_ofExcept]
    rcases env.discover o.deviceFilter.iface with e | infos
    · exact ht.1
    rcases hdev : processInfos env.sort infos o.deviceFilter with _ | devices
    · simpa [hdev] using ht.1
    · simpa [hdev] using ht

theorem ends_main (packageVersion argv0 : Str) (args : List Str) :
    Ends Clean (main packageVersion env argv0 args) := by
  have hls : ∀ words argv,
      Ends Clean (runCommand env argv0 (commands.lookup "ls".toList) words argv) :=
    fun words argv => ends_runDiscover (commandStr words) argv
  unfold main
  split
  · exact hls _ _
  · next argv1 rest =>
    refine Ensures.ite (fun _ => ends_exit (ended_zero (by simp [NoError]))) fun _ => ?_
    refine Ensures.ite (fun _ => ends_exit (ended_zero (by simp [NoError]))) fun _ => ?_
    refine Ensures.ite (fun _ => ?_) fun _ => hls _ _
    unfold runCommand
    split
    · exact ends_exit (ended_one (by simp [Quiet]) _ rfl)
    · next command hcommand =>
      rcases lookup_commands hcommand with hfn | ⟨tool, rfl, hfn⟩
      · rw [hfn]
        exact ends_runDiscover _ _
      · rw [hfn]
        cases tool with
        | reset => exact ends_runReset _ _
        | reconnect => exact ends_runReconnect _ _
        | forceip => exact ends_runForceIP _ _

end Ends

/-- **The tool sends only what was asked for, and the status that it returns tells whether it could.**
Whatever the command line, what is received and what the user answers: what is sent is what the
command named by the first argument has a warrant for; and when `main` returns, it returns 0 or 1,
it returns 1 exactly when it has reported an error, and then nothing was sent.  There is no `try` in
`main`: an exception leaves it, also that of a later `send`. -/
theorem main_warranted (packageVersion : Str) (env : CliEnv) (argv0 : Str) (args : List Str) :
    let r := exec (main packageVersion env argv0 args) []
    (∀ c, .issued c ∈ r.2 → MainWarrant env args c) ∧
    ∀ code, r.1 = .ok code → (code = 0 ∨ code = 1) ∧ (code = 1 ↔ ∃ text, .cerr text ∈ r.2) ∧
      (code = 1 → ∀ c, .issued c ∉ r.2) := by
  intro r
  refine ⟨only_main packageVersion env argv0 args, fun code hcode => ?_⟩
  have hclean : Clean [] := ⟨by simp [NoError], by simp [Quiet]⟩
  have hrun : exec (main packageVersion env argv0 args) [] = (.ok code, r.2) := by
    rw [← hcode]
  rcases (ends_main packageVersion argv0 args).ok hclean hrun with ⟨rfl, hno⟩ | ⟨rfl, herr, hquiet⟩
  · refine ⟨.inl rfl, iff_of_false (by decide) fun herr => herr.elim hno, ?_⟩
    exact fun h => absurd h (by decide)
  · exact ⟨.inr rfl, iff_of_true rfl herr, fun _ => hquiet⟩

/-! ### Back to the network -/

open Listening Discover Collecting

/-- The discovery of the tool is a run of the threads of a `Discover` object, on these sockets, for
the patterns of the command line; the loop around `getResponse` collects what its calls append. -/
def CliEnv.over (env : CliEnv) (sockets : List Str)
    (actions : List Str → List (Party × Choice)) : CliEnv :=
  { env with
    discover := fun iface => .ok
      ((Runs.run (Process.step iface) (Process.start sockets) (actions iface)).calls.flatMap
        Call.appended) }

theorem Warrant.selected {env : CliEnv} {tool : Tool} {argv : List Str} {c : Command}
    (h : Warrant env tool argv c) : ∃ opts, Selected env opts c.mac := by
  cases h with
  | reset _ hsel => exact ⟨_, hsel⟩
  | reconnect hsel => exact ⟨_, hsel⟩
  | forceip hsel => exact ⟨_, hsel⟩

/-- **No command without an acknowledgement.**  Whatever the command line is, however the threads
interleave and whatever arrives on the sockets: what the tool sends is for the MAC address in a
datagram that the process received and that acknowledges a discovery command of its own
broadcast. -/
theorem main_acknowledged (packageVersion : Str) (env : CliEnv) (argv0 : Str) (args : List Str)
    (sockets : List Str) (actions : List Str → List (Party × Choice)) (c : Command)
    (hc : .issued c ∈
      (exec (main packageVersion (env.over sockets actions) argv0 args) []).2) :
    ∃ iface, let s := Runs.run (Process.step iface) (Process.start sockets) (actions iface)
      ∃ t ifaceName d script log, sockets[t]? = some ifaceName ∧ (t, some d) ∈ s.received ∧
        exec (broadcastRequest replay.logged iface) (⟨sockets, [], [], []⟩, (script, [])) =
          (.ok (), (listening sockets s.obj.reqNums, ([], log))) ∧
        Acknowledges (AssignedIn log) (d.take 600) ∧
        (DeviceInfo.decode ifaceName (ackBody (d.take 600))).mac = c.mac := by
  have hwarrant := only_main packageVersion (env.over sockets actions) argv0 args c hc
  obtain ⟨hwarrant⟩ := hwarrant
  obtain ⟨opts, hselected⟩ := hwarrant.selected
  obtain ⟨infos, hinfos, info, hinfo, hmac, -⟩ := hselected.received
  obtain rfl := Except.ok.inj hinfos
  obtain ⟨t, ifaceName, d, script, log, hsocket, hreceived, hrun, hack, rfl⟩ :=
    exists_acknowledgement sockets (patternsOf opts .iface) (actions (patternsOf opts .iface))
      info hinfo
  exact ⟨_, t, ifaceName, d, script, log, hsocket, hreceived, hrun, hack, hmac⟩

/-- The answer of a sensor to the request with the id 1. -/
def sensorAck : Bytes :=
  [0, 0, 0, 3, 0, 136, 0, 1] ++ (List.replicate 10 0 ++ [0x00, 0x14, 0x2D, 0x00, 0x00, 0x01] ++
    List.replicate 88 0 ++ [114, 99, 95, 118, 105, 115, 97, 114, 100] ++ List.replicate 23 0)

/-- The sensor answers on the only socket, and the owner takes the response. -/
def sensorActions : List (Party × Choice) :=
  let choice : Choice := ⟨(0, 1), .ok (), true, some [], false, some (fun _ => 0, some sensorAck)⟩
  List.replicate 6 (.owner, choice) ++ List.replicate 8 (.listener 0, choice) ++
    List.replicate 8 (.owner, choice)

theorem appended_sensorActions :
    (Runs.run (Process.step []) (Process.start ["eth0".toList]) sensorActions).calls.flatMap
      Call.appended = [visard "eth0".toList] := by decide +kernel

/-- The tool on this network. -/
def answering : CliEnv := (receiving []).over ["eth0".toList] fun _ => sensorActions

/-- The sensor that has answered is reconnected. -/
theorem issued_answering :
    .issued (.forceIP 0x00142D000001 0 0 0) ∈ (exec (main [] answering "rcdiscover".toList
      ("reconnect".toList :: render visardOpts)) []).2 := by
  have hreturned : discoverWithFilter .insertion [visard "eth0".toList] (filterOf visardOpts) =
      some [visard "eth0".toList] := by
    change filterDevices (filterOf visardOpts) [visard "eth0".toList] = _
    rw [filterDevices, filterDevice_visard]
    rfl
  have hdiscover : answering.discover (filterOf visardOpts).iface = .ok [visard "eth0".toList] :=
    congrArg Except.ok appended_sensorActions
  have hsort : answering.sort = .insertion := rfl
  have hcollect : exec (collect answering (filterOf visardOpts)) [] =
      (.ok [visard "eth0".toList], []) := by
    rw [collect, exec_ofExcept, hdiscover]
    dsimp only
    rw [hsort, hreturned]
  have hrun : exec (main [] answering "rcdiscover".toList
      ("reconnect".toList :: render visardOpts)) [] =
      exec (confirmAndIssue answering true "Reconnecting the following devices:\n".toList
        (fun d => .forceIP d.mac 0 0 0) [visard "eth0".toList]) [] := exec_bind_ok hcollect
  rw [hrun]
  exact .tail _ (.tail _ (.head _))

theorem main_warranted_reconnect :
    MainWarrant answering ("reconnect".toList :: render visardOpts)
      (.forceIP 0x00142D000001 0 0 0) :=
  (main_warranted [] answering "rcdiscover".toList ("reconnect".toList :: render visardOpts)).1 _
    issued_answering

theorem main_acknowledged_reconnect :
    ∃ iface, let s := Runs.run (Process.step iface) (Process.start ["eth0".toList]) sensorActions
      ∃ t ifaceName d script log, ["eth0".toList][t]? = some ifaceName ∧
        (t, some d) ∈ s.received ∧
        exec (broadcastRequest replay.logged iface)
          (⟨["eth0".toList], [], [], []⟩, (script, [])) =
          (.ok (), (listening ["eth0".toList] s.obj.reqNums, ([], log))) ∧
        Acknowledges (AssignedIn log) (d.take 600) ∧
        (DeviceInfo.decode ifaceName (ackBody (d.take 600))).mac = 0x00142D000001 :=
  main_acknowledged [] (receiving []) "rcdiscover".toList
    ("reconnect".toList :: render visardOpts) ["eth0".toList] (fun _ => sensorActions) _
    issued_answering

end Cli
end RcDiscover
