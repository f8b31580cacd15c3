import RcDiscover.Cli.Utils
import RcDiscover.Lib.Program

/-!
# `rcdiscover_reset.cc`, `rcdiscover_reconnect.cc`, `rcdiscover_force_ip.cc`

The three commands that act on devices.  Each reads its options, collects the devices that pass
the filter, shows them, asks for confirmation and sends one command for each record.

A command is a program over the list of what it has printed and issued so far; it returns its
exit status or is aborted.  The environment `CliEnv` says what the discovery receives, which line
the user types, and whether sending throws.  The three source files have the same option loop,
filter check and confirmation; these are written once (`optionLoop`, `withOptions`,
`confirmAndIssue`) with what differs as parameters.
-/

namespace RcDiscover
namespace Cli

open Program

/-- What is sent for a device: `WOL(mac, port).send(password)` or
`ForceIP().sendCommand(mac, ip, subnet, gateway)`. -/
inductive Command
  | wol (mac : UInt64) (port : ℕ) (password : List UInt8)
  | forceIP (mac : UInt64) (ip subnet gateway : UInt32)
  deriving DecidableEq, Repr

/-- The MAC address that the command is for. -/
def Command.mac : Command → UInt64
  | wol mac _ _ => mac
  | forceIP mac _ _ _ => mac

/-- What a command line tool does to the outside. -/
inductive Effect
  | cout (text : Str)
  | cerr (text : Str)
  | issued (c : Command)
  deriving DecidableEq, Repr

/-- How a run ends without an exit status: by an exception that nobody catches, or in undefined
behaviour of `wildcardMatch`. -/
inductive Abort
  | socketException (e : SocketException)
  | operationNotPermitted
  | undefined
  deriving DecidableEq, Repr

/-- The outside of a run. -/
structure CliEnv where
  sort : StdSort
  /-- What `Discover`, `broadcastRequest` with these patterns and the collecting loop yield. -/
  discover : List Str → Except Abort (List DeviceInfo)
  /-- The line that `std::getline` reads from `std::cin`. -/
  answer : Str
  /-- Whether sending the command throws, after these effects. -/
  send : List Effect → Command → Except Abort Unit

/-! ### Help texts -/

/-- `ResetCommand`. -/
structure ResetCommand where
  description : Str
  action : Str
  id : UInt8

/-- `reset_commands`, in the order of the map. -/
def resetCommands : List (Str × ResetCommand) := [
  ("all".toList, ⟨"Reset parameters and network parameters".toList, "Resetting all".toList, 0xFF⟩),
  ("network".toList, ⟨"Reset network parameters".toList, "Resetting parameters".toList, 0xBB⟩),
  ("parameters".toList, ⟨"Reset parameters".toList, "Resetting parameters".toList, 0xAA⟩),
  ("switch-partition".toList, ⟨"Switch partition".toList, "Switching partition".toList, 0xCC⟩)]

/-- `getMaxCommandLen`. -/
def getMaxCommandLen {ρ : Type} (commands : List (Str × ρ)) : ℕ :=
  (commands.map fun cmd => cmd.1.length).foldl max 0

/-- The arguments that the help texts list. -/
def argumentHelp : List Str := [
  "-h, --help         Show this help and exit\n".toList,
  "-f name=<name>     Filter by name\n".toList,
  "-f serial=<serial> Filter by serial number\n".toList,
  "-f mac=<mac>       Filter by MAC address\n".toList,
  "-f iface=<mac>     Filter by interface name\n".toList,
  "-f model=<model>   Filter by model name\n".toList,
  "-y                 Assume 'yes' for all queries\n".toList]

/-- `printHelp` of `reset`. -/
def resetHelp (command : Str) : Str :=
  "Usage: ".toList ++ command ++ " <operation> [<args>]\n".toList ++ "\n".toList ++
    "Available operations are:\n".toList ++
    (resetCommands.flatMap fun cmd =>
      "    ".toList ++ cmd.1 ++
        List.replicate (getMaxCommandLen resetCommands + 3 - cmd.1.length) ' ' ++
        cmd.2.description ++ "\n".toList) ++
    "\n".toList ++ "Available arguments are:\n".toList ++
    argumentHelp.flatMap fun line => "    ".toList ++ line

/-- `printHelp` of `reconnect`. -/
def reconnectHelp (command : Str) : Str :=
  "Usage: ".toList ++ command ++ " [<args>]\n".toList ++ "\n".toList ++ argumentHelp.flatten

/-- `printHelp` of `forceip`. -/
def forceIPHelp (command : Str) : Str :=
  "Usage: ".toList ++ command ++ " [<args>] <IP address> <subnet mask> <default gateway>\n".toList ++
    "\n".toList ++ argumentHelp.flatten

/-! ### Reading the options -/

/-- How the option loop ends: the function returns, or it goes on with what is left. -/
inductive Parsed
  | exit (effects : List Effect) (code : ℤ)
  | done (filter : DeviceFilter) (yes : Bool) (rest : List Str)
  deriving DecidableEq, Repr

/-- The option loop.  `skip` arguments have been consumed by an option already; where there are
`operands`, the first argument that does not start with a dash ends the loop. -/
def optionLoop (help : Str) (operands : Bool) : ℕ → DeviceFilter → Bool → List Str → Parsed
  | _, filter, yes, [] => .done filter yes []
  | skip + 1, filter, yes, _ :: argv => optionLoop help operands skip filter yes argv
  | 0, filter, yes, p :: argv =>
    if p = "-y".toList then optionLoop help operands 0 filter true argv
    else if p = "-f".toList then
      match parseFilterArguments argv filter with
      | .error what => .exit [.cerr (what ++ "\n".toList), .cerr help] 1
      | .ok (n, filter) => optionLoop help operands n filter yes argv
    else if p = "-h".toList ∨ p = "--help".toList then .exit [.cout help] 0
    else if operands ∧ p.head? ≠ some '-' then .done filter yes (p :: argv)
    else .exit [.cerr ("Invalid argument: ".toList ++ p ++ "\n".toList), .cerr help] 1

/-! ### Programs -/

/-- Output. -/
def emit (effects : List Effect) : Program (List Effect) Abort Unit :=
  ofState fun trace => ((), trace ++ effects)

/-- Send a command. -/
def issue (env : CliEnv) (c : Command) : Program (List Effect) Abort Unit :=
  ofExcept fun trace => (env.send trace c, trace ++ [.issued c])

/-- `discoverWithFilter(device_filter)`. -/
def collect (env : CliEnv) (filter : DeviceFilter) :
    Program (List Effect) Abort (List DeviceInfo) :=
  ofExcept fun trace =>
    match env.discover filter.iface with
    | .error e => (.error e, trace)
    | .ok infos =>
      match discoverWithFilter env.sort infos filter with
      | none => (.error .undefined, trace)
      | some devices => (.ok devices, trace)

/-- Output and return. -/
def exit (effects : List Effect) (code : ℤ) : Program (List Effect) Abort ℤ := do
  emit effects
  return code

/-- What the three commands do before they look for devices: the option loop, and the check that
a name, a serial number or a MAC address is given. -/
def withOptions (help : Str) (operands : Bool) (argv : List Str)
    (body : DeviceFilter → Bool → List Str → Program (List Effect) Abort ℤ) :
    Program (List Effect) Abort ℤ :=
  match optionLoop help operands 0 .empty false argv with
  | .exit effects code => exit effects code
  | .done filter yes rest =>
    if filter.mac = [] ∧ filter.name = [] ∧ filter.serial = [] then
      exit [.cerr "No filter set\n".toList, .cerr help] 1
    else body filter yes rest

/-- The loop that sends one command for each record. -/
def issueAll (env : CliEnv) (cmd : DeviceInfo → Command) :
    List DeviceInfo → Program (List Effect) Abort ℤ
  | [] => exit [.cout "Done\n".toList] 0
  | device :: devices => do
    issue env (cmd device)
    issueAll env cmd devices

/-- Show the devices, ask unless `-y` was given, and send. -/
def confirmAndIssue (env : CliEnv) (yes : Bool) (title : Str) (cmd : DeviceInfo → Command)
    (devices : List DeviceInfo) : Program (List Effect) Abort ℤ := do
  emit [.cout title, .cout (printDeviceTable devices true false false)]
  if yes then issueAll env cmd devices
  else
    emit [.cout "Are you sure? [y/N] ".toList]
    if env.answer ≠ "y".toList ∧ env.answer ≠ "Y".toList then exit [.cout "Cancel\n".toList] 0
    else issueAll env cmd devices

/-- `runReset`. -/
def runReset (env : CliEnv) (command : Str) (argv : List Str) :
    Program (List Effect) Abort ℤ :=
  match argv with
  | [] => exit [.cerr "No operation specified\n".toList, .cerr (resetHelp command)] 1
  | argv0 :: argv =>
    if argv0 = "-h".toList ∨ argv0 = "--help".toList then exit [.cout (resetHelp command)] 0
    else
      match resetCommands.lookup argv0 with
      | none => exit [.cout "Invalid operation specified\n".toList, .cerr (resetHelp command)] 1
      | some resetCommand =>
        withOptions (resetHelp command) false argv fun filter yes _ => do
          let devices ← collect env filter
          if devices = [] then exit [.cout "No device found\n".toList] 0
          else
            confirmAndIssue env yes
              (resetCommand.action ++ " of the following devices:\n".toList)
              (fun device => .wol device.mac 9 [0xEE, 0xEE, 0xEE, resetCommand.id]) devices

/-- `runReconnect`. -/
def runReconnect (env : CliEnv) (command : Str) (argv : List Str) :
    Program (List Effect) Abort ℤ :=
  withOptions (reconnectHelp command) false argv fun filter yes _ => do
    let devices ← collect env filter
    if devices = [] then exit [.cout "No device found\n".toList] 0
    else
      confirmAndIssue env yes "Reconnecting the following devices:\n".toList
        (fun device => .forceIP device.mac 0 0 0) devices

/-- `runForceIP`. -/
def runForceIP (env : CliEnv) (command : Str) (argv : List Str) :
    Program (List Effect) Abort ℤ :=
  let help := forceIPHelp command
  withOptions help true argv fun filter yes rest =>
    match rest with
    | [argIp, argMask, argGateway] =>
      match string2ip argIp with
      | .error _ => exit [.cerr "Cannot parse IP address\n".toList, .cerr help] 1
      | .ok ip =>
        match string2ip argMask with
        | .error _ => exit [.cerr "Cannot parse subnet mask\n".toList, .cerr help] 1
        | .ok mask =>
          match string2ip argGateway with
          | .error _ => exit [.cerr "Cannot parse default gateway\n".toList, .cerr help] 1
          | .ok gateway => do
            let devices ← collect env filter
            if devices = [] then exit [.cout "No device found\n".toList] 0
            else if 1 < devices.length then
              exit [.cout "Found more than one device matching the filter criteria.\n".toList,
                .cout (printDeviceTable devices true false false)] 0
            else
              confirmAndIssue env yes "Setting the IP address of the following device:\n".toList
                (fun device => .forceIP device.mac (byteArrayToIp ip) (byteArrayToIp mask)
                  (byteArrayToIp gateway)) devices
    | _ =>
      exit [.cerr "IP address, subnet mask and default gateway must be set\n".toList, .cerr help] 1

/-- The commands that act on devices. -/
inductive Tool
  | reset
  | reconnect
  | forceip
  deriving DecidableEq, Repr

/-- The function behind a command. -/
def Tool.run : Tool → CliEnv → Str → List Str → Program (List Effect) Abort ℤ
  | reset => runReset
  | reconnect => runReconnect
  | forceip => runForceIP

end Cli

end RcDiscover
