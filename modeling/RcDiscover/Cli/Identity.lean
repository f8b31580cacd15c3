import RcDiscover.Cli.Safety

/-!
# Which devices a confirmed command reaches

`discoverWithFilter` returns one record for each pair of MAC address and interface; the commands
send once for each record (`reset`, `reconnect`) or insist on a single record (`forceip`), while
`printDeviceTable` shows one device for each MAC address.

A `ConfirmedRun` gets as far as sending.  `commandsOf_runReset`, `commandsOf_runReconnect` and
`commandsOf_runForceIP` say what it sends; `identifiedByMac_iff` (**main result**) says that this
amounts to one device for each MAC address exactly when no device was accepted on two interfaces.
-/

namespace RcDiscover
namespace Cli

open Program

/-! ### What a confirmed run sends -/

/-- The commands among the effects. -/
def commandsOf (trace : List Effect) : List Command :=
  trace.filterMap fun
    | .issued c => some c
    | _ => none

@[simp] theorem commandsOf_append (trace trace' : List Effect) :
    commandsOf (trace ++ trace') = commandsOf trace ++ commandsOf trace' :=
  List.filterMap_append

@[simp] theorem commandsOf_nil : commandsOf [] = [] := rfl

@[simp] theorem commandsOf_cout (text : Str) (trace : List Effect) :
    commandsOf (.cout text :: trace) = commandsOf trace := rfl

/-- A run whose options name devices, for which discovery and filtering have yielded `devices`,
that is confirmed and in which sending does not throw. -/
structure ConfirmedRun (env : CliEnv) (opts : List Opt) (infos devices : List DeviceInfo) :
    Prop where
  named : ∃ c ∈ [Category.mac, .name, .serial], patternsOf opts c ≠ []
  received : env.discover (filterOf opts).iface = .ok infos
  returned : discoverWithFilter env.sort infos (filterOf opts) = some devices
  confirmed : Confirmed env (Opt.yes ∈ opts)
  sends : ∀ trace c, env.send trace c = .ok ()

section Confirmed

variable {env : CliEnv} {opts : List Opt} {infos devices : List DeviceInfo}

theorem commandsOf_exit (effects : List Effect) (code : ℤ) (trace : List Effect) :
    commandsOf (exec (exit effects code) trace).2 = commandsOf trace ++ commandsOf effects := by
  rw [← commandsOf_append]
  rfl

theorem commandsOf_issueAll (hsend : ∀ trace c, env.send trace c = .ok ())
    (cmd : DeviceInfo → Command) (devices : List DeviceInfo) (trace : List Effect) :
    commandsOf (exec (issueAll env cmd devices) trace).2 =
      commandsOf trace ++ devices.map cmd := by
  induction devices generalizing trace with
  | nil => exact commandsOf_exit _ _ _
  | cons d devices ih =>
    have hissue : exec (issue env (cmd d)) trace = (.ok (), trace ++ [.issued (cmd d)]) := by
      rw [issue, exec_ofExcept, hsend]
    rw [issueAll, exec_bind_ok hissue, ih, commandsOf_append, List.append_assoc]
    rfl

theorem commandsOf_confirmAndIssue (h : ConfirmedRun env opts infos devices) (title : Str)
    (cmd : DeviceInfo → Command) (trace : List Effect) :
    commandsOf (exec (confirmAndIssue env (Opt.yes ∈ opts) title cmd devices) trace).2 =
      commandsOf trace ++ devices.map cmd := by
  have hemit : ∀ effects t, exec (emit effects) t = (.ok (), t ++ effects) := fun _ _ => rfl
  rw [confirmAndIssue, exec_bind_ok (hemit _ _)]
  by_cases hyes : Opt.yes ∈ opts
  · rw [if_pos (by simpa using hyes), commandsOf_issueAll h.sends]
    simp
  · have hanswer : ¬ (env.answer ≠ "y".toList ∧ env.answer ≠ "Y".toList) := by
      have := h.confirmed
      simp only [Confirmed, hyes, decide_false, Bool.false_eq_true, false_or] at this
      tauto
    rw [if_neg (by simpa using hyes), exec_bind_ok (hemit _ _), if_neg hanswer,
      commandsOf_issueAll h.sends]
    simp

theorem exec_collect (h : ConfirmedRun env opts infos devices) (trace : List Effect) :
    exec (collect env (filterOf opts)) trace = (.ok devices, trace) := by
  rw [collect, exec_ofExcept, h.received]
  simp only [h.returned]

/-- The options lead to the body of the command. -/
theorem withOptions_render (h : ConfirmedRun env opts infos devices) (help : Str)
    (operands : Bool) {rest : List Str} (hrest : Operands operands rest)
    (body : DeviceFilter → Bool → List Str → Program (List Effect) Abort ℤ) :
    withOptions help operands (render opts ++ rest) body =
      body (filterOf opts) (Opt.yes ∈ opts) rest := by
  have hloop : optionLoop help operands 0 .empty false (render opts ++ rest) =
      .done (filterOf opts) (Opt.yes ∈ opts) rest := by
    rw [optionLoop_render, Bool.false_or]
    rcases hrest with rfl | ⟨hop, p, tail, rfl, hp⟩
    · rfl
    · have hdash : ∀ q : Str, q.head? = some '-' → p ≠ q := by
        rintro q hq rfl
        exact hp hq
      rw [optionLoop, if_neg (hdash _ rfl), if_neg (hdash _ rfl),
        if_neg (not_or.2 ⟨hdash _ rfl, hdash _ rfl⟩), if_pos ⟨hop, hp⟩]
      rfl
  obtain ⟨c, hc, hne⟩ := h.named
  have hsome : ¬ ((filterOf opts).mac = [] ∧ (filterOf opts).name = [] ∧
      (filterOf opts).serial = []) := by
    rintro ⟨hmac, hname, hserial⟩
    refine hne ((patterns_filterOf opts c).symm.trans ?_)
    simp only [List.mem_cons, List.not_mem_nil, or_false] at hc
    rcases hc with rfl | rfl | rfl
    exacts [hmac, hname, hserial]
  rw [withOptions, hloop]
  exact if_neg hsome

/-- The part of a run after the options: nothing is sent when there are no devices. -/
theorem commandsOf_collect_confirm (h : ConfirmedRun env opts infos devices) (title : Str)
    (cmd : DeviceInfo → Command) :
    commandsOf (exec (do
      let devices ← collect env (filterOf opts)
      if devices = [] then exit [.cout "No device found\n".toList] 0
      else confirmAndIssue env (Opt.yes ∈ opts) title cmd devices) []).2 = devices.map cmd := by
  rw [exec_bind_ok (exec_collect h [])]
  by_cases hnil : devices = []
  · rw [if_pos hnil, commandsOf_exit, hnil]
    rfl
  · rw [if_neg hnil, commandsOf_confirmAndIssue h]
    rfl

/-- **`reset` sends once for each record.** -/
theorem commandsOf_runReset (h : ConfirmedRun env opts infos devices) (command : Str) {op : Str}
    {resetCommand : ResetCommand} (hop : resetCommands.lookup op = some resetCommand) :
    commandsOf (exec (runReset env command (op :: render opts)) []).2 =
      devices.map fun d => .wol d.mac 9 [0xEE, 0xEE, 0xEE, resetCommand.id] := by
  have hhelp : ¬ (op = "-h".toList ∨ op = "--help".toList) := by
    have hnone : ∀ h : Str, resetCommands.lookup h = none → op ≠ h := by
      rintro h hh rfl
      rw [hh] at hop
      exact absurd hop.symm (Option.some_ne_none _)
    exact not_or.2 ⟨hnone _ rfl, hnone _ rfl⟩
  have hargs := withOptions_render h (resetHelp command) false (.inl rfl)
  rw [List.append_nil] at hargs
  rw [runReset, if_neg hhelp, hop]
  simp only
  rw [hargs, commandsOf_collect_confirm h]

/-- **`reconnect` sends once for each record.** -/
theorem commandsOf_runReconnect (h : ConfirmedRun env opts infos devices) (command : Str) :
    commandsOf (exec (runReconnect env command (render opts)) []).2 =
      devices.map fun d => .forceIP d.mac 0 0 0 := by
  have hargs := withOptions_render h (reconnectHelp command) false (.inl rfl)
  rw [List.append_nil] at hargs
  rw [runReconnect, hargs, commandsOf_collect_confirm h]

/-- **`forceip` sends when there is one record.** -/
theorem commandsOf_runForceIP (h : ConfirmedRun env opts infos devices) (command : Str)
    {argIp argMask argGateway : Str} (hdash : argIp.head? ≠ some '-') {ip mask gateway : List UInt8}
    (hip : string2ip argIp = .ok ip) (hmask : string2ip argMask = .ok mask)
    (hgateway : string2ip argGateway = .ok gateway) :
    commandsOf (exec (runForceIP env command (render opts ++ [argIp, argMask, argGateway])) []).2 =
      if devices.length ≤ 1 then
        devices.map fun d =>
          .forceIP d.mac (byteArrayToIp ip) (byteArrayToIp mask) (byteArrayToIp gateway)
      else [] := by
  have hrest : Operands true [argIp, argMask, argGateway] := .inr ⟨rfl, argIp, _, rfl, hdash⟩
  rw [runForceIP, withOptions_render h (forceIPHelp command) true hrest]
  simp only [hip, hmask, hgateway]
  by_cases hlen : devices.length ≤ 1
  · rw [if_pos hlen, ← commandsOf_collect_confirm h
      "Setting the IP address of the following device:\n".toList, exec_bind_ok (exec_collect h []),
      exec_bind_ok (exec_collect h []), if_neg hlen.not_gt]
  · rw [if_neg hlen, exec_bind_ok (exec_collect h []), if_neg, if_pos (not_le.1 hlen),
      commandsOf_exit]
    · rfl
    · rintro rfl
      exact hlen (Nat.zero_le 1)

end Confirmed

/-! ### One device for each MAC address -/

/-- The set of MAC addresses among the records. -/
def macs (devices : List DeviceInfo) : Finset UInt64 := (devices.map DeviceInfo.mac).toFinset

/-- The commands reach each MAC address of the records exactly once, and no other. -/
def OncePerMac (devices : List DeviceInfo) (commands : List Command) : Prop :=
  (commands.map Command.mac).Nodup ∧ ∀ m, m ∈ commands.map Command.mac ↔ m ∈ macs devices

/-- The three commands, run with these options on these records, identify a device by its MAC
address: `reset` and `reconnect` send once for each, and `forceip` sends when there is one. -/
def IdentifiedByMac (env : CliEnv) (command : Str) (opts : List Opt) (devices : List DeviceInfo)
    (op : Str) (addresses : List Str) : Prop :=
  OncePerMac devices (commandsOf (exec (runReset env command (op :: render opts)) []).2) ∧
  OncePerMac devices (commandsOf (exec (runReconnect env command (render opts)) []).2) ∧
  (commandsOf (exec (runForceIP env command (render opts ++ addresses)) []).2 ≠ [] ↔
    (macs devices).card = 1)

/-- Among the records that `std::sort` and `std::unique` leave and that pass the filter, those
with the same MAC address have the same interface. -/
def OneInterfacePerMac (env : CliEnv) (opts : List Opt) (infos : List DeviceInfo) : Prop :=
  ∀ d ∈ uniqueInfos env.sort infos, ∀ e ∈ uniqueInfos env.sort infos,
    filterDevice d (filterOf opts) = some true → filterDevice e (filterOf opts) = some true →
    d.mac = e.mac → d.ifaceName = e.ifaceName

section Identity

variable {env : CliEnv} {opts : List Opt} {infos devices : List DeviceInfo}

/-- Where a MAC address and an interface determine the received record, `std::unique` loses nothing
that matters: the condition is one on the received records. -/
theorem oneInterfacePerMac_iff_received
    (hkey : ∀ d ∈ infos, ∀ e ∈ infos, d.key = e.key → d = e) :
    OneInterfacePerMac env opts infos ↔ ∀ d ∈ infos, ∀ e ∈ infos,
      filterDevice d (filterOf opts) = some true → filterDevice e (filterOf opts) = some true →
      d.mac = e.mac → d.ifaceName = e.ifaceName := by
  simp only [OneInterfacePerMac, mem_uniqueInfos_iff hkey]

/-- No device is seen on two interfaces exactly when the records have different MAC addresses. -/
theorem oneInterfacePerMac_iff_nodup (h : ConfirmedRun env opts infos devices) :
    OneInterfacePerMac env opts infos ↔ (devices.map DeviceInfo.mac).Nodup := by
  have hkeys : ((uniqueInfos env.sort infos).map DeviceInfo.key).Nodup := by
    rw [List.Nodup, List.pairwise_map]
    exact (pairwise_uniqueInfos env.sort infos).imp fun hlt => hlt.ne
  have hmem : ∀ d, d ∈ devices ↔
      d ∈ uniqueInfos env.sort infos ∧ filterDevice d (filterOf opts) = some true := by
    intro d
    rw [filterDevices_eq_some h.returned, List.mem_filter, decide_eq_true_iff]
  have hnodup : devices.Nodup := by
    rw [filterDevices_eq_some h.returned]
    exact hkeys.of_map.filter _
  rw [List.nodup_map_iff_inj_on hnodup]
  constructor
  · intro hone d hd e he hmac
    have hiface := hone d ((hmem d).1 hd).1 e ((hmem e).1 he).1 ((hmem d).1 hd).2
      ((hmem e).1 he).2 hmac
    exact List.inj_on_of_nodup_map hkeys ((hmem d).1 hd).1 ((hmem e).1 he).1
      ((DeviceInfo.key_eq_iff d e).2 ⟨hmac, hiface⟩)
  · intro hinj d hd e he hacc hacc' hmac
    rw [hinj d ((hmem d).2 ⟨hd, hacc⟩) e ((hmem e).2 ⟨he, hacc'⟩) hmac]

/-- A command for each record reaches each MAC address once exactly when the MAC addresses of the
records are different. -/
theorem oncePerMac_map_iff {cmd : DeviceInfo → Command} (hcmd : ∀ d, (cmd d).mac = d.mac) :
    OncePerMac devices (devices.map cmd) ↔ (devices.map DeviceInfo.mac).Nodup := by
  have hmap : (devices.map cmd).map Command.mac = devices.map DeviceInfo.mac := by
    rw [List.map_map]
    exact List.map_congr_left fun d _ => hcmd d
  rw [OncePerMac, hmap]
  simp [macs]

/-- Different MAC addresses are as many as the records. -/
theorem card_macs_of_nodup (h : (devices.map DeviceInfo.mac).Nodup) :
    (macs devices).card = devices.length := by
  rw [macs, List.toFinset_card_of_nodup h, List.length_map]

/-- **The commands identify devices by their MAC address exactly when no device was accepted on
two interfaces.** -/
theorem identifiedByMac_iff (h : ConfirmedRun env opts infos devices) (command : Str) {op : Str}
    {resetCommand : ResetCommand} (hop : resetCommands.lookup op = some resetCommand)
    {argIp argMask argGateway : Str} (hdash : argIp.head? ≠ some '-') {ip mask gateway : List UInt8}
    (hip : string2ip argIp = .ok ip) (hmask : string2ip argMask = .ok mask)
    (hgateway : string2ip argGateway = .ok gateway) :
    IdentifiedByMac env command opts devices op [argIp, argMask, argGateway] ↔
      OneInterfacePerMac env opts infos := by
  rw [IdentifiedByMac, commandsOf_runReset h command hop, commandsOf_runReconnect h command,
    commandsOf_runForceIP h command hdash hip hmask hgateway, oncePerMac_map_iff fun _ => rfl,
    oncePerMac_map_iff fun _ => rfl, oneInterfacePerMac_iff_nodup h]
  constructor
  · exact fun hall => hall.1
  · intro hnodup
    refine ⟨hnodup, hnodup, ?_⟩
    rw [card_macs_of_nodup hnodup]
    by_cases hlen : devices.length ≤ 1
    · rw [if_pos hlen, ne_eq, List.map_eq_nil_iff, ← List.length_eq_zero_iff]
      omega
    · rw [if_neg hlen]
      simp only [ne_eq, not_true_eq_false, false_iff]
      omega

end Identity

/-! ### Two devices, and one on two interfaces -/

/-- A run on records that all pass the filter. -/
theorem confirmedRun_receiving {opts : List Opt} {infos : List DeviceInfo}
    (hnamed : ∃ c ∈ [Category.mac, .name, .serial], patternsOf opts c ≠ []) (hyes : .yes ∈ opts)
    (hunique : uniqueInfos .insertion infos = infos)
    (haccepted : ∀ d ∈ infos, filterDevice d (filterOf opts) = some true) :
    ConfirmedRun (receiving infos) opts infos infos where
  named := hnamed
  received := rfl
  returned := by
    rw [discoverWithFilter, show (receiving infos).sort = .insertion from rfl, hunique]
    clear hunique
    induction infos with
    | nil => rfl
    | cons d infos ih =>
      rw [filterDevices, haccepted d List.mem_cons_self,
        ih fun e he => haccepted e (List.mem_cons_of_mem _ he)]
      rfl
  confirmed := .inl (decide_eq_true hyes)
  sends _ _ := rfl

theorem lookup_all : resetCommands.lookup "all".toList =
    some ⟨"Reset parameters and network parameters".toList, "Resetting all".toList, 0xFF⟩ := rfl

/-- `-f name=rc_visard -y`. -/
def nameOpts : List Opt := [.filter .name "rc_visard".toList, .yes]

/-- A sensor without a name of its own is found by its model. -/
theorem filterDevice_nameOpts (mac : UInt64) (iface : Str) :
    filterDevice { visard iface with mac := mac } (filterOf nameOpts) = some true := by
  rw [filterDevice_eq_some_true_iff]
  rintro (_ | _ | _ | _ | _)
  · have hself := wildcardMatches_self "rc_visard".toList
    rw [show Category.text { visard iface with mac := mac } .name = "rc_visard".toList from rfl,
      show (filterOf nameOpts).patterns .name = ["rc_visard".toList] from rfl, matchesFilter,
      if_neg (by decide), anyOf, hself]
  · rfl
  · rfl
  · rfl
  · rfl

/-- Two sensors on one interface each are two devices. -/
theorem identifiedByMac_two_sensors :
    let infos := [visard "eth0".toList, { visard "eth1".toList with mac := 0x00142D000002 }]
    IdentifiedByMac (receiving infos) "rcdiscover".toList nameOpts infos "all".toList
      ["10.0.0.2".toList, "255.0.0.0".toList, "10.0.0.1".toList] := by
  intro infos
  have hip : string2ip "10.0.0.2".toList = .ok [10, 0, 0, 2] := by decide
  have hmask : string2ip "255.0.0.0".toList = .ok [255, 0, 0, 0] := by decide
  have hgateway : string2ip "10.0.0.1".toList = .ok [10, 0, 0, 1] := by decide
  have hunique : uniqueInfos .insertion infos = infos := by decide
  have haccepted : ∀ d ∈ infos, filterDevice d (filterOf nameOpts) = some true := by
    intro d hd
    simp only [infos, List.mem_cons, List.not_mem_nil, or_false] at hd
    rcases hd with rfl | rfl
    · exact filterDevice_nameOpts 0x00142D000001 "eth0".toList
    · exact filterDevice_nameOpts 0x00142D000002 "eth1".toList
  have hrun : ConfirmedRun (receiving infos) nameOpts infos infos :=
    confirmedRun_receiving ⟨.name, by decide, by decide⟩ (by decide) hunique haccepted
  refine (identifiedByMac_iff hrun _ lookup_all (by decide) hip hmask hgateway).2 ?_
  intro d hd e he _ _ hmac
  have hall : ∀ d ∈ infos, ∀ e ∈ infos, d.mac = e.mac → d.ifaceName = e.ifaceName := by decide
  exact hall d (mem_of_mem_uniqueInfos hd) e (mem_of_mem_uniqueInfos he) hmac

/-- A sensor that answers on two interfaces is reset twice, and `forceip` refuses to set its
address, although the records have one MAC address. -/
theorem not_identifiedByMac_two_interfaces :
    let infos := [visard "eth0".toList, visard "eth1".toList]
    ConfirmedRun (receiving infos) visardOpts infos infos ∧ (macs infos).card = 1 ∧
      ¬ IdentifiedByMac (receiving infos) "rcdiscover".toList visardOpts infos "all".toList
        ["10.0.0.2".toList, "255.0.0.0".toList, "10.0.0.1".toList] := by
  intro infos
  have hrun : ConfirmedRun (receiving infos) visardOpts infos infos :=
    confirmedRun_receiving ⟨.mac, by decide, by decide⟩ (by decide) (by decide) fun d hd => by
      simp only [infos, List.mem_cons, List.not_mem_nil, or_false] at hd
      rcases hd with rfl | rfl
      · exact filterDevice_visard _
      · exact filterDevice_visard _
  refine ⟨hrun, by decide, fun hall => ?_⟩
  have honce := hall.1
  rw [commandsOf_runReset hrun _ lookup_all,
    oncePerMac_map_iff fun _ => rfl] at honce
  exact absurd honce (by decide)

end Cli

end RcDiscover
