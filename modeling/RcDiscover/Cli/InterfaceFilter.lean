import RcDiscover.Cli.Utils
import RcDiscover.Discover

/-!
# The interface filter before and after the broadcast

`Discover::broadcastRequest` compares the patterns of `-f iface=` with the interface names, while
`filterDevice` matches them as wildcards.  `asked_iff_accepts_iff` says when the two agree on a
socket: when there is no pattern, when the name itself is a pattern, or when no pattern matches.
-/

namespace RcDiscover
namespace Cli

open Program Discover

/-- In a run of `broadcastRequest` that left `obj` and `log`, the socket at position `k` got a
request id and `send` was called on it. -/
def Asked (log : List SendCall) (obj : Discover) (k : ℕ) : Prop :=
  ∃ id ∈ obj.reqNums, ∃ thrown, ⟨k, discoveryCmd id, thrown⟩ ∈ log

/-- The sockets that `broadcastRequest` asks are those whose interface is listed. -/
theorem asked_iff_listed {σ : Type} (env : SendEnv σ) {iface : List Str} {obj obj' : Discover}
    {s t : σ} {log : List SendCall}
    (hrun : exec (broadcastRequest env.logged iface) (obj, (s, [])) = (.ok (), (obj', (t, log))))
    {k : ℕ} {name : Str} (hk : obj.sockets[k]? = some name) :
    Asked log obj' k ↔ iface = [] ∨ name ∈ iface := by
  obtain ⟨asks, res, t', obj'', hlog, -, -, -, hids, -, hok⟩ :=
    broadcastRequest_logged env iface obj s []
  obtain ⟨rfl, rfl, rfl, rfl⟩ : res = .ok () ∧ obj'' = obj' ∧ t' = t ∧ asks.map Ask.call = log := by
    simpa using hlog.symm.trans hrun
  have hmem : Asked (asks.map Ask.call) obj'' k ↔ k ∈ asks.map Ask.socket := by
    rw [Asked, hids]
    constructor
    · rintro ⟨id, -, thrown, hcall⟩
      obtain ⟨a, ha, he⟩ := List.mem_map.1 hcall
      exact List.mem_map.2 ⟨a, ha, congrArg SendCall.socket he⟩
    · intro hsocket
      obtain ⟨a, ha, rfl⟩ := List.mem_map.1 hsocket
      exact ⟨a.id, List.mem_map_of_mem ha, a.thrown, List.mem_map_of_mem ha⟩
  rw [hmem, (hok rfl).1, mem_selected, List.length_eq_zero_iff]
  constructor
  · rintro ⟨name', hname, hsel⟩
    rw [hk, Option.some.injEq] at hname
    rwa [hname]
  · exact fun hsel => ⟨name, hk, hsel⟩

/-- **A socket is asked exactly when its devices pass the interface filter, if and only if** there
is no pattern, the name of its interface is one of the patterns, or no pattern matches it. -/
theorem asked_iff_accepts_iff {σ : Type} (env : SendEnv σ) {iface : List Str} {obj obj' : Discover}
    {s t : σ} {log : List SendCall}
    (hrun : exec (broadcastRequest env.logged iface) (obj, (s, [])) = (.ok (), (obj', (t, log))))
    {k : ℕ} {name : Str} (hk : obj.sockets[k]? = some name)
    (hdef : ∀ f ∈ iface, wildcardMatches name f ≠ none) :
    (Asked log obj' k ↔ matchesFilter name iface = some true) ↔
      iface = [] ∨ name ∈ iface ∨ ∀ f ∈ iface, wildcardMatches name f = some false := by
  rw [asked_iff_listed env hrun hk, matchesFilter_eq_some_true_iff hdef]
  have hself : name ∈ iface → ∃ f ∈ iface, wildcardMatches name f = some true :=
    fun h => ⟨name, h, wildcardMatches_self name⟩
  have hnone : (∀ f ∈ iface, wildcardMatches name f = some false) ↔
      ¬ ∃ f ∈ iface, wildcardMatches name f = some true := by
    push Not
    refine forall₂_congr fun f hf => ?_
    have hf := hdef f hf
    rcases hmatch : wildcardMatches name f with _ | _ | _
    · exact absurd hmatch hf
    · simp
    · simp
  rw [hnone]
  by_cases hlisted : name ∈ iface
  · simp [hlisted, hself hlisted]
  · simp only [hlisted, or_false, false_or]
    by_cases hmatch : ∃ f ∈ iface, wildcardMatches name f = some true
    · simp [hmatch]
    · simp [hmatch]

/-- The second of two interfaces is listed, and the first is unreachable. -/
theorem asked_iff_accepts_listed :
    let run := exec (broadcastRequest firstUnreachable.logged ["eth1".toList])
      (⟨["eth0".toList, "eth1".toList], [], [], []⟩, (0, []))
    Asked run.2.2.2 run.2.1 1 ↔ matchesFilter "eth1".toList ["eth1".toList] = some true := by
  have hrun : exec (broadcastRequest firstUnreachable.logged ["eth1".toList])
      (⟨["eth0".toList, "eth1".toList], [], [], []⟩, (0, [])) = (.ok (), _, _, _) := rfl
  refine (asked_iff_accepts_iff firstUnreachable hrun (k := 1) rfl ?_).2 (.inr (.inl (by decide)))
  intro f hf
  rw [List.mem_singleton.1 hf, wildcardMatches_self]
  simp

/-- The pattern `eth*` accepts the devices on `eth0`, but nobody asks for them. -/
theorem not_asked_eth0 :
    let run := exec (broadcastRequest firstUnreachable.logged ["eth*".toList])
      (⟨["lo".toList, "eth0".toList], [], [], []⟩, (0, []))
    run.1 = .ok () ∧ wildcardMatches "eth0".toList "eth*".toList ≠ none ∧
      ¬ (Asked run.2.2.2 run.2.1 1 ↔ matchesFilter "eth0".toList ["eth*".toList] = some true) := by
  have hmatch : wildcardMatches "eth0".toList "eth*".toList = some true := by
    simp +decide [wildcardMatches, wildcardMatch, StrPos.next]
  refine ⟨rfl, by rw [hmatch]; exact Option.some_ne_none _, fun h => ?_⟩
  obtain ⟨id, hid, -⟩ := h.2 (by rw [matchesFilter, if_neg (by decide), anyOf, hmatch])
  exact absurd hid List.not_mem_nil

end Cli

end RcDiscover
