import RcDiscover.Discover.Atomicity

/-!
# From the datagrams to the responses

What the listener threads receive, and what the calls of `getResponse` hand out.

* `acknowledged`: the record that a datagram contributes, if it acknowledges a request of the
  broadcast;
* `Delivered`: these records are handed out, pending or in the hands of a listener.

`acknowledgements_delivered` says so for every interleaving of the threads.
-/

namespace RcDiscover
namespace Listening

open Discover Collecting Program

/-! ### The record of a datagram -/

open Classical in
/-- The record of what was received on a socket: the buffer takes the first 600 bytes. -/
noncomputable def acknowledged (sockets : List Str) (assigned : RequestId → Prop)
    (r : ℕ × Option Bytes) : Option DeviceInfo :=
  (sockets[r.1]?).bind fun ifaceName => r.2.bind fun d =>
    if Acknowledges assigned (d.take 600) then
      some (DeviceInfo.decode ifaceName (ackBody (d.take 600)))
    else none

theorem recvfrom_take (junk : ℕ → UInt8) (d : Bytes) :
    recvfrom junk (some d) = recvfrom junk (some (d.take 600)) := by
  simp only [recvfrom, List.take_take, min_self]

/-- **The tests of the listener take the acknowledgements**, whatever was in the buffer. -/
theorem record_eq_acknowledged (sockets : List Str) (reqNums : List RequestId) (t : ℕ)
    (junk : ℕ → UInt8) (d : Option Bytes) :
    record sockets reqNums t junk d = acknowledged sockets (· ∈ reqNums) (t, d) := by
  unfold record acknowledged
  cases sockets[t]? with
  | none => rfl
  | some ifaceName =>
    cases d with
    | none => rfl
    | some d =>
      simp only [Option.bind_some]
      have hlength : (d.take 600).length ≤ 600 := List.length_take_le 600 d
      rw [recvfrom_take]
      split_ifs with hack
      · exact (checkAck_recvfrom reqNums ifaceName junk hlength _).mpr ⟨hack, rfl⟩
      · apply Option.eq_none_iff_forall_ne_some.mpr
        intro info hinfo
        exact hack ((checkAck_recvfrom reqNums ifaceName junk hlength info).mp hinfo).1

/-! ### What the listeners hold -/

/-- One more element among the values at the first numbers. -/
theorem filterMap_range_update {α : Type} {f : ℕ → Option α} {n t : ℕ} (ht : t < n)
    (hf : f t = none) (r : Option α) :
    ((List.range n).filterMap (Function.update f t r)).Perm
      (r.toList ++ (List.range n).filterMap f) := by
  induction n with
  | zero => exact absurd ht (Nat.not_lt_zero t)
  | succ n ih =>
    rw [List.range_succ, List.filterMap_append, List.filterMap_append]
    rcases Nat.lt_succ_iff_lt_or_eq.mp ht with hlt | rfl
    · have hlast : Function.update f t r n = f n := Function.update_of_ne hlt.ne' r f
      have htail : [n].filterMap (Function.update f t r) = [n].filterMap f := by
        simp only [List.filterMap_cons, hlast, List.filterMap_nil]
      rw [htail, ← List.append_assoc]
      exact (ih hlt).append_right _
    · have hbefore : (List.range t).filterMap (Function.update f t r) =
          (List.range t).filterMap f := by
        apply List.filterMap_congr
        intro u hu
        exact Function.update_of_ne (List.mem_range.mp hu).ne r f
      have htail : [t].filterMap (Function.update f t r) = r.toList := by
        cases r <;> simp
      have hnone : [t].filterMap f = [] := by simp [hf]
      rw [hbefore, htail, hnone, List.append_nil]
      exact List.perm_append_comm

/-- The records in the hands of the listeners. -/
def Process.inHands (s : Process) : List DeviceInfo :=
  (List.range s.created).filterMap fun t => (s.thread t).held

/-- Every acknowledgement that was received is handed out, pending, or in the hands of a
listener, once. -/
structure Delivered (sockets : List Str) (s : Process) : Prop where
  asking : s.owner.asking = true → s.received = []
  perm : (s.received.filterMap (acknowledged sockets (· ∈ s.obj.reqNums))).Perm
    (s.calls.flatMap Call.appended ++ s.obj.pending ++ s.inHands)

section Steps

variable {sockets iface : List Str} {s s' : Process} {t : ℕ} {c : Choice}

/-- The listener `t` holds another record. -/
theorem inHands_goto {q : Listener} (ht : t < s.created) (hheld : (s.thread t).held = none) :
    ((s.goto t q).inHands).Perm (q.held.toList ++ s.inHands) := by
  have hupdate : (fun u => ((s.goto t q).thread u).held) =
      Function.update (fun u => (s.thread u).held) t q.held := by
    funext u
    exact (held_update (fun _ => rfl) rfl u).symm
  unfold Process.inHands
  rw [hupdate]
  exact filterMap_range_update ht hheld q.held

/-- A listener without a record goes on without one. -/
theorem inHands_keep {q : Listener} (hheld : q.held = (s.thread t).held) :
    (s.goto t q).inHands = s.inHands := by
  unfold Process.inHands
  apply List.filterMap_congr
  intro u _
  exact (held_keep (fun _ => rfl) hheld u).symm

/-- A record leaves the hands of the listener `t`. -/
theorem inHands_release {q : Listener} {info : DeviceInfo} (ht : t < s.created)
    (hheld : (s.thread t).held = some info) (hpc : q.held = none) :
    s.inHands.Perm (info :: (s.goto t q).inHands) := by
  have hself : (s.goto t q).thread t = q := by
    unfold Process.goto
    exact Function.update_self t q s.thread
  have hnone : ((s.goto t q).thread t).held = none := by rw [hself, hpc]
  have hback := inHands_goto (s := s.goto t q) (t := t) (q := s.thread t) ht hnone
  have hsame : (s.goto t q).goto t (s.thread t) = s := by
    unfold Process.goto
    simp only [Function.update_idem, Function.update_eq_self]
  rw [hsame, hheld] at hback
  exact hback

/-- A thread that was only just started holds nothing. -/
theorem inHands_ownerNext (h : Sound s) (hthread : s'.thread = s.thread)
    (hcreated : s.created ≤ s'.created) : s'.inHands = s.inHands := by
  obtain ⟨n, hn⟩ := Nat.exists_eq_add_of_le hcreated
  unfold Process.inHands
  rw [hn, hthread, List.range_add, List.filterMap_append, List.filterMap_map]
  have hnone : (List.range n).filterMap ((fun t => (s.thread t).held) ∘ (s.created + ·)) = [] := by
    apply List.filterMap_eq_nil_iff.mpr
    intro u _
    show (s.thread (s.created + u)).held = none
    rw [h.fresh _ (Nat.le_add_right _ u)]
    rfl
  rw [hnone, List.append_nil]

/-- Threads are not taken away. -/
theorem created_ownerNext (hstep : s.ownerNext iface c = some s') : s.created ≤ s'.created := by
  unfold Process.ownerNext at hstep
  cases hpc : s.owner with
  | startThread k =>
    simp only [hpc] at hstep
    split_ifs at hstep
    · obtain rfl := Option.some.inj hstep
      exact Nat.le_of_lt_succ (by simp [Process.created])
    · obtain rfl := Option.some.inj hstep
      exact le_rfl
    · obtain rfl := Option.some.inj hstep
      exact le_rfl
  | _ =>
    simp only [hpc] at hstep
    repeat' split at hstep
    all_goals cases hstep
    all_goals exact le_rfl

/-- **A step of the owner loses nothing.** -/
theorem Delivered.ownerNext (h : Delivered sockets s) (href : Refined sockets iface s)
    (hstep : s.ownerNext iface c = some s') : Delivered sockets s' := by
  have hframe := ownerNext_frame hstep
  have hhands := inHands_ownerNext href.sound hframe.thread (created_ownerNext hstep)
  cases hasking : s.owner.asking with
  | true =>
    have hreceived := h.asking hasking
    have hperm := h.perm
    have hne : ∀ call, s.owner ≠ .clearPending call := by
      intro call hpc
      rw [hpc] at hasking
      cases hasking
    obtain ⟨hpending, hcalls⟩ := hframe.pending hne
    refine ⟨fun _ => hframe.received.trans hreceived, ?_⟩
    rw [hreceived] at hperm
    rw [hframe.received, hreceived, hpending, hcalls, hhands]
    exact hperm
  | false =>
    refine ⟨fun hasking' => ?_, ?_⟩
    · rw [hframe.asking hasking] at hasking'
      cases hasking'
    · rw [hframe.received, hframe.reqNums hasking, hhands]
      refine h.perm.trans (List.Perm.of_eq ?_)
      by_cases hne : ∀ call, s.owner ≠ .clearPending call
      · obtain ⟨hpending, hcalls⟩ := hframe.pending hne
        rw [hpending, hcalls]
      · push Not at hne
        obtain ⟨call, hpc⟩ := hne
        obtain ⟨hpending, hcalls, -⟩ := ownerNext_clearPending hpc hstep
        have hcall := href.calling
        rw [hpc] at hcall
        have happended : call.appended = s.obj.pending := by
          rw [Call.appended, hcall.2, List.drop_left]
        rw [hpending, hcalls, List.flatMap_append, List.flatMap_singleton, happended,
          List.append_nil]

/-- **A step of a listener loses nothing.** -/
theorem Delivered.listenerNext (h : Delivered sockets s) (href : Refined sockets iface s)
    (ht : t < s.created) (hstep : s.listenerNext t c = some s') : Delivered sockets s' := by
  have hasking : ∀ {l : List (ℕ × Option Bytes)}, s.owner.asking = true → l = [] := by
    intro l hasking
    have hcreated := href.sound.starting 0 (starting_of_asking hasking)
    omega
  have hperm := h.perm
  obtain ⟨pc, hbefore, hafter, rfl⟩ | ⟨junk, d, hpc, rfl⟩ | ⟨info, hpc, -, rfl⟩ |
    ⟨info, hpc, rfl⟩ | ⟨hpc, rfl⟩ := listenerNext_cases hstep
  · refine ⟨hasking, ?_⟩
    rw [inHands_keep (hafter.held.trans hbefore.held.symm)]
    exact hperm
  · -- a datagram is received
    refine ⟨hasking, ?_⟩
    have hheld : (s.thread t).held = none := by rw [hpc]; rfl
    have hgoto := inHands_goto (q := Process.afterTests (s.checked t junk d)) ht hheld
    have hafter : (Process.afterTests (s.checked t junk d)).held =
        acknowledged sockets (· ∈ s.obj.reqNums) (t, d) := by
      rw [afterTests_held, checked_eq href.sockets_eq, record_eq_acknowledged]
    rw [hafter] at hgoto
    have hreceived : (s.received ++ [(t, d)]).filterMap
        (acknowledged sockets (· ∈ s.obj.reqNums)) =
        s.received.filterMap (acknowledged sockets (· ∈ s.obj.reqNums)) ++
          (acknowledged sockets (· ∈ s.obj.reqNums) (t, d)).toList := by
      rw [List.filterMap_append]
      rfl
    show ((s.received ++ [(t, d)]).filterMap (acknowledged sockets (· ∈ s.obj.reqNums))).Perm
      (s.calls.flatMap Call.appended ++ s.obj.pending ++
        (s.goto t (Process.afterTests (s.checked t junk d))).inHands)
    rw [hreceived]
    refine ((hperm.append_right _).trans ?_)
    rw [List.append_assoc]
    exact (List.perm_append_comm.trans hgoto.symm).append_left _
  · refine ⟨hasking, ?_⟩
    have hsame := inHands_keep (s := s) (t := t) (q := .pushBack info) (by rw [hpc]; rfl)
    show (s.received.filterMap (acknowledged sockets (· ∈ s.obj.reqNums))).Perm
      (s.calls.flatMap Call.appended ++ s.obj.pending ++ (s.goto t (.pushBack info)).inHands)
    rw [hsame]
    exact hperm
  · -- the record goes from the hands of the listener into the vector
    refine ⟨hasking, ?_⟩
    have hrelease := inHands_release (q := .unlock) ht (by rw [hpc]; rfl) rfl
    show (s.received.filterMap (acknowledged sockets (· ∈ s.obj.reqNums))).Perm
      (s.calls.flatMap Call.appended ++ (s.obj.pending ++ [info]) ++ (s.goto t .unlock).inHands)
    refine hperm.trans ((hrelease.append_left _).trans (List.Perm.of_eq ?_))
    simp only [List.append_assoc, List.singleton_append]
  · refine ⟨hasking, ?_⟩
    have hsame := inHands_keep (s := s) (t := t) (q := .notify) (by rw [hpc]; rfl)
    show (s.received.filterMap (acknowledged sockets (· ∈ s.obj.reqNums))).Perm
      (s.calls.flatMap Call.appended ++ s.obj.pending ++ (s.goto t .notify).inHands)
    rw [hsame]
    exact hperm

theorem Delivered.step (h : Delivered sockets s) (href : Refined sockets iface s)
    (a : Party × Choice) : Delivered sockets (s.step iface a) := by
  unfold Process.step
  cases hnext : s.next iface a.2 a.1 with
  | none => exact h
  | some s' =>
    unfold Process.next at hnext
    split at hnext
    · exact h.ownerNext href hnext
    · split_ifs at hnext with ht
      exact h.listenerNext href ht hnext

end Steps

/-- What holds in every interleaving. -/
theorem delivered_run (sockets iface : List Str) (actions : List (Party × Choice)) :
    let s := Runs.run (Process.step iface) (Process.start sockets) actions
    Refined sockets iface s ∧ Delivered sockets s := by
  refine Runs.run_invariant (I := fun q => Refined sockets iface q ∧ Delivered sockets q)
    (fun q a hq => ⟨hq.1.step a, hq.2.step hq.1 a⟩) ⟨refined_start sockets iface, ?_⟩ actions
  exact ⟨fun _ => rfl, .refl _⟩

/-- Listeners were started behind a broadcast, with the ids of its commands. -/
theorem Refined.broadcast {sockets iface : List Str} {s : Process}
    (h : Refined sockets iface s) (hcreated : 0 < s.created) : ∃ script log,
      exec (broadcastRequest replay.logged iface) (⟨sockets, [], [], []⟩, (script, [])) =
        (.ok (), (listening sockets s.obj.reqNums, ([], log))) ∧
      ∀ id, id ∈ s.obj.reqNums ↔ AssignedIn log id := by
  obtain ⟨script, hrun⟩ := h.askedAll hcreated
  obtain ⟨asks, res, t, obj', hlog, hplain, -, -, hids, -, -⟩ :=
    broadcastRequest_logged replay iface ⟨sockets, [], [], []⟩ script []
  obtain ⟨rfl, rfl, rfl⟩ : res = .ok () ∧ obj' = listening sockets s.obj.reqNums ∧ t = [] := by
    simpa using hplain.symm.trans hrun
  refine ⟨script, asks.map Ask.call, hlog, fun id => ?_⟩
  rw [assignedIn_map_call, ← hids]
  rfl

/-- **Every acknowledgement is delivered once, and nothing else is**, whatever the interleaving.
The records of the datagrams that acknowledge a request of the broadcast are those that
`getResponse` has handed out, that are pending, and that a listener is about to push; the requests
are the discovery commands that were sent. -/
theorem acknowledgements_delivered (sockets iface : List Str) (actions : List (Party × Choice)) :
    let s := Runs.run (Process.step iface) (Process.start sockets) actions
    (s.received.filterMap (acknowledged sockets (· ∈ s.obj.reqNums))).Perm
      (s.calls.flatMap Call.appended ++ s.obj.pending ++ s.inHands) ∧
    (0 < s.created → ∃ script log,
      exec (broadcastRequest replay.logged iface) (⟨sockets, [], [], []⟩, (script, [])) =
        (.ok (), (listening sockets s.obj.reqNums, ([], log))) ∧
      ∀ id, id ∈ s.obj.reqNums ↔ AssignedIn log id) := by
  intro s
  have h : Refined sockets iface s ∧ Delivered sockets s := delivered_run sockets iface actions
  exact ⟨h.2.perm, fun hcreated => h.1.broadcast hcreated⟩

/-! ### Where a response comes from -/

theorem ownerNext_received {s s' : Process} {iface : List Str} {c : Choice}
    (h : s.ownerNext iface c = some s') :
    s'.received = s.received ∧ s.created ≤ s'.created := by
  unfold Process.ownerNext at h
  repeat' split at h
  all_goals
    first
    | obtain rfl := Option.some.inj h
      exact ⟨rfl, by simp [Process.created]⟩
    | exact absurd h (by simp)

/-- Only a listener that was started receives. -/
theorem created_of_received (sockets iface : List Str) (actions : List (Party × Choice)) :
    let s : Process := Runs.run (Process.step iface) (Process.start sockets) actions
    s.received ≠ [] → 0 < s.created := by
  refine Runs.run_invariant (I := fun s : Process => s.received ≠ [] → 0 < s.created)
    (fun s a hs => ?_) (fun h => absurd rfl h) actions
  unfold Process.step
  cases hnext : s.next iface a.2 a.1 with
  | none => exact hs
  | some s' =>
    unfold Process.next at hnext
    split at hnext
    · obtain ⟨hreceived, hcreated⟩ := ownerNext_received hnext
      exact fun h => (hs (hreceived ▸ h)).trans_le hcreated
    · next t _ =>
      split_ifs at hnext with ht
      have hsame : s'.created = s.created := by
        obtain ⟨q, -, -, rfl⟩ | ⟨junk, d, -, rfl⟩ | ⟨info, -, -, rfl⟩ | ⟨info, -, rfl⟩ | ⟨-, rfl⟩ :=
          listenerNext_cases hnext <;> rfl
      show s'.received ≠ [] → 0 < s'.created
      rw [hsame]
      exact fun _ => Nat.zero_lt_of_lt ht

/-- **A response is an acknowledgement**: what `getResponse` hands out is the record of a datagram
that was received on one of the sockets and acknowledges a discovery command of the broadcast. -/
theorem exists_acknowledgement (sockets iface : List Str) (actions : List (Party × Choice)) :
    let s := Runs.run (Process.step iface) (Process.start sockets) actions
    ∀ info ∈ s.calls.flatMap Call.appended, ∃ t ifaceName d script log,
      sockets[t]? = some ifaceName ∧ (t, some d) ∈ s.received ∧
      exec (broadcastRequest replay.logged iface) (⟨sockets, [], [], []⟩, (script, [])) =
        (.ok (), (listening sockets s.obj.reqNums, ([], log))) ∧
      Acknowledges (AssignedIn log) (d.take 600) ∧
      info = DeviceInfo.decode ifaceName (ackBody (d.take 600)) := by
  intro s info hinfo
  have h : Refined sockets iface s ∧ Delivered sockets s := delivered_run sockets iface actions
  have hmem : info ∈ s.received.filterMap (acknowledged sockets (· ∈ s.obj.reqNums)) :=
    h.2.perm.mem_iff.mpr (List.mem_append_left _ (List.mem_append_left _ hinfo))
  obtain ⟨⟨t, r⟩, hr, hrecord⟩ := List.mem_filterMap.mp hmem
  obtain ⟨script, log, hrun, hids⟩ :=
    h.1.broadcast (created_of_received sockets iface actions (List.ne_nil_of_mem hr))
  have hassigned : (fun id => id ∈ s.obj.reqNums) = AssignedIn log :=
    funext fun id => propext (hids id)
  unfold acknowledged at hrecord
  rw [hassigned] at hrecord
  obtain ⟨ifaceName, hsocket, hdatagram⟩ := Option.bind_eq_some_iff.mp hrecord
  obtain ⟨d, hd, hinfo'⟩ := Option.bind_eq_some_iff.mp hdatagram
  split_ifs at hinfo' with hack
  obtain rfl : r = some d := hd
  exact ⟨t, ifaceName, d, script, log, hsocket, hr, hrun, hack, (Option.some.inj hinfo').symm⟩

end Listening
end RcDiscover
