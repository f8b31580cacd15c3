import RcDiscover.Discover.Listening

/-!
# The sections under the mutex are atomic

The interleaved threads of a `Discover` object do what `broadcastRequest` does on its own, and then
what `Collecting.System` does, where a push and a drain are one step each.

* `replay`: the environment in which `broadcastRequest` draws and sends what the owner did;
* `Owner.Asked`: the owner has come so far in the run of `broadcastRequest`;
* `Owner.Calling`: the vector of a call of `getResponse` that is under way;
* `Simulates`: the state of the system is the one that the threads have reached.

`refines_atomic` is the refinement.
-/

namespace RcDiscover
namespace Listening

open Discover Collecting Races Program

/-! ### The run of `broadcastRequest` -/

/-- The environment that hands out the ids and the outcomes of `send` from a list. -/
def replay : SendEnv (List (RequestId × Except SocketException Unit)) where
  getNext
    | (id, r) :: rest => (id, (id, r) :: rest)
    | [] => ((0, 0), [])
  send _ _
    | (_, r) :: rest => (r, rest)
    | [] => (.ok (), [])

section Asking

variable (sockets iface : List Str)

/-- What is left of `broadcastRequest` at the socket `k`. -/
def askFrom (k : ℕ) :
    Program (Discover × List (RequestId × Except SocketException Unit)) SocketException Unit := do
  broadcastLoop replay iface k (sockets.drop k)
  startListening

/-- `broadcastRequest` has come to the socket `k` with these ids. -/
def AskedTo (k : ℕ) (reqNums : List RequestId) : Prop :=
  ∃ script, ∀ rest,
    exec (broadcastRequest replay iface) (⟨sockets, [], [], []⟩, script ++ rest) =
      exec (askFrom sockets iface k) (⟨sockets, reqNums, [], []⟩, rest)

/-- The object behind `broadcastRequest`. -/
def listening (reqNums : List RequestId) : Discover :=
  ⟨sockets, reqNums, List.range sockets.length, []⟩

/-- `broadcastRequest` has returned with these ids. -/
def AskedAll (reqNums : List RequestId) : Prop :=
  ∃ script, exec (broadcastRequest replay iface) (⟨sockets, [], [], []⟩, script) =
    (.ok (), (listening sockets reqNums, []))

variable {sockets iface} {k : ℕ} {reqNums : List RequestId} {name : Str}

theorem askedTo_zero : AskedTo sockets iface 0 [] := ⟨[], fun _ => rfl⟩

/-- A socket that is not selected. -/
theorem AskedTo.skip (h : AskedTo sockets iface k reqNums) (hk : sockets[k]? = some name)
    (hsel : ¬ (iface.length = 0 ∨ name ∈ iface)) : AskedTo sockets iface (k + 1) reqNums := by
  obtain ⟨script, hrun⟩ := h
  obtain ⟨hlt, rfl⟩ := List.getElem?_eq_some_iff.mp hk
  refine ⟨script, fun rest => (hrun rest).trans ?_⟩
  rw [askFrom, askFrom, List.drop_eq_getElem_cons hlt, broadcastLoop, if_neg hsel]

/-- A socket that was asked. -/
theorem AskedTo.ask (h : AskedTo sockets iface k reqNums) (hk : sockets[k]? = some name)
    (hsel : iface.length = 0 ∨ name ∈ iface) (id : RequestId) {r : Except SocketException Unit}
    (hr : Tolerated (thrownBy r)) : AskedTo sockets iface (k + 1) (reqNums ++ [id]) := by
  obtain ⟨script, hrun⟩ := h
  obtain ⟨hlt, rfl⟩ := List.getElem?_eq_some_iff.mp hk
  refine ⟨script ++ [(id, r)], fun rest => ?_⟩
  have hid : replay.getNext ((id, r) :: rest) = (id, (id, r) :: rest) := rfl
  have hsend : replay.send k (discoveryCmd id) ((id, r) :: rest) = (r, rest) := rfl
  rw [List.append_assoc, List.singleton_append, hrun, askFrom, List.drop_eq_getElem_cons hlt,
    exec_bind, exec_broadcastLoop_of_tolerated replay hsel hid hsend hr, askFrom, exec_bind]

/-- Behind the last socket the threads are started. -/
theorem AskedTo.all (h : AskedTo sockets iface k reqNums) (hk : sockets[k]? = none) :
    AskedAll sockets iface reqNums := by
  obtain ⟨script, hrun⟩ := h
  have hdrop : sockets.drop k = [] := List.drop_eq_nil_of_le (List.getElem?_eq_none_iff.mp hk)
  have hend := hrun []
  rw [List.append_nil, askFrom, hdrop] at hend
  exact ⟨script, hend⟩

end Asking

/-- How far `broadcastRequest` has come, with `n` threads. -/
def Owner.Asked (sockets iface : List Str) (reqNums : List RequestId) (n : ℕ) : Owner → Prop
  | clear => True
  | ask k => AskedTo sockets iface k reqNums
  | send k => ∃ ids id name, reqNums = ids ++ [id] ∧ sockets[k]? = some name ∧
      (iface.length = 0 ∨ name ∈ iface) ∧ AskedTo sockets iface k ids
  -- an object without threads may be destroyed for an exception
  | stop | join _ | destroyMembers | destroyed => 0 < n → AskedAll sockets iface reqNums
  | _ => AskedAll sockets iface reqNums

/-! ### What a step of the owner changes -/

/-- The owner is in `broadcastRequest` and has not come to `startListening`. -/
def Owner.asking : Owner → Bool
  | clear | ask _ | send _ => true
  | _ => false

/-- What a call of `getResponse` has got so far. -/
def Owner.Calling (pending : List DeviceInfo) : Owner → Prop
  | move call k => call.result = decide (pending ≠ []) ∧ call.after = call.before ++ pending.take k
  | clearPending call => call.result = decide (pending ≠ []) ∧ call.after = call.before ++ pending
  | _ => True

/-- What a step of the owner leaves alone. -/
structure OwnerFrame (s s' : Process) : Prop where
  thread : s'.thread = s.thread
  received : s'.received = s.received
  sockets : s'.obj.sockets = s.obj.sockets
  reqNums : s.owner.asking = false → s'.obj.reqNums = s.obj.reqNums
  asking : s.owner.asking = false → s'.owner.asking = false
  pending : (∀ call, s.owner ≠ .clearPending call) →
    s'.obj.pending = s.obj.pending ∧ s'.calls = s.calls

variable {s s' : Process} {c : Choice} {iface : List Str}

theorem ownerNext_frame (hstep : s.ownerNext iface c = some s') : OwnerFrame s s' := by
  unfold Process.ownerNext at hstep
  cases hpc : s.owner with
  | clearPending call =>
    simp only [hpc, Option.some.injEq] at hstep
    subst hstep
    exact ⟨rfl, rfl, rfl, fun _ => rfl, fun _ => rfl, fun h => absurd hpc (h call)⟩
  | clear | ask | send =>
    have hasking : s.owner.asking ≠ false := by
      rw [hpc]
      exact Bool.noConfusion
    simp only [hpc] at hstep
    repeat' split at hstep
    all_goals cases hstep
    all_goals exact ⟨rfl, rfl, rfl, fun h => absurd h hasking, fun h => absurd h hasking,
      fun _ => ⟨rfl, rfl⟩⟩
  | _ =>
    simp only [hpc] at hstep
    repeat' split at hstep
    all_goals cases hstep
    all_goals exact ⟨rfl, rfl, rfl, fun _ => rfl, fun _ => rfl, fun _ => ⟨rfl, rfl⟩⟩

section Owner

variable {sockets : List Str}

/-- The owner goes on in `broadcastRequest`. -/
theorem asked_ownerNext (hsockets : s.obj.sockets = sockets)
    (h : s.owner.Asked sockets iface s.obj.reqNums s.created)
    (hstarting : ∀ n, s.owner.starting = some n → s.created = n)
    (hstep : s.ownerNext iface c = some s') :
    s'.owner.Asked sockets iface s'.obj.reqNums s'.created := by
  subst hsockets
  unfold Process.ownerNext at hstep
  cases hpc : s.owner with
  | clear =>
    simp only [hpc, Option.some.injEq] at hstep
    subst hstep
    exact askedTo_zero
  | ask k =>
    rw [hpc] at h
    simp only [hpc] at hstep
    split at hstep
    · next name hk =>
      split_ifs at hstep with hsel
      · obtain rfl := Option.some.inj hstep
        exact ⟨s.obj.reqNums, c.id, name, rfl, hk, hsel, h⟩
      · obtain rfl := Option.some.inj hstep
        exact AskedTo.skip h hk hsel
    · next hk =>
      obtain rfl := Option.some.inj hstep
      exact AskedTo.all h hk
  | send k =>
    rw [hpc] at h hstarting
    obtain ⟨ids, id, name, hids, hk, hsel, hasked⟩ := h
    have hcreated : s.created = 0 := hstarting 0 rfl
    simp only [hpc] at hstep
    split at hstep
    · next hsent =>
      obtain rfl := Option.some.inj hstep
      have hr : Tolerated (thrownBy c.sent) := by
        rw [hsent]
        trivial
      show AskedTo s.obj.sockets iface (k + 1) s.obj.reqNums
      rw [hids]
      exact hasked.ask hk hsel id hr
    · next hsent =>
      obtain rfl := Option.some.inj hstep
      have hr : Tolerated (thrownBy c.sent) := by
        rw [hsent]
        trivial
      show AskedTo s.obj.sockets iface (k + 1) s.obj.reqNums
      rw [hids]
      exact hasked.ask hk hsel id hr
    · obtain rfl := Option.some.inj hstep
      exact fun hpos => absurd hcreated (Nat.pos_iff_ne_zero.mp hpos)
  | stop | join | destroyMembers | destroyed =>
    rw [hpc] at h
    simp only [hpc] at hstep
    repeat' split at hstep
    all_goals cases hstep
    all_goals exact h
  | _ =>
    rw [hpc] at h
    simp only [hpc] at hstep
    repeat' split at hstep
    all_goals cases hstep
    all_goals first
      | exact h
      | exact fun _ => h

/-- The owner goes on in `getResponse`. -/
theorem calling_ownerNext (h : s.owner.Calling s.obj.pending)
    (hstep : s.ownerNext iface c = some s') : s'.owner.Calling s'.obj.pending := by
  unfold Process.ownerNext at hstep
  cases hpc : s.owner with
  | result info =>
    simp only [hpc, Option.some.injEq] at hstep
    subst hstep
    exact ⟨rfl, (List.append_nil info).symm⟩
  | move call k =>
    rw [hpc] at h
    simp only [hpc] at hstep
    split at hstep
    · next deviceInfo hk =>
      obtain rfl := Option.some.inj hstep
      refine ⟨h.1, ?_⟩
      show call.after ++ [deviceInfo] = call.before ++ s.obj.pending.take (k + 1)
      rw [h.2, List.take_add_one, hk, List.append_assoc]
      rfl
    · next hk =>
      obtain rfl := Option.some.inj hstep
      refine ⟨h.1, h.2.trans ?_⟩
      rw [List.take_of_length_le (List.getElem?_eq_none_iff.mp hk)]
  | _ =>
    simp only [hpc] at hstep
    repeat' split at hstep
    all_goals cases hstep
    all_goals trivial

/-- The owner takes what is pending. -/
theorem ownerNext_clearPending {call : Call} (hpc : s.owner = .clearPending call)
    (hstep : s.ownerNext iface c = some s') :
    s'.obj.pending = [] ∧ s'.calls = s.calls ++ [call] ∧ s'.obj.reqNums = s.obj.reqNums := by
  simp only [Process.ownerNext, hpc, Option.some.injEq] at hstep
  subst hstep
  exact ⟨rfl, rfl, rfl⟩

end Owner

/-! ### The refinement -/

/-- The atomic system is where the threads are. -/
structure Simulates (sys : System) (s : Process) : Prop where
  pending : sys.obj.pending = s.obj.pending
  calls : sys.calls = s.calls
  held : ∀ t, sys.held t = (s.thread t).held

/-- A step of the system changes nothing but `pending_` in the object. -/
theorem obj_step (sys : System) (op : Op) :
    (sys.step op).obj = { sys.obj with pending := (sys.step op).obj.pending } := by
  cases op with
  | received t junk d =>
    rw [System.step, System.received_frame]
  | push t =>
    rw [System.step, System.push]
    split <;> rfl
  | getResponse info => rfl

/-- The system behind `broadcastRequest`, after these steps. -/
def atomicRun (sockets : List Str) (reqNums : List RequestId) (ops : List Op) : System :=
  Runs.run System.step (System.start (listening sockets reqNums)) ops

theorem atomicRun_concat (sockets : List Str) (reqNums : List RequestId) (ops : List Op) (op : Op) :
    atomicRun sockets reqNums (ops ++ [op]) = (atomicRun sockets reqNums ops).step op := by
  rw [atomicRun, Runs.run_append]
  rfl

theorem obj_atomicRun (sockets : List Str) (reqNums : List RequestId) (ops : List Op) :
    (atomicRun sockets reqNums ops).obj = { listening sockets reqNums with
      pending := (atomicRun sockets reqNums ops).obj.pending } := by
  refine Runs.run_invariant (I := fun sys : System => sys.obj =
    { listening sockets reqNums with pending := sys.obj.pending }) (fun sys op h => ?_) rfl ops
  rw [obj_step, h]

/-- What holds in every interleaving, with what the atomic steps reach. -/
structure Refined (sockets iface : List Str) (s : Process) : Prop where
  sound : Sound s
  sockets_eq : s.obj.sockets = sockets
  asked : s.owner.Asked sockets iface s.obj.reqNums s.created
  calling : s.owner.Calling s.obj.pending
  asking : s.owner.asking = true → s.obj.pending = [] ∧ s.calls = []
  atomic : ∃ ops, Simulates (atomicRun sockets s.obj.reqNums ops) s

section Refined

variable {sockets : List Str} {t : ℕ}

/-- Nothing has happened as long as there are no threads. -/
theorem simulates_start (h : Sound s) (hcreated : s.created = 0) (hpending : s.obj.pending = [])
    (hcalls : s.calls = []) (reqNums : List RequestId) :
    Simulates (System.start (listening sockets reqNums)) s := by
  refine ⟨hpending.symm, hcalls.symm, fun t => ?_⟩
  rw [h.fresh t (hcreated ▸ Nat.zero_le t)]
  rfl

theorem refined_start (sockets iface : List Str) :
    Refined sockets iface (Process.start sockets) where
  sound := sound_start sockets
  sockets_eq := rfl
  asked := trivial
  calling := trivial
  asking _ := ⟨rfl, rfl⟩
  atomic := ⟨[], simulates_start (sound_start sockets) rfl rfl rfl []⟩

theorem starting_of_asking (hasking : s.owner.asking = true) : s.owner.starting = some 0 := by
  cases hpc : s.owner with
  | clear | ask | send => rfl
  | _ =>
    rw [hpc] at hasking
    cases hasking

/-- **A step of the owner is at most one atomic step.** -/
theorem Refined.ownerNext (h : Refined sockets iface s) (hstep : s.ownerNext iface c = some s') :
    Refined sockets iface s' := by
  have hframe := ownerNext_frame hstep
  have hsound := h.sound.ownerNext hstep
  have hasked := asked_ownerNext h.sockets_eq h.asked h.sound.starting hstep
  have hcalling := calling_ownerNext h.calling hstep
  have hsockets := hframe.sockets.trans h.sockets_eq
  cases hasking : s.owner.asking with
  | true =>
    obtain ⟨hpending, hcalls⟩ := h.asking hasking
    have hne : ∀ call, s.owner ≠ .clearPending call := by
      intro call hpc
      rw [hpc] at hasking
      cases hasking
    obtain ⟨hpending', hcalls'⟩ := hframe.pending hne
    have hcreated : s.created = 0 := h.sound.starting 0 (starting_of_asking hasking)
    refine ⟨hsound, hsockets, hasked, hcalling, fun _ => ⟨hpending'.trans hpending,
      hcalls'.trans hcalls⟩, [], ?_⟩
    refine ⟨(hpending'.trans hpending).symm, (hcalls'.trans hcalls).symm, fun t => ?_⟩
    rw [hframe.thread, h.sound.fresh t (hcreated ▸ Nat.zero_le t)]
    rfl
  | false =>
    refine ⟨hsound, hsockets, hasked, hcalling, fun hasking' => ?_, ?_⟩
    · rw [hframe.asking hasking] at hasking'
      cases hasking'
    · obtain ⟨ops, hsim⟩ := h.atomic
      rw [hframe.reqNums hasking]
      by_cases hne : ∀ call, s.owner ≠ .clearPending call
      · obtain ⟨hpending, hcalls⟩ := hframe.pending hne
        refine ⟨ops, hsim.pending.trans hpending.symm, hsim.calls.trans hcalls.symm, fun t => ?_⟩
        rw [hframe.thread]
        exact hsim.held t
      · -- the drain
        push Not at hne
        obtain ⟨call, hpc⟩ := hne
        obtain ⟨hpending, hcalls, -⟩ := ownerNext_clearPending hpc hstep
        have hcall := h.calling
        rw [hpc] at hcall
        obtain ⟨hresult, hafter⟩ := hcall
        refine ⟨ops ++ [.getResponse call.before], ?_⟩
        rw [atomicRun_concat]
        refine ⟨hpending.symm, ?_, fun t => ?_⟩
        · simp only [System.step, System.drain, Discover.getResponse, hsim.calls, hsim.pending]
          rw [hcalls, ← hresult, ← hafter]
        · rw [hframe.thread]
          exact hsim.held t

section Held

variable {held : ℕ → Option DeviceInfo} {thread : ℕ → Listener} {pc : Listener}

/-- The thread `t` holds another record. -/
theorem held_update (hheld : ∀ u, held u = (thread u).held) {r : Option DeviceInfo}
    (hr : pc.held = r) (u : ℕ) :
    Function.update held t r u = (Function.update thread t pc u).held := by
  by_cases hu : u = t
  · subst hu
    rw [Function.update_self, Function.update_self, hr]
  · rw [Function.update_of_ne hu, Function.update_of_ne hu, hheld u]

/-- The thread `t` holds what it held. -/
theorem held_keep (hheld : ∀ u, held u = (thread u).held) (hr : pc.held = (thread t).held)
    (u : ℕ) : held u = (Function.update thread t pc u).held := by
  rw [← held_update hheld hr, ← hheld t, Function.update_eq_self]

end Held

theorem checked_eq (hsockets : s.obj.sockets = sockets) (junk : ℕ → UInt8) (d : Option Bytes) :
    s.checked t junk d = record sockets s.obj.reqNums t junk d := by
  subst hsockets
  rfl

/-- A thread that holds nothing gets a record. -/
theorem received_eq {sys : System} {reqNums : List RequestId}
    (hobj : sys.obj = { listening sockets reqNums with pending := sys.obj.pending })
    (ht : t < sockets.length) (hnone : sys.held t = none) (junk : ℕ → UInt8) (d : Option Bytes) :
    sys.received t junk d =
      { sys with held := Function.update sys.held t (record sockets reqNums t junk d) } := by
  have hlisteners : sys.obj.listeners[t]? = some t := by
    rw [hobj]
    exact List.getElem?_range ht
  have hname : sys.obj.sockets[t]? = some sockets[t] := by
    rw [hobj]
    exact List.getElem?_eq_getElem ht
  have hids : sys.obj.reqNums = reqNums := by rw [hobj]; rfl
  unfold System.received record
  rw [hlisteners, Option.bind_some, hname, hnone, hids, List.getElem?_eq_getElem ht]
  rfl

/-- A thread pushes the record that it holds. -/
theorem push_eq {sys : System} {info : DeviceInfo} (hsome : sys.held t = some info) :
    sys.push t = { sys with
      obj := { sys.obj with pending := sys.obj.pending ++ [info] }
      held := Function.update sys.held t none
      pushed := sys.pushed ++ [info] } := by
  rw [System.push, hsome]

/-- While a listener holds the mutex the owner does not. -/
theorem Sound.owner_outside (h : Sound s) (hmutex : s.mutex = some (.listener t)) :
    s.owner.inside = false := by
  by_contra hne
  have hheld := (h.guarded .owner).mpr (Bool.eq_true_of_not_eq_false hne)
  cases hmutex.symm.trans hheld

theorem calling_of_not_inside {pc : Owner} (h : pc.inside = false) (pending : List DeviceInfo) :
    pc.Calling pending := by
  cases pc with
  | move | clearPending => cases h
  | _ => trivial

/-- **A step of a listener is at most one atomic step.** -/
theorem Refined.listenerNext (h : Refined sockets iface s) (ht : t < s.created)
    (hstep : s.listenerNext t c = some s') : Refined sockets iface s' := by
  have hsound := h.sound.listenerNext ht hstep
  have hasking : s.owner.asking = false := by
    by_contra hne
    have hcreated := h.sound.starting 0
      (starting_of_asking (Bool.eq_true_of_not_eq_false hne))
    omega
  have hnot : s.owner.asking = true → s.obj.pending = [] ∧ s.calls = [] := by
    rw [hasking]
    exact Bool.noConfusion
  obtain ⟨ops, hsim⟩ := h.atomic
  obtain ⟨pc, hbefore, hafter, rfl⟩ | ⟨junk, d, hpc, rfl⟩ | ⟨info, hpc, hmutex, rfl⟩ |
    ⟨info, hpc, rfl⟩ | ⟨hpc, rfl⟩ := listenerNext_cases hstep
  · refine ⟨hsound, h.sockets_eq, h.asked, h.calling, hnot, ops, hsim.pending, hsim.calls,
      held_keep hsim.held ?_⟩
    rw [hbefore.held, hafter.held]
  · -- a record is received
    have hnone : (atomicRun sockets s.obj.reqNums ops).held t = none := by
      rw [hsim.held t, hpc]
      rfl
    have hlt : t < sockets.length := by
      rw [← h.sockets_eq]
      exact Nat.lt_of_lt_of_le ht h.sound.created_le
    refine ⟨hsound, h.sockets_eq, h.asked, h.calling, hnot, ops ++ [.received t junk d], ?_⟩
    have hreceived := received_eq (obj_atomicRun sockets s.obj.reqNums ops) hlt hnone junk d
    rw [← checked_eq h.sockets_eq] at hreceived
    rw [atomicRun_concat]
    show Simulates ((atomicRun sockets s.obj.reqNums ops).received t junk d) _
    rw [hreceived]
    exact ⟨hsim.pending, hsim.calls, held_update hsim.held (afterTests_held _)⟩
  · refine ⟨hsound, h.sockets_eq, h.asked, h.calling, hnot, ops, hsim.pending, hsim.calls,
      held_keep hsim.held ?_⟩
    rw [hpc]
    rfl
  · -- the record is pushed, while the owner is not in `getResponse`
    have hmutex : s.mutex = some (.listener t) := by
      apply (h.sound.guarded _).mpr
      show (s.thread t).inside = true
      rw [hpc]
      rfl
    have hsome : (atomicRun sockets s.obj.reqNums ops).held t = some info := by
      rw [hsim.held t, hpc]
      rfl
    refine ⟨hsound, h.sockets_eq, h.asked, ?_, ?_, ops ++ [.push t], ?_⟩
    · exact calling_of_not_inside (h.sound.owner_outside hmutex) _
    · intro hasking'
      cases hasking.symm.trans hasking'
    · rw [atomicRun_concat]
      show Simulates ((atomicRun sockets s.obj.reqNums ops).push t) _
      rw [push_eq hsome]
      exact ⟨congrArg (· ++ [info]) hsim.pending, hsim.calls, held_update hsim.held rfl⟩
  · refine ⟨hsound, h.sockets_eq, h.asked, h.calling, hnot, ops, hsim.pending, hsim.calls,
      held_keep hsim.held ?_⟩
    rw [hpc]
    rfl

/-- **Every step is at most one atomic step.** -/
theorem Refined.step (h : Refined sockets iface s) (a : Party × Choice) :
    Refined sockets iface (s.step iface a) := by
  unfold Process.step
  cases hnext : s.next iface a.2 a.1 with
  | none => exact h
  | some s' =>
    unfold Process.next at hnext
    split at hnext
    · exact h.ownerNext hnext
    · split_ifs at hnext with ht
      exact h.listenerNext ht hnext

/-- Threads are started behind `broadcastRequest` only. -/
theorem Refined.askedAll (h : Refined sockets iface s) (hcreated : 0 < s.created) :
    AskedAll sockets iface s.obj.reqNums := by
  have hasked := h.asked
  have hstarting := h.sound.starting 0
  cases hpc : s.owner with
  | clear | ask | send =>
    rw [hpc] at hstarting
    have hnone := hstarting rfl
    omega
  | stop | join | destroyMembers | destroyed =>
    rw [hpc] at hasked
    exact hasked hcreated
  | _ =>
    rw [hpc] at hasked
    exact hasked

end Refined

/-- **The sections under the mutex are atomic.**  Whatever the interleaving, the listener threads
were started behind a run of `broadcastRequest` that has returned, and the calls of `getResponse`,
what is pending and what the threads hold are those of a run of atomic pushes and drains. -/
theorem refines_atomic (sockets iface : List Str) (actions : List (Party × Choice)) :
    let s := Runs.run (Process.step iface) (Process.start sockets) actions
    (0 < s.created → ∃ script,
      exec (broadcastRequest replay iface) (⟨sockets, [], [], []⟩, script) =
        (.ok (), (listening sockets s.obj.reqNums, []))) ∧
    ∃ ops,
      let sys := Runs.run System.step (System.start (listening sockets s.obj.reqNums)) ops
      sys.calls = s.calls ∧ sys.obj.pending = s.obj.pending ∧
        ∀ t, sys.held t = (s.thread t).held := by
  intro s
  have h : Refined sockets iface s :=
    Runs.run_invariant (fun _ a h => h.step a) (refined_start sockets iface) actions
  obtain ⟨ops, hsim⟩ := h.atomic
  exact ⟨h.askedAll, ops, hsim.calls, hsim.pending, hsim.held⟩

end Listening
end RcDiscover
