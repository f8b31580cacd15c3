import RcDiscover.Collecting
import RcDiscover.Lib.Races

/-!
# The threads of a `Discover` object

The owner of a `Discover` object and its listener threads, with one step for every access to a
member.  The owner calls `broadcastRequest` once, `getResponse` as often as it likes, and destroys
the object; an exception out of `broadcastRequest` destroys it as well.

* `Listener` and `Owner`: what a thread does next;
* `Process.next`: the step of a thread, unless it is blocked, with all that the environment decides
  as its `Choice`;
* `accesses`: the members that the next step of a thread accesses.

`sound_run` is the invariant.  `raceFree_run`: no interleaving has a data race, and no member is
used once they are destroyed.
-/

namespace RcDiscover
namespace Listening

open Discover Collecting Races

/-! ### The threads -/

/-- What a thread that runs `listenOnSocket` does next. -/
inductive Listener
  | getHandle
  | test
  | select
  /-- the tests, for what `recvfrom` got -/
  | check (junk : ℕ → UInt8) (d : Option Bytes)
  | lock (info : DeviceInfo)
  | pushBack (info : DeviceInfo)
  | unlock
  | notify
  | returned

/-- What the owner does next. -/
inductive Owner
  /-- `broadcastRequest` -/
  | clear
  | ask (k : ℕ)
  | send (k : ℕ)
  /-- `startListening` -/
  | startThread (k : ℕ)
  | idle
  /-- `getResponse` with the vector `info` -/
  | lock (info : List DeviceInfo)
  | predicate (info : List DeviceInfo) (timedOut : Bool)
  | sleeping (info : List DeviceInfo)
  | result (info : List DeviceInfo)
  | move (call : Call) (k : ℕ)
  | clearPending (call : Call)
  | unlock
  /-- `~Discover` -/
  | stop
  | join (k : ℕ)
  | destroyMembers
  | destroyed

/-- A thread: the owner, or the listener on the socket at a position. -/
inductive Party
  | owner
  | listener (t : ℕ)
  deriving DecidableEq, Repr

/-- The object and its threads.  The listeners are started in the order of the sockets. -/
structure Process where
  obj : Discover
  mutex : Option Party
  stop : Bool
  owner : Owner
  thread : ℕ → Listener
  /-- all calls of `getResponse` so far -/
  calls : List Call
  /-- all that the listeners have got and tested so far, with their sockets -/
  received : List (ℕ × Option Bytes)

/-- The object behind its constructor. -/
def Process.start (sockets : List Str) : Process where
  obj := ⟨sockets, [], [], []⟩
  mutex := none
  stop := false
  owner := .clear
  thread _ := .getHandle
  calls := []
  received := []

/-- What the environment decides; every step looks at the part that is about it. -/
structure Choice where
  /-- what `GigERequestCounter::getNext` returns -/
  id : RequestId
  /-- how `socket.send` ends -/
  sent : Except SocketException Unit
  /-- a thread can be created -/
  created : Bool
  /-- the vector for the next call of `getResponse`, or the object is destroyed -/
  call : Option (List DeviceInfo)
  /-- the wait ends with a timeout, and not with a notification or without a reason -/
  timedOut : Bool
  /-- what `recvfrom` gets, when `select` finds something -/
  received : Option ((ℕ → UInt8) × Option Bytes)

/-- The record that the tests leave of what `recvfrom` got on the socket `t`. -/
def record (sockets : List Str) (reqNums : List RequestId) (t : ℕ) (junk : ℕ → UInt8)
    (d : Option Bytes) : Option DeviceInfo :=
  (sockets[t]?).bind fun ifaceName =>
    Id.run (checkAck (fun i => pure ((recvfrom junk d).1 i)) reqNums ifaceName (recvfrom junk d).2)

namespace Process

variable (s : Process)

/-- The number of listener threads. -/
def created : ℕ := s.obj.listeners.length

/-- The thread `t` goes on to `pc`. -/
def goto (t : ℕ) (pc : Listener) : Process := { s with thread := Function.update s.thread t pc }

/-- The record that the tests of the thread `t` leave. -/
def checked (t : ℕ) (junk : ℕ → UInt8) (d : Option Bytes) : Option DeviceInfo :=
  record s.obj.sockets s.obj.reqNums t junk d

/-- Where a listener goes behind the tests. -/
def afterTests : Option DeviceInfo → Listener
  | some info => .lock info
  | none => .test

/-- The next step of the listener thread `t`, unless it is blocked. -/
def listenerNext (t : ℕ) (c : Choice) : Option Process :=
  match s.thread t with
  | .getHandle => some (s.goto t .test)
  | .test => some (s.goto t (if s.stop then .returned else .select))
  | .select =>
    match c.received with
    | some (junk, d) => some (s.goto t (.check junk d))
    | none => some (s.goto t .test)
  | .check junk d =>
    some { s.goto t (afterTests (s.checked t junk d)) with received := s.received ++ [(t, d)] }
  | .lock info =>
    match s.mutex with
    | none => some { s.goto t (.pushBack info) with mutex := some (.listener t) }
    | some _ => none
  | .pushBack info =>
    some { s.goto t .unlock with obj := { s.obj with pending := s.obj.pending ++ [info] } }
  | .unlock => some { s.goto t .notify with mutex := none }
  | .notify => some (s.goto t .test)
  | .returned => none

/-- The next step of the owner, unless it is blocked. -/
def ownerNext (iface : List Str) (c : Choice) : Option Process :=
  match s.owner with
  | .clear => some { s with obj := { s.obj with reqNums := [] }, owner := .ask 0 }
  | .ask k =>
    match s.obj.sockets[k]? with
    | some name =>
      if iface.length = 0 ∨ name ∈ iface then
        some { s with
          obj := { s.obj with reqNums := s.obj.reqNums ++ [c.id] }
          owner := .send k }
      else some { s with owner := .ask (k + 1) }
    | none => some { s with owner := .startThread 0 }
  | .send k =>
    match c.sent with
    | .ok () | .error (.networkUnreachableException _ _) => some { s with owner := .ask (k + 1) }
    | .error (.socketException _ _) => some { s with owner := .stop }
  | .startThread k =>
    if k < s.obj.sockets.length then
      if c.created then
        some { s with
          obj := { s.obj with listeners := s.obj.listeners ++ [k] }
          owner := .startThread (k + 1) }
      else some { s with owner := .stop }
    else some { s with owner := .idle }
  | .idle =>
    match c.call with
    | some info => some { s with owner := .lock info }
    | none => some { s with owner := .stop }
  | .lock info =>
    match s.mutex with
    | none => some { s with mutex := some .owner, owner := .predicate info false }
    | some _ => none
  | .predicate info timedOut =>
    -- behind a timeout the predicate is evaluated once more, and its value is ignored
    if s.obj.pending ≠ [] ∨ timedOut then some { s with owner := .result info }
    else some { s with mutex := none, owner := .sleeping info }
  | .sleeping info =>
    match s.mutex with
    | none => some { s with mutex := some .owner, owner := .predicate info c.timedOut }
    | some _ => none
  | .result info => some { s with owner := .move ⟨info, s.obj.pending ≠ [], info⟩ 0 }
  | .move call k =>
    match s.obj.pending[k]? with
    | some deviceInfo =>
      some { s with owner := .move { call with after := call.after ++ [deviceInfo] } (k + 1) }
    | none => some { s with owner := .clearPending call }
  | .clearPending call =>
    some { s with
      obj := { s.obj with pending := [] }
      calls := s.calls ++ [call]
      owner := .unlock }
  | .unlock => some { s with mutex := none, owner := .idle }
  | .stop => some { s with stop := true, owner := .join 0 }
  | .join k =>
    if k < s.created then
      match s.thread k with
      | .returned => some { s with owner := .join (k + 1) }
      | _ => none
    else some { s with owner := .destroyMembers }
  | .destroyMembers => some { s with owner := .destroyed }
  | .destroyed => none

/-- The next step of a thread, unless it is blocked, has returned or was never started. -/
def next (iface : List Str) (c : Choice) : Party → Option Process
  | .owner => s.ownerNext iface c
  | .listener t => if t < s.created then s.listenerNext t c else none

/-- One step of a thread, which waits while it is blocked. -/
def step (iface : List Str) (s : Process) (a : Party × Choice) : Process :=
  (s.next iface a.2 a.1).getD s

end Process

/-! ### The members -/

/-- The members of the object. -/
inductive Member
  | sockets
  | reqNums
  | listenerThreads
  | stop
  | mutex
  | cv
  | pending
  deriving DecidableEq, Repr

/-- All members, in the order of their declaration. -/
def Member.all : List Member := [sockets, reqNums, listenerThreads, stop, mutex, cv, pending]

/-- The members that the next step of a listener accesses.  The uses of the atomic flag, of the
mutex and of the condition variable do not race with each other, so that they count as reading;
only destroying them counts as writing. -/
def Listener.accesses : Listener → List (Access Member)
  | getHandle => [.reads .sockets]
  | test => [.reads .stop]
  | select => []
  | check _ _ => [.reads .reqNums, .reads .sockets]
  | lock _ => [.reads .mutex]
  | pushBack _ => [.writes .pending]
  | unlock => [.reads .mutex]
  | notify => [.reads .cv]
  | returned => []

/-- The members that the next step of the owner accesses. -/
def Owner.accesses : Owner → List (Access Member)
  | clear => [.writes .reqNums]
  | ask _ => [.reads .sockets, .writes .reqNums]
  | send _ => [.reads .sockets, .reads .reqNums]
  | startThread _ => [.reads .sockets, .writes .listenerThreads]
  | idle => []
  | lock _ => [.reads .mutex]
  | predicate _ _ => [.reads .pending, .reads .mutex, .reads .cv]
  | sleeping _ => [.reads .mutex, .reads .cv]
  | result _ => [.reads .pending]
  -- moving a record out of the vector changes it
  | move _ _ => [.writes .pending]
  | clearPending _ => [.writes .pending]
  | unlock => [.reads .mutex]
  | stop => [.reads .stop]
  | join _ => [.writes .listenerThreads]
  | destroyMembers => Member.all.map .writes
  | destroyed => []

/-- The members that the next step of a thread accesses. -/
def Process.accesses (s : Process) : Party → List (Access Member)
  | .owner => s.owner.accesses
  | .listener t => if t < s.created then (s.thread t).accesses else []

/-! ### The invariant -/

/-- The listener holds the mutex. -/
def Listener.inside : Listener → Bool
  | pushBack _ | unlock => true
  | _ => false

/-- The owner holds the mutex. -/
def Owner.inside : Owner → Bool
  | predicate _ _ | result _ | move _ _ | clearPending _ | unlock => true
  | _ => false

/-- `stop_` has been set. -/
def Owner.stopped : Owner → Bool
  | join _ | destroyMembers | destroyed => true
  | _ => false

/-- The number of listener threads, while `broadcastRequest` runs. -/
def Owner.starting : Owner → Option ℕ
  | clear | ask _ | send _ => some 0
  | startThread k => some k
  | _ => none

/-- Of `n` listener threads so many have been joined. -/
def Owner.joined (n : ℕ) : Owner → ℕ
  | join k => k
  | destroyMembers | destroyed => n
  | _ => 0

/-- The thread is in the section under the mutex. -/
def Inside (owner : Owner) (thread : ℕ → Listener) : Party → Prop
  | .owner => owner.inside = true
  | .listener t => (thread t).inside = true

/-- What holds in every interleaving. -/
structure Sound (s : Process) : Prop where
  listeners : s.obj.listeners = List.range s.created
  created_le : s.created ≤ s.obj.sockets.length
  starting : ∀ n, s.owner.starting = some n → s.created = n
  fresh : ∀ t, s.created ≤ t → s.thread t = .getHandle
  guarded : Guarded s.mutex (Inside s.owner s.thread)
  stop : s.stop = s.owner.stopped
  joined_le : s.owner.joined s.created ≤ s.created
  joined : ∀ t < s.owner.joined s.created, s.thread t = .returned

theorem sound_start (sockets : List Str) : Sound (Process.start sockets) where
  listeners := rfl
  created_le := Nat.zero_le _
  starting _ h := Option.some.inj h
  fresh _ _ := rfl
  guarded i := by
    cases i with
    | owner => simp [Process.start, Inside, Owner.inside]
    | listener t => simp [Process.start, Inside, Listener.inside]
  stop := rfl
  joined_le := Nat.zero_le _
  joined _ h := absurd h (Nat.not_lt_zero _)

/-! ### Steps of a listener -/

/-- The record that the listener holds between its tests and its push. -/
def Listener.held : Listener → Option DeviceInfo
  | lock info | pushBack info => some info
  | _ => none

/-- The most steps that the listener makes once `stop_` is set. -/
def Listener.remaining : Listener → ℕ
  | returned => 0
  | test => 1
  | getHandle | notify => 2
  | unlock => 3
  | pushBack _ => 4
  | lock _ => 5
  | check _ _ => 6
  | select => 7

@[simp] theorem afterTests_inside (r : Option DeviceInfo) :
    (Process.afterTests r).inside = false := by
  cases r <;> rfl

@[simp] theorem afterTests_held (r : Option DeviceInfo) : (Process.afterTests r).held = r := by
  cases r <;> rfl

/-- Neither holds the mutex or a record. -/
structure Bare (pc : Listener) : Prop where
  inside : pc.inside = false
  held : pc.held = none

/-- **What a step of a listener does.** -/
theorem listenerNext_cases {s s' : Process} {t : ℕ} {c : Choice}
    (h : s.listenerNext t c = some s') :
    (∃ pc, Bare (s.thread t) ∧ Bare pc ∧ s' = s.goto t pc) ∨
    (∃ junk d, s.thread t = .check junk d ∧
      s' = { s.goto t (Process.afterTests (s.checked t junk d)) with
        received := s.received ++ [(t, d)] }) ∨
    (∃ info, s.thread t = .lock info ∧ s.mutex = none ∧
      s' = { s.goto t (.pushBack info) with mutex := some (.listener t) }) ∨
    (∃ info, s.thread t = .pushBack info ∧
      s' = { s.goto t .unlock with obj := { s.obj with pending := s.obj.pending ++ [info] } }) ∨
    (s.thread t = .unlock ∧ s' = { s.goto t .notify with mutex := none }) := by
  unfold Process.listenerNext at h
  cases hpc : s.thread t with
  | getHandle | notify =>
    simp only [hpc, Option.some.injEq] at h
    exact .inl ⟨.test, ⟨rfl, rfl⟩, ⟨rfl, rfl⟩, h.symm⟩
  | test =>
    simp only [hpc, Option.some.injEq] at h
    refine .inl ⟨if s.stop then .returned else .select, ⟨rfl, rfl⟩, ?_, h.symm⟩
    split
    · exact ⟨rfl, rfl⟩
    · exact ⟨rfl, rfl⟩
  | select =>
    cases hreceived : c.received with
    | none =>
      simp only [hpc, hreceived, Option.some.injEq] at h
      exact .inl ⟨.test, ⟨rfl, rfl⟩, ⟨rfl, rfl⟩, h.symm⟩
    | some r =>
      simp only [hpc, hreceived, Option.some.injEq] at h
      exact .inl ⟨.check r.1 r.2, ⟨rfl, rfl⟩, ⟨rfl, rfl⟩, h.symm⟩
  | check junk d =>
    simp only [hpc, Option.some.injEq] at h
    exact .inr (.inl ⟨junk, d, rfl, h.symm⟩)
  | lock info =>
    cases hmutex : s.mutex with
    | none =>
      simp only [hpc, hmutex, Option.some.injEq] at h
      exact .inr (.inr (.inl ⟨info, rfl, rfl, h.symm⟩))
    | some p =>
      simp only [hpc, hmutex] at h
      cases h
  | pushBack info =>
    simp only [hpc, Option.some.injEq] at h
    exact .inr (.inr (.inr (.inl ⟨info, rfl, h.symm⟩)))
  | unlock =>
    simp only [hpc, Option.some.injEq] at h
    exact .inr (.inr (.inr (.inr ⟨rfl, h.symm⟩)))
  | returned =>
    simp only [hpc] at h
    cases h

section Sections

variable {holder : Option Party} {owner owner' : Owner} {thread : ℕ → Listener} {t : ℕ}
  {pc : Listener}

theorem guarded_owner_keep (h : Guarded holder (Inside owner thread))
    (hinside : owner'.inside = owner.inside) : Guarded holder (Inside owner' thread) := by
  refine h.keep fun p => ?_
  cases p with
  | owner => rw [Inside, Inside, hinside]
  | listener t => exact Iff.rfl

/-- What the listeners do is not touched by a step of the owner. -/
theorem inside_owner (p : Party) (hp : p ≠ .owner) :
    Inside owner' thread p ↔ Inside owner thread p := by
  cases p with
  | owner => exact absurd rfl hp
  | listener t => exact Iff.rfl

/-- What the other threads do is not touched by a step of a listener. -/
theorem inside_update (p : Party) (hp : p ≠ .listener t) :
    Inside owner (Function.update thread t pc) p ↔ Inside owner thread p := by
  cases p with
  | owner => exact Iff.rfl
  | listener u =>
    have hu : u ≠ t := fun heq => hp (heq ▸ rfl)
    rw [Inside, Inside, Function.update_of_ne hu]

theorem inside_update_self :
    Inside owner (Function.update thread t pc) (.listener t) ↔ pc.inside = true := by
  rw [Inside, Function.update_self]

theorem guarded_update_keep (h : Guarded holder (Inside owner thread))
    (hinside : pc.inside = (thread t).inside) :
    Guarded holder (Inside owner (Function.update thread t pc)) := by
  refine h.keep fun p => ?_
  by_cases hp : p = .listener t
  · subst hp
    rw [inside_update_self, hinside, Inside]
  · exact inside_update p hp

end Sections

section Steps

variable {s s' : Process} {t : ℕ} {pc : Listener}

/-- What a step of a listener leaves to prove. -/
theorem Sound.update (h : Sound s) (ht : t < s.created) (hrunning : s.thread t ≠ .returned)
    {holder : Option Party} (hguarded : Guarded holder (Inside s.owner (s.goto t pc).thread))
    (pending : List DeviceInfo) (received : List (ℕ × Option Bytes)) :
    Sound { s.goto t pc with
      mutex := holder
      obj := { s.obj with pending := pending }
      received := received } := by
  refine ⟨h.listeners, h.created_le, h.starting, fun u hu => ?_, hguarded, h.stop, h.joined_le,
    fun u hu => ?_⟩
  · have hne : u ≠ t := Nat.ne_of_gt (Nat.lt_of_lt_of_le ht hu)
    exact (Function.update_of_ne hne pc s.thread).trans (h.fresh u hu)
  · -- a thread that was joined makes no step
    have hreturned := h.joined u hu
    have hne : u ≠ t := by
      rintro rfl
      exact hrunning hreturned
    exact (Function.update_of_ne hne pc s.thread).trans hreturned

/-- **A step of a listener keeps the invariant.** -/
theorem Sound.listenerNext {c : Choice} (h : Sound s) (ht : t < s.created)
    (hstep : s.listenerNext t c = some s') : Sound s' := by
  have hrunning : s.thread t ≠ .returned := by
    intro hpc
    simp only [Process.listenerNext, hpc] at hstep
    cases hstep
  obtain ⟨pc, hbefore, hafter, rfl⟩ | ⟨junk, d, hpc, rfl⟩ | ⟨info, hpc, hmutex, rfl⟩ |
    ⟨info, hpc, rfl⟩ | ⟨hpc, rfl⟩ := listenerNext_cases hstep
  · refine h.update ht hrunning (guarded_update_keep h.guarded ?_) s.obj.pending s.received
    rw [hbefore.inside, hafter.inside]
  · refine h.update ht hrunning (guarded_update_keep h.guarded ?_) s.obj.pending _
    rw [hpc, afterTests_inside]
    rfl
  · refine h.update ht hrunning ?_ s.obj.pending s.received
    have hguarded := h.guarded
    rw [hmutex] at hguarded
    exact hguarded.acquire (inside_update_self.mpr rfl) inside_update
  · refine h.update ht hrunning (guarded_update_keep h.guarded ?_) _ s.received
    rw [hpc]
    rfl
  · refine h.update ht hrunning ?_ s.obj.pending s.received
    have hinside : Inside s.owner s.thread (.listener t) := congrArg Listener.inside hpc
    refine h.guarded.release hinside (fun hin => ?_) inside_update
    cases inside_update_self.mp hin

/-! ### Steps of the owner -/

/-- What a step of the owner leaves to prove. -/
theorem Sound.owner (h : Sound s) (hthread : s'.thread = s.thread)
    (hsockets : s'.obj.sockets = s.obj.sockets) (hlisteners : s'.obj.listeners = s.obj.listeners)
    (hstarting : ∀ n, s'.owner.starting = some n → s.created = n)
    (hguarded : Guarded s'.mutex (Inside s'.owner s.thread)) (hstop : s'.stop = s'.owner.stopped)
    (hjoined : s'.owner.joined s.created ≤ s.created ∧
      ∀ t < s'.owner.joined s.created, s.thread t = .returned) : Sound s' := by
  have hcreated : s'.created = s.created := congrArg List.length hlisteners
  refine ⟨?_, ?_, ?_, ?_, ?_, hstop, ?_, ?_⟩
  · rw [hlisteners, hcreated]
    exact h.listeners
  · rw [hcreated, hsockets]
    exact h.created_le
  · rw [hcreated]
    exact hstarting
  · rw [hcreated, hthread]
    exact h.fresh
  · rw [hthread]
    exact hguarded
  · rw [hcreated]
    exact hjoined.1
  · rw [hcreated, hthread]
    exact hjoined.2

theorem nothing_joined {n : ℕ} (hn : n = 0) :
    n ≤ s.created ∧ ∀ t < n, s.thread t = .returned := by
  subst hn
  exact ⟨Nat.zero_le _, fun t ht => absurd ht (Nat.not_lt_zero t)⟩

/-- A step of the owner between places where no thread has been joined. -/
theorem Sound.owner_keep (h : Sound s) (hthread : s'.thread = s.thread)
    (hsockets : s'.obj.sockets = s.obj.sockets) (hlisteners : s'.obj.listeners = s.obj.listeners)
    (hmutex : s'.mutex = s.mutex) (hinside : s'.owner.inside = s.owner.inside)
    (hstop : s'.stop = s'.owner.stopped) (hjoined : s'.owner.joined s.created = 0)
    (hstarting : ∀ n, s'.owner.starting = some n → s.created = n) : Sound s' := by
  refine h.owner hthread hsockets hlisteners hstarting ?_ hstop (nothing_joined hjoined)
  rw [hmutex]
  exact guarded_owner_keep h.guarded hinside

/-- The owner takes the mutex. -/
theorem Sound.owner_lock (h : Sound s) (hmutex : s.mutex = none) {pc : Owner}
    (hinside : pc.inside = true) (hstop : s.stop = pc.stopped) (hjoined : pc.joined s.created = 0)
    (hstarting : pc.starting = none) :
    Sound { s with mutex := some .owner, owner := pc } := by
  refine h.owner rfl rfl rfl (fun n hn => ?_) ?_ hstop (nothing_joined hjoined)
  · cases hstarting.symm.trans hn
  · have hguarded := h.guarded
    rw [hmutex] at hguarded
    exact hguarded.acquire hinside inside_owner

/-- The owner gives the mutex back. -/
theorem Sound.owner_unlock (h : Sound s) (hheld : s.owner.inside = true) {pc : Owner}
    (hinside : pc.inside = false) (hstop : s.stop = pc.stopped) (hjoined : pc.joined s.created = 0)
    (hstarting : pc.starting = none) : Sound { s with mutex := none, owner := pc } := by
  refine h.owner rfl rfl rfl (fun n hn => ?_) ?_ hstop (nothing_joined hjoined)
  · cases hstarting.symm.trans hn
  · have hin : Inside s.owner s.thread .owner := hheld
    refine h.guarded.release hin (fun hin' => ?_) inside_owner
    cases hinside.symm.trans hin'

/-- One more listener thread. -/
theorem Sound.startThread (h : Sound s) {k : ℕ} (hpc : s.owner = .startThread k)
    (hk : k < s.obj.sockets.length) :
    Sound { s with
      obj := { s.obj with listeners := s.obj.listeners ++ [k] }
      owner := .startThread (k + 1) } := by
  have hcreated : s.created = k := by
    apply h.starting
    rw [hpc]
    rfl
  have hlisteners : s.obj.listeners ++ [k] = List.range (k + 1) := by
    rw [h.listeners, hcreated, List.range_succ]
  have hstop : s.stop = false := by
    rw [h.stop, hpc]
    rfl
  have hlength : (s.obj.listeners ++ [k]).length = k + 1 := by
    rw [hlisteners, List.length_range]
  refine ⟨?_, ?_, fun n hn => ?_, fun t ht => ?_, ?_, hstop, Nat.zero_le _, nofun⟩
  · exact hlisteners.trans (congrArg List.range hlength.symm)
  · exact hlength.trans_le hk
  · exact hlength.trans (Option.some.inj hn)
  · apply h.fresh
    have hle : k + 1 ≤ t := hlength.symm.trans_le ht
    omega
  · have hguarded := h.guarded
    rw [hpc] at hguarded
    exact guarded_owner_keep hguarded rfl

/-- One more thread was joined. -/
theorem Sound.join (h : Sound s) {k : ℕ} (hpc : s.owner = .join k) (hk : k < s.created)
    (hreturned : s.thread k = .returned) : Sound { s with owner := .join (k + 1) } := by
  have hjoined := h.joined
  rw [hpc] at hjoined
  refine h.owner rfl rfl rfl (fun n hn => ?_) ?_ ?_ ⟨hk, fun t ht => ?_⟩
  · cases hn
  · refine guarded_owner_keep h.guarded ?_
    rw [hpc]
    rfl
  · rw [h.stop, hpc]
    rfl
  · rcases Nat.lt_succ_iff_lt_or_eq.mp ht with hlt | rfl
    · exact hjoined t hlt
    · exact hreturned

/-- All threads are joined. -/
theorem Sound.all_joined (h : Sound s) {pc : Owner} (hinside : s.owner.inside = pc.inside)
    (hstop : s.owner.stopped = pc.stopped) (hstarting : pc.starting = none)
    (hall : pc.joined s.created = s.created) (hbefore : s.created ≤ s.owner.joined s.created) :
    Sound { s with owner := pc } := by
  refine h.owner rfl rfl rfl (fun n hn => ?_) ?_ ?_ ⟨hall.le, fun t ht => ?_⟩
  · cases hstarting.symm.trans hn
  · exact guarded_owner_keep h.guarded hinside.symm
  · exact h.stop.trans hstop
  · apply h.joined
    show t < s.owner.joined s.created
    have hlt : t < pc.joined s.created := ht
    omega

/-- **A step of the owner keeps the invariant.** -/
theorem Sound.ownerNext {iface : List Str} {c : Choice} (h : Sound s)
    (hstep : s.ownerNext iface c = some s') : Sound s' := by
  have hstop := h.stop
  have hstarting := h.starting
  unfold Process.ownerNext at hstep
  cases hpc : s.owner with
  | clear =>
    simp only [hpc, Option.some.injEq] at hstep hstop hstarting
    subst hstep
    exact h.owner_keep rfl rfl rfl rfl (by rw [hpc]; rfl) hstop rfl hstarting
  | ask k =>
    simp only [hpc] at hstep hstop hstarting
    split at hstep
    · split_ifs at hstep
      · obtain rfl := Option.some.inj hstep
        exact h.owner_keep rfl rfl rfl rfl (by rw [hpc]; rfl) hstop rfl hstarting
      · obtain rfl := Option.some.inj hstep
        exact h.owner_keep rfl rfl rfl rfl (by rw [hpc]; rfl) hstop rfl hstarting
    · obtain rfl := Option.some.inj hstep
      exact h.owner_keep rfl rfl rfl rfl (by rw [hpc]; rfl) hstop rfl hstarting
  | send k =>
    simp only [hpc] at hstep hstop hstarting
    split at hstep
    · obtain rfl := Option.some.inj hstep
      exact h.owner_keep rfl rfl rfl rfl (by rw [hpc]; rfl) hstop rfl hstarting
    · obtain rfl := Option.some.inj hstep
      exact h.owner_keep rfl rfl rfl rfl (by rw [hpc]; rfl) hstop rfl hstarting
    · obtain rfl := Option.some.inj hstep
      exact h.owner_keep rfl rfl rfl rfl (by rw [hpc]; rfl) hstop rfl nofun
  | startThread k =>
    simp only [hpc] at hstep hstop
    split_ifs at hstep with hk
    · obtain rfl := Option.some.inj hstep
      exact h.startThread hpc hk
    · obtain rfl := Option.some.inj hstep
      exact h.owner_keep rfl rfl rfl rfl (by rw [hpc]; rfl) hstop rfl nofun
    · obtain rfl := Option.some.inj hstep
      exact h.owner_keep rfl rfl rfl rfl (by rw [hpc]; rfl) hstop rfl nofun
  | idle =>
    simp only [hpc] at hstep hstop
    split at hstep
    · obtain rfl := Option.some.inj hstep
      exact h.owner_keep rfl rfl rfl rfl (by rw [hpc]; rfl) hstop rfl nofun
    · obtain rfl := Option.some.inj hstep
      exact h.owner_keep rfl rfl rfl rfl (by rw [hpc]; rfl) hstop rfl nofun
  | lock info =>
    simp only [hpc] at hstep hstop
    split at hstep
    · next hmutex =>
      obtain rfl := Option.some.inj hstep
      exact h.owner_lock hmutex rfl hstop rfl rfl
    · cases hstep
  | predicate info timedOut =>
    simp only [hpc] at hstep hstop
    split_ifs at hstep
    · obtain rfl := Option.some.inj hstep
      exact h.owner_keep rfl rfl rfl rfl (by rw [hpc]; rfl) hstop rfl nofun
    · obtain rfl := Option.some.inj hstep
      exact h.owner_unlock (by rw [hpc]; rfl) rfl hstop rfl rfl
  | sleeping info =>
    simp only [hpc] at hstep hstop
    split at hstep
    · next hmutex =>
      obtain rfl := Option.some.inj hstep
      exact h.owner_lock hmutex rfl hstop rfl rfl
    · cases hstep
  | result info =>
    simp only [hpc, Option.some.injEq] at hstep hstop
    subst hstep
    exact h.owner_keep rfl rfl rfl rfl (by rw [hpc]; rfl) hstop rfl nofun
  | move call k =>
    simp only [hpc] at hstep hstop
    split at hstep
    · obtain rfl := Option.some.inj hstep
      exact h.owner_keep rfl rfl rfl rfl (by rw [hpc]; rfl) hstop rfl nofun
    · obtain rfl := Option.some.inj hstep
      exact h.owner_keep rfl rfl rfl rfl (by rw [hpc]; rfl) hstop rfl nofun
  | clearPending call =>
    simp only [hpc, Option.some.injEq] at hstep hstop
    subst hstep
    exact h.owner_keep rfl rfl rfl rfl (by rw [hpc]; rfl) hstop rfl nofun
  | unlock =>
    simp only [hpc, Option.some.injEq] at hstep hstop
    subst hstep
    exact h.owner_unlock (by rw [hpc]; rfl) rfl hstop rfl rfl
  | stop =>
    simp only [hpc, Option.some.injEq] at hstep
    subst hstep
    exact h.owner_keep rfl rfl rfl rfl (by rw [hpc]; rfl) rfl rfl nofun
  | join k =>
    simp only [hpc] at hstep
    split_ifs at hstep with hk
    · split at hstep
      · next hreturned =>
        obtain rfl := Option.some.inj hstep
        exact h.join hpc hk hreturned
      · cases hstep
    · obtain rfl := Option.some.inj hstep
      refine h.all_joined (by rw [hpc]; rfl) (by rw [hpc]; rfl) rfl rfl ?_
      rw [hpc]
      exact Nat.le_of_not_lt hk
  | destroyMembers =>
    simp only [hpc, Option.some.injEq] at hstep
    subst hstep
    exact h.all_joined (by rw [hpc]; rfl) (by rw [hpc]; rfl) rfl rfl (by rw [hpc]; rfl)
  | destroyed =>
    simp only [hpc] at hstep
    cases hstep

/-- **Every step keeps the invariant.** -/
theorem Sound.step (iface : List Str) (h : Sound s) (a : Party × Choice) :
    Sound (s.step iface a) := by
  unfold Process.step
  cases hnext : s.next iface a.2 a.1 with
  | none => exact h
  | some s' =>
    unfold Process.next at hnext
    split at hnext
    · exact h.ownerNext hnext
    · split_ifs at hnext with ht
      exact h.listenerNext ht hnext

end Steps

/-- **What holds in every interleaving.** -/
theorem sound_run (sockets iface : List Str) (actions : List (Party × Choice)) :
    Sound (Runs.run (Process.step iface) (Process.start sockets) actions) :=
  Runs.run_invariant (fun _ a h => h.step iface a) (sound_start sockets) actions

end Listening
end RcDiscover
