import RcDiscover.Discover

/-!
# Collecting responses while the listener threads push them

The listener threads of a `Discover` object and its owner, with one atomic step for each section
that runs under `mutex_`.

* `System`: the object, the record that each listener thread holds between its checks and its
  push, and what has been pushed and what `getResponse` was called for so far;
* `Collector`: the loop of `runDiscover` and of `discoverWithFilter` around `getResponse`, which
  are the same one, next to the same threads.

`System.exists_run_eq`: the runs of the object alone are among the interleavings.
`conserved_run`: whatever the interleaving, what was handed out and what is pending is what was
pushed.  `responses_conserved` adds what the loop has when it is left.
-/

namespace RcDiscover
namespace Collecting

open Discover

/-! ### The threads and the queue -/

/-- A call of `getResponse`: the vector before and after it, and what it returned. -/
structure Call where
  before : List DeviceInfo
  result : Bool
  after : List DeviceInfo

/-- What the call has appended to the vector. -/
def Call.appended (c : Call) : List DeviceInfo := c.after.drop c.before.length

/-- The object with its listener threads, which are numbered like `listener_threads_`. -/
structure System where
  obj : Discover
  /-- `device_info` of a thread that has checked it and does not have the mutex yet -/
  held : ℕ → Option DeviceInfo
  /-- all records pushed so far -/
  pushed : List DeviceInfo
  /-- all calls of `getResponse` so far -/
  calls : List Call

/-- An object that nothing was pushed to yet. -/
def System.start (obj : Discover) : System where
  obj := { obj with pending := [] }
  held _ := none
  pushed := []
  calls := []

/-- A step of a listener thread, or a call of `getResponse` with the vector `info`.  The wait in
front of the drain may end at any time: when something was pushed, or with a timeout. -/
inductive Op
  | received (t : ℕ) (junk : ℕ → UInt8) (d : Option Bytes)
  | push (t : ℕ)
  | getResponse (info : List DeviceInfo)

namespace System

/-- The thread `t` gets something from its socket and checks it. -/
def received (s : System) (t : ℕ) (junk : ℕ → UInt8) (d : Option Bytes) : System :=
  match (s.obj.listeners[t]?).bind (s.obj.sockets[·]?), s.held t with
  | some ifaceName, none =>
    let r := recvfrom junk d
    { s with
      held := Function.update s.held t
        (Id.run (checkAck (fun i => pure (r.1 i)) s.obj.reqNums ifaceName r.2)) }
  | _, _ => s

/-- The section of `listenOnSocket` under the mutex. -/
def push (s : System) (t : ℕ) : System :=
  match s.held t with
  | some deviceInfo =>
    { s with
      obj := { s.obj with pending := s.obj.pending ++ [deviceInfo] }
      held := Function.update s.held t none
      pushed := s.pushed ++ [deviceInfo] }
  | none => s

/-- The section of `getResponse` under the mutex. -/
def drain (s : System) (info : List DeviceInfo) : System :=
  let r := s.obj.getResponse info
  { s with obj := r.2, calls := s.calls ++ [⟨info, r.1.1, r.1.2⟩] }

/-- One step of the threads. -/
def step (s : System) : Op → System
  | .received t junk d => s.received t junk d
  | .push t => s.push t
  | .getResponse info => s.drain info

/-- A pass of the listener loop that no other thread disturbs. -/
theorem push_received {s : System} {t k : ℕ} {ifaceName : Str} (ht : s.obj.listeners[t]? = some k)
    (hk : s.obj.sockets[k]? = some ifaceName) (hheld : s.held t = none) (junk : ℕ → UInt8)
    (d : Option Bytes) :
    ((s.received t junk d).push t).obj = s.obj.listenOnSocket ifaceName (recvfrom junk d) := by
  simp only [received, ht, hk, hheld, Option.bind_some, listenOnSocket, push, Function.update_self]
  rcases Id.run (checkAck (fun i => pure ((recvfrom junk d).1 i)) s.obj.reqNums ifaceName
    (recvfrom junk d).2) with _ | deviceInfo
  · rfl
  · rfl

/-- The thread is behind its push, whatever it got. -/
theorem held_push_received {s : System} (hheld : ∀ t, s.held t = none) (t : ℕ) (junk : ℕ → UInt8)
    (d : Option Bytes) (t' : ℕ) : ((s.received t junk d).push t).held t' = none := by
  have hother : ∀ u ≠ t, (s.received t junk d).held u = none := by
    intro u hu
    rw [received]
    split
    · exact (Function.update_of_ne hu _ _).trans (hheld u)
    · exact hheld u
  rw [push]
  by_cases ht : t' = t
  · subst ht
    split
    · exact Function.update_self ..
    · assumption
  · split
    · exact (Function.update_of_ne ht _ _).trans (hother t' ht)
    · exact hother t' ht

/-- **A run in which no thread interferes with another** is one of the interleavings: what happens
to a `Discover` object in a sequence of events happens to it here. -/
theorem exists_run_eq (obj : Discover) (events : List Event) :
    ∃ ops, (Runs.run step (start obj) ops).obj =
        Runs.run Discover.step { obj with pending := [] } events ∧
      ∀ t, (Runs.run step (start obj) ops).held t = none := by
  induction events using List.reverseRecOn with
  | nil => exact ⟨[], rfl, fun _ => rfl⟩
  | append_singleton events event ih =>
    obtain ⟨ops, hobj, hheld⟩ := ih
    rw [Runs.run_append, Runs.run_cons, Runs.run_nil, ← hobj]
    generalize hs : Runs.run step (start obj) ops = s at hheld
    cases event with
    | collected =>
      refine ⟨ops ++ [.getResponse []], ?_, ?_⟩ <;>
        rw [Runs.run_append, hs, Runs.run_cons, Runs.run_nil]
      · rfl
      · exact hheld
    | received k junk d =>
      by_cases hk : ∃ (ifaceName : Str) (t : ℕ),
          s.obj.sockets[k]? = some ifaceName ∧ s.obj.listeners[t]? = some k
      · obtain ⟨ifaceName, t, hsocket, ht⟩ := hk
        refine ⟨ops ++ [.received t junk d, .push t], ?_, ?_⟩ <;>
          rw [Runs.run_append, hs, Runs.run_cons, Runs.run_cons, Runs.run_nil]
        · simp only [step, push_received ht hsocket (hheld t), Discover.step, hsocket,
            if_pos (List.mem_of_getElem? ht)]
        · exact held_push_received hheld t junk d
      · refine ⟨ops, ?_, hs ▸ hheld⟩
        rw [hs, Discover.step]
        split
        · next ifaceName hsocket =>
          refine (if_neg fun hmem => ?_).symm
          obtain ⟨t, ht⟩ := List.mem_iff_getElem?.1 hmem
          exact hk ⟨ifaceName, t, hsocket, ht⟩
        · rfl

/-- A step that hands nothing on. -/
theorem received_frame (s : System) (t : ℕ) (junk : ℕ → UInt8) (d : Option Bytes) :
    s.received t junk d = { s with held := (s.received t junk d).held } := by
  rw [received]
  split <;> rfl

end System

/-! ### Conservation -/

/-- Nothing is lost and nothing comes twice. -/
structure Conserved (s : System) : Prop where
  pushed : s.calls.flatMap Call.appended ++ s.obj.pending = s.pushed
  result : ∀ c ∈ s.calls, c.result = true ↔ c.appended ≠ []
  before : ∀ c ∈ s.calls, c.before <+: c.after

theorem conserved_start (obj : Discover) : Conserved (System.start obj) where
  pushed := rfl
  result _ h := nomatch h
  before _ h := nomatch h

variable {s : System}

theorem Conserved.push (h : Conserved s) (t : ℕ) : Conserved (s.push t) := by
  rw [System.push]
  split
  · next deviceInfo _ =>
    exact ⟨by rw [← h.pushed, List.append_assoc], h.result, h.before⟩
  · exact h

theorem Conserved.drain (h : Conserved s) (info : List DeviceInfo) : Conserved (s.drain info) := by
  have happended : Call.appended ⟨info, decide (s.obj.pending ≠ []), info ++ s.obj.pending⟩ =
      s.obj.pending := List.drop_left
  have hcalls : ∀ c ∈ (s.drain info).calls,
      c ∈ s.calls ∨ c = ⟨info, decide (s.obj.pending ≠ []), info ++ s.obj.pending⟩ := by
    intro c hc
    rcases List.mem_append.1 hc with hc | hc
    · exact .inl hc
    · exact .inr (List.mem_singleton.1 hc)
  refine ⟨?_, fun c hc => ?_, fun c hc => ?_⟩
  · simp only [System.drain, getResponse, List.flatMap_append, List.flatMap_singleton, happended,
      List.append_nil]
    exact h.pushed
  · rcases hcalls c hc with hc | rfl
    · exact h.result c hc
    · rw [happended, decide_eq_true_iff]
  · rcases hcalls c hc with hc | rfl
    · exact h.before c hc
    · exact List.prefix_append info s.obj.pending

theorem Conserved.step (h : Conserved s) (op : Op) : Conserved (s.step op) := by
  cases op with
  | received t junk d =>
    rw [System.step, System.received_frame]
    exact ⟨h.pushed, h.result, h.before⟩
  | push t => exact h.push t
  | getResponse info => exact h.drain info

/-- **No response is lost or duplicated**, for every interleaving. -/
theorem conserved_run (obj : Discover) (ops : List Op) :
    Conserved (Runs.run System.step (System.start obj) ops) :=
  Runs.run_invariant (fun _ op h => h.step op) (conserved_start obj) ops

/-! ### The collecting loop -/

/-- Where the loop is: in front of the call of `getResponse`, behind a call that returned `ret`,
or behind the loop. -/
inductive Control
  | calling
  | testing (ret : Bool)
  | left
  deriving DecidableEq, Repr

/-- The loop with its variables.  `now` is the steady clock, which counts nanoseconds. -/
structure Collector where
  sys : System
  infos : List DeviceInfo
  tstart : ℕ
  tend : ℕ
  now : ℕ
  control : Control
  /-- what had been pushed when `getResponse` was called last -/
  drained : List DeviceInfo

/-- In front of the loop. -/
def Collector.start (obj : Discover) (now : ℕ) : Collector where
  sys := System.start obj
  infos := []
  tstart := now
  tend := now
  now := now
  control := .calling
  drained := []

/-- A step of a listener thread, a step of the loop, or the passing of time. -/
inductive LoopOp
  | received (t : ℕ) (junk : ℕ → UInt8) (d : Option Bytes)
  | push (t : ℕ)
  | advance
  | pass (nanoseconds : ℕ)

namespace Collector

/-- The next step of
`while (getResponse(infos, 100) || (tend - tstart) < 1000 ms) { tend = now(); }`. -/
def advance (c : Collector) : Collector :=
  match c.control with
  | .calling =>
    let r := c.sys.obj.getResponse c.infos
    { c with
      sys := c.sys.drain c.infos
      infos := r.1.2
      control := .testing r.1.1
      drained := c.sys.pushed }
  | .testing ret =>
    if ret ∨ c.tend - c.tstart < 1000 * 1000000 then { c with tend := c.now, control := .calling }
    else { c with control := .left }
  | .left => c

/-- One step of the loop or of what is next to it. -/
def step (c : Collector) : LoopOp → Collector
  | .received t junk d => { c with sys := c.sys.received t junk d }
  | .push t => { c with sys := c.sys.push t }
  | .advance => c.advance
  | .pass n => { c with now := c.now + n }

/-- Every step of the loop is one of the system or leaves the system alone. -/
theorem step_sys (c : Collector) (op : LoopOp) :
    (c.step op).sys = c.sys ∨ ∃ sysOp, (c.step op).sys = c.sys.step sysOp := by
  cases op with
  | received t junk d => exact .inr ⟨.received t junk d, rfl⟩
  | push t => exact .inr ⟨.push t, rfl⟩
  | pass n => exact .inl rfl
  | advance =>
    simp only [step, advance]
    split
    · exact .inr ⟨.getResponse c.infos, rfl⟩
    · split_ifs <;> exact .inl rfl
    · exact .inl rfl

end Collector

/-- The vector of the loop holds what had been pushed at its last call. -/
structure Collected (c : Collector) : Prop where
  conserved : Conserved c.sys
  pushed : c.infos ++ c.sys.obj.pending = c.sys.pushed
  infos : c.infos = c.drained

theorem collected_start (obj : Discover) (now : ℕ) : Collected (Collector.start obj now) where
  conserved := conserved_start obj
  pushed := rfl
  infos := rfl

theorem Collected.step {c : Collector} (h : Collected c) (op : LoopOp) : Collected (c.step op) := by
  have hcons : Conserved (c.step op).sys := by
    rcases c.step_sys op with hs | ⟨sysOp, hs⟩
    · exact hs ▸ h.conserved
    · exact hs ▸ h.conserved.step sysOp
  cases op with
  | received t junk d =>
    refine ⟨hcons, ?_, h.infos⟩
    simp only [Collector.step]
    rw [System.received_frame]
    exact h.pushed
  | push t =>
    refine ⟨hcons, ?_, h.infos⟩
    simp only [Collector.step, System.push]
    split
    · rw [← h.pushed, List.append_assoc]
    · exact h.pushed
  | pass n => exact ⟨hcons, h.pushed, h.infos⟩
  | advance =>
    simp only [Collector.step, Collector.advance] at hcons ⊢
    split
    · -- the drain takes all that is there
      next hcalling =>
      rw [hcalling] at hcons
      refine ⟨hcons, ?_, h.pushed⟩
      simp only [System.drain, getResponse, List.append_nil]
      exact h.pushed
    · split_ifs <;> exact ⟨h.conserved, h.pushed, h.infos⟩
    · exact h

/-- **Discovery responses are neither lost nor duplicated.**  At any point of the loop of
`runDiscover` and of `discoverWithFilter`, and so when it is left, its vector holds the records that
had been pushed at its last call, once each; those pushed since are pending. -/
theorem responses_conserved (obj : Discover) :
    (∀ ops : List Op,
      let s := Runs.run System.step (System.start obj) ops
      s.calls.flatMap Call.appended ++ s.obj.pending = s.pushed ∧
      ∀ c ∈ s.calls, (c.result = true ↔ c.appended ≠ []) ∧ c.before <+: c.after) ∧
    ∀ (now : ℕ) (ops : List LoopOp),
      let c := Runs.run Collector.step (Collector.start obj now) ops
      c.infos = c.drained ∧ c.infos ++ c.sys.obj.pending = c.sys.pushed := by
  constructor
  · intro ops s
    have h : Conserved s := conserved_run obj ops
    exact ⟨h.pushed, fun c hc => ⟨h.result c hc, h.before c hc⟩⟩
  · intro now ops c
    have h : Collected c :=
      Runs.run_invariant (fun _ op h => h.step op) (collected_start obj now) ops
    exact ⟨h.infos, h.pushed⟩

/-- Without responses the loop is left after a second. -/
example (obj : Discover) :
    (Runs.run Collector.step (Collector.start obj 0)
      [.advance, .pass 1000000000, .advance, .advance, .advance]).control = .left := by
  simp [Collector.step, Collector.advance, Collector.start, System.start, System.drain, getResponse]

end Collecting
end RcDiscover
