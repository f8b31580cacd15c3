import RcDiscover.Collecting.Waiting
import RcDiscover.Gui.DiscoverWindow

/-!
# How long a discover thread collects

`discoverThread` with the `Discover` object that it asks and the variables of its loop.  The control
flow is that of `Pc.step`; what `getResponse` returns and what the test of the time gives is not any
answer here, but comes from the object and from the clock.

* `CollectingThread`: the thread next to the listener threads and to whoever writes `running`;
* `CollectingThread.WaitsFully`: a call without a record takes its 100 ms;
* `Pc.remaining`: the steps to the end of a pass.

`collecting_ends` (**main result**): on the command line and in the window, there are at most eleven
calls more than records, and the loop is left by a call without a record after a second.
-/

namespace RcDiscover
namespace Gui

open Collecting

/-- The thread with its variables.  `now` is the steady clock, and `failed` counts the calls of
`getResponse` that have thrown. -/
structure CollectingThread where
  sys : System
  info : List DeviceInfo
  tstart : ℕ
  tend : ℕ
  now : ℕ
  running : Bool
  pc : Pc
  failed : ℕ

/-- A new thread.  `obj` is its object as `broadcastRequest` leaves it. -/
def CollectingThread.start (obj : Discover) (running : Bool) (now : ℕ) : CollectingThread where
  sys := System.start obj
  info := []
  tstart := now
  tend := now
  now := now
  running := running
  pc := .lockClear
  failed := 0

/-- A step of a listener thread, a write to `running`, the passing of time, or a step of the thread
with the exception that its call throws and the result of `checkReachabilityOfSensor`. -/
inductive ThreadOp
  | received (t : ℕ) (junk : ℕ → UInt8) (d : Option Bytes)
  | push (t : ℕ)
  | running (value : Bool)
  | pass (nanoseconds : ℕ)
  | next (thrown : Option Thrown) (reachable : Bool)

namespace CollectingThread

variable (s : CollectingThread)

/-- What the next call comes to. -/
def answer (thrown : Option Thrown) (reachable : Bool) : Answer where
  thrown := thrown
  response := (s.sys.obj.getResponse s.info).1.1
  info := (s.sys.obj.getResponse s.info).1.2
  inTime := s.tend - s.tstart < collectingTime
  reachable := reachable

/-- The thread goes on.  While it waits for a lock it makes no step. -/
def next (thrown : Option Thrown) (reachable : Bool) : CollectingThread :=
  let pc := (s.pc.step s.running (s.answer thrown reachable)).2
  match s.pc, thrown with
  | .broadcastRequest, none => { s with tstart := s.now, tend := s.now, pc }
  | .getResponse, none =>
    { s with sys := s.sys.drain s.info, info := (s.sys.obj.getResponse s.info).1.2, pc }
  | .getResponse, some _ => { s with failed := s.failed + 1, pc }
  | .awakeAdd, _ => { s with info := [], tend := s.now, pc }
  | .clearRunning, _ => { s with running := false, pc }
  | _, _ => { s with pc }

/-- One step of the thread or of what is next to it. -/
def step : ThreadOp → CollectingThread
  | .received t junk d => { s with sys := s.sys.received t junk d }
  | .push t => { s with sys := s.sys.push t }
  | .running value => { s with running := value }
  | .pass n => { s with now := s.now + n }
  | .next thrown reachable => s.next thrown reachable

/-- The call that is next takes its 100 ms when there is no record.  It begins after the clock was
read for `tend`. -/
def WaitsFully : ThreadOp → Prop
  | .next none _ => s.pc = .getResponse → s.sys.obj.pending = [] →
    s.tend + responseTimeout ≤ s.now
  | _ => True

instance : ∀ op, Decidable (s.WaitsFully op)
  | .next none _ => inferInstanceAs (Decidable (_ → _ → _))
  | .next (some _) _ | .received .. | .push _ | .running _ | .pass _ => isTrue trivial

end CollectingThread

/-! ### The loop -/

/-- Where the loop is. -/
def Pc.phase : Pc → Polling.Phase
  | .lockClear | .clear | .updateClear | .unlockClear | .awakeClear | .construct
  | .broadcastRequest => .before
  | .testRunning | .getResponse => .polling
  | .lockAdd _ | .checkReachability _ | .add .. | .updateAdd | .unlockAdd | .awakeAdd => .body
  | .report _ | .lockLast | .clearRunning | .updateLast | .unlockLast | .awakeLast | .returned =>
    .left

/-- The steps that are left of a pass of the loop, or of what is in front of the loop. -/
def Pc.remaining : Pc → ℕ
  | .lockClear => 8
  | .clear => 7
  | .updateClear => 6
  | .unlockClear => 5
  | .awakeClear => 4
  | .construct => 3
  | .broadcastRequest => 2
  | .testRunning => 1
  | .lockAdd info => 6 + 2 * info.length
  | .checkReachability info => 5 + 2 * info.length
  | .add _ _ info => 6 + 2 * info.length
  | .updateAdd => 4
  | .unlockAdd => 3
  | .awakeAdd => 2
  | _ => 0

theorem eq_of_phase_polling {pc : Pc} (h : pc.phase = .polling) :
    pc = .testRunning ∨ pc = .getResponse := by
  cases pc <;> first | exact .inl rfl | exact .inr rfl | cases h

theorem phase_ne_polled {pc : Pc} {hit : Bool} : pc.phase ≠ .polled hit := by
  intro h
  cases pc <;> cases h

section PcStep

variable (running : Bool) (a : Answer)

/-- A call that throws leads out of the loop. -/
theorem phase_tryCall (e : Effect) (next : Pc) :
    (tryCall a e next).2.phase = next.phase ∨ (tryCall a e next).2.phase = .left := by
  rw [tryCall]
  split
  · exact .inl rfl
  · exact .inr rfl

/-- The phase changes with three of the calls only, or the loop is left. -/
theorem phase_step (pc : Pc) (hbroadcast : pc ≠ .broadcastRequest)
    (hresponse : pc ≠ .getResponse) (hawake : pc ≠ .awakeAdd) :
    (pc.step running a).2.phase = pc.phase ∨ (pc.step running a).2.phase = .left := by
  cases pc with
  | broadcastRequest => exact absurd rfl hbroadcast
  | getResponse => exact absurd rfl hresponse
  | awakeAdd => exact absurd rfl hawake
  | clear | updateClear | construct | updateAdd | add => exact phase_tryCall a _ _
  | testRunning =>
    cases running with
    | true => exact .inl rfl
    | false => exact .inr rfl
  | checkReachability info =>
    cases info with
    | nil => exact .inl rfl
    | cons device info =>
      rw [Pc.step]
      split_ifs
      · exact phase_tryCall a _ _
      · exact .inl rfl
  | updateLast =>
    rw [Pc.step]
    split_ifs <;> exact .inl rfl
  | lockClear | unlockClear | awakeClear | lockAdd | unlockAdd | report | lockLast | clearRunning
  | unlockLast | awakeLast | returned => exact .inl rfl

/-- Nothing but an exception leads out of the body. -/
theorem phase_step_body {pc : Pc} (hthrown : a.thrown = none) (h : pc.phase = .body)
    (hawake : pc ≠ .awakeAdd) : (pc.step running a).2.phase = .body := by
  have hcall : ∀ e next, (tryCall a e next).2 = next := by
    intro e next
    rw [tryCall, hthrown]
  cases pc with
  | awakeAdd => exact absurd rfl hawake
  | add | updateAdd =>
    rw [Pc.step, hcall]
    rfl
  | checkReachability info =>
    cases info with
    | nil => rfl
    | cons device info =>
      rw [Pc.step]
      split_ifs
      · rw [hcall]
        rfl
      · rfl
  | lockAdd | unlockAdd => rfl
  | lockClear | clear | updateClear | unlockClear | awakeClear | construct | broadcastRequest
  | testRunning | getResponse | report | lockLast | clearRunning | updateLast | unlockLast
  | awakeLast | returned => cases h

/-- Every step but a call of `getResponse` shortens the pass. -/
theorem remaining_step {pc : Pc} (hresponse : pc ≠ .getResponse) (h : pc.phase ≠ .left)
    (hnext : (pc.step running a).2.phase ≠ .left) :
    (pc.step running a).2.remaining < pc.remaining := by
  have hcall : ∀ e next, (tryCall a e next).2.phase ≠ .left → (tryCall a e next).2 = next := by
    intro e next hne
    rw [tryCall] at hne ⊢
    split at hne
    · rfl
    · exact absurd rfl hne
  cases pc with
  | getResponse => exact absurd rfl hresponse
  | clear | updateClear | construct | broadcastRequest | add | updateAdd =>
    rw [Pc.step, hcall _ _ hnext]
    simp [Pc.remaining]
  | testRunning =>
    cases running with
    | true => exact Nat.zero_lt_one
    | false => exact absurd rfl hnext
  | checkReachability info =>
    cases info with
    | nil => exact Nat.lt_succ_self _
    | cons device info =>
      rw [Pc.step] at hnext ⊢
      split_ifs at hnext ⊢
      · rw [hcall _ _ hnext]
        simp only [Pc.remaining, List.length_cons]
        omega
      · simp only [Pc.remaining, List.length_cons]
        omega
  | lockClear | unlockClear | awakeClear | lockAdd | unlockAdd | awakeAdd =>
    simp [Pc.step, Pc.remaining]
  | report | lockLast | clearRunning | updateLast | unlockLast | awakeLast | returned =>
    exact absurd rfl h

end PcStep

namespace CollectingThread

/-- The thread as a loop that polls. -/
def polling (s : CollectingThread) : Polling.State where
  tstart := s.tstart
  tend := s.tend
  now := s.now
  misses := s.sys.misses + s.failed
  phase := s.pc.phase

section Next

variable {s : CollectingThread} (reachable : Bool)

theorem next_broadcastRequest (h : s.pc = .broadcastRequest) :
    s.next none reachable = { s with tstart := s.now, tend := s.now, pc := .testRunning } := by
  unfold next
  rw [h]
  rfl

theorem next_getResponse (h : s.pc = .getResponse) :
    s.next none reachable = { s with
      sys := s.sys.drain s.info
      info := s.info ++ s.sys.obj.pending
      pc := if s.sys.obj.pending ≠ [] ∨ s.tend - s.tstart < collectingTime then
        .lockAdd (s.info ++ s.sys.obj.pending) else .lockLast } := by
  unfold next
  rw [h]
  simp only [Pc.step, tryCall, answer, Discover.getResponse, Bool.or_eq_true, decide_eq_true_eq]

theorem polling_getResponse (h : s.pc = .getResponse) :
    (s.next none reachable).polling = { s.polling with
      misses := s.polling.misses + if s.sys.obj.pending = [] then 1 else 0
      phase := if s.sys.obj.pending ≠ [] ∨ s.tend - s.tstart < collectingTime then .body
        else .left } := by
  rw [next_getResponse reachable h]
  simp only [polling, System.misses_drain, apply_ite Pc.phase]
  rw [Nat.add_right_comm]
  rfl

theorem next_getResponse_thrown (h : s.pc = .getResponse) (ex : Thrown) :
    s.next (some ex) reachable = { s with failed := s.failed + 1, pc := .report ex } := by
  unfold next
  rw [h]
  rfl

theorem next_awakeAdd (h : s.pc = .awakeAdd) (thrown : Option Thrown) :
    s.next thrown reachable = { s with info := [], tend := s.now, pc := .testRunning } := by
  unfold next
  rw [h]
  rfl

theorem next_broadcastRequest_thrown (h : s.pc = .broadcastRequest) (ex : Thrown) :
    s.next (some ex) reachable = { s with pc := .report ex } := by
  unfold next
  rw [h]
  rfl

/-- The other calls leave the times and the records alone. -/
theorem next_frame (hbroadcast : s.pc ≠ .broadcastRequest) (hresponse : s.pc ≠ .getResponse)
    (hawake : s.pc ≠ .awakeAdd) (thrown : Option Thrown) :
    s.next thrown reachable = { s with
      running := (s.next thrown reachable).running
      pc := (s.pc.step s.running (s.answer thrown reachable)).2 } := by
  unfold next
  split
  · exact absurd ‹_› hbroadcast
  · exact absurd ‹_› hresponse
  · exact absurd ‹_› hresponse
  · exact absurd ‹_› hawake
  · rfl
  · rfl

end Next

/-- A step of the thread. -/
theorem polling_next {s : CollectingThread} (thrown : Option Thrown) (reachable : Bool)
    (h : s.WaitsFully (.next thrown reachable)) :
    Relation.ReflTransGen (Polling.Step responseTimeout collectingTime) s.polling
      (s.next thrown reachable).polling := by
  by_cases hbroadcast : s.pc = .broadcastRequest
  · have hphase : s.polling.phase = .before := by rw [polling, hbroadcast]; rfl
    cases thrown with
    | none =>
      rw [next_broadcastRequest reachable hbroadcast]
      exact .single (.enter s.polling hphase)
    | some ex =>
      rw [next_broadcastRequest_thrown reachable hbroadcast]
      exact .single (.leave s.polling)
  by_cases hresponse : s.pc = .getResponse
  · have hphase : s.polling.phase = .polling := by rw [polling, hresponse]; rfl
    cases thrown with
    | none =>
      rw [polling_getResponse reachable hresponse]
      by_cases hpending : s.sys.obj.pending = []
      · have hmiss : Polling.Step responseTimeout collectingTime s.polling _ :=
          .miss s.polling hphase (h hresponse hpending)
        rw [if_pos hpending]
        split_ifs with htest
        · exact .tail (.single hmiss) (.again _ rfl (.inr (htest.resolve_left (absurd hpending))))
        · exact .tail (.single hmiss) (.leave _)
      · rw [if_neg hpending, if_pos (.inl hpending)]
        exact .tail (.single (.hit s.polling hphase)) (.again _ rfl (.inl rfl))
    | some ex =>
      rw [next_getResponse_thrown reachable hresponse]
      exact .single (.fail s.polling hphase)
  by_cases hawake : s.pc = .awakeAdd
  · have hphase : s.polling.phase = .body := by rw [polling, hawake]; rfl
    rw [next_awakeAdd reachable hawake]
    exact .single (.read s.polling hphase)
  rw [next_frame reachable hbroadcast hresponse hawake]
  rcases phase_step s.running (s.answer thrown reachable) s.pc hbroadcast hresponse hawake with
    hsame | hleft
  · rw [polling, polling, hsame]
  · rw [polling, polling, hleft]
    exact .single (.leave s.polling)

/-- **The thread polls.** -/
theorem polling_step (s : CollectingThread) (op : ThreadOp) (h : s.WaitsFully op) :
    Relation.ReflTransGen (Polling.Step responseTimeout collectingTime) s.polling
      (s.step op).polling := by
  cases op with
  | received t junk d => rw [step, polling, polling, System.misses_received]
  | push t => rw [step, polling, polling, System.misses_push]
  | running value => exact .refl
  | pass n => exact .single (.pass s.polling n)
  | next thrown reachable => exact polling_next thrown reachable h

/-- The thread is paced in every run. -/
theorem paced_run (obj : Discover) (running : Bool) (now : ℕ) {ops : List ThreadOp}
    (h : Runs.Along step WaitsFully (start obj running now) ops) :
    Polling.Paced responseTimeout 10 (Runs.run step (start obj running now) ops).polling := by
  have hstart : Polling.Paced responseTimeout 10 (start obj running now).polling :=
    ⟨le_rfl, le_rfl, rfl⟩
  exact hstart.run collectingTime_le (Polling.run_of_along polling polling_step h)

/-! ### When the loop is left -/

/-- **Leaving the loop**: `running` is false in front of a call, a call throws, or a call found no
record and its test failed. -/
theorem of_left {s : CollectingThread} {thrown : Option Thrown} {reachable : Bool}
    (hloop : s.pc.phase ≠ .before ∧ s.pc.phase ≠ .left)
    (hleft : (s.next thrown reachable).pc.phase = .left) :
    (s.pc = .testRunning ∧ s.running = false) ∨ thrown ≠ none ∨
      (s.pc = .getResponse ∧ s.sys.obj.pending = [] ∧
        collectingTime ≤ s.tend - s.tstart) := by
  cases thrown with
  | some ex => exact .inr (.inl (Option.some_ne_none ex))
  | none =>
    cases hpc : s.pc.phase with
    | before => exact absurd hpc hloop.1
    | left => exact absurd hpc hloop.2
    | polled hit => exact absurd hpc phase_ne_polled
    | polling =>
      rcases eq_of_phase_polling hpc with htest | hresponse
      · refine .inl ⟨htest, ?_⟩
        cases hrunning : s.running with
        | false => rfl
        | true =>
          unfold next at hleft
          rw [htest, hrunning] at hleft
          cases hleft
      · rw [next_getResponse reachable hresponse, apply_ite Pc.phase] at hleft
        split_ifs at hleft with htest
        · cases hleft
        · obtain ⟨hpending, htime⟩ := not_or.mp htest
          exact .inr (.inr ⟨hresponse, not_not.mp hpending, Nat.le_of_not_lt htime⟩)
    | body =>
      by_cases hawake : s.pc = .awakeAdd
      · rw [next_awakeAdd reachable hawake] at hleft
        cases hleft
      · have hbroadcast : s.pc ≠ .broadcastRequest := by
          intro h
          rw [h] at hpc
          cases hpc
        have hresponse : s.pc ≠ .getResponse := by
          intro h
          rw [h] at hpc
          cases hpc
        rw [next_frame reachable hbroadcast hresponse hawake] at hleft
        have hbody := phase_step_body s.running (s.answer none reachable) rfl hpc hawake
        cases hbody.symm.trans hleft

/-! ### How many steps the thread makes in the loop -/

/-- The steps of the passes are seven each and two more for a record. -/
structure Counted (steps : ℕ) (s : CollectingThread) : Prop where
  conserved : Conserved s.sys
  info : s.pc.phase = .before ∨ s.pc.phase = .polling → s.info = []
  steps : s.pc.phase ≠ .left → steps + s.pc.remaining ≤
    7 * s.sys.calls.length + 2 * (s.sys.calls.flatMap Call.appended).length + 8

variable {steps : ℕ} {s : CollectingThread}

/-- A step of a listener thread. -/
theorem Counted.beside (h : Counted steps s) {sys : System} (hconserved : Conserved sys)
    (hcalls : sys.calls = s.sys.calls) : Counted steps { s with sys } := by
  refine ⟨hconserved, h.info, ?_⟩
  simp only [hcalls]
  exact h.steps

theorem Counted.getResponse (h : Counted steps s) (hpc : s.pc = .getResponse)
    (reachable : Bool) : Counted (steps + 1) (s.next none reachable) := by
  have hinfo : s.info = [] := h.info (.inr (by rw [hpc]; rfl))
  have hsteps := h.steps
  rw [hpc] at hsteps
  rw [next_getResponse reachable hpc, hinfo, List.nil_append]
  refine ⟨h.conserved.drain [], ?_, ?_⟩
  · simp only [apply_ite Pc.phase]
    split_ifs <;> exact fun h => h.elim nofun nofun
  · split_ifs with htest
    · intro _
      have hbefore := hsteps nofun
      simp only [Pc.remaining, System.length_calls_drain, System.appended_drain,
        List.length_append] at hbefore ⊢
      omega
    · exact fun hne => absurd rfl hne

/-- A step that calls nothing on the object. -/
theorem Counted.frame (h : Counted steps s) {s' : CollectingThread} (hsys : s'.sys = s.sys)
    (hinfo : s'.pc.phase = .before ∨ s'.pc.phase = .polling → s'.info = [])
    (hphase : s'.pc.phase ≠ .left → s.pc.phase ≠ .left ∧ s'.pc.remaining < s.pc.remaining) :
    Counted (steps + 1) s' := by
  refine ⟨?_, hinfo, fun hne => ?_⟩
  · rw [hsys]
    exact h.conserved
  · obtain ⟨hloop, hlt⟩ := hphase hne
    have hsteps := h.steps hloop
    rw [hsys]
    omega

theorem Counted.next (h : Counted steps s) (thrown : Option Thrown) (reachable : Bool) :
    Counted (steps + 1) (s.next thrown reachable) := by
  by_cases hbroadcast : s.pc = .broadcastRequest
  · have hinfo : s.info = [] := h.info (.inl (by rw [hbroadcast]; rfl))
    cases thrown with
    | none =>
      rw [next_broadcastRequest reachable hbroadcast]
      refine h.frame rfl (fun _ => hinfo) fun _ => ?_
      rw [hbroadcast]
      exact ⟨nofun, Nat.one_lt_two⟩
    | some ex =>
      rw [next_broadcastRequest_thrown reachable hbroadcast]
      exact h.frame rfl (fun _ => hinfo) fun hne => absurd rfl hne
  by_cases hresponse : s.pc = .getResponse
  · cases thrown with
    | none => exact h.getResponse hresponse reachable
    | some ex =>
      rw [next_getResponse_thrown reachable hresponse]
      exact h.frame rfl (fun hphase => hphase.elim nofun nofun) fun hne => absurd rfl hne
  by_cases hawake : s.pc = .awakeAdd
  · rw [next_awakeAdd reachable hawake]
    refine h.frame rfl (fun _ => rfl) fun _ => ?_
    rw [hawake]
    exact ⟨nofun, Nat.one_lt_two⟩
  have hphase := phase_step s.running (s.answer thrown reachable) s.pc hbroadcast hresponse hawake
  rw [next_frame reachable hbroadcast hresponse hawake]
  refine h.frame rfl (fun hpc => ?_) fun hne => ?_
  · rcases hphase with hsame | hleft
    · exact h.info (hsame ▸ hpc)
    · rw [hleft] at hpc
      exact hpc.elim nofun nofun
  · have hloop : s.pc.phase ≠ .left := hphase.resolve_right hne ▸ hne
    exact ⟨hloop, remaining_step _ _ hresponse hloop hne⟩

end CollectingThread

/-- A step of the thread itself. -/
def ThreadOp.isNext : ThreadOp → Bool
  | .next _ _ => true
  | _ => false

namespace CollectingThread

variable {steps : ℕ} {s : CollectingThread}

theorem Counted.step (h : Counted steps s) (op : ThreadOp) :
    Counted (steps + op.isNext.toNat) (s.step op) := by
  cases op with
  | received t junk d =>
    exact h.beside (h.conserved.step (.received t junk d)) (s.sys.calls_received t junk d)
  | push t => exact h.beside (h.conserved.push t) (s.sys.calls_push t)
  | running value => exact ⟨h.conserved, h.info, h.steps⟩
  | pass n => exact ⟨h.conserved, h.info, h.steps⟩
  | next thrown reachable => exact h.next thrown reachable

/-- **The thread waits and leaves its loop**, for every schedule of arrivals. -/
theorem waits (obj : Discover) (running : Bool) (now : ℕ) {ops : List ThreadOp}
    (h : Runs.Along CollectingThread.step WaitsFully (start obj running now) ops)
    {s : CollectingThread} (hs : Runs.run CollectingThread.step (start obj running now) ops = s) :
    s.sys.calls.length + s.failed ≤ s.sys.pushed.length + 11 ∧
      (∀ thrown reachable, s.pc.phase ≠ .before ∧ s.pc.phase ≠ .left →
        (s.next thrown reachable).pc.phase = .left →
          (s.pc = .testRunning ∧ s.running = false) ∨ thrown ≠ none ∨
            s.pc = .getResponse ∧ s.sys.obj.pending = [] ∧ s.tstart + collectingTime ≤ s.now) ∧
      (9 * s.sys.pushed.length + 86 ≤ ops.countP ThreadOp.isNext → s.pc.phase = .left) := by
  have hnone : Counted 0 (start obj running now) :=
    ⟨conserved_start obj, fun _ => rfl, fun _ => le_rfl⟩
  have hcounted := Runs.run_countP (fun _ _ op h => h.step op) hnone ops
  have hpaced := paced_run obj running now h
  rw [hs] at hcounted hpaced
  have hcalls := hcounted.conserved.length_calls_le
  have hmisses : s.sys.misses + s.failed ≤ 10 + 1 := hpaced.misses_le
  refine ⟨by omega, fun thrown reachable hloop hleft => ?_, fun hsteps => ?_⟩
  · refine (of_left hloop hleft).imp_right (Or.imp_right ?_)
    rintro ⟨hresponse, hpending, htime⟩
    have hstart : s.tstart ≤ s.tend := hpaced.start
    have hclock : s.tend ≤ s.now := hpaced.clock
    exact ⟨hresponse, hpending, by omega⟩
  · by_contra hne
    have hbound := hcounted.steps hne
    have hpushed := congrArg List.length hcounted.conserved.pushed
    rw [List.length_append] at hpushed
    omega

end CollectingThread

/-- **The collecting loop waits long enough and ends.**  For every schedule of arrivals, when a call
without a record takes its 100 ms: the loop of the command line makes at most eleven calls more than
records were pushed, is left after a second by a call without a record, and is left for good after a
bounded number of steps.  So is the loop of a discover thread, unless `running` is cleared or a call
throws. -/
theorem collecting_ends (obj : Discover) (now : ℕ) :
    (∀ ops, Runs.Along Collector.step Collector.WaitsFully (Collector.start obj now) ops →
      ∀ c, Runs.run Collector.step (Collector.start obj now) ops = c →
        c.sys.calls.length ≤ c.sys.pushed.length + 11 ∧
        (c.control = .left → now + collectingTime ≤ c.now ∧
          ∃ call, c.sys.calls.getLast? = some call ∧ call.result = false) ∧
        (2 * (c.sys.pushed.length + 11) ≤ ops.countP LoopOp.isAdvance → c.control = .left)) ∧
    ∀ running ops, Runs.Along CollectingThread.step CollectingThread.WaitsFully
        (CollectingThread.start obj running now) ops →
      ∀ s, Runs.run CollectingThread.step (CollectingThread.start obj running now) ops = s →
        s.sys.calls.length + s.failed ≤ s.sys.pushed.length + 11 ∧
        (∀ thrown reachable, s.pc.phase ≠ .before ∧ s.pc.phase ≠ .left →
          (s.next thrown reachable).pc.phase = .left →
            (s.pc = .testRunning ∧ s.running = false) ∨ thrown ≠ none ∨
              s.pc = .getResponse ∧ s.sys.obj.pending = [] ∧
                s.tstart + collectingTime ≤ s.now) ∧
        (9 * s.sys.pushed.length + 86 ≤ ops.countP ThreadOp.isNext → s.pc.phase = .left) :=
  ⟨fun _ h _ hc => Collector.waits obj now h hc,
    fun running _ h _ hs => CollectingThread.waits obj running now h hs⟩

/-- An object with one socket that has asked with the id 1. -/
def oneSocket : Discover := ⟨["eth0".toList], [(0, 1)], [0], []⟩

/-- The shortest answer: a MAC address and nothing behind it. -/
def shortAck : Bytes :=
  [0, 0, 0, 3, 0, 16, 0, 1] ++ List.replicate 10 0 ++ [0x00, 0x14, 0x2D, 0x00, 0x00, 0x01]

/-- A run of the loop with one answer, after which nothing comes for a second. -/
def answeredLoop : List LoopOp :=
  [.received 0 (fun _ => 0) (some shortAck), .push 0, .advance, .advance, .pass 1000000000,
    .advance, .advance, .pass 100000000, .advance, .advance]

/-- A run of the thread with this answer, up to its third call. -/
def answeredThread : List ThreadOp :=
  List.replicate 8 (.next none true) ++ [.received 0 (fun _ => 0) (some shortAck), .push 0] ++
    List.replicate 9 (.next none true) ++ [.pass 1000000000] ++
    List.replicate 7 (.next none true) ++ [.pass 100000000]

/-- With one record the loops are left by their third call. -/
theorem collecting_ends_one_answer :
    let c := Runs.run Collector.step (.start oneSocket 0) answeredLoop
    let s := Runs.run CollectingThread.step (.start oneSocket true 0) answeredThread
    (c.infos.length = 1 ∧ c.sys.calls.length ≤ c.sys.pushed.length + 11 ∧
      0 + collectingTime ≤ c.now ∧
      ∃ call, c.sys.calls.getLast? = some call ∧ call.result = false) ∧
    s.sys.pushed.length = 1 ∧ s.sys.calls.length + s.failed ≤ s.sys.pushed.length + 11 ∧
      s.tstart + collectingTime ≤ s.now := by
  intro c s
  obtain ⟨hloop, hthread⟩ := collecting_ends oneSocket 0
  obtain ⟨hcalls, hleft, -⟩ := hloop answeredLoop (by decide +kernel) c rfl
  obtain ⟨hthreadCalls, hleave, -⟩ := hthread true answeredThread (by decide +kernel) s rfl
  refine ⟨⟨by decide +kernel, hcalls, hleft (by decide +kernel)⟩, by decide +kernel,
    hthreadCalls, ?_⟩
  obtain ⟨-, h⟩ | h | ⟨-, -, htime⟩ := hleave none true (by decide +kernel) (by decide +kernel)
  · exact absurd h (by decide +kernel)
  · exact absurd rfl h
  · exact htime

end Gui
end RcDiscover
