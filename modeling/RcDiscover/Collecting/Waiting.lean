import RcDiscover.Collecting
import RcDiscover.Lib.Polling

/-!
# How long the command line collects

The loop of `runDiscover` and of `discoverWithFilter` as one that polls: its calls of `getResponse`
are the polls, and `tend` is the clock as it was in front of the last call.

* `System.misses`: the calls that found no record;
* `WaitsFully`: such a call does not return before its 100 ms are over.

`Collector.waits`: the calls are bounded by the records, and the loop waits for a second and ends.
-/

namespace RcDiscover
namespace Collecting

open Discover

/-- The 100 ms and the 1000 ms of the loops, on the steady clock. -/
def responseTimeout : ℕ := 100 * 1000000

/-- The time for which the loops go on without a response. -/
def collectingTime : ℕ := 1000 * 1000000

theorem collectingTime_le : collectingTime ≤ 10 * responseTimeout := by decide

/-! ### The calls of `getResponse` -/

/-- The calls that found no record. -/
def System.misses (s : System) : ℕ := s.calls.countP fun c => !c.result

theorem length_le_of_result {calls : List Call}
    (h : ∀ c ∈ calls, c.result = true ↔ c.appended ≠ []) :
    calls.length ≤ (calls.flatMap Call.appended).length + calls.countP fun c => !c.result := by
  induction calls with
  | nil => exact le_rfl
  | cons c calls ih =>
    have hrest := ih fun c' hc' => h c' (List.mem_cons_of_mem c hc')
    rw [List.flatMap_cons, List.length_append, List.length_cons, List.countP_cons]
    by_cases hc : c.result = true
    · have hpos := List.length_pos_iff.mpr ((h c List.mem_cons_self).mp hc)
      omega
    · rw [if_pos (by simpa using hc)]
      omega

/-- A call that found something took a record that was pushed. -/
theorem Conserved.length_calls_le {s : System} (h : Conserved s) :
    s.calls.length ≤ s.pushed.length + s.misses := by
  have hcalls := length_le_of_result h.result
  have hpushed := congrArg List.length h.pushed
  rw [List.length_append] at hpushed
  rw [System.misses]
  omega

namespace System

variable (s : System)

theorem calls_received (t : ℕ) (junk : ℕ → UInt8) (d : Option Bytes) :
    (s.received t junk d).calls = s.calls := by
  rw [received_frame]

theorem calls_push (t : ℕ) : (s.push t).calls = s.calls := by
  rw [push]
  split <;> rfl

theorem misses_received (t : ℕ) (junk : ℕ → UInt8) (d : Option Bytes) :
    (s.received t junk d).misses = s.misses := by
  rw [misses, calls_received, misses]

theorem misses_push (t : ℕ) : (s.push t).misses = s.misses := by
  rw [misses, calls_push, misses]

theorem length_calls_drain (info : List DeviceInfo) :
    (s.drain info).calls.length = s.calls.length + 1 := List.length_append

theorem appended_drain (info : List DeviceInfo) :
    (s.drain info).calls.flatMap Call.appended =
      s.calls.flatMap Call.appended ++ s.obj.pending := by
  simp [drain, Call.appended, getResponse]

theorem misses_drain (info : List DeviceInfo) :
    (s.drain info).misses = s.misses + if s.obj.pending = [] then 1 else 0 := by
  simp [misses, drain, getResponse]

end System

/-! ### The loop -/

/-- A step of the loop itself. -/
def LoopOp.isAdvance : LoopOp → Bool
  | .advance => true
  | _ => false

theorem LoopOp.eq_advance {op : LoopOp} (h : op.isAdvance = true) : op = .advance := by
  cases op with
  | advance => rfl
  | received | push | pass => cases h

namespace Collector

/-- The loop as one that polls. -/
def polling (c : Collector) : Polling.State where
  tstart := c.tstart
  tend := c.tend
  now := c.now
  misses := c.sys.misses
  phase := match c.control with
    | .calling => .polling
    | .testing ret => .polled ret
    | .left => .left

/-- The call that is next takes its 100 ms when there is no record.  It begins after the clock was
read for `tend`. -/
def WaitsFully (c : Collector) : LoopOp → Prop
  | .advance => c.control = .calling → c.sys.obj.pending = [] → c.tend + responseTimeout ≤ c.now
  | _ => True

instance (c : Collector) : ∀ op, Decidable (c.WaitsFully op)
  | .advance => inferInstanceAs (Decidable (_ → _ → _))
  | .received .. | .push _ | .pass _ => isTrue trivial

/-- What is next to the loop leaves its variables and its calls alone. -/
structure SameLoop (c c' : Collector) : Prop where
  calls : c'.sys.calls = c.sys.calls
  control : c'.control = c.control
  tstart : c'.tstart = c.tstart
  tend : c'.tend = c.tend
  now : c.now ≤ c'.now

theorem sameLoop_step (c : Collector) {op : LoopOp} (h : op.isAdvance = false) :
    SameLoop c (c.step op) := by
  cases op with
  | received t junk d => exact ⟨System.calls_received .., rfl, rfl, rfl, le_rfl⟩
  | push t => exact ⟨System.calls_push .., rfl, rfl, rfl, le_rfl⟩
  | pass n => exact ⟨rfl, rfl, rfl, rfl, Nat.le_add_right _ _⟩
  | advance => cases h

section Advance

variable {c : Collector} {ret : Bool}

theorem advance_calling (h : c.control = .calling) :
    c.advance = { c with
      sys := c.sys.drain c.infos
      infos := c.infos ++ c.sys.obj.pending
      control := .testing (decide (c.sys.obj.pending ≠ []))
      drained := c.sys.pushed } := by
  rw [advance, h]
  rfl

theorem polling_calling (h : c.control = .calling) :
    c.advance.polling = { c.polling with
      misses := c.polling.misses + if c.sys.obj.pending = [] then 1 else 0
      phase := .polled (decide (c.sys.obj.pending ≠ [])) } := by
  rw [advance_calling h]
  simp only [polling, System.misses_drain]

theorem advance_again (h : c.control = .testing ret)
    (htest : ret = true ∨ c.tend - c.tstart < collectingTime) :
    c.advance = { c with tend := c.now, control := .calling } := by
  rw [advance, h]
  exact if_pos htest

theorem advance_leave (h : c.control = .testing ret)
    (htest : ¬ (ret = true ∨ c.tend - c.tstart < collectingTime)) :
    c.advance = { c with control := .left } := by
  rw [advance, h]
  exact if_neg htest

theorem advance_left (h : c.control = .left) : c.advance = c := by
  rw [advance, h]

end Advance

/-- **The loop polls.** -/
theorem polling_step (c : Collector) (op : LoopOp) (h : c.WaitsFully op) :
    Relation.ReflTransGen (Polling.Step responseTimeout collectingTime) c.polling
      (c.step op).polling := by
  cases op with
  | received t junk d => rw [step, polling, polling, System.misses_received]
  | push t => rw [step, polling, polling, System.misses_push]
  | pass n => exact .single (.pass c.polling n)
  | advance =>
    rw [step]
    cases hcontrol : c.control with
    | calling =>
      have hphase : c.polling.phase = .polling := by rw [polling, hcontrol]
      rw [polling_calling hcontrol]
      by_cases hpending : c.sys.obj.pending = []
      · rw [if_pos hpending, decide_eq_false (not_not.mpr hpending)]
        exact .single (.miss c.polling hphase (h hcontrol hpending))
      · rw [if_neg hpending, decide_eq_true hpending]
        exact .single (.hit c.polling hphase)
    | testing ret =>
      have hphase : c.polling.phase = .polled ret := by rw [polling, hcontrol]
      by_cases htest : ret = true ∨ c.tend - c.tstart < collectingTime
      · -- through the body, which only reads the clock
        rw [advance_again hcontrol htest]
        exact .tail (.single (.again c.polling hphase htest)) (.read _ rfl)
      · rw [advance_leave hcontrol htest]
        exact .single (.leave c.polling)
    | left => rw [advance_left hcontrol]

/-- The loop is paced in every run. -/
theorem paced_run (obj : Discover) (now : ℕ) {ops : List LoopOp}
    (h : Runs.Along step WaitsFully (Collector.start obj now) ops) :
    Polling.Paced responseTimeout 10 (Runs.run step (Collector.start obj now) ops).polling := by
  have hstart : Polling.Paced responseTimeout 10 (Collector.start obj now).polling := by
    refine ⟨le_rfl, le_rfl, ?_⟩
    simp [polling, Collector.start, Polling.Within, System.misses, System.start]
  exact hstart.run collectingTime_le (Polling.run_of_along polling polling_step h)

/-! ### When the loop is left -/

/-- The test belongs to the last call, and the loop is left when it failed. -/
structure Tested (tstart : ℕ) (c : Collector) : Prop where
  tstart_eq : c.tstart = tstart
  clock : c.tend ≤ c.now
  last : ∀ ret, c.control = .testing ret →
    ∃ call, c.sys.calls.getLast? = some call ∧ call.result = ret
  left : c.control = .left → tstart + collectingTime ≤ c.tend ∧
    ∃ call, c.sys.calls.getLast? = some call ∧ call.result = false

theorem Tested.sameLoop {tstart : ℕ} {c c' : Collector} (h : Tested tstart c)
    (hsame : SameLoop c c') : Tested tstart c' := by
  refine ⟨?_, ?_, ?_, ?_⟩
  · rw [hsame.tstart]
    exact h.tstart_eq
  · rw [hsame.tend]
    exact h.clock.trans hsame.now
  · rw [hsame.control, hsame.calls]
    exact h.last
  · rw [hsame.control, hsame.tend, hsame.calls]
    exact h.left

theorem Tested.advance {tstart : ℕ} {c : Collector} (h : Tested tstart c) :
    Tested tstart c.advance := by
  cases hcontrol : c.control with
  | calling =>
    rw [advance_calling hcontrol]
    refine ⟨h.tstart_eq, h.clock, fun ret hret => ?_, nofun⟩
    obtain rfl : decide (c.sys.obj.pending ≠ []) = ret := Control.testing.inj hret
    exact ⟨_, List.getLast?_concat, rfl⟩
  | testing ret =>
    by_cases htest : ret = true ∨ c.tend - c.tstart < collectingTime
    · rw [advance_again hcontrol htest]
      exact ⟨h.tstart_eq, le_rfl, nofun, nofun⟩
    · rw [advance_leave hcontrol htest]
      obtain ⟨hret, htime⟩ := not_or.mp htest
      obtain ⟨call, hcall, hresult⟩ := h.last ret hcontrol
      refine ⟨h.tstart_eq, h.clock, nofun, fun _ => ⟨?_, call, hcall, ?_⟩⟩
      · have hstart := h.tstart_eq
        have hpos : 0 < collectingTime := by decide
        show tstart + collectingTime ≤ c.tend
        omega
      · rw [hresult]
        exact Bool.eq_false_of_not_eq_true hret
  | left =>
    rw [advance_left hcontrol]
    exact h

theorem Tested.step {tstart : ℕ} {c : Collector} (h : Tested tstart c) (op : LoopOp) :
    Tested tstart (c.step op) := by
  cases hop : op.isAdvance with
  | false => exact h.sameLoop (c.sameLoop_step hop)
  | true =>
    rw [LoopOp.eq_advance hop]
    exact h.advance

/-! ### How many steps the loop makes -/

/-- A call makes one step, and so does the test behind it. -/
structure Counted (steps : ℕ) (c : Collector) : Prop where
  calling : c.control = .calling → steps = 2 * c.sys.calls.length
  testing : ∀ ret, c.control = .testing ret → steps + 1 = 2 * c.sys.calls.length

theorem Counted.advance {steps : ℕ} {c : Collector} (h : Counted steps c) :
    Counted (steps + 1) c.advance := by
  cases hcontrol : c.control with
  | calling =>
    have hsteps := h.calling hcontrol
    rw [advance_calling hcontrol]
    refine ⟨nofun, fun _ _ => ?_⟩
    simp only [System.length_calls_drain]
    omega
  | testing ret =>
    have hsteps := h.testing ret hcontrol
    by_cases htest : ret = true ∨ c.tend - c.tstart < collectingTime
    · rw [advance_again hcontrol htest]
      exact ⟨fun _ => hsteps, nofun⟩
    · rw [advance_leave hcontrol htest]
      exact ⟨nofun, nofun⟩
  | left =>
    rw [advance_left hcontrol]
    refine ⟨fun hcalling => ?_, fun ret hret => ?_⟩
    · rw [hcontrol] at hcalling
      cases hcalling
    · rw [hcontrol] at hret
      cases hret

theorem Counted.step {steps : ℕ} {c : Collector} (h : Counted steps c) (op : LoopOp) :
    Counted (steps + op.isAdvance.toNat) (c.step op) := by
  cases hop : op.isAdvance with
  | false =>
    have hsame := c.sameLoop_step hop
    refine ⟨?_, ?_⟩
    · rw [hsame.control, hsame.calls]
      exact h.calling
    · rw [hsame.control, hsame.calls]
      exact h.testing
  | true =>
    rw [LoopOp.eq_advance hop]
    exact h.advance

/-- **The loop waits and ends**, for every schedule of arrivals. -/
theorem waits (obj : Discover) (now : ℕ) {ops : List LoopOp}
    (h : Runs.Along step WaitsFully (Collector.start obj now) ops) {c : Collector}
    (hc : Runs.run step (Collector.start obj now) ops = c) :
    c.sys.calls.length ≤ c.sys.pushed.length + 11 ∧
      (c.control = .left → now + collectingTime ≤ c.now ∧
        ∃ call, c.sys.calls.getLast? = some call ∧ call.result = false) ∧
      (2 * (c.sys.pushed.length + 11) ≤ ops.countP LoopOp.isAdvance → c.control = .left) := by
  have hcollected : Collected (Runs.run step (Collector.start obj now) ops) :=
    Runs.run_invariant (fun _ op h => h.step op) (collected_start obj now) ops
  have htested : Tested now (Runs.run step (Collector.start obj now) ops) :=
    Runs.run_invariant (fun _ op h => h.step op) ⟨rfl, le_rfl, nofun, nofun⟩ ops
  have hnone : Counted 0 (Collector.start obj now) := ⟨fun _ => rfl, nofun⟩
  have hcounted := Runs.run_countP (fun _ _ op h => h.step op) hnone ops
  have hpaced := paced_run obj now h
  rw [hc] at hcollected htested hcounted hpaced
  have hcalls := hcollected.conserved.length_calls_le
  have hmisses : c.sys.misses ≤ 10 + 1 := hpaced.misses_le
  refine ⟨by omega, fun hleft => ?_, fun hsteps => ?_⟩
  · obtain ⟨htime, hlast⟩ := htested.left hleft
    exact ⟨htime.trans htested.clock, hlast⟩
  · cases hcontrol : c.control with
    | left => rfl
    | calling =>
      -- the clock was read after the last call
      have hwithin := hpaced.within
      have hphase : c.polling.phase = .polling := by rw [polling, hcontrol]
      rw [hphase] at hwithin
      have hlimit : c.sys.misses ≤ 10 := hwithin.2
      have hadvances := hcounted.calling hcontrol
      omega
    | testing ret =>
      have hadvances := hcounted.testing ret hcontrol
      omega

end Collector

end Collecting
end RcDiscover
