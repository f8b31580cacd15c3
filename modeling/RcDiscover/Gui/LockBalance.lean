import RcDiscover.Gui.Restart

/-!
# What `discoverThread` leaves locked

An exception that is thrown between `Fl::lock` and `Fl::unlock` skips the latter: the handlers are
outside of the loop and do not give the lock back, so that the thread returns with it and the GUI
thread waits for ever.

* `Process.leaked`: what a thread has locked and will not unlock;
* `leaked_run`: it is the number of such exceptions (`escapes`);
* `unlocks_eq_locks_iff` (**main result**): when there is none, and only then, the thread has called
  `Fl::unlock` as often as `Fl::lock` when it returns.  The flag is cleared in any case.
-/

namespace RcDiscover
namespace Gui

open Runs

namespace Process

variable {τ : Type} {fl : FlTableRow τ}

/-- What the thread `t` has locked, apart from the section that it is in. -/
def leaked (s : Process τ) (t : ℕ) : ℕ :=
  (s.thread t).locks - ((s.thread t).unlocks + (s.thread t).pc.locked.toNat)

/-- The step is one of the thread `t`, whose call inside `try` ends with an exception while it has
the lock. -/
def escapes (t : ℕ) (s : Process τ) : Action → Bool
  | .thread u a =>
    decide (u = t ∧ t < s.created) && !s.terminated && (s.thread t).pc.callsLocked &&
      a.thrown.isSome
  | _ => false

/-- What the GUI thread does changes nothing about the discover threads that there are. -/
theorem thread_nextStep {s : Process τ} (h : s.LockCount) :
    (s.nextStep fl).thread = s.thread := by
  rw [nextStep]
  split
  case h_4 hgui =>
    show Function.update s.thread s.created .start = s.thread
    rw [← h.fresh s.created (Nat.le_refl _), Function.update_eq_self]
  all_goals first | rfl | split_ifs <;> rfl

theorem thread_dispatch (s : Process τ) (event : Event) :
    (s.dispatch fl event).thread = s.thread := by
  cases event with
  | rerun =>
    simp only [dispatch]
    split_ifs <;> rfl
  | close =>
    simp only [dispatch]
    split_ifs <;> rfl
  | _ => rfl

theorem thread_step {s : Process τ} (h : s.LockCount) {action : Action}
    (haction : ∀ u a, action ≠ .thread u a) : (s.step fl action).thread = s.thread := by
  rcases step_cases fl s action with hs | ⟨-, hs⟩ | ⟨lock, -, -, hs⟩ | ⟨event, -, hs⟩ | hs |
    ⟨u, a, hthread, -⟩
  · rw [hs]
  · rw [hs]
  · rw [hs]
  · rw [hs, thread_dispatch]
  · rw [hs, thread_nextStep h]
  · exact absurd hthread (haction u a)

/-- Only its own steps change a thread. -/
theorem thread_step_cases {s : Process τ} (h : s.LockCount) (action : Action) (t : ℕ) :
    ((s.step fl action).thread t = s.thread t ∧ escapes t s action = false) ∨
    ∃ a, action = .thread t a ∧ s.terminated = false ∧
      s.step fl action = s.threadStep fl t a := by
  cases action with
  | thread u a =>
    by_cases hterm : s.terminated = true
    · rw [step.eq_def, if_pos hterm]
      exact .inl ⟨rfl, by simp [escapes, hterm]⟩
    rw [step.eq_def, if_neg hterm]
    dsimp only
    by_cases hu : u = t
    · subst hu
      exact .inr ⟨a, rfl, Bool.eq_false_iff.2 hterm, rfl⟩
    · refine .inl ⟨?_, by simp [escapes, hu]⟩
      obtain ⟨-, -, ⟨-, hthread⟩ | ⟨th, -, -, -, hthread⟩⟩ := threadStep_moves fl s u a rfl
      · rw [hthread]
      · rw [hthread, Function.update_of_ne (Ne.symm hu)]
  | _ => exact .inl ⟨congrFun (thread_step h (by simp)) t, rfl⟩

/-- **What a step of a thread leaves locked.** -/
theorem leaked_threadStep {s : Process τ} (h : s.LockCount) (t : ℕ) (a : Answer) :
    (s.threadStep fl t a).leaked t = s.leaked t +
      (decide (t < s.created) && (s.thread t).pc.callsLocked && a.thrown.isSome).toNat := by
  obtain ⟨e, pc, hpc⟩ : ∃ e pc, (s.thread t).pc.step s.window.running a = (e, pc) := ⟨_, _, rfl⟩
  have hlock := Pc.step_lock s.window.running a (s.thread t).pc
  rw [hpc] at hlock
  have hlocked := h.locked t
  rcases threadStep_cases fl s t a hpc with ⟨hs, he⟩ | ⟨rfl, hs⟩ | ⟨lock, ht, rfl, hacq, hs⟩ |
    ⟨ht, rfl, hs⟩ | ⟨cerr, ht, he, he', he'', hs⟩
  · rw [hs]
    by_cases ht : t < s.created
    · obtain rfl := he ht
      simp [hlock.2.2]
    · simp [ht]
  · have hcalls : (s.thread t).pc.callsLocked = false := hlock
    rw [hs, hcalls]
    simp [leaked]
  · obtain ⟨hfree, hheld, hcalls⟩ := hlock
    dsimp only at hheld
    rw [hs]
    simp [leaked, hfree, hheld, hcalls]
  · obtain ⟨hheld, hfree, hcalls⟩ := hlock
    dsimp only at hfree
    rw [hs]
    simp [leaked, hfree, hheld, hcalls]
  · have hstep := Pc.step_lock_of_ne hpc he he' he''
    rw [hs]
    split_ifs at hstep with hescape
    · rw [hstep.1, Bool.toNat_true] at hlocked
      simp only [leaked, goto, Function.update_self, hstep, Bool.toNat_true, Bool.toNat_false, ht,
        hescape, decide_true, Bool.and_self]
      omega
    · have hno : ((s.thread t).pc.callsLocked && a.thrown.isSome) = false := by
        simpa [Bool.and_eq_false_iff] using hescape
      simp [leaked, goto, hstep, Bool.and_assoc, hno]

/-- **Each exception that escapes leaves the lock taken once more.** -/
theorem leaked_step {s : Process τ} (h : s.LockCount) (t : ℕ) (action : Action) :
    (s.step fl action).leaked t = s.leaked t + (escapes t s action).toNat := by
  rcases thread_step_cases h action t with ⟨hthread, hno⟩ | ⟨a, rfl, hterm, hs⟩
  · rw [leaked, hthread, hno]
    rfl
  · rw [hs, leaked_threadStep h]
    simp [escapes, hterm]

section Run

variable (fl) (onlyRC : Bool) (filterValue : Str) (sortCol : ℤ) (sortDown : Bool)

/-- **What a thread leaves locked is the number of the exceptions that escaped.** -/
theorem leaked_run (t : ℕ) (actions : List Action) :
    (run (step fl) (start fl onlyRC filterValue sortCol sortDown) actions).leaked t =
      count (step fl) (escapes t) (start fl onlyRC filterValue sortCol sortDown) actions := by
  have hcount : (run (step fl) (start fl onlyRC filterValue sortCol sortDown) actions).leaked t =
      0 + count (step fl) (escapes t) (start fl onlyRC filterValue sortCol sortDown) actions :=
    run_count (f := fun s : Process τ => s.leaked t) (fun _ action h => LockCount.step h action)
      (fun _ action h => leaked_step h t action) (lockCount_start _ _ _ _) actions
  rw [hcount, Nat.zero_add]

end Run

/-- The flag is not set when a thread returns: the GUI thread sets it after it has joined. -/
theorem running_of_returned {s : Process τ} (hcount : s.LockCount) (h : s.Protocol)
    {action : Action} {t : ℕ} (hpc : (s.thread t).pc ≠ .returned)
    (hreturned : ((s.step fl action).thread t).pc = .returned) :
    (s.step fl action).window.running = false := by
  have hpointer : (s.step fl action).window.discoverThread = some t := by
    rcases thread_step_cases hcount action t with ⟨hthread, -⟩ | ⟨a, rfl, -, hs⟩
    · rw [hthread] at hreturned
      exact absurd hreturned hpc
    rw [hs] at hreturned ⊢
    obtain ⟨-, -, ⟨-, hthread⟩ | ⟨th, ht, -, hwindow, -⟩⟩ := threadStep_moves fl s t a rfl
    · rw [hthread] at hreturned
      exact absurd hreturned hpc
    · rw [hwindow, (onWindow_cases fl s.window _).1]
      exact h.unfinished t ht hpc
  exact (h.step action).stopped t hpointer (by rw [hreturned]; rfl)

/-- **When a thread returns, it has given the lock back as often as it has taken it exactly when no
exception has escaped.**  The flag is cleared in any case. -/
theorem unlocks_eq_locks_iff (fl : FlTableRow τ) (onlyRC : Bool) (filterValue : Str) (sortCol : ℤ)
    (sortDown : Bool) (actions : List Action) (action : Action) (t : ℕ) :
    let s₀ := start fl onlyRC filterValue sortCol sortDown
    let s := run (step fl) s₀ actions
    let s' := s.step fl action
    (s.thread t).pc ≠ .returned → (s'.thread t).pc = .returned →
      ((s'.thread t).unlocks = (s'.thread t).locks ∧ s'.window.running = false ↔
        Along (step fl) (fun s action => escapes t s action = false) s₀ (actions ++ [action])) := by
  intro s₀ s s' hpc hreturned
  have hs' : s' = run (step fl) s₀ (actions ++ [action]) := by simp [s', s]
  have hcount := lockCount_run fl onlyRC filterValue sortCol sortDown (actions ++ [action])
  have hleaked := leaked_run fl onlyRC filterValue sortCol sortDown t (actions ++ [action])
  rw [← hs'] at hcount hleaked
  have hlocked := hcount.locked t
  rw [leaked, hreturned] at hleaked
  rw [hreturned] at hlocked
  have hrunning : s'.window.running = false :=
    running_of_returned (lockCount_run ..) (protocol_run ..) hpc hreturned
  rw [← count_eq_zero_iff, ← hleaked]
  simp only [hrunning, and_true, Pc.locked, Bool.toNat_false, Nat.add_zero] at hlocked ⊢
  omega

/-- A process in which the first thread can go on. -/
def firstThread : List Action := [.next, .next, .next, .next, .next, .wait]

/-- The first thread makes `n` steps, each of which has this answer. -/
def threadSteps (n : ℕ) (a : Answer) : List Action := List.replicate n (.thread 0 a)

/-- A device whose MAC address is 1. -/
def firstDevice : DeviceInfo := { DeviceInfo.ofIfaceName "eth0".toList with mac := 1 }

/-- The thread adds a device, and gets no further answer. -/
def oneDevice : List Action :=
  threadSteps 17 ⟨none, true, [firstDevice], true, true⟩ ++
    threadSteps 5 ⟨none, false, [], false, true⟩

/-- The thread that has added a device returns without the lock. -/
theorem unlocks_eq_locks_one_device :
    let s := run (step .flags) (start .flags true [] 0 true) (firstThread ++ oneDevice)
    let s' := s.step .flags (.thread 0 ⟨none, false, [], false, true⟩)
    s'.window.list.device.length = 1 ∧
      (s'.thread 0).unlocks = (s'.thread 0).locks ∧ s'.window.running = false :=
  ⟨by decide, (unlocks_eq_locks_iff .flags true [] 0 true (firstThread ++ oneDevice) _ 0
    (by decide) (by decide)).2 (count_eq_zero_iff.1 (by decide))⟩

/-- `popen` fails for the first device. -/
theorem not_unlocks_eq_locks_popen :
    ¬ ∀ (onlyRC : Bool) (filterValue : Str) (sortCol : ℤ) (sortDown : Bool) (actions : List Action)
      (action : Action) (t : ℕ),
      let s := run (step .flags) (start .flags onlyRC filterValue sortCol sortDown) actions
      let s' := s.step .flags action
      (s.thread t).pc ≠ .returned → (s'.thread t).pc = .returned →
        (s'.thread t).unlocks = (s'.thread t).locks ∧ s'.window.running = false := by
  intro h
  let answer : Answer := ⟨none, true, [firstDevice], true, true⟩
  let thrown : Answer := { answer with
    thrown := some (.exception "Could not execute ping command.".toList) }
  have hbalanced := h true [] 0 true
    (firstThread ++ threadSteps 10 answer ++ threadSteps 1 thrown ++ threadSteps 5 answer)
    (.thread 0 answer) 0 (by decide) (by decide)
  exact absurd hbalanced.1 (by decide)

/-! ### What it means for the GUI thread -/

theorem pc_step_of_returned {s : Process τ} (hcount : s.LockCount) {t : ℕ}
    (hpc : (s.thread t).pc = .returned) (action : Action) :
    ((s.step fl action).thread t).pc = .returned := by
  rcases thread_step_cases hcount action t with ⟨hthread, -⟩ | ⟨a, rfl, -, hs⟩
  · rwa [hthread]
  rw [hs]
  obtain ⟨-, -, ⟨-, hthread⟩ | ⟨th, -, hth, -, hthread⟩⟩ := threadStep_moves fl s t a rfl
  · rwa [hthread]
  · rw [hthread, Function.update_self, hth]
    exact (Pc.step_running _ a _).2.2.2 hpc

/-- **A thread that returns with the lock stops the GUI for ever.** -/
theorem waiting_run {s : Process τ} (hcount : s.LockCount) (hgui : s.gui = .waiting) {t : ℕ}
    (hpc : (s.thread t).pc = .returned) (hleaked : 0 < s.leaked t) (actions : List Action) :
    (run (step fl) s actions).gui = .waiting := by
  let I : Process τ → Prop := fun s =>
    s.LockCount ∧ s.gui = .waiting ∧ (s.thread t).pc = .returned ∧ 0 < s.leaked t
  have hrun : I (run (step fl) s actions) := by
    refine run_invariant ?_ ⟨hcount, hgui, hpc, hleaked⟩ actions
    rintro s action ⟨hcount, hgui, hpc, hleaked⟩
    refine ⟨hcount.step action, ?_, pc_step_of_returned hcount hpc action, ?_⟩
    · rcases step_cases fl s action with hs | ⟨hgui', -⟩ | ⟨lock, -, hacq, -⟩ | ⟨event, hgui', -⟩ |
        hs | ⟨u, a, -, hs⟩
      · rwa [hs]
      · exact nomatch hgui.symm.trans hgui'
      · have hdepth : 0 < s.lock.depth (.thread t) := by
          have hthread := hcount.thread t
          rw [leaked] at hleaked
          omega
        rw [RecursiveLock.acquire_eq_none (q := .gui) hdepth nofun] at hacq
        cases hacq
      · exact nomatch hgui.symm.trans hgui'
      · rw [hs, nextStep, hgui]
        exact hgui
      · rw [hs, (threadStep_moves fl s u a rfl).1]
        exact hgui
    · rw [leaked_step hcount]
      omega
  exact hrun.2.1

end Process

end Gui
end RcDiscover
