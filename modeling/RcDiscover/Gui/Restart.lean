import RcDiscover.Gui.DiscoverWindow

/-!
# Restarting the discovery

`doDiscover` joins the discover thread while it has the lock of FLTK, for which that thread may be
waiting.  This is safe because of a protocol between the flag `running`, the button, which `update`
makes active only while the flag is not set, and the order of the last steps of the thread.

* `LockCount`: the depth of the lock is what each thread has taken and not given back;
* `Protocol`: what the flag, the button, and the places of the threads say about each other;
* `restart_safe` (**main result**): both hold after every interleaving, so that `join` waits for
  threads only that need the lock no more.
-/

namespace RcDiscover
namespace Gui

open Runs

/-! ### Places in the code -/

/-- Between `Fl::lock` and `Fl::unlock`. -/
def Pc.locked : Pc → Bool
  | .clear | .updateClear | .unlockClear => true
  | .checkReachability _ | .add _ _ _ | .updateAdd | .unlockAdd => true
  | .clearRunning | .updateLast | .unlockLast => true
  | _ => false

/-- Past the last `Fl::lock`. -/
def Pc.late : Pc → Bool
  | .clearRunning | .updateLast | .unlockLast | .awakeLast | .returned => true
  | _ => false

/-- Past `running=false`. -/
def Pc.stopped : Pc → Bool
  | .updateLast | .unlockLast | .awakeLast | .returned => true
  | _ => false

/-- A call with the lock that the `try` block is around. -/
def Pc.callsLocked : Pc → Bool
  | .clear | .updateClear | .add _ _ _ | .updateAdd => true
  | .checkReachability (device :: _) => device.isValid
  | _ => false

/-- The GUI thread has the lock. -/
def GuiPc.locked : GuiPc → Bool
  | .waiting | .destroy | .destroyJoin | .ended => false
  | _ => true

/-- What a step of `discoverThread` means for the lock. -/
theorem Pc.step_lock (running : Bool) (a : Answer) (pc : Pc) :
    match (pc.step running a).1 with
    | .lock => pc.locked = false ∧ (pc.step running a).2.locked = true ∧ pc.callsLocked = false
    | .unlock => pc.locked = true ∧ (pc.step running a).2.locked = false ∧ pc.callsLocked = false
    | .terminate => pc.callsLocked = false
    | _ => if pc.callsLocked = true ∧ a.thrown.isSome then
        pc.locked = true ∧ (pc.step running a).2.locked = false
      else (pc.step running a).2.locked = pc.locked := by
  cases pc with
  | checkReachability info =>
    cases info with
    | nil => rfl
    | cons device info =>
      by_cases hv : device.isValid = true
      · cases ha : a.thrown <;> simp [Pc.step, tryCall, hv, ha, Pc.callsLocked, Pc.locked]
      · simp [Pc.step, hv, Pc.callsLocked, Pc.locked]
  | getResponse =>
    cases ha : a.thrown <;> cases hr : a.response || a.inTime <;>
      simp [Pc.step, tryCall, ha, hr, Pc.callsLocked, Pc.locked]
  | testRunning => cases running <;> rfl
  | _ => cases ha : a.thrown <;> simp [Pc.step, tryCall, ha, Pc.callsLocked, Pc.locked]

/-- A step without an operation on the lock leaves the section at most with an exception. -/
theorem Pc.step_lock_of_ne {running : Bool} {a : Answer} {pc : Pc} {e : Effect} {pc' : Pc}
    (hpc : pc.step running a = (e, pc')) (hlock : e ≠ .lock) (hunlock : e ≠ .unlock)
    (hterm : e ≠ .terminate) :
    if pc.callsLocked = true ∧ a.thrown.isSome then pc.locked = true ∧ pc'.locked = false
    else pc'.locked = pc.locked := by
  have hstep := Pc.step_lock running a pc
  rw [hpc] at hstep
  cases e with
  | lock => exact absurd rfl hlock
  | unlock => exact absurd rfl hunlock
  | terminate => exact absurd rfl hterm
  | _ => exact hstep

/-- What a step of `discoverThread` means for the flag. -/
theorem Pc.step_running (running : Bool) (a : Answer) (pc : Pc) :
    (pc.late = true → (pc.step running a).2.late = true) ∧
      ((pc.step running a).2.stopped = true →
        pc.stopped = true ∨ (pc.step running a).1 = .clearRunning) ∧
      ((pc.step running a).1 = .clearRunning → pc = .clearRunning) ∧
      (pc = .returned → (pc.step running a).2 = .returned) := by
  cases pc with
  | checkReachability info =>
    cases info with
    | nil => simp [Pc.step, Pc.late, Pc.stopped]
    | cons device info =>
      by_cases hv : device.isValid = true
      · cases ha : a.thrown <;> simp [Pc.step, tryCall, hv, ha, Pc.late, Pc.stopped]
      · simp [Pc.step, hv, Pc.late, Pc.stopped]
  | getResponse =>
    cases ha : a.thrown <;> cases hr : a.response || a.inTime <;>
      simp [Pc.step, tryCall, ha, hr, Pc.late, Pc.stopped]
  | testRunning => cases running <;> simp [Pc.step, Pc.late, Pc.stopped]
  | _ => cases ha : a.thrown <;> simp [Pc.step, tryCall, ha, Pc.late, Pc.stopped]

namespace Process

variable {τ : Type} (fl : FlTableRow τ)

/-- **Inversion of a step of a discover thread.** -/
theorem threadStep_cases (s : Process τ) (t : ℕ) (a : Answer) {e : Effect} {pc : Pc}
    (hpc : (s.thread t).pc.step s.window.running a = (e, pc)) :
    (s.threadStep fl t a = s ∧ (t < s.created → e = .lock)) ∨
    (e = .terminate ∧ s.threadStep fl t a = { s with terminated := true }) ∨
    (∃ lock, t < s.created ∧ e = .lock ∧ s.lock.acquire (.thread t) = some lock ∧
      s.threadStep fl t a = { s with
        lock
        thread := Function.update s.thread t
          ⟨pc, (s.thread t).locks + 1, (s.thread t).unlocks⟩ }) ∨
    (t < s.created ∧ e = .unlock ∧ s.threadStep fl t a = { s with
      lock := s.lock.release (.thread t)
      thread := Function.update s.thread t
        ⟨pc, (s.thread t).locks, (s.thread t).unlocks + 1⟩ }) ∨
    (∃ cerr, t < s.created ∧ e ≠ .lock ∧ e ≠ .unlock ∧ e ≠ .terminate ∧
      s.threadStep fl t a = { s.goto t pc with window := e.onWindow fl s.window, cerr }) := by
  by_cases ht : t < s.created
  · rw [threadStep, if_pos ht, hpc]
    cases e with
    | lock =>
      rcases hlock : s.lock.acquire (.thread t) with _ | lock
      · exact .inl ⟨rfl, fun _ => rfl⟩
      · exact .inr (.inr (.inl ⟨lock, ht, rfl, rfl, rfl⟩))
    | unlock => exact .inr (.inr (.inr (.inl ⟨ht, rfl, rfl⟩)))
    | terminate => exact .inr (.inl ⟨rfl, rfl⟩)
    | _ => exact .inr (.inr (.inr (.inr ⟨_, ht, nofun, nofun, nofun, rfl⟩)))
  · exact .inl ⟨if_neg ht, fun h => absurd h ht⟩

/-- **Inversion of a step of the process.** -/
theorem step_cases (s : Process τ) (action : Action) :
    s.step fl action = s ∨
    (s.gui = .dispatching ∧
      s.step fl action = { s with lock := s.lock.release .gui, gui := .waiting }) ∨
    (∃ lock, s.gui = .waiting ∧ s.lock.acquire .gui = some lock ∧
      s.step fl action = { s with lock, gui := .dispatching }) ∨
    (∃ event, s.gui = .dispatching ∧ s.step fl action = s.dispatch fl event) ∨
    s.step fl action = s.nextStep fl ∨
    ∃ t a, action = .thread t a ∧ s.step fl action = s.threadStep fl t a := by
  by_cases hterm : s.terminated = true
  · exact .inl (if_pos hterm)
  rw [step.eq_def, if_neg hterm]
  cases action with
  | wait =>
    by_cases hgui : s.gui = .dispatching
    · exact .inr (.inl ⟨hgui, if_pos hgui⟩)
    · exact .inl (if_neg hgui)
  | wake =>
    rcases hacq : s.lock.acquire .gui with _ | lock
    · exact .inl rfl
    · by_cases hgui : s.gui = .waiting
      · exact .inr (.inr (.inl ⟨lock, hgui, rfl, if_pos hgui⟩))
      · exact .inl (if_neg hgui)
  | dispatch event =>
    by_cases hgui : s.gui = .dispatching
    · exact .inr (.inr (.inr (.inl ⟨event, hgui, if_pos hgui⟩)))
    · exact .inl (if_neg hgui)
  | next => exact .inr (.inr (.inr (.inr (.inl rfl))))
  | thread t a => exact .inr (.inr (.inr (.inr (.inr ⟨t, a, rfl, rfl⟩))))

/-! ### The depth of the lock -/

/-- The depth of the lock is what the threads have taken and not given back. -/
structure LockCount (s : Process τ) : Prop where
  thread : ∀ t, s.lock.depth (.thread t) + (s.thread t).unlocks = (s.thread t).locks
  locked : ∀ t, (s.thread t).unlocks + (s.thread t).pc.locked.toNat ≤ (s.thread t).locks
  gui : s.lock.depth .gui = s.gui.locked.toNat
  fresh : ∀ t, s.created ≤ t → s.thread t = .start

variable {fl}

/-- A thread that is between `Fl::lock` and `Fl::unlock` has the lock. -/
theorem LockCount.depth_pos {s : Process τ} (h : s.LockCount) {t : ℕ}
    (hpc : (s.thread t).pc.locked = true) : 0 < s.lock.depth (.thread t) := by
  have hthread := h.thread t
  have hlocked := h.locked t
  rw [hpc, Bool.toNat_true] at hlocked
  omega

theorem lockCount_start (onlyRC : Bool) (filterValue : Str) (sortCol : ℤ) (sortDown : Bool) :
    (start fl onlyRC filterValue sortCol sortDown).LockCount where
  thread _ := rfl
  locked _ := Nat.le_refl 0
  gui := rfl
  fresh _ _ := rfl

/-- A step of one thread. -/
theorem LockCount.of_update {s s' : Process τ} (h : s.LockCount) {t : ℕ} {th : DiscoverThread}
    (ht : t < s.created) (hcreated : s'.created = s.created) (hgui : s'.gui = s.gui)
    (hthread : s'.thread = Function.update s.thread t th)
    (hdepth : ∀ p, p ≠ .thread t → s'.lock.depth p = s.lock.depth p)
    (hself : s'.lock.depth (.thread t) + th.unlocks = th.locks)
    (hlocked : th.unlocks + th.pc.locked.toNat ≤ th.locks) : s'.LockCount where
  thread u := by
    by_cases hu : u = t
    · subst hu
      rwa [hthread, Function.update_self]
    · rw [hthread, Function.update_of_ne hu, hdepth _ (by simpa using hu)]
      exact h.thread u
  locked u := by
    by_cases hu : u = t
    · subst hu
      rwa [hthread, Function.update_self]
    · rw [hthread, Function.update_of_ne hu]
      exact h.locked u
  gui := by
    rw [hgui, hdepth .gui nofun]
    exact h.gui
  fresh u hu := by
    rw [hcreated] at hu
    rw [hthread, Function.update_of_ne (by omega)]
    exact h.fresh u hu

theorem LockCount.threadStep {s : Process τ} (h : s.LockCount) (t : ℕ) (a : Answer) :
    (s.threadStep fl t a).LockCount := by
  obtain ⟨e, pc, hpc⟩ : ∃ e pc, (s.thread t).pc.step s.window.running a = (e, pc) := ⟨_, _, rfl⟩
  have hlock := Pc.step_lock s.window.running a (s.thread t).pc
  rw [hpc] at hlock
  have hthread := h.thread t
  have hlocked := h.locked t
  rcases threadStep_cases fl s t a hpc with ⟨hs, -⟩ | ⟨-, hs⟩ | ⟨lock, ht, rfl, hacq, hs⟩ |
    ⟨ht, rfl, hs⟩ | ⟨cerr, ht, he, he', he'', hs⟩
  · rwa [hs]
  · rw [hs]
    exact ⟨h.thread, h.locked, h.gui, h.fresh⟩
  · have hdepth := RecursiveLock.depth_acquire hacq
    rw [hs]
    refine h.of_update ht rfl rfl rfl (fun p hp => ?_) ?_ ?_
    · simp only [hdepth, Function.update_of_ne hp]
    · simp only [hdepth, Function.update_self]
      omega
    · simp only [hlock.1, hlock.2.1, Bool.toNat_true, Bool.toNat_false] at hlocked ⊢
      omega
  · have hpos := h.depth_pos hlock.1
    have hdepth := RecursiveLock.depth_release hpos
    rw [hs]
    refine h.of_update ht rfl rfl rfl (fun p hp => ?_) ?_ ?_
    · simp only [hdepth, Function.update_of_ne hp]
    · simp only [hdepth, Function.update_self]
      omega
    · simp only [hlock.1, hlock.2.1, Bool.toNat_true, Bool.toNat_false] at hlocked ⊢
      omega
  · have hle : pc.locked.toNat ≤ (s.thread t).pc.locked.toNat := by
      have hstep := Pc.step_lock_of_ne hpc he he' he''
      split_ifs at hstep
      · rw [hstep.2]
        exact Nat.zero_le _
      · rw [hstep]
    rw [hs]
    exact h.of_update ht rfl rfl rfl (fun p _ => rfl) hthread (by simp only; omega)

/-- A step of the GUI thread that starts no thread. -/
theorem LockCount.of_gui {s s' : Process τ} (h : s.LockCount) (hthread : s'.thread = s.thread)
    (hcreated : s'.created = s.created)
    (hdepth : ∀ t, s'.lock.depth (.thread t) = s.lock.depth (.thread t))
    (hgui : s'.lock.depth .gui = s'.gui.locked.toNat) : s'.LockCount where
  thread t := by
    rw [hthread, hdepth]
    exact h.thread t
  locked t := by
    rw [hthread]
    exact h.locked t
  gui := hgui
  fresh t ht := by
    rw [hthread]
    exact h.fresh t (hcreated ▸ ht)

/-- The GUI thread gives the lock back. -/
theorem LockCount.release {s : Process τ} (h : s.LockCount) (hlocked : s.gui.locked = true)
    {gui : GuiPc} (hgui : gui.locked = false) :
    LockCount { s with lock := s.lock.release .gui, gui } := by
  have hdepth : s.lock.depth .gui = 1 := by rw [h.gui, hlocked, Bool.toNat_true]
  have hrelease := RecursiveLock.depth_release (l := s.lock) (p := .gui) (by omega)
  refine h.of_gui rfl rfl (fun t => ?_) ?_
  · have hne : Party.thread t ≠ .gui := nofun
    simp only [hrelease, Function.update_of_ne hne]
  · simp only [hrelease, Function.update_self, hdepth, hgui, Bool.toNat_false]

/-- It goes on with the lock as it is. -/
theorem LockCount.move {s : Process τ} (h : s.LockCount) (window : DiscoverWindow τ) {gui : GuiPc}
    (hgui : gui.locked = s.gui.locked) : LockCount { s with window, gui } :=
  h.of_gui rfl rfl (fun _ => rfl) (by rw [hgui]; exact h.gui)

theorem LockCount.nextStep {s : Process τ} (h : s.LockCount) : (s.nextStep fl).LockCount := by
  rw [Process.nextStep]
  split
  · next hgui => exact h.move _ (by rw [hgui]; rfl)
  · next hgui =>
    split_ifs
    · exact h.move _ (by rw [hgui]; rfl)
    · exact h
  · next hgui => exact h.move _ (by rw [hgui]; rfl)
  · next hgui =>
    have hstart : Function.update s.thread s.created .start = s.thread := by
      rw [← h.fresh s.created (Nat.le_refl _), Function.update_eq_self]
    have hmove : LockCount { s with
        window := { s.window with discoverThread := some s.created }
        gui := .update } := h.move _ (by rw [hgui]; rfl)
    rw [hstart]
    exact ⟨hmove.thread, hmove.locked, hmove.gui, fun t ht => h.fresh t (Nat.le_of_succ_le ht)⟩
  · next hgui => exact h.move _ (by rw [hgui]; rfl)
  · next hgui => exact h.release (by rw [hgui]; rfl) rfl
  · next hgui => exact h.move _ (by rw [hgui]; rfl)
  · next hgui =>
    split_ifs
    · exact h.move s.window (by rw [hgui]; rfl)
    · exact h
  all_goals exact h

theorem LockCount.dispatch {s : Process τ} (h : s.LockCount) (hgui : s.gui = .dispatching)
    (event : Event) : (s.dispatch fl event).LockCount := by
  cases event with
  | rerun =>
    simp only [Process.dispatch]
    split_ifs
    · exact h.move s.window (by rw [hgui]; rfl)
    · exact h
  | close =>
    simp only [Process.dispatch]
    split_ifs
    · exact h
    · exact h.move s.window (by rw [hgui]; rfl)
  | _ => exact h.move _ rfl

theorem LockCount.step {s : Process τ} (h : s.LockCount) (action : Action) :
    (s.step fl action).LockCount := by
  rcases step_cases fl s action with hs | ⟨hgui, hs⟩ | ⟨lock, hgui, hacq, hs⟩ |
    ⟨event, hgui, hs⟩ | hs | ⟨t, a, -, hs⟩
  · rwa [hs]
  · rw [hs]
    exact h.release (by rw [hgui]; rfl) rfl
  · have hdepth := RecursiveLock.depth_acquire hacq
    have hfree : s.lock.depth .gui = 0 := by rw [h.gui, hgui]; rfl
    rw [hs]
    refine h.of_gui rfl rfl (fun t => ?_) ?_
    · have hne : Party.thread t ≠ .gui := nofun
      simp only [hdepth, Function.update_of_ne hne]
    · simp only [hdepth, Function.update_self, hfree]
      rfl
  · rw [hs]
    exact h.dispatch hgui event
  · rw [hs]
    exact h.nextStep
  · rw [hs]
    exact h.threadStep t a

/-! ### The protocol -/

/-- What the flag `running`, the button and the places of the threads say about each other. -/
structure Protocol (s : Process τ) : Prop where
  /-- a thread that has not returned is the one to be joined -/
  unfinished : ∀ t < s.created, (s.thread t).pc ≠ .returned → s.window.discoverThread = some t
  pointed : ∀ t, s.window.discoverThread = some t → t < s.created
  early : ∀ t < s.created, (s.thread t).pc.late = false → s.window.running = true
  stopped : ∀ t, s.window.discoverThread = some t → (s.thread t).pc.stopped = true →
    s.window.running = false
  active : s.window.discoverActive = true → s.gui ≠ .create → s.gui ≠ .update →
    s.window.running = false
  stopping : s.gui ∈ [.stop, .join, .unlock, .destroy, .destroyJoin, .ended] →
    s.window.running = false
  joined : s.gui ∈ [.run, .create] → s.window.discoverThread = none
  starting : s.gui = .create → s.window.running = true

theorem protocol_start (onlyRC : Bool) (filterValue : Str) (sortCol : ℤ) (sortDown : Bool) :
    (start fl onlyRC filterValue sortCol sortDown).Protocol where
  unfinished _ ht := nomatch ht
  pointed _ ht := nomatch ht
  early _ ht := nomatch ht
  stopped _ ht := nomatch ht
  active _ _ _ := rfl
  stopping _ := rfl
  joined h := by simp [start] at h
  starting h := nomatch h

variable (fl) in
/-- What the effects do to the flag and to the button. -/
theorem onWindow_cases (w : DiscoverWindow τ) (e : Effect) :
    (e.onWindow fl w).discoverThread = w.discoverThread ∧
      (e = .clearRunning ∧ (e.onWindow fl w).running = false ∨
        e ≠ .clearRunning ∧ (e.onWindow fl w).running = w.running) ∧
      ((e.onWindow fl w).discoverActive = true →
        w.discoverActive = true ∨ w.running = false) := by
  cases e with
  | clearRunning => exact ⟨rfl, .inl ⟨rfl, rfl⟩, .inl⟩
  | update => exact ⟨rfl, .inr ⟨nofun, rfl⟩, fun h =>
    .inr (by simpa [Effect.onWindow, DiscoverWindow.update] using h)⟩
  | _ => exact ⟨rfl, .inr ⟨nofun, rfl⟩, .inl⟩

variable (fl) in
/-- The flag, the button and the places after a step of a discover thread. -/
theorem threadStep_moves (s : Process τ) (t : ℕ) (a : Answer) {e : Effect} {pc : Pc}
    (hpc : (s.thread t).pc.step s.window.running a = (e, pc)) :
    (s.threadStep fl t a).gui = s.gui ∧ (s.threadStep fl t a).created = s.created ∧
      ((s.threadStep fl t a).window = s.window ∧ (s.threadStep fl t a).thread = s.thread ∨
        ∃ th : DiscoverThread, t < s.created ∧ th.pc = pc ∧
          (s.threadStep fl t a).window = e.onWindow fl s.window ∧
          (s.threadStep fl t a).thread = Function.update s.thread t th) := by
  rcases threadStep_cases fl s t a hpc with ⟨hs, -⟩ | ⟨-, hs⟩ | ⟨lock, ht, rfl, -, hs⟩ |
    ⟨ht, rfl, hs⟩ | ⟨cerr, ht, -, -, -, hs⟩
  · rw [hs]
    exact ⟨rfl, rfl, .inl ⟨rfl, rfl⟩⟩
  · rw [hs]
    exact ⟨rfl, rfl, .inl ⟨rfl, rfl⟩⟩
  all_goals
    rw [hs]
    exact ⟨rfl, rfl, .inr ⟨_, ht, rfl, rfl, rfl⟩⟩

/-- The thread that clears the flag is the only one that has not returned. -/
theorem Protocol.clearRunning {s s' : Process τ} (h : s.Protocol) {t : ℕ} {th : DiscoverThread}
    (ht : t < s.created) (hpc : (s.thread t).pc = .clearRunning) (hth : th.pc = .updateLast)
    (hgui : s'.gui = s.gui) (hcreated : s'.created = s.created)
    (hwindow : s'.window = { s.window with running := false })
    (hthread : s'.thread = Function.update s.thread t th) : s'.Protocol := by
  have hpointer : s.window.discoverThread = some t := h.unfinished t ht (by rw [hpc]; nofun)
  have hothers : ∀ u < s.created, u ≠ t → (s.thread u).pc = .returned := by
    intro u hu hut
    by_contra hne
    have hother := h.unfinished u hu hne
    rw [hpointer] at hother
    exact hut (Option.some.inj hother).symm
  constructor <;> simp only [hgui, hcreated, hwindow, hthread]
  · intro u hu
    by_cases hut : u = t
    · rw [hut, hpointer]
      exact fun _ => rfl
    · rw [Function.update_of_ne hut]
      exact fun hne => absurd (hothers u hu hut) hne
  · exact h.pointed
  · intro u hu hearly
    by_cases hut : u = t
    · rw [hut, Function.update_self, hth] at hearly
      cases hearly
    · rw [Function.update_of_ne hut, hothers u hu hut] at hearly
      cases hearly
  · exact fun _ _ _ => trivial
  · exact fun _ _ _ => trivial
  · exact fun _ => trivial
  · exact h.joined
  · intro hcreate
    have hnone := h.joined (by simp [hcreate])
    rw [hpointer] at hnone
    cases hnone

/-- A thread goes on without a change of the flag. -/
theorem Protocol.advance {s s' : Process τ} (h : s.Protocol) {t : ℕ} {th : DiscoverThread}
    (hlate : (s.thread t).pc.late = true → th.pc.late = true)
    (hstopped : th.pc.stopped = true → (s.thread t).pc.stopped = true)
    (hreturned : (s.thread t).pc = .returned → th.pc = .returned)
    (hgui : s'.gui = s.gui) (hcreated : s'.created = s.created)
    (hpointer : s'.window.discoverThread = s.window.discoverThread)
    (hrunning : s'.window.running = s.window.running)
    (hactive : s'.window.discoverActive = true →
      s.window.discoverActive = true ∨ s.window.running = false)
    (hthread : s'.thread = Function.update s.thread t th) : s'.Protocol := by
  constructor <;> simp only [hgui, hcreated, hpointer, hrunning, hthread]
  · intro u hu
    by_cases hut : u = t
    · subst hut
      rw [Function.update_self]
      exact fun hne => h.unfinished u hu (mt hreturned hne)
    · rw [Function.update_of_ne hut]
      exact h.unfinished u hu
  · exact h.pointed
  · intro u hu hearly
    by_cases hut : u = t
    · subst hut
      rw [Function.update_self] at hearly
      refine h.early u hu ?_
      rw [Bool.eq_false_iff] at hearly ⊢
      exact mt hlate hearly
    · rw [Function.update_of_ne hut] at hearly
      exact h.early u hu hearly
  · intro u hu hstop
    by_cases hut : u = t
    · subst hut
      rw [Function.update_self] at hstop
      exact h.stopped u hu (hstopped hstop)
    · rw [Function.update_of_ne hut] at hstop
      exact h.stopped u hu hstop
  · intro hact hcreate hupdate
    rcases hactive hact with hact | hrun
    · exact h.active hact hcreate hupdate
    · exact hrun
  · exact h.stopping
  · exact h.joined
  · exact h.starting

theorem Protocol.threadStep {s : Process τ} (h : s.Protocol) (t : ℕ) (a : Answer) :
    (s.threadStep fl t a).Protocol := by
  obtain ⟨e, pc, hpc⟩ : ∃ e pc, (s.thread t).pc.step s.window.running a = (e, pc) := ⟨_, _, rfl⟩
  obtain ⟨hlate, hstopped, hclear, hreturned⟩ := Pc.step_running s.window.running a (s.thread t).pc
  rw [hpc] at hlate hstopped hclear hreturned
  obtain ⟨hgui, hcreated, ⟨hwindow, hthread⟩ | ⟨th, ht, rfl, hwindow, hthread⟩⟩ :=
    threadStep_moves fl s t a hpc
  · constructor <;> simp only [hgui, hcreated, hwindow, hthread]
    exacts [h.unfinished, h.pointed, h.early, h.stopped, h.active, h.stopping, h.joined, h.starting]
  by_cases he : e = .clearRunning
  · subst he
    have hold : (s.thread t).pc = .clearRunning := hclear rfl
    rw [hold] at hpc
    exact h.clearRunning ht hold (congrArg Prod.snd hpc).symm hgui hcreated hwindow hthread
  · obtain ⟨hpointer, hrunning, hactive⟩ := onWindow_cases fl s.window e
    have hrun := (hrunning.resolve_left fun hc => he hc.1).2
    rw [← hwindow] at hpointer hrun hactive
    exact h.advance hlate (fun hstop => (hstopped hstop).resolve_right he) hreturned hgui hcreated
      hpointer hrun hactive hthread

/-- The GUI thread goes on without a change of the flag. -/
theorem Protocol.move {s : Process τ} (h : s.Protocol) (lock : RecursiveLock Party)
    {window : DiscoverWindow τ} {gui : GuiPc}
    (hpointer : window.discoverThread = s.window.discoverThread)
    (hrunning : window.running = s.window.running)
    (hactive : window.discoverActive = true → s.window.running = false)
    (hstopping : gui = .dispatching ∨ gui = .waiting ∨ s.window.running = false)
    (hgui : gui ≠ .run ∧ gui ≠ .create) : Protocol { s with window, lock, gui } := by
  constructor <;> simp only [hpointer, hrunning]
  · exact h.unfinished
  · exact h.pointed
  · exact h.early
  · exact h.stopped
  · exact fun hact _ _ => hactive hact
  · intro hmem
    rcases hstopping with rfl | rfl | hrun
    · simp at hmem
    · simp at hmem
    · exact hrun
  · intro hmem
    simp [hgui.1, hgui.2] at hmem
  · exact fun hcreate => absurd hcreate hgui.2

theorem Protocol.dispatch {s : Process τ} (h : s.Protocol) (hgui : s.gui = .dispatching)
    (event : Event) : (s.dispatch fl event).Protocol := by
  have hactive : s.window.discoverActive = true → s.window.running = false := fun hact =>
    h.active hact (by rw [hgui]; nofun) (by rw [hgui]; nofun)
  -- all operations on the list end with `update`
  have hupdate : ∀ w : DiscoverWindow τ, w.discoverThread = s.window.discoverThread →
      w.running = s.window.running → Protocol { s with window := w.update fl } := by
    intro w hpointer hrunning
    refine h.move s.lock hpointer hrunning (fun hact => ?_) (.inl hgui) ?_
    · rw [← hrunning]
      simpa [DiscoverWindow.update] using hact
    · rw [hgui]
      exact ⟨nofun, nofun⟩
  cases event with
  | rerun =>
    simp only [Process.dispatch]
    split_ifs with hact
    · exact h.move s.lock rfl rfl hactive (.inr (.inr (hactive hact))) ⟨nofun, nofun⟩
    · exact h
  | onlyRC value => exact hupdate _ rfl rfl
  | filter value => exact hupdate _ rfl rfl
  | handle ops => exact hupdate _ rfl rfl
  | close =>
    simp only [Process.dispatch]
    split_ifs with hrun
    · exact h
    · rw [Bool.not_eq_true] at hrun
      exact h.move s.lock rfl rfl (fun _ => hrun) (.inr (.inr hrun)) ⟨nofun, nofun⟩

/-- No thread needs the lock while the flag is not set. -/
theorem Protocol.late {s : Process τ} (h : s.Protocol) (hrun : s.window.running = false) {t : ℕ}
    (ht : t < s.created) : (s.thread t).pc.late = true := by
  by_contra hearly
  rw [h.early t ht (Bool.eq_false_iff.2 hearly)] at hrun
  cases hrun

theorem Protocol.join {s : Process τ} (h : s.Protocol) (hgui : s.gui = .join)
    (hjoin : s.joinable = true) :
    Protocol { s with window := { s.window with discoverThread := none }, gui := .run } where
  unfinished t ht hpc := by
    have hpointer := h.unfinished t ht hpc
    rw [joinable, hpointer] at hjoin
    exact absurd (of_decide_eq_true hjoin) hpc
  pointed _ ht := nomatch ht
  early := h.early
  stopped _ ht := nomatch ht
  active _ _ _ := h.stopping (by simp [hgui])
  stopping hmem := by simp at hmem
  joined _ := rfl
  starting hcreate := nomatch hcreate

theorem Protocol.run {s : Process τ} (h : s.Protocol) (hgui : s.gui = .run) :
    Protocol { s with window := { s.window with running := true }, gui := .create } where
  unfinished := h.unfinished
  pointed := h.pointed
  early _ _ _ := rfl
  stopped t ht := by
    have hnone := h.joined (by simp [hgui])
    exact absurd (hnone.symm.trans ht) nofun
  active _ hcreate _ := absurd rfl hcreate
  stopping hmem := by simp at hmem
  joined _ := h.joined (by simp [hgui])
  starting _ := rfl

/-- The new thread is the only one that has not returned. -/
theorem Protocol.create {s : Process τ} (h : s.Protocol) (hgui : s.gui = .create) :
    Protocol { s with
      window := { s.window with discoverThread := some s.created }
      thread := Function.update s.thread s.created .start
      created := s.created + 1
      gui := .update } := by
  have hnone := h.joined (by simp [hgui])
  have hreturned : ∀ t < s.created, (s.thread t).pc = .returned := by
    intro t ht
    by_contra hpc
    have hpointer := h.unfinished t ht hpc
    rw [hnone] at hpointer
    cases hpointer
  constructor <;> dsimp only
  · intro t ht hpc
    by_cases hnew : t = s.created
    · rw [hnew]
    · rw [Function.update_of_ne hnew] at hpc
      exact absurd (hreturned t (by omega)) hpc
  · intro t ht
    obtain rfl : s.created = t := Option.some.inj ht
    exact Nat.lt_succ_self _
  · exact fun _ _ _ => h.starting hgui
  · intro t ht hstop
    obtain rfl : s.created = t := Option.some.inj ht
    rw [Function.update_self] at hstop
    cases hstop
  · exact fun _ _ hupdate => absurd rfl hupdate
  · exact fun hmem => by simp at hmem
  · exact fun hmem => by simp at hmem
  · exact nofun

theorem Protocol.nextStep {s : Process τ} (h : s.Protocol) : (s.nextStep fl).Protocol := by
  -- the flag is not set, and is cleared once more
  have hstop : s.window.running = false → ∀ gui : GuiPc, gui ≠ .run → gui ≠ .create →
      Protocol { s with window := { s.window with running := false }, gui } := by
    intro hrun gui hne hne'
    exact h.move s.lock rfl hrun.symm (fun _ => hrun) (.inr (.inr hrun)) ⟨hne, hne'⟩
  rw [Process.nextStep]
  split
  · next hgui => exact hstop (h.stopping (by simp [hgui])) .join nofun nofun
  · next hgui =>
    split_ifs with hjoin
    · exact h.join hgui hjoin
    · exact h
  · next hgui => exact h.run hgui
  · next hgui => exact h.create hgui
  · next hgui =>
    refine h.move s.lock rfl rfl (fun hact => ?_) (.inl rfl) ⟨nofun, nofun⟩
    simpa [DiscoverWindow.update] using hact
  · next hgui =>
    have hrun := h.stopping (by simp [hgui])
    exact h.move _ rfl rfl (fun _ => hrun) (.inr (.inr hrun)) ⟨nofun, nofun⟩
  · next hgui => exact hstop (h.stopping (by simp [hgui])) .destroyJoin nofun nofun
  · next hgui =>
    have hrun := h.stopping (by simp [hgui])
    split_ifs
    · exact h.move s.lock rfl rfl (fun _ => hrun) (.inr (.inr hrun)) ⟨nofun, nofun⟩
    · exact h
  all_goals exact h

theorem Protocol.step {s : Process τ} (h : s.Protocol) (action : Action) :
    (s.step fl action).Protocol := by
  rcases step_cases fl s action with hs | ⟨hgui, hs⟩ | ⟨lock, hgui, hacq, hs⟩ |
    ⟨event, hgui, hs⟩ | hs | ⟨t, a, -, hs⟩
  · rwa [hs]
  · have hactive : s.window.discoverActive = true → s.window.running = false := fun hact =>
      h.active hact (by rw [hgui]; nofun) (by rw [hgui]; nofun)
    rw [hs]
    exact h.move _ rfl rfl hactive (.inr (.inl rfl)) ⟨nofun, nofun⟩
  · have hactive : s.window.discoverActive = true → s.window.running = false := fun hact =>
      h.active hact (by rw [hgui]; nofun) (by rw [hgui]; nofun)
    rw [hs]
    exact h.move _ rfl rfl hactive (.inl rfl) ⟨nofun, nofun⟩
  · rw [hs]
    exact h.dispatch hgui event
  · rw [hs]
    exact h.nextStep
  · rw [hs]
    exact h.threadStep t a

/-! ### Every interleaving -/

section Run

variable (fl) (onlyRC : Bool) (filterValue : Str) (sortCol : ℤ) (sortDown : Bool)
  (actions : List Action)

theorem lockCount_run :
    (run (step fl) (start fl onlyRC filterValue sortCol sortDown) actions).LockCount :=
  run_invariant (fun _ action h => h.step action) (lockCount_start _ _ _ _) actions

theorem protocol_run :
    (run (step fl) (start fl onlyRC filterValue sortCol sortDown) actions).Protocol :=
  run_invariant (fun _ action h => h.step action) (protocol_start _ _ _ _) actions

end Run

/-- **What is joined needs the lock no more**: a thread that is between its locks would have it, and
the GUI thread has it. -/
theorem awakeLast_or_returned {s : Process τ} (hcount : s.LockCount) (hlocked : s.gui.locked = true)
    {t : ℕ} (hlate : (s.thread t).pc.late = true) :
    (s.thread t).pc = .awakeLast ∨ (s.thread t).pc = .returned := by
  have hgui : 0 < s.lock.depth .gui := by
    rw [hcount.gui, hlocked]
    decide
  have hfree : (s.thread t).pc.locked = false := by
    by_contra hpc
    rw [Bool.not_eq_false] at hpc
    exact nomatch RecursiveLock.eq_of_depth_pos hgui (hcount.depth_pos hpc)
  cases hpc : (s.thread t).pc <;> simp_all [Pc.late, Pc.locked]

/-- **Restarting the discovery cannot deadlock.** -/
theorem restart_safe (fl : FlTableRow τ) (onlyRC : Bool) (filterValue : Str) (sortCol : ℤ)
    (sortDown : Bool) (actions : List Action) :
    let s := run (step fl) (start fl onlyRC filterValue sortCol sortDown) actions
    (s.gui = .dispatching → s.window.discoverActive = true →
      s.window.running = false ∧ ∀ t < s.created, (s.thread t).pc.late = true) ∧
    (s.gui = .join → ∀ t, s.window.discoverThread = some t →
      (s.thread t).pc = .awakeLast ∨ (s.thread t).pc = .returned) ∧
    (∀ t < s.created, ∀ u < s.created,
      (s.thread t).pc ≠ .returned → (s.thread u).pc ≠ .returned → t = u) ∧
    (s.gui = .create → s.window.discoverThread = none) := by
  intro s
  have hcount : s.LockCount := lockCount_run fl onlyRC filterValue sortCol sortDown actions
  have h : s.Protocol := protocol_run fl onlyRC filterValue sortCol sortDown actions
  refine ⟨fun hgui hactive => ?_, fun hgui t hpointer => ?_, fun t ht u hu hpc hpc' => ?_,
    fun hgui => h.joined (by simp [hgui])⟩
  · have hrun := h.active hactive (by rw [hgui]; nofun) (by rw [hgui]; nofun)
    exact ⟨hrun, fun t ht => h.late hrun ht⟩
  · have hrun := h.stopping (by simp [hgui])
    exact awakeLast_or_returned hcount (by rw [hgui]; rfl) (h.late hrun (h.pointed t hpointer))
  · have hpointer := h.unfinished t ht hpc
    rw [h.unfinished u hu hpc'] at hpointer
    exact (Option.some.inj hpointer).symm

end Process

end Gui
end RcDiscover
