import RcDiscover.Discover.Listening
import Mathlib.Algebra.Order.BigOperators.Group.Finset

/-!
# The destructor of a `Discover` object returns

* `Process.remaining`: a bound for the steps that are left once `stop_` is set, for the owner and
  for the listener threads together;
* `Process.makes`: a thread makes a step, and is not blocked.

`destructor_returns`: until the object is destroyed some thread can make a step, and once `stop_`
is set the threads make only so many.
-/

namespace RcDiscover
namespace Listening

open Races

/-- The steps that are left to the owner once `stop_` is set, with `n` listener threads. -/
def Owner.remaining (n : ℕ) : Owner → ℕ
  | join k => n - k + 2
  | destroyMembers => 1
  | _ => 0

/-- The most steps that are left once `stop_` is set. -/
def Process.remaining (s : Process) : ℕ :=
  s.owner.remaining s.created + ∑ t ∈ Finset.range s.created, (s.thread t).remaining

/-- The thread is not blocked. -/
def Process.makes (iface : List Str) (s : Process) (a : Party × Choice) : Bool :=
  (s.next iface a.2 a.1).isSome

theorem Listener.remaining_le (pc : Listener) : pc.remaining ≤ 7 := by
  cases pc <;> simp [Listener.remaining]

variable {s s' : Process} {t : ℕ} {c : Choice} {iface : List Str}

/-! ### Something can happen -/

/-- Only a listener that waits for the mutex, or has returned, makes no step. -/
theorem listenerNext_isSome (hreturned : s.thread t ≠ .returned)
    (hlock : ∀ info, s.thread t = .lock info → s.mutex = none) :
    (s.listenerNext t c).isSome = true := by
  unfold Process.listenerNext
  cases hpc : s.thread t with
  | returned => exact absurd hpc hreturned
  | lock info => simp [hlock info hpc]
  | select => rcases c.received with _ | ⟨junk, d⟩ <;> rfl
  | _ => rfl

theorem makes_listener (ht : t < s.created) :
    s.makes iface (.listener t, c) = (s.listenerNext t c).isSome := by
  simp only [Process.makes, Process.next, if_pos ht]

/-- A listener that holds the mutex was started and makes a step. -/
theorem Sound.holder_makes (h : Sound s) (hmutex : s.mutex = some (.listener t)) :
    s.makes iface (.listener t, c) = true := by
  have hinside : (s.thread t).inside = true := (h.guarded _).mp hmutex
  have ht : t < s.created := by
    by_contra hle
    rw [h.fresh t (Nat.le_of_not_lt hle)] at hinside
    cases hinside
  rw [makes_listener ht]
  refine listenerNext_isSome (fun hpc => ?_) (fun info hpc => ?_)
  · rw [hpc] at hinside
    cases hinside
  · rw [hpc] at hinside
    cases hinside

/-- A listener that has not returned makes a step, or the one that holds the mutex does. -/
theorem Sound.listener_makes (h : Sound s) (ht : t < s.created) (hreturned : s.thread t ≠ .returned)
    (howner : s.owner.inside = false) (c : Choice) : ∃ p, s.makes iface (p, c) = true := by
  cases hmutex : s.mutex with
  | none =>
    refine ⟨.listener t, ?_⟩
    rw [makes_listener ht]
    exact listenerNext_isSome hreturned fun _ _ => hmutex
  | some p =>
    cases p with
    | owner => cases howner.symm.trans ((h.guarded _).mp hmutex)
    | listener u => exact ⟨.listener u, h.holder_makes hmutex⟩

/-- **There is no deadlock.** -/
theorem Sound.makes (h : Sound s) (hdestroyed : s.owner ≠ .destroyed) (c : Choice) :
    ∃ p, s.makes iface (p, c) = true := by
  -- where the owner waits for the mutex, its holder makes a step
  have hwaiting : s.owner.inside = false →
      (s.mutex = none → s.makes iface (.owner, c) = true) → ∃ p, s.makes iface (p, c) = true := by
    intro hinside hfree
    cases hmutex : s.mutex with
    | none => exact ⟨.owner, hfree hmutex⟩
    | some p =>
      cases p with
      | owner => cases hinside.symm.trans ((h.guarded _).mp hmutex)
      | listener t => exact ⟨.listener t, h.holder_makes hmutex⟩
  cases hpc : s.owner with
  | destroyed => exact absurd hpc hdestroyed
  | lock info =>
    refine hwaiting (by rw [hpc]; rfl) fun hmutex => ?_
    simp [Process.makes, Process.next, Process.ownerNext, hpc, hmutex]
  | sleeping info =>
    refine hwaiting (by rw [hpc]; rfl) fun hmutex => ?_
    simp [Process.makes, Process.next, Process.ownerNext, hpc, hmutex]
  | join k =>
    by_cases hk : k < s.created
    · by_cases hreturned : s.thread k = .returned
      · refine ⟨.owner, ?_⟩
        simp [Process.makes, Process.next, Process.ownerNext, hpc, hk, hreturned]
      · exact h.listener_makes hk hreturned (by rw [hpc]; rfl) c
    · refine ⟨.owner, ?_⟩
      simp [Process.makes, Process.next, Process.ownerNext, hpc, hk]
  | _ =>
    refine ⟨.owner, ?_⟩
    simp only [Process.makes, Process.next, Process.ownerNext, hpc]
    first
    | rfl
    | (split <;> first | rfl | (split <;> rfl))

/-! ### Once `stop_` is set -/

/-- A listener does not come back to `select`. -/
theorem listenerNext_remaining (hstop : s.stop = true) (hstep : s.listenerNext t c = some s') :
    ∃ pc, s'.thread = Function.update s.thread t pc ∧ pc.remaining < (s.thread t).remaining ∧
      s'.owner = s.owner ∧ s'.created = s.created := by
  unfold Process.listenerNext at hstep
  cases hpc : s.thread t with
  | getHandle | pushBack | unlock | notify =>
    simp only [hpc, Option.some.injEq] at hstep
    subst hstep
    exact ⟨_, rfl, by simp [Listener.remaining], rfl, rfl⟩
  | test =>
    simp only [hpc, hstop, if_true, Option.some.injEq] at hstep
    subst hstep
    exact ⟨_, rfl, by simp [Listener.remaining], rfl, rfl⟩
  | check junk d =>
    simp only [hpc, Option.some.injEq] at hstep
    subst hstep
    refine ⟨_, rfl, ?_, rfl, rfl⟩
    rcases s.checked t junk d with _ | info <;> simp [Process.afterTests, Listener.remaining]
  | select | lock =>
    simp only [hpc] at hstep
    split at hstep
    · obtain rfl := Option.some.inj hstep
      exact ⟨_, rfl, by simp [Listener.remaining], rfl, rfl⟩
    · cases hstep <;> exact ⟨_, rfl, by simp [Listener.remaining], rfl, rfl⟩
  | returned =>
    simp only [hpc] at hstep
    cases hstep

theorem remaining_listener (ht : t < s.created) (hstop : s.stop = true)
    (hstep : s.listenerNext t c = some s') : s'.remaining < s.remaining := by
  obtain ⟨pc, hthread, hless, howner, hcreated⟩ := listenerNext_remaining hstop hstep
  unfold Process.remaining
  rw [howner, hcreated]
  refine Nat.add_lt_add_left (Finset.sum_lt_sum (fun u _ => ?_) ⟨t, Finset.mem_range.mpr ht, ?_⟩) _
  · rw [hthread]
    by_cases hu : u = t
    · subst hu
      rw [Function.update_self]
      exact hless.le
    · rw [Function.update_of_ne hu]
  · rw [hthread, Function.update_self]
    exact hless

/-- The owner goes on in the destructor. -/
theorem ownerNext_stopped (hstopped : s.owner.stopped = true)
    (hstep : s.ownerNext iface c = some s') :
    ∃ pc : Owner, s' = { s with owner := pc } ∧
      pc.remaining s.created < s.owner.remaining s.created := by
  unfold Process.ownerNext at hstep
  cases hpc : s.owner with
  | join k =>
    simp only [hpc] at hstep
    split_ifs at hstep with hk
    · split at hstep
      · refine ⟨_, (Option.some.inj hstep).symm, ?_⟩
        simp only [Owner.remaining]
        omega
      · cases hstep
    · refine ⟨_, (Option.some.inj hstep).symm, ?_⟩
      simp only [Owner.remaining]
      omega
  | destroyMembers =>
    simp only [hpc, Option.some.injEq] at hstep
    exact ⟨_, hstep.symm, Nat.zero_lt_one⟩
  | destroyed =>
    simp only [hpc] at hstep
    cases hstep
  | _ =>
    rw [hpc] at hstopped
    cases hstopped

/-- Every step that is made leaves fewer, and `stop_` set. -/
theorem Sound.stopped_step (h : Sound s) (hstop : s.stop = true) (a : Party × Choice) :
    (s.step iface a).stop = true ∧
      (s.step iface a).remaining + (s.makes iface a).toNat ≤ s.remaining := by
  unfold Process.step Process.makes
  cases hnext : s.next iface a.2 a.1 with
  | none => exact ⟨hstop, le_rfl⟩
  | some s' =>
    unfold Process.next at hnext
    split at hnext
    · obtain ⟨pc, rfl, hless⟩ := ownerNext_stopped (h.stop.symm.trans hstop) hnext
      exact ⟨hstop, Nat.succ_le_of_lt (Nat.add_lt_add_right hless _)⟩
    · split_ifs at hnext with ht
      refine ⟨?_, Nat.succ_le_of_lt (remaining_listener ht hstop hnext)⟩
      obtain ⟨pc, -, -, rfl⟩ | ⟨junk, d, -, rfl⟩ | ⟨info, -, -, rfl⟩ | ⟨info, -, rfl⟩ | ⟨-, rfl⟩ :=
        listenerNext_cases hnext <;> exact hstop

theorem Process.remaining_le (s : Process) : s.remaining ≤ 8 * s.created + 2 := by
  have howner : s.owner.remaining s.created ≤ s.created + 2 := by
    cases s.owner with
    | join k => exact Nat.add_le_add_right (Nat.sub_le _ _) 2
    | _ =>
      simp only [Owner.remaining]
      omega
  have hsum : ∑ t ∈ Finset.range s.created, (s.thread t).remaining ≤ s.created * 7 := by
    have hle := Finset.sum_le_card_nsmul (Finset.range s.created) (fun t => (s.thread t).remaining)
      7 fun t _ => (s.thread t).remaining_le
    rwa [Finset.card_range, smul_eq_mul] at hle
  unfold Process.remaining
  omega

/-- **The destructor returns**, under every schedule: until the object is destroyed some thread can
make a step, and once `stop_` is set, `n` listener threads and the owner make `8 n + 2` at most. -/
theorem destructor_returns (sockets iface : List Str) (actions : List (Party × Choice)) :
    let s := Runs.run (Process.step iface) (Process.start sockets) actions
    (s.owner ≠ .destroyed → ∀ c, ∃ p, s.makes iface (p, c) = true) ∧
    (s.stop = true → ∀ more,
      Runs.count (Process.step iface) (Process.makes iface) s more ≤ 8 * s.created + 2) := by
  intro s
  have h : Sound s := sound_run sockets iface actions
  refine ⟨fun hdestroyed c => h.makes hdestroyed c, fun hstop more => ?_⟩
  refine le_trans (Runs.count_le (I := fun q => Sound q ∧ q.stop = true) (fun q a hq => ?_)
    (fun q a hq => (hq.1.stopped_step hq.2 a).2) ⟨h, hstop⟩ more) s.remaining_le
  exact ⟨hq.1.step iface a, (hq.1.stopped_step hq.2 a).1⟩

end Listening
end RcDiscover
