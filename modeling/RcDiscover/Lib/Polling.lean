import RcDiscover.Lib.Runs
import Mathlib.Logic.Relation

/-!
# Polling a source until a deadline has passed

A loop polls a source that waits for something: a poll that finds nothing takes at least
`interval`.  It reads the clock in its body, behind the poll, and goes on after a poll that found
something, or when the time that it read last is less than `deadline` behind the start.

* `State`: the times of the loop, the number of its polls without success, and its phase;
* `Step`: what the loop and the clock do;
* `Paced`: what holds of the polls without success in each phase.

`Paced.run` with `Paced.misses_le`: when `deadline ≤ limit * interval`, at most `limit + 1` polls
find nothing.  The additional one is there because the time that is tested is from before the poll.
-/

namespace Polling

/-- In front of the loop, in front of a poll, in front of the test, in the body, or behind the
loop. -/
inductive Phase
  | before
  | polling
  | polled (hit : Bool)
  | body
  | left
  deriving DecidableEq, Repr

/-- The loop: when it began, the time it read last, the clock, and the polls that found nothing. -/
structure State where
  tstart : ℕ
  tend : ℕ
  now : ℕ
  misses : ℕ
  phase : Phase

section

variable (interval deadline : ℕ)

/-- What the loop and the clock do.  A loop can be left at any time. -/
inductive Step : State → State → Prop
  | pass (p : State) (n : ℕ) : Step p { p with now := p.now + n }
  | enter (p : State) (h : p.phase = .before) :
    Step p { p with tstart := p.now, tend := p.now, phase := .polling }
  | hit (p : State) (h : p.phase = .polling) :
    Step p { p with phase := .polled true }
  | miss (p : State) (h : p.phase = .polling) (hwait : p.tend + interval ≤ p.now) :
    Step p { p with misses := p.misses + 1, phase := .polled false }
  | fail (p : State) (h : p.phase = .polling) :
    Step p { p with misses := p.misses + 1, phase := .left }
  | again (p : State) {hit : Bool} (h : p.phase = .polled hit)
    (htest : hit = true ∨ p.tend - p.tstart < deadline) : Step p { p with phase := .body }
  | read (p : State) (h : p.phase = .body) : Step p { p with tend := p.now, phase := .polling }
  | leave (p : State) : Step p { p with phase := .left }

/-- In `limit` polls that find nothing the deadline passes. -/
def Within (limit : ℕ) (p : State) : Phase → Prop
  | .before => p.misses = 0
  | .polling | .polled true => p.tstart + p.misses * interval ≤ p.tend ∧ p.misses ≤ limit
  -- the clock has not been read after this poll
  | .polled false => ∃ m, p.misses = m + 1 ∧ p.tstart + m * interval ≤ p.tend ∧ m ≤ limit ∧
    p.tend + interval ≤ p.now
  | .body => p.tstart + p.misses * interval ≤ p.now ∧ p.misses ≤ limit
  | .left => p.misses ≤ limit + 1

/-- The clock does not go back, and the polls that found nothing are within the time. -/
structure Paced (limit : ℕ) (p : State) : Prop where
  start : p.tstart ≤ p.tend
  clock : p.tend ≤ p.now
  within : Within interval limit p p.phase

end

variable {interval deadline limit : ℕ} {p q : State}

theorem Within.misses_le {phase : Phase} (h : Within interval limit p phase) :
    p.misses ≤ limit + 1 := by
  rcases phase with _ | _ | (_ | _) | _ | _
  · rw [show p.misses = 0 from h]
    exact Nat.zero_le _
  · exact h.2.trans (Nat.le_succ _)
  · obtain ⟨m, hm, -, hle, -⟩ := h
    rw [hm]
    exact Nat.succ_le_succ hle
  · exact h.2.trans (Nat.le_succ _)
  · exact h.2.trans (Nat.le_succ _)
  · exact h

/-- What the clock has passed stays passed. -/
theorem Within.pass {phase : Phase} (h : Within interval limit p phase) (n : ℕ) :
    Within interval limit { p with now := p.now + n } phase := by
  rcases phase with _ | _ | (_ | _) | _ | _
  · exact h
  · exact h
  · obtain ⟨m, hm, hpaid, hle, hwait⟩ := h
    exact ⟨m, hm, hpaid, hle, hwait.trans (Nat.le_add_right _ _)⟩
  · exact h
  · exact ⟨h.1.trans (Nat.le_add_right _ _), h.2⟩
  · exact h

/-- A poll that found nothing is followed by another one in time only. -/
theorem Within.again {hit : Bool} (hlimit : deadline ≤ limit * interval) (hclock : p.tend ≤ p.now)
    (h : Within interval limit p (.polled hit))
    (htest : hit = true ∨ p.tend - p.tstart < deadline) : Within interval limit p .body := by
  cases hit with
  | true => exact ⟨h.1.trans hclock, h.2⟩
  | false =>
    obtain ⟨m, hm, hpaid, -, hwait⟩ := h
    have hin : p.tend - p.tstart < deadline := htest.resolve_left Bool.false_ne_true
    have hlt : m * interval < limit * interval := by omega
    refine ⟨?_, ?_⟩
    · rw [hm, Nat.succ_mul]
      omega
    · rw [hm]
      exact Nat.lt_of_mul_lt_mul_right hlt

/-- **One step of the loop or of the clock.** -/
theorem Paced.step (hlimit : deadline ≤ limit * interval) (h : Paced interval limit p)
    (hstep : Step interval deadline p q) : Paced interval limit q := by
  obtain ⟨hstart, hclock, hwithin⟩ := h
  cases hstep with
  | pass n => exact ⟨hstart, hclock.trans (Nat.le_add_right _ _), hwithin.pass n⟩
  | enter hphase =>
    rw [hphase] at hwithin
    have hmisses : p.misses = 0 := hwithin
    exact ⟨le_rfl, le_rfl, by simp [Within, hmisses]⟩
  | hit hphase =>
    rw [hphase] at hwithin
    exact ⟨hstart, hclock, hwithin⟩
  | miss hphase hwait =>
    rw [hphase] at hwithin
    exact ⟨hstart, hclock, p.misses, rfl, hwithin.1, hwithin.2, hwait⟩
  | fail hphase =>
    rw [hphase] at hwithin
    exact ⟨hstart, hclock, Nat.succ_le_succ hwithin.2⟩
  | again hphase htest =>
    rw [hphase] at hwithin
    exact ⟨hstart, hclock, hwithin.again hlimit hclock htest⟩
  | read hphase =>
    rw [hphase] at hwithin
    exact ⟨hstart.trans hclock, le_rfl, hwithin⟩
  | leave => exact ⟨hstart, hclock, hwithin.misses_le⟩

/-- **Every run of the loop.** -/
theorem Paced.run (hlimit : deadline ≤ limit * interval) (h : Paced interval limit p)
    (hrun : Relation.ReflTransGen (Step interval deadline) p q) : Paced interval limit q := by
  induction hrun with
  | refl => exact h
  | tail _ hstep ih => exact ih.step hlimit hstep

/-- The polls that find nothing are one more than the deadline has room for. -/
theorem Paced.misses_le (h : Paced interval limit p) : p.misses ≤ limit + 1 :=
  h.within.misses_le

/-- A machine whose steps are steps of the loop, under a condition on its steps. -/
theorem run_of_along {σ ω : Type*} {step : σ → ω → σ} {C : σ → ω → Prop} (f : σ → State)
    (hsim : ∀ s op, C s op →
      Relation.ReflTransGen (Step interval deadline) (f s) (f (step s op)))
    {s : σ} {ops : List ω} (h : Runs.Along step C s ops) :
    Relation.ReflTransGen (Step interval deadline) (f s) (f (Runs.run step s ops)) := by
  induction ops generalizing s with
  | nil => exact .refl
  | cons op ops ih => exact (hsim s op h.1).trans (ih h.2)

end Polling
