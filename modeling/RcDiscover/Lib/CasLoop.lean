import RcDiscover.Lib.Runs

/-!
# Compare-exchange loops

Threads that advance a shared value by a function `f`.  A call loads the value, computes `f` of
it, and tries to replace the one by the other with a compare-exchange, which compares values and
may also fail spuriously; it starts again when that fails.

* `State`, `Op`, `step`: every atomic step of every thread.  An operation that its thread is not
  at does nothing, so that a list of operations is an interleaving, and every list is one;
* `Consistent`: the shared value and the successful exchanges follow the iterates of `f`, whatever
  was loaded in between;
* `OwnResults`: a thread returns what its own exchanges have put in place, in their order.

`consistent_run` and `ownResults_run` (**main results**): this holds after every interleaving, and
so every call that has returned has an exchange of its own (`OwnResults.subperm`).
-/

namespace CasLoop

/-- Where a thread is in a call made for the purpose `k`. -/
inductive Control (κ α : Type*)
  | idle
  | loading (k : κ)
  | exchanging (k : κ) (current : α)
  | returning (k : κ) (value : α)

/-- A finished call: who made it, for what, and the value it put in place. -/
structure Result (ι κ α : Type*) where
  thread : ι
  purpose : κ
  value : α
  deriving DecidableEq

/-- The shared value, the threads, and what they have done: the successful exchanges in their
order, and the calls that have returned. -/
structure State (ι κ α : Type*) where
  shared : α
  threads : ι → Control κ α
  exchanged : List (Result ι κ α)
  returned : List (Result ι κ α)

/-- One atomic step of the thread `i`. -/
inductive Op (ι κ : Type*)
  | call (i : ι) (k : κ)
  | load (i : ι)
  | exchange (i : ι) (spurious : Bool)
  | ret (i : ι)

variable {ι κ α : Type*}

/-- All threads are idle. -/
def init (a : α) : State ι κ α := ⟨a, fun _ => .idle, [], []⟩

/-- What the thread `i` is about to return. -/
def Control.result (i : ι) : Control κ α → List (Result ι κ α)
  | .returning k v => [⟨i, k, v⟩]
  | _ => []

theorem Control.result_of_ne {c : Control κ α} (i : ι) (hc : ∀ k v, c ≠ .returning k v) :
    c.result i = [] := by
  cases c with
  | idle => rfl
  | loading k => rfl
  | exchanging k current => rfl
  | returning k v => exact absurd rfl (hc k v)

section Step

variable [DecidableEq ι]

/-- The thread `i` goes on at `c`. -/
def State.goto (s : State ι κ α) (i : ι) (c : Control κ α) : State ι κ α :=
  { s with threads := Function.update s.threads i c }

/-- A compare-exchange of the thread `i` that puts `v` in place. -/
def State.succeed (s : State ι κ α) (i : ι) (k : κ) (v : α) : State ι κ α :=
  { s.goto i (.returning k v) with shared := v, exchanged := s.exchanged ++ [⟨i, k, v⟩] }

@[simp] theorem goto_threads_self (s : State ι κ α) (i : ι) (c : Control κ α) :
    (s.goto i c).threads i = c := by
  simp [State.goto]

theorem goto_threads_of_ne (s : State ι κ α) {i j : ι} (h : j ≠ i) (c : Control κ α) :
    (s.goto i c).threads j = s.threads j := by
  simp [State.goto, h]

/-- One step of the machine. -/
def step [DecidableEq α] (f : α → α) (s : State ι κ α) : Op ι κ → State ι κ α
  | .call i k =>
    match s.threads i with
    | .idle => s.goto i (.loading k)
    | _ => s
  | .load i =>
    match s.threads i with
    | .loading k => s.goto i (.exchanging k s.shared)
    | _ => s
  | .exchange i spurious =>
    match s.threads i with
    | .exchanging k current =>
      if current = s.shared ∧ spurious = false then s.succeed i k (f current)
      else s.goto i (.loading k)
    | _ => s
  | .ret i =>
    match s.threads i with
    | .returning k v => { s.goto i .idle with returned := s.returned ++ [⟨i, k, v⟩] }
    | _ => s

/-- Everything that a step can do. -/
theorem step_cases [DecidableEq α] (f : α → α) (s : State ι κ α) (op : Op ι κ) :
    step f s op = s ∨
    (∃ i c, (∀ k v, s.threads i ≠ .returning k v) ∧ (∀ k v, c ≠ .returning k v) ∧
      step f s op = s.goto i c) ∨
    (∃ i k, s.threads i = .exchanging k s.shared ∧ step f s op = s.succeed i k (f s.shared)) ∨
    (∃ i k v, s.threads i = .returning k v ∧
      step f s op = { s.goto i .idle with returned := s.returned ++ [⟨i, k, v⟩] }) := by
  cases op with
  | call i k =>
    simp only [step]
    split
    · next hi => exact .inr (.inl ⟨i, .loading k, by simp [hi], by simp, rfl⟩)
    · exact .inl rfl
  | load i =>
    simp only [step]
    split
    · next k hi => exact .inr (.inl ⟨i, _, by simp [hi], by simp, rfl⟩)
    · exact .inl rfl
  | exchange i spurious =>
    simp only [step]
    split
    · next k current hc =>
      split_ifs with h
      · obtain ⟨rfl, -⟩ := h
        exact .inr (.inr (.inl ⟨i, k, hc, rfl⟩))
      · exact .inr (.inl ⟨i, _, by simp [hc], by simp, rfl⟩)
    · exact .inl rfl
  | ret i =>
    simp only [step]
    split
    · next k v hc => exact .inr (.inr (.inr ⟨i, k, v, hc, rfl⟩))
    · exact .inl rfl

end Step

/-! ### The invariant -/

/-- The successful exchanges have put the iterates of `f` in place, one after the other, and a
call returns what its exchange has put there. -/
structure Consistent (f : α → α) (a : α) (s : State ι κ α) : Prop where
  values : s.exchanged.map Result.value =
    (List.range s.exchanged.length).map fun k => f^[k + 1] a
  shared : s.shared = f^[s.exchanged.length] a
  returning : ∀ i k v, s.threads i = .returning k v → ⟨i, k, v⟩ ∈ s.exchanged
  returned : ∀ r ∈ s.returned, r ∈ s.exchanged

theorem consistent_init (f : α → α) (a : α) : Consistent f a (init a : State ι κ α) where
  values := rfl
  shared := rfl
  returning _ _ _ h := nomatch h
  returned _ h := nomatch h

variable {f : α → α} {a : α} {s : State ι κ α} [DecidableEq ι]

theorem Consistent.goto (h : Consistent f a s) {i : ι} {c : Control κ α}
    (hc : ∀ k v, c ≠ .returning k v) : Consistent f a (s.goto i c) where
  values := h.values
  shared := h.shared
  returned := h.returned
  returning j k v hj := by
    by_cases hji : j = i
    · subst hji
      rw [goto_threads_self] at hj
      exact absurd hj (hc k v)
    · rw [goto_threads_of_ne s hji] at hj
      exact h.returning j k v hj

/-- Only the exchange counts, since it compares with the value that is there now. -/
theorem Consistent.succeed (h : Consistent f a s) (i : ι) (k : κ) :
    Consistent f a (s.succeed i k (f s.shared)) where
  values := by
    simp [State.succeed, h.values, h.shared, List.range_succ, Function.iterate_succ_apply']
  shared := by
    simp [State.succeed, h.shared, Function.iterate_succ_apply']
  returning j l v hj := by
    by_cases hji : j = i
    · subst hji
      simp only [State.succeed, goto_threads_self, Control.returning.injEq] at hj
      obtain ⟨rfl, rfl⟩ := hj
      exact List.mem_append_right _ (List.mem_singleton_self _)
    · simp only [State.succeed, goto_threads_of_ne s hji] at hj
      exact List.mem_append_left _ (h.returning j l v hj)
  returned r hr := List.mem_append_left _ (h.returned r hr)

theorem Consistent.ret (h : Consistent f a s) {i : ι} {k : κ} {v : α}
    (hi : s.threads i = .returning k v) :
    Consistent f a { s.goto i .idle with returned := s.returned ++ [⟨i, k, v⟩] } where
  values := h.values
  shared := h.shared
  returning := (h.goto (by simp)).returning
  returned r hr := by
    rcases List.mem_append.1 hr with hr | hr
    · exact h.returned r hr
    · rw [List.mem_singleton.1 hr]
      exact h.returning i k v hi

theorem Consistent.step [DecidableEq α] (h : Consistent f a s) (op : Op ι κ) :
    Consistent f a (step f s op) := by
  rcases step_cases f s op with hs | ⟨i, c, -, hc, hs⟩ | ⟨i, k, -, hs⟩ | ⟨i, k, v, hi, hs⟩
  · rwa [hs]
  · rw [hs]
    exact h.goto hc
  · rw [hs]
    exact h.succeed i k
  · rw [hs]
    exact h.ret hi

/-- **Every interleaving is consistent.** -/
theorem consistent_run [DecidableEq α] (f : α → α) (a : α) (ops : List (Op ι κ)) :
    Consistent f a (Runs.run (CasLoop.step f) (init a) ops) :=
  Runs.run_invariant (fun _ op h => h.step op) (consistent_init f a) ops

/-! ### Whose exchange -/

/-- Every thread returns the results of its own exchanges, each once and in their order. -/
def OwnResults (s : State ι κ α) : Prop :=
  ∀ i, s.exchanged.filter (·.thread = i) =
    s.returned.filter (·.thread = i) ++ (s.threads i).result i

/-- The calls of a thread return in the order of its exchanges. -/
theorem OwnResults.inOrder (h : OwnResults s) (i : ι) :
    s.returned.filter (·.thread = i) <+: s.exchanged.filter (·.thread = i) :=
  ⟨(s.threads i).result i, (h i).symm⟩

/-- **Every call that has returned has an exchange of its own.** -/
theorem OwnResults.subperm (h : OwnResults s) : s.returned.Subperm s.exchanged := by
  classical
  rw [List.subperm_ext_iff]
  intro r _
  have hcount : ∀ l : List (Result ι κ α), (l.filter (·.thread = r.thread)).count r = l.count r :=
    fun l => List.count_filter (by simp)
  have hle := (h.inOrder r.thread).sublist.count_le r
  rwa [hcount, hcount] at hle

variable [DecidableEq α]

/-- Every step keeps the results of a thread together. -/
theorem OwnResults.step (h : OwnResults s) (op : Op ι κ) : OwnResults (step f s op) := by
  intro j
  have hj := h j
  rcases step_cases f s op with hs | ⟨i, c, hi, hc, hs⟩ | ⟨i, k, hi, hs⟩ | ⟨i, k, v, hi, hs⟩
  · rwa [hs]
  · rw [hs]
    by_cases hji : j = i
    · subst hji
      rw [Control.result_of_ne j hi] at hj
      rw [goto_threads_self, Control.result_of_ne j hc]
      exact hj
    · rw [goto_threads_of_ne s hji]
      exact hj
  · -- the result of the exchange is to be returned
    rw [hs]
    by_cases hji : j = i
    · subst hji
      rw [hi] at hj
      simp only [State.succeed, List.filter_append, hj, State.goto]
      simp [Control.result]
    · have hij : ¬ i = j := fun heq => hji heq.symm
      simp only [State.succeed, List.filter_append, hj, State.goto, Function.update_of_ne hji]
      simp [hij]
  · rw [hs]
    by_cases hji : j = i
    · subst hji
      rw [hi] at hj
      simp only [List.filter_append, State.goto, hj]
      simp [Control.result]
    · have hij : ¬ i = j := fun heq => hji heq.symm
      simp only [List.filter_append, State.goto, hj, Function.update_of_ne hji]
      simp [hij]

/-- **Every interleaving** keeps the results of a thread together. -/
theorem ownResults_run (f : α → α) (a : α) (ops : List (Op ι κ)) :
    OwnResults (Runs.run (CasLoop.step f) (init a) ops) :=
  Runs.run_invariant (fun _ op h => h.step op) (fun _ => rfl) ops

/-- A call that no other thread disturbs, and whose exchange does not fail spuriously. -/
theorem run_undisturbed (f : α → α) {i : ι} (k : κ) (hi : s.threads i = .idle) :
    Runs.run (CasLoop.step f) s [.call i k, .load i, .exchange i false, .ret i] =
      { s with
        shared := f s.shared
        exchanged := s.exchanged ++ [⟨i, k, f s.shared⟩]
        returned := s.returned ++ [⟨i, k, f s.shared⟩] } := by
  have hthreads : Function.update s.threads i .idle = s.threads := by
    rw [← hi, Function.update_eq_self]
  simp [CasLoop.step, hi, State.goto, State.succeed, hthreads]

end CasLoop
