import RcDiscover.Discover.Listening

/-!
# The threads of a `Discover` object do not race

`permission` says who may access a member: `req_nums_` is the owner's until the listener threads
are started, `pending_` belongs to the thread that holds the mutex, and while the members are
destroyed all of them are the owner's.

`raceFree_run`: no interleaving has a data race, a thread that was started has returned and the
mutex is free when the members are destroyed, and nothing is accessed afterwards.
-/

namespace RcDiscover
namespace Listening

open Races

/-- The owner has not come to `startListening`, or destroys the members. -/
def Owner.alone : Owner → Bool
  | clear | ask _ | send _ | destroyMembers | destroyed => true
  | _ => false

/-- The members are destroyed. -/
def Owner.destroys : Owner → Bool
  | destroyMembers => true
  | _ => false

/-- Who may access a member. -/
def Process.permission (s : Process) : Member → Permission Party
  | .sockets | .stop | .mutex | .cv => if s.owner.destroys then .exclusive .owner else .shared
  | .reqNums => if s.owner.alone then .exclusive .owner else .shared
  | .listenerThreads => .exclusive .owner
  | .pending => if s.owner.destroys then .exclusive .owner else .ofHolder s.mutex

variable {s : Process}

theorem permission_pending (s : Process) : s.permission .pending =
    if s.owner.destroys then .exclusive .owner else .ofHolder s.mutex := rfl

theorem accesses_listener (t : ℕ) :
    s.accesses (.listener t) = if t < s.created then (s.thread t).accesses else [] := rfl

/-- All threads have returned once the members are destroyed. -/
theorem Sound.returned (h : Sound s) (hall : s.owner.joined s.created = s.created) {t : ℕ}
    (ht : t < s.created) : s.thread t = .returned := by
  apply h.joined
  omega

/-- While the owner is alone no listener accesses anything. -/
theorem Sound.accesses_of_alone (h : Sound s) (halone : s.owner.alone = true) (t : ℕ) :
    s.accesses (.listener t) = [] := by
  rw [accesses_listener]
  split_ifs with ht
  · have hreturned : s.owner.joined s.created = s.created → (s.thread t).accesses = [] := by
      intro hall
      rw [h.returned hall ht]
      rfl
    have hnone : s.owner.starting = some 0 → (s.thread t).accesses = [] := by
      intro hstarting
      have hcreated := h.starting 0 hstarting
      omega
    cases hpc : s.owner with
    | clear | ask | send => exact hnone (by rw [hpc]; rfl)
    | destroyMembers | destroyed => exact hreturned (by rw [hpc]; rfl)
    | _ =>
      rw [hpc] at halone
      cases halone
  · rfl

/-- A listener accesses what it may. -/
theorem Sound.listener_allowed (h : Sound s) {t : ℕ} {a : Access Member}
    (ha : a ∈ s.accesses (.listener t)) :
    (s.permission a.location).Allows (.listener t) a.write := by
  have halone : s.owner.alone = false := by
    by_contra hne
    rw [h.accesses_of_alone (Bool.eq_true_of_not_eq_false hne) t] at ha
    cases ha
  have hdestroys : s.owner.destroys = false := by
    cases hpc : s.owner with
    | destroyMembers =>
      rw [hpc] at halone
      cases halone
    | _ => rfl
  -- under the mutex the listener is its holder
  have hheld : (s.thread t).inside = true → s.mutex = some (.listener t) :=
    (h.guarded (.listener t)).mpr
  rw [accesses_listener] at ha
  have ht : t < s.created := by
    by_contra hlt
    rw [if_neg hlt] at ha
    cases ha
  rw [if_pos ht] at ha
  cases hpc : s.thread t with
  | pushBack info =>
    rw [hpc] at ha hheld
    obtain rfl := List.mem_singleton.mp ha
    simp only [Process.permission, Access.writes, hdestroys, Bool.false_eq_true, if_false]
    exact Permission.allows_ofHolder.mpr (hheld rfl)
  | check junk d =>
    rw [hpc] at ha
    rcases List.mem_pair.mp ha with rfl | rfl
    · simp [Process.permission, Access.reads, halone, Permission.Allows]
    · simp [Process.permission, Access.reads, hdestroys, Permission.Allows]
  | getHandle | test | lock | unlock | notify =>
    rw [hpc] at ha
    obtain rfl := List.mem_singleton.mp ha
    simp [Process.permission, Access.reads, hdestroys, Permission.Allows]
  | select | returned =>
    rw [hpc] at ha
    cases ha

/-- The owner may read what the mutex does not guard. -/
theorem owner_reads (s : Process) {m : Member} (hm : m ≠ .pending) :
    (s.permission m).Allows .owner false := by
  unfold Process.permission
  cases m with
  | pending => exact absurd rfl hm
  | listenerThreads => rfl
  | _ => split_ifs <;> rfl

/-- The owner may write `req_nums_` until it starts the threads. -/
theorem owner_writes_reqNums (halone : s.owner.alone = true) :
    (s.permission .reqNums).Allows .owner true := by
  unfold Process.permission
  rw [if_pos halone]
  rfl

/-- The owner may access `pending_` while it holds the mutex. -/
theorem owner_pending (hmutex : s.mutex = some .owner) (write : Bool) :
    (s.permission .pending).Allows .owner write := by
  rw [permission_pending]
  split_ifs
  · rfl
  · exact Permission.allows_ofHolder.mpr hmutex

/-- The owner accesses what it may. -/
theorem Sound.owner_allowed (h : Sound s) {a : Access Member} (ha : a ∈ s.accesses .owner) :
    (s.permission a.location).Allows .owner a.write := by
  have hheld : s.owner.inside = true → s.mutex = some .owner := (h.guarded .owner).mpr
  have hmem : a ∈ s.owner.accesses := ha
  cases hpc : s.owner with
  | clear =>
    rw [hpc] at hmem
    obtain rfl := List.mem_singleton.mp hmem
    exact owner_writes_reqNums (by rw [hpc]; rfl)
  | ask k =>
    rw [hpc] at hmem
    rcases List.mem_pair.mp hmem with rfl | rfl
    · exact owner_reads s nofun
    · exact owner_writes_reqNums (by rw [hpc]; rfl)
  | send k =>
    rw [hpc] at hmem
    rcases List.mem_pair.mp hmem with rfl | rfl
    · exact owner_reads s nofun
    · exact owner_reads s nofun
  | startThread k =>
    rw [hpc] at hmem
    rcases List.mem_pair.mp hmem with rfl | rfl
    · exact owner_reads s nofun
    · rfl
  | idle | destroyed =>
    rw [hpc] at hmem
    cases hmem
  | lock | unlock | stop =>
    rw [hpc] at hmem
    obtain rfl := List.mem_singleton.mp hmem
    exact owner_reads s nofun
  | predicate info timedOut =>
    have hmutex := hheld (by rw [hpc]; rfl)
    rw [hpc] at hmem
    rcases List.mem_cons.mp hmem with rfl | hmem
    · exact owner_pending hmutex false
    · rcases List.mem_pair.mp hmem with rfl | rfl
      · exact owner_reads s nofun
      · exact owner_reads s nofun
  | sleeping info =>
    rw [hpc] at hmem
    rcases List.mem_pair.mp hmem with rfl | rfl
    · exact owner_reads s nofun
    · exact owner_reads s nofun
  | result | move | clearPending =>
    have hmutex := hheld (by rw [hpc]; rfl)
    rw [hpc] at hmem
    obtain rfl := List.mem_singleton.mp hmem
    exact owner_pending hmutex _
  | join k =>
    rw [hpc] at hmem
    obtain rfl := List.mem_singleton.mp hmem
    rfl
  | destroyMembers =>
    have halone : s.owner.alone = true := by rw [hpc]; rfl
    have hdestroys : s.owner.destroys = true := by rw [hpc]; rfl
    rw [hpc] at hmem
    obtain ⟨m, -, rfl⟩ := List.mem_map.mp hmem
    cases m with
    | listenerThreads => rfl
    | reqNums => exact owner_writes_reqNums halone
    | sockets | stop | mutex | cv | pending =>
      simp only [Process.permission, Access.writes, hdestroys, if_true]
      rfl

/-- Nobody holds the mutex once all threads were joined. -/
theorem Sound.mutex_free (h : Sound s) (hall : s.owner.joined s.created = s.created)
    (hinside : s.owner.inside = false) : s.mutex = none := by
  cases hmutex : s.mutex with
  | none => rfl
  | some p =>
    have hin := (h.guarded p).mp hmutex
    cases p with
    | owner => cases hinside.symm.trans hin
    | listener t =>
      have hout : (s.thread t).inside = false := by
        by_cases ht : t < s.created
        · rw [h.returned hall ht]
          rfl
        · rw [h.fresh t (Nat.le_of_not_lt ht)]
          rfl
      cases hout.symm.trans hin

/-- **The threads of a `Discover` object do not race**, in any interleaving.  When its members are
destroyed, its threads have returned and its mutex is free, and afterwards nothing accesses them. -/
theorem raceFree_run (sockets iface : List Str) (actions : List (Party × Choice)) :
    let s := Runs.run (Process.step iface) (Process.start sockets) actions
    RaceFree s.accesses ∧
    (s.owner = .destroyMembers → s.mutex = none ∧ ∀ t < s.created, s.thread t = .returned) ∧
    (s.owner = .destroyed → ∀ p, s.accesses p = []) := by
  intro s
  have h : Sound s := sound_run sockets iface actions
  refine ⟨raceFree_of_permissions s.permission fun p a ha => ?_, fun hpc => ?_, fun hpc p => ?_⟩
  · cases p with
    | owner => exact h.owner_allowed ha
    | listener t => exact h.listener_allowed ha
  · have hall : s.owner.joined s.created = s.created := by rw [hpc]; rfl
    exact ⟨h.mutex_free hall (by rw [hpc]; rfl), fun t ht => h.returned hall ht⟩
  · cases p with
    | owner =>
      show s.owner.accesses = []
      rw [hpc]
      rfl
    | listener t => exact h.accesses_of_alone (by rw [hpc]; rfl) t

end Listening
end RcDiscover
