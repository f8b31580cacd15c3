import Mathlib.Tactic

/-!
# A word that is repeated behind a preamble

A message starts with a preamble of equal letters and repeats a word of the same length behind it.

* `signal a n u`: the letter `a` as often as `u` is long, and `n` copies of `u`.

`infix_signal_iff` (**main result**): when something follows that does not start with the letter of
the preamble, the message has the signal of no other word in it, at no place.
-/

namespace Repetitions

variable {α : Type*} {a : α} {n : ℕ} {u v w : List α}

/-- The letter `a` as often as `u` is long, and `n` copies of `u`. -/
def signal (a : α) (n : ℕ) (u : List α) : List α :=
  List.replicate u.length a ++ (List.replicate n u).flatten

@[simp] theorem length_signal : (signal a n u).length = u.length + n * u.length := by
  simp [signal]

theorem getElem?_preamble {i : ℕ} (h : i < u.length) : (signal a n u)[i]? = some a := by
  have hi : i < (List.replicate u.length a).length := by rwa [List.length_replicate]
  rw [signal, List.getElem?_append_left hi, List.getElem?_replicate_of_lt h]

/-- The letters of the copies. -/
theorem getElem?_copy {k i : ℕ} (hk : k < n) (hi : i < u.length) :
    (signal a n u)[u.length + k * u.length + i]? = u[i]? := by
  have hflat : ((List.replicate n u).flatten)[k * u.length + i]? = u[i]? := by
    induction n generalizing k with
    | zero => omega
    | succ n ih =>
      rw [List.replicate_succ, List.flatten_cons]
      cases k with
      | zero =>
        rw [Nat.zero_mul, Nat.zero_add, List.getElem?_append_left hi]
      | succ k =>
        have hle : u.length ≤ (k + 1) * u.length + i := by
          rw [Nat.succ_mul]
          omega
        rw [List.getElem?_append_right hle, Nat.succ_mul,
          show k * u.length + u.length + i - u.length = k * u.length + i by omega]
        exact ih (by omega)
  have hpreamble : (List.replicate u.length a).length ≤ u.length + k * u.length + i := by
    rw [List.length_replicate]
    omega
  rw [signal, List.getElem?_append_right hpreamble, List.length_replicate,
    show u.length + k * u.length + i - u.length = k * u.length + i by omega, hflat]

/-- The signal determines its word. -/
theorem signal_injective (hn : 0 < n) (hlen : u.length = v.length)
    (h : signal a n u = signal a n v) : u = v := by
  apply List.ext_getElem? fun i => ?_
  by_cases hi : i < u.length
  · have hu := getElem?_copy (a := a) hn hi
    have hv := getElem?_copy (a := a) hn (hlen ▸ hi)
    rw [← hu, ← hv, h, hlen]
  · rw [List.getElem?_eq_none (by omega), List.getElem?_eq_none (by omega)]

/-- A signal that starts later would have the letter of the preamble at its end. -/
theorem not_signal_at {d : ℕ} (hn : 2 ≤ n) (hlen : v.length = u.length) (hd : 0 < d)
    (hdu : d ≤ u.length) (hw : w.head? ≠ some a)
    (h : ∀ i < (signal a n v).length, (signal a n u ++ w)[d + i]? = (signal a n v)[i]?) :
    False := by
  obtain ⟨m, rfl⟩ : ∃ m, n = m + 2 := ⟨n - 2, by omega⟩
  have hmul : (m + 2) * u.length = (m + 1) * u.length + u.length := Nat.succ_mul _ _
  have hle : u.length ≤ (m + 1) * u.length := Nat.le_mul_of_pos_left _ (Nat.succ_pos m)
  have hsize : (signal a (m + 2) u).length = u.length + ((m + 1) * u.length + u.length) := by
    rw [length_signal, hmul]
  -- a place of the other signal inside the message
  have hinside : ∀ i j, i + d = j → j < (signal a (m + 2) u).length →
      (signal a (m + 2) u)[j]? = (signal a (m + 2) v)[i]? := by
    intro i j hij hj
    have hi : i < (signal a (m + 2) v).length := by
      rw [length_signal, hlen, ← length_signal (a := a) (u := u)]
      omega
    have hat := h i hi
    rwa [Nat.add_comm d i, hij, List.getElem?_append_left hj] at hat
  -- the word of the message starts where the preamble of the other signal still goes on
  have hstart : u[0]? = some a := by
    have hat := hinside (u.length - d) u.length (by omega) (by omega)
    have hcopy := getElem?_copy (a := a) (n := m + 2) (k := 0) (i := 0) (u := u) (by omega)
      (by omega)
    have hpreamble := getElem?_preamble (a := a) (n := m + 2) (i := u.length - d) (u := v)
      (by omega)
    rw [Nat.zero_mul, Nat.add_zero, Nat.add_zero] at hcopy
    exact hcopy.symm.trans (hat.trans hpreamble)
  -- so the letter that comes last over the end of the message is that of the preamble
  have hfirst : v[u.length - d]? = some a := by
    have hat := hinside (u.length + (u.length - d)) (u.length + u.length) (by omega) (by omega)
    have hcopy := getElem?_copy (a := a) (n := m + 2) (k := 1) (i := 0) (u := u) (by omega)
      (by omega)
    have hother := getElem?_copy (a := a) (n := m + 2) (k := 0) (i := u.length - d) (u := v)
      (by omega) (by omega)
    rw [Nat.zero_mul, Nat.add_zero, hlen] at hother
    rw [Nat.one_mul, Nat.add_zero, hstart] at hcopy
    exact hother.symm.trans (hat.symm.trans hcopy)
  -- and the last copy ends with the first letter behind the message
  have hlast := getElem?_copy (a := a) (n := m + 2) (k := m + 1) (i := u.length - d) (u := v)
    (by omega) (by omega)
  have hat := h (u.length + (m + 1) * u.length + (u.length - d)) <| by
    rw [length_signal, hlen]
    omega
  have hend : d + (u.length + (m + 1) * u.length + (u.length - d)) =
      (signal a (m + 2) u).length := by omega
  rw [hlen, hfirst] at hlast
  rw [hend, List.getElem?_append_right le_rfl, Nat.sub_self, hlast] at hat
  exact hw (List.head?_eq_getElem?.trans hat)

/-- **The signal of a word occurs only in the message with this word.** -/
theorem infix_signal_iff (hn : 2 ≤ n) (hlen : v.length = u.length) (hw : w.head? ≠ some a)
    (hwu : w.length ≤ u.length) : signal a n v <:+: signal a n u ++ w ↔ v = u := by
  constructor
  · rintro ⟨pre, post, h⟩
    have hlength := congrArg List.length h
    simp only [List.length_append, length_signal, hlen] at hlength
    rcases Nat.eq_zero_or_pos pre.length with hpre | hpre
    · rw [List.length_eq_zero_iff.mp hpre, List.nil_append] at h
      have hprefix := (List.append_inj h (by rw [length_signal, length_signal, hlen])).1
      exact signal_injective (by omega) hlen hprefix
    · refine (not_signal_at hn hlen hpre (by omega) hw fun i hi => ?_).elim
      rw [← h, List.append_assoc, List.getElem?_append_right (by omega), Nat.add_sub_cancel_left,
        List.getElem?_append_left hi]
  · rintro rfl
    exact ⟨[], w, rfl⟩

end Repetitions
