import Mathlib.Tactic

/-!
# `rcdiscover/gige_request_counter.cc`

The process-wide counter behind the request ids of GVCP: `getNext` steps it through
`1, 2, …, 65535, 1, …` (never `0`) and returns the two bytes of the new value.

`iterate_nextValue` is the closed form of the cycle; `toId_iterate_injective` is what response
matching rests on: fewer than a full cycle of calls return pairwise distinct ids.  `Drawn` is what
one thread draws among others, and `Drawn.nodup_ids` says that these ids are distinct.
-/

namespace RcDiscover

/-- A request id: its high and its low byte, as `getNext` returns them. -/
abbrev RequestId := UInt8 × UInt8

namespace GigERequestCounter

/-- The value that replaces `current` in the counter; 0 is skipped. -/
def nextValue (current : ℕ) : ℕ := if current = 65535 then 1 else current + 1

/-- `std::make_tuple(new_value >> 8, new_value)`, each cut to a byte. -/
def toId (value : ℕ) : RequestId := (UInt8.ofNat (value >>> 8), UInt8.ofNat value)

/-- `GigERequestCounter::getNext` on the counter value, undisturbed by other threads. -/
def getNext (counter : ℕ) : RequestId × ℕ := (toId (nextValue counter), nextValue counter)

theorem nextValue_le {n : ℕ} (h : n ≤ 65535) : nextValue n ≤ 65535 := by
  unfold nextValue
  split_ifs <;> omega

/-- The cycle in closed form. -/
theorem iterate_nextValue {n : ℕ} (h : n ≤ 65535) (k : ℕ) :
    nextValue^[k + 1] n = (n + k) % 65535 + 1 := by
  induction k with
  | zero => simp only [zero_add, Function.iterate_one, nextValue]; split_ifs <;> omega
  | succ k ih =>
    rw [Function.iterate_succ_apply', ih, nextValue]
    split_ifs <;> omega

/-- A 16-bit value is determined by its two bytes. -/
theorem toId_injOn {v w : ℕ} (hv : v < 65536) (hw : w < 65536) (h : toId v = toId w) : v = w := by
  simp only [toId, Prod.mk.injEq, ← UInt8.toNat_inj, UInt8.toNat_ofNat',
    Nat.shiftRight_eq_div_pow] at h
  omega

/-- Two different calls within one cycle return different ids. -/
theorem toId_iterate_injective {n j k : ℕ} (h : n ≤ 65535) (hj : j < 65535) (hk : k < 65535)
    (he : toId (nextValue^[j + 1] n) = toId (nextValue^[k + 1] n)) : j = k := by
  rw [iterate_nextValue h, iterate_nextValue h] at he
  have := toId_injOn (by omega) (by omega) he
  omega

/-- The id that the process draws after `k` others. -/
def idOfDraw (k : ℕ) : RequestId := toId (nextValue^[k + 1] 0)

/-- Two draws with the same id lie whole cycles apart. -/
theorem mod_eq_of_idOfDraw_eq {j k : ℕ} (h : idOfDraw j = idOfDraw k) :
    j % 65535 = k % 65535 := by
  rw [idOfDraw, idOfDraw, iterate_nextValue (by decide), iterate_nextValue (by decide)] at h
  have := toId_injOn (by omega) (by omega) h
  omega

/-- Draws of one thread, one after the other, while the process goes from `n` draws to `n'`. -/
structure Drawn (n n' : ℕ) (draws : List ℕ) : Prop where
  le : n ≤ n'
  within : ∀ k ∈ draws, n ≤ k ∧ k < n'
  increasing : draws.Pairwise (· < ·)

theorem drawn_nil (n : ℕ) : Drawn n n [] := ⟨le_rfl, by simp, .nil⟩

/-- One more draw in front, after those of other threads. -/
theorem Drawn.cons {n others n' : ℕ} {draws : List ℕ} (h : Drawn (n + others + 1) n' draws) :
    Drawn n n' ((n + others) :: draws) where
  le := by
    have := h.le
    omega
  within := by
    have hle := h.le
    refine List.forall_mem_cons.2 ⟨by omega, fun k hk => ?_⟩
    have := h.within k hk
    omega
  increasing := by
    refine List.pairwise_cons.2 ⟨fun k hk => ?_, h.increasing⟩
    have := h.within k hk
    omega

/-- The ids are distinct when the process draws fewer than 65536 of them meanwhile. -/
theorem Drawn.nodup_ids {n n' : ℕ} {draws : List ℕ} (h : Drawn n n' draws) (hn : n' - n < 65536) :
    (draws.map idOfDraw).Nodup := by
  rw [List.nodup_iff_pairwise_ne, List.pairwise_map]
  refine h.increasing.imp_of_mem fun {a b} ha hb hlt he => ?_
  have := h.within a ha
  have := h.within b hb
  have := mod_eq_of_idOfDraw_eq he
  omega

/-- `id` is one of the next `m` ids. -/
def Upcoming (counter m : ℕ) (id : RequestId) : Prop :=
  ∃ j < m, id = toId (nextValue^[j + 1] counter)

theorem upcoming_mono {n m m' : ℕ} {id : RequestId} (h : m ≤ m') (hid : Upcoming n m id) :
    Upcoming n m' id := by
  obtain ⟨j, hj, he⟩ := hid
  exact ⟨j, hj.trans_le h, he⟩

theorem upcoming_getNext (n m : ℕ) : Upcoming n (m + 1) (getNext n).1 := ⟨0, by omega, rfl⟩

theorem upcoming_of_next {n m : ℕ} {id : RequestId} (h : Upcoming (getNext n).2 m id) :
    Upcoming n (m + 1) id := by
  obtain ⟨j, hj, rfl⟩ := h
  exact ⟨j + 1, by omega, rfl⟩

/-- An id does not come again within one cycle. -/
theorem not_upcoming_getNext {n m : ℕ} (hn : n ≤ 65535) (hm : m < 65535) :
    ¬ Upcoming (getNext n).2 m (getNext n).1 := by
  rintro ⟨j, hj, he⟩
  have h := toId_iterate_injective hn (j := 0) (k := j + 1) (by omega) (by omega) he
  omega

end GigERequestCounter

end RcDiscover
