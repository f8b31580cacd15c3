import RcDiscover.Lib.CasLoop
import RcDiscover.RequestCounter
import Mathlib.Data.BitVec

/-!
# `getNext` called by many threads

`GigERequestCounter::getNext` as the compare-exchange loop that it is, on the static counter of
type `uint_fast16_t`.  That type has 16 bits or more, so its values are `BitVec (16 + extra)`.

`getNext_threads` is what the matching of responses rests on: over every interleaving the results
run through the cycle `1, 2, …, 65535, 1, …`, no id comes twice within a full cycle, and no two
calls return the result of the same exchange.
-/

namespace RcDiscover
namespace GigERequestCounter

open CasLoop

/-- What a request id is asked for. -/
inductive Caller
  | discover
  | forceIP
  | gvcpIPConfig
  deriving DecidableEq, Repr

variable {extra : ℕ}

/-- `new_value`. -/
def newValue (current : BitVec (16 + extra)) : BitVec (16 + extra) :=
  -- skip 0
  if current = BitVec.ofNat _ 65535 then 1
  else current + 1

/-- The returned tuple. -/
def tuple (v : BitVec (16 + extra)) : RequestId :=
  (UInt8.ofNat (v >>> 8).toNat, UInt8.ofNat v.toNat)

theorem tuple_eq (v : BitVec (16 + extra)) : tuple v = toId v.toNat := by
  rw [tuple, toId, BitVec.toNat_ushiftRight]

/-- Below 65536 nothing is cut off, however wide the counter is. -/
theorem toNat_newValue {v : BitVec (16 + extra)} (h : v.toNat ≤ 65535) :
    (newValue v).toNat = nextValue v.toNat := by
  have hpow : 65536 ≤ 2 ^ (16 + extra) := by
    rw [Nat.pow_add]
    exact Nat.le_mul_of_pos_right 65536 (Nat.two_pow_pos extra)
  have hmax : v = BitVec.ofNat _ 65535 ↔ v.toNat = 65535 := by
    rw [← BitVec.toNat_inj, BitVec.toNat_ofNat, Nat.mod_eq_of_lt (by omega)]
  have hone : (1 : BitVec (16 + extra)).toNat = 1 := by
    change 1 % 2 ^ (16 + extra) = 1
    exact Nat.mod_eq_of_lt (by omega)
  rw [newValue, nextValue]
  by_cases hv : v.toNat = 65535
  · rw [if_pos (hmax.2 hv), if_pos hv, hone]
  · rw [if_neg (mt hmax.1 hv), if_neg hv, BitVec.toNat_add, hone, Nat.mod_eq_of_lt (by omega)]

theorem toNat_iterate_newValue (n : ℕ) :
    (newValue^[n] (0 : BitVec (16 + extra))).toNat = nextValue^[n] 0 ∧ nextValue^[n] 0 ≤ 65535 := by
  induction n with
  | zero => exact ⟨by simp, by simp⟩
  | succ n ih =>
    rw [Function.iterate_succ_apply', Function.iterate_succ_apply', toNat_newValue (ih.1 ▸ ih.2),
      ih.1]
    exact ⟨rfl, nextValue_le ih.2⟩

/-- The counter and the threads that call `getNext`, from the start of the process. -/
abbrev Process (ι : Type) (extra : ℕ) := CasLoop.State ι Caller (BitVec (16 + extra))

/-- The process after the given atomic steps. -/
def runThreads {ι : Type} [DecidableEq ι] (extra : ℕ) (ops : List (Op ι Caller)) :
    Process ι extra :=
  Runs.run (CasLoop.step newValue) (init 0) ops

variable {ι : Type} [DecidableEq ι]

variable (extra) in
theorem consistent_runThreads (ops : List (Op ι Caller)) :
    Consistent newValue 0 (runThreads extra ops) :=
  consistent_run newValue 0 ops

variable (extra) in
/-- The successful exchanges follow the cycle. -/
theorem values_runThreads (ops : List (Op ι Caller)) :
    (runThreads extra ops).exchanged.map (fun r => r.value.toNat) =
      (List.range (runThreads extra ops).exchanged.length).map fun k => k % 65535 + 1 := by
  have h := congrArg (List.map BitVec.toNat) (consistent_runThreads extra ops).values
  rw [List.map_map, List.map_map] at h
  refine Eq.trans h (List.map_congr_left fun k _ => ?_)
  rw [Function.comp_apply, (toNat_iterate_newValue (k + 1)).1, iterate_nextValue (by decide),
    zero_add]

/-- The ids of a part of the cycle are distinct. -/
theorem nodup_toId_cycle (i n : ℕ) (hn : n ≤ 65535) :
    ((List.range n).map fun j => toId ((i + j) % 65535 + 1)).Nodup := by
  refine List.Nodup.map_on ?_ List.nodup_range
  intro j hj k hk he
  rw [List.mem_range] at hj hk
  have := toId_injOn (by omega) (by omega) he
  omega

/-- A part of a list that is given by its positions. -/
theorem part_eq_map_range {α : Type*} {l before part after : List α} {f : ℕ → α}
    (hl : l = (List.range l.length).map f) (hsplit : before ++ part ++ after = l) :
    part = (List.range part.length).map fun j => f (before.length + j) := by
  refine List.ext_getElem (by simp) fun j hj _ => ?_
  have hget : l[before.length + j]? = some part[j] := by
    rw [← hsplit, List.append_assoc, List.getElem?_append_right (by omega),
      Nat.add_sub_cancel_left, List.getElem?_append_left hj, List.getElem?_eq_getElem hj]
  have hlt : before.length + j < l.length := by
    rw [← hsplit]
    simp only [List.length_append]
    omega
  rw [hl, List.getElem?_map, List.getElem?_range hlt, Option.map_some, Option.some.injEq] at hget
  rw [List.getElem_map, List.getElem_range, ← hget]

/-- **No id is zero and none repeats within a full cycle**, for every interleaving. -/
theorem getNext_threads (extra : ℕ) (ops : List (Op ι Caller)) :
    let s := runThreads extra ops
    s.shared.toNat ≤ 65535 ∧
    (∀ r ∈ s.returned, r ∈ s.exchanged ∧
      ∃ v, 1 ≤ v ∧ v ≤ 65535 ∧ tuple r.value = toId v) ∧
    s.returned.Subperm s.exchanged ∧
    (∀ i, s.returned.filter (·.thread = i) <+: s.exchanged.filter (·.thread = i)) ∧
    s.exchanged.map (fun r => tuple r.value) =
      (List.range s.exchanged.length).map (fun k => toId (k % 65535 + 1)) ∧
    ∀ part, part <:+: s.exchanged → part.length ≤ 65535 →
      (part.map fun r => tuple r.value).Nodup := by
  intro s
  have hcons : Consistent newValue 0 s := consistent_runThreads extra ops
  have hown : OwnResults s := ownResults_run newValue 0 ops
  have hvalues := values_runThreads extra ops
  have hids : s.exchanged.map (fun r => tuple r.value) =
      (List.range s.exchanged.length).map (fun k => toId (k % 65535 + 1)) := by
    have h := congrArg (List.map toId) hvalues
    rw [List.map_map, List.map_map] at h
    refine Eq.trans (List.map_congr_left fun r _ => ?_) h
    exact tuple_eq r.value
  refine ⟨?_, ?_, hown.subperm, hown.inOrder, hids, ?_⟩
  · rw [hcons.shared, (toNat_iterate_newValue _).1]
    exact (@toNat_iterate_newValue extra _).2
  · intro r hr
    have hr' := hcons.returned r hr
    refine ⟨hr', r.value.toNat, ?_⟩
    have hmem : r.value.toNat ∈ (List.range s.exchanged.length).map fun k => k % 65535 + 1 := by
      rw [← hvalues]
      exact List.mem_map_of_mem hr'
    obtain ⟨k, -, hk⟩ := List.mem_map.1 hmem
    exact ⟨by omega, by omega, tuple_eq r.value⟩
  · rintro part ⟨before, after, hsplit⟩ hlen
    have hmap : s.exchanged.map (fun r => tuple r.value) =
        (List.range (s.exchanged.map fun r => tuple r.value).length).map
          fun k => toId (k % 65535 + 1) := by
      rw [List.length_map]
      exact hids
    have hids_split : before.map (fun r => tuple r.value) ++ part.map (fun r => tuple r.value) ++
        after.map (fun r => tuple r.value) = s.exchanged.map fun r => tuple r.value := by
      rw [← List.map_append, ← List.map_append, hsplit]
    have hpart := part_eq_map_range hmap hids_split
    rw [List.length_map, List.length_map] at hpart
    rw [hpart]
    exact nodup_toId_cycle before.length part.length hlen

/-- A call that is alone is `getNext`. -/
theorem run_undisturbed_getNext {s : Process ι extra} {i : ι} (k : Caller)
    (hi : s.threads i = .idle) (hs : s.shared.toNat ≤ 65535) :
    ∃ v, Runs.run (CasLoop.step newValue) s [.call i k, .load i, .exchange i false, .ret i] =
        { s with
          shared := v
          exchanged := s.exchanged ++ [⟨i, k, v⟩]
          returned := s.returned ++ [⟨i, k, v⟩] } ∧
      (tuple v, v.toNat) = getNext s.shared.toNat :=
  ⟨newValue s.shared, run_undisturbed newValue k hi, by
    rw [tuple_eq, toNat_newValue hs, getNext]⟩

end GigERequestCounter
end RcDiscover
