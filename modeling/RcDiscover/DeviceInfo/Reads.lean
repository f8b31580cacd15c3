import RcDiscover.DeviceInfo.Fields
import RcDiscover.Discover

/-!
# What `DeviceInfo::set` reads

`extract` looks at a byte before it looks at the length that is left.  A text without a NUL
therefore makes it read the byte behind the place of the text, and when the body ends there this is
a byte behind the body.

* `bounded raw n`: memory of which only the first `n` bytes may be read; a run over it has a result
  exactly when it reads nothing else;
* `Overruns raw len`: a text of the body fills its place up to the end of the body.

`reads_within_iff` (**main result**): for `set` and for `listenOnSocket`, this is the only case in
which they leave what they were given.
-/

namespace RcDiscover

/-- Memory of which only the bytes in front of `n` may be read. -/
def bounded (raw : ℕ → UInt8) (n i : ℕ) : Option UInt8 := if i < n then some (raw i) else none

namespace DeviceInfo

/-- A text fills its place, and the body ends there. -/
def Overruns (raw : ℕ → UInt8) (len : ℕ) : Prop :=
  ∃ f : TextField, f.present = len ∧ 0 ∉ bytesAt raw f.offset f.size

/-! ### Runs that stay inside -/

/-- A sequence of reads whose outcomes have no influence on what is read. -/
theorem isSome_bind_iff {α β : Type} {x : Option α} {f : α → Option β} {P : Prop}
    (h : ∀ a, (f a).isSome = true ↔ P) : (x >>= f).isSome = true ↔ x.isSome = true ∧ P := by
  cases x with
  | none => simp
  | some a => simpa using h a

section Read

variable {raw : ℕ → UInt8} {p n bound len : ℕ}

theorem bounded_of_lt (h : p < bound) : bounded raw bound p = some (raw p) := if_pos h

theorem bytesAt_succ : bytesAt raw p (n + 1) = raw p :: bytesAt raw (p + 1) n := by
  rw [bytesAt, List.range_succ_eq_map, List.map_cons, List.map_map]
  simp [bytesAt, Function.comp_def, Nat.add_comm, Nat.add_left_comm]

theorem isSome_readInt16 (h : p + 2 ≤ bound) : (readInt16 (bounded raw bound) p).isSome = true := by
  rw [readInt16, bounded_of_lt (by omega), bounded_of_lt (by omega)]
  rfl

theorem isSome_readUint32 (h : p + n ≤ bound) (x : UInt32) :
    (readUint32 (bounded raw bound) p n x).isSome = true := by
  induction n generalizing p x with
  | zero => rfl
  | succ n ih =>
    rw [readUint32, bounded_of_lt (by omega)]
    exact ih (by omega) _

theorem isSome_readUint64 (h : p + n ≤ bound) (x : UInt64) :
    (readUint64 (bounded raw bound) p n x).isSome = true := by
  induction n generalizing p x with
  | zero => rfl
  | succ n ih =>
    rw [readUint64, bounded_of_lt (by omega)]
    exact ih (by omega) _

/-- **What `extract` reads**: the byte behind its place as well, unless a NUL ends the text. -/
theorem isSome_extract_iff (h : p + n ≤ bound) :
    (extract (bounded raw bound) p n).isSome = true ↔ ¬ (p + n = bound ∧ 0 ∉ bytesAt raw p n) := by
  induction n generalizing p with
  | zero =>
    by_cases hp : p < bound
    · rw [extract, bounded_of_lt hp]
      exact iff_of_true rfl fun hend => hp.ne hend.1
    · rw [extract, bounded, if_neg hp]
      exact iff_of_false (by simp) fun hend => hend ⟨by omega, by simp [bytesAt]⟩
  | succ n ih =>
    rw [extract, bounded_of_lt (by omega), bytesAt_succ]
    by_cases h0 : raw p = 0
    · simp [h0]
    · have hrest := ih (p := p + 1) (by omega)
      have hne : (0 : UInt8) ≠ raw p := fun he => h0 he.symm
      simp only [Option.bind_eq_bind, Option.bind_some, ne_eq, h0, not_false_eq_true, if_true,
        List.mem_cons, hne, false_or]
      rw [← Option.bind_eq_bind, isSome_bind_iff fun _ => iff_of_true rfl trivial, hrest]
      simp [Nat.add_assoc, Nat.add_comm 1 n]

variable (raw) in
/-- One of the texts. -/
theorem isSome_text_iff (hlen : len ≤ bound) (f : TextField) (cleared : Str) :
    (if f.present ≤ len then extract (bounded raw bound) f.offset f.size
      else pure cleared).isSome = true ↔
      ¬ (bound = len ∧ f.present = len ∧ 0 ∉ bytesAt raw f.offset f.size) := by
  rw [TextField.present]
  split_ifs with h
  · rw [isSome_extract_iff (h.trans hlen)]
    refine not_congr ⟨fun hend => ⟨by omega, by omega, hend.2⟩, fun hend => ⟨by omega, hend.2.2⟩⟩
  · exact iff_of_true rfl fun hend => h hend.2.1.le

/-- One of the numbers. -/
theorem isSome_number {α : Type} {t : ℕ} {m : Option α} {cleared : α}
    (h : t ≤ len → m.isSome = true) : (if t ≤ len then m else pure cleared).isSome = true := by
  split_ifs with ht
  · exact h ht
  · rfl

/-- **`set` stays inside of the memory** unless it ends with the body, and a text of the body fills
its place up to there. -/
theorem isSome_set_iff (d : DeviceInfo) (hlen : len ≤ bound) :
    (d.set (bounded raw bound) len).isSome = true ↔ ¬ (bound = len ∧ Overruns raw len) := by
  rw [set]
  refine (isSome_bind_iff fun _ => isSome_bind_iff fun _ => isSome_bind_iff fun _ =>
    isSome_bind_iff fun _ => isSome_bind_iff fun _ => isSome_bind_iff fun _ =>
    isSome_bind_iff fun _ => isSome_bind_iff fun _ => isSome_bind_iff fun _ =>
    isSome_bind_iff fun _ => isSome_bind_iff fun _ => isSome_bind_iff fun _ =>
    iff_of_true rfl trivial).trans ?_
  have htext := fun f => isSome_text_iff raw hlen f []
  constructor
  · rintro ⟨-, -, -, -, -, -, h1, h2, h3, h4, h5, h6, -⟩ ⟨hbound, f, hf⟩
    cases f with
    | manufacturerName => exact (htext .manufacturerName).1 h1 ⟨hbound, hf⟩
    | modelName => exact (htext .modelName).1 h2 ⟨hbound, hf⟩
    | deviceVersion => exact (htext .deviceVersion).1 h3 ⟨hbound, hf⟩
    | manufacturerInfo => exact (htext .manufacturerInfo).1 h4 ⟨hbound, hf⟩
    | serialNumber => exact (htext .serialNumber).1 h5 ⟨hbound, hf⟩
    | userName => exact (htext .userName).1 h6 ⟨hbound, hf⟩
  · intro h
    have hall : ∀ f : TextField, _ := fun f => (htext f).2 fun hf => h ⟨hf.1, f, hf.2⟩
    exact ⟨isSome_number fun ht => isSome_readInt16 (by omega),
      isSome_number fun ht => isSome_readInt16 (by omega),
      isSome_number fun ht => isSome_readUint64 (by omega) 0,
      isSome_number fun ht => isSome_readUint32 (by omega) 0,
      isSome_number fun ht => isSome_readUint32 (by omega) 0,
      isSome_number fun ht => isSome_readUint32 (by omega) 0,
      hall .manufacturerName, hall .modelName, hall .deviceVersion, hall .manufacturerInfo,
      hall .serialNumber, hall .userName, trivial⟩

end Read

end DeviceInfo

namespace Discover

open DeviceInfo

/-! ### A datagram -/

/-- The length in the header of the datagram in the buffer `p`. -/
def bodyLength (p : ℕ → UInt8) : ℕ := (p 4).toNat <<< 8 ||| (p 5).toNat

/-- The tests of `listenOnSocket` in front of `set`. -/
def PassesTests (reqNums : List RequestId) (p : ℕ → UInt8) (n : ℤ) : Prop :=
  8 ≤ n ∧ (p 0 = 0 ∧ p 1 = 0 ∧ p 2 = 0 ∧ p 3 = 0x03) ∧ (p 6, p 7) ∈ reqNums ∧ bodyLength p + 8 ≤ n

section Listen

variable {m : Type → Type} [Monad m] [LawfulMonad m] {read : ℕ → m UInt8} {p : ℕ → UInt8}
  {reqNums : List RequestId} {n : ℤ}

/-- A datagram that passes the tests. -/
theorem checkAck_of_passesTests (hread : ∀ i < 8, read i = pure (p i))
    (h : PassesTests reqNums p n) (ifaceName : Str) :
    checkAck read reqNums ifaceName n = do
      let deviceInfo ← (ofIfaceName ifaceName).set (fun i => read (8 + i)) (bodyLength p)
      return if deviceInfo.isValid then some deviceInfo else none := by
  obtain ⟨h8, ⟨h0, h1, h2, h3⟩, hid, hlen⟩ := h
  have hlen' : ¬ n < ((p 4).toNat <<< 8 ||| (p 5).toNat : ℕ) + 8 := not_lt.2 hlen
  simp only [checkAck, not_lt.2 h8, if_false, hread 0 (by decide), hread 1 (by decide),
    hread 2 (by decide), hread 3 (by decide), hread 4 (by decide), hread 5 (by decide),
    hread 6 (by decide), hread 7 (by decide), pure_bind, h0, h1, h2, h3, hid, hlen', ne_eq,
    not_true_eq_false, bodyLength]

/-- Any other datagram. -/
theorem checkAck_of_not_passesTests (hread : 8 ≤ n → ∀ i < 8, read i = pure (p i))
    (h : ¬ PassesTests reqNums p n) (ifaceName : Str) :
    checkAck read reqNums ifaceName n = pure none := by
  by_cases h8 : 8 ≤ n
  · have hread := hread h8
    simp only [checkAck, not_lt.2 h8, if_false, hread 0 (by decide), hread 1 (by decide),
      hread 2 (by decide), hread 3 (by decide), hread 4 (by decide), hread 5 (by decide),
      hread 6 (by decide), hread 7 (by decide), pure_bind]
    split_ifs with h0 h1 h2 h3 hid hlen
    · rfl
    · rfl
    · rfl
    · rfl
    · rfl
    · exact absurd ⟨h8, ⟨not_not.1 h0, not_not.1 h1, not_not.1 h2, not_not.1 h3⟩, hid,
        not_lt.1 hlen⟩ h
    · rfl
  · rw [checkAck, if_pos (not_le.1 h8)]

end Listen

/-- **What `listenOnSocket` reads** of a buffer `p` with `n` received bytes. -/
theorem isSome_checkAck_iff (p : ℕ → UInt8) (reqNums : List RequestId) (ifaceName : Str) (n : ℤ) :
    (checkAck (bounded p n.toNat) reqNums ifaceName n).isSome = true ↔
      ¬ (PassesTests reqNums p n ∧ bodyLength p + 8 = n ∧
        Overruns (fun i => p (8 + i)) (bodyLength p)) := by
  have hread : 8 ≤ n → ∀ i < 8, bounded p n.toNat i = pure (p i) :=
    fun h8 i hi => bounded_of_lt (by omega)
  by_cases hpass : PassesTests reqNums p n
  · obtain ⟨h8, -, -, hlen⟩ := id hpass
    -- the memory from the body on
    have hbody : (fun i => bounded p n.toNat (8 + i)) =
        bounded (fun i => p (8 + i)) (n.toNat - 8) := by
      funext i
      have hlt : 8 + i < n.toNat ↔ i < n.toNat - 8 := by omega
      simp only [bounded, hlt]
    rw [checkAck_of_passesTests (hread h8) hpass, hbody,
      isSome_bind_iff fun _ => iff_of_true rfl trivial, isSome_set_iff _ (by omega)]
    have hend : n.toNat - 8 = bodyLength p ↔ bodyLength p + 8 = n := by omega
    simp [hpass, hend]
  · rw [checkAck_of_not_passesTests hread hpass]
    exact iff_of_true rfl fun h => hpass h.1

/-- **`set` reads nothing outside of the body, and `listenOnSocket` nothing behind the bytes that it
received**, unless a text fills its place up to the end of what there is. -/
theorem reads_within_iff (info : DeviceInfo) (raw : ℕ → UInt8) (len : ℕ) (reqNums : List RequestId)
    (ifaceName : Str) (junk : ℕ → UInt8) (d : Option Bytes) :
    ((info.set (bounded raw len) len).isSome = true ↔ ¬ Overruns raw len) ∧
      let r := recvfrom junk d
      (checkAck (bounded r.1 r.2.toNat) reqNums ifaceName r.2).isSome = true ↔
        ¬ (PassesTests reqNums r.1 r.2 ∧ bodyLength r.1 + 8 = r.2 ∧
          Overruns (fun i => r.1 (8 + i)) (bodyLength r.1)) := by
  refine ⟨?_, isSome_checkAck_iff _ _ _ _⟩
  rw [isSome_set_iff info le_rfl]
  simp

/-- A user name of 16 characters at the end of the body. -/
theorem not_reads_within_full_name :
    ¬ ∀ (d : DeviceInfo) (raw : ℕ → UInt8) (len : ℕ),
      (d.set (bounded raw len) len).isSome = true := by
  intro h
  have hname := h (ofIfaceName []) (fun _ => 0x61) 248
  rw [isSome_set_iff _ le_rfl] at hname
  exact hname ⟨rfl, .userName, rfl, by decide⟩

end Discover
end RcDiscover
