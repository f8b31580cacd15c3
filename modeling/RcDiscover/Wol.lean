import RcDiscover.Discover
import RcDiscover.Lib.BigEndian

/-!
# `rcdiscover/wol.cc`

A `WOL` object sends a magic packet on every interface: six bytes `FF`, sixteen copies of the
hardware address, and a password of four bytes.  The sockets are made for each call.

* `WolEnv`: the sockets, which may refuse everything that is done with them;
* `HandsOut`: what a call of `send` hands to the sockets, and `handsOut_magicPacket` that this is
  the magic packet, for every run.
-/

namespace RcDiscover

open Program BigEndian
open Discover (Tolerated)

/-- What `send` throws: an exception of a socket, or `OperationNotPermitted`. -/
inductive WolException
  | socket (e : SocketException)
  | operationNotPermitted
  deriving DecidableEq, Repr

/-- The calls that leave the file. -/
structure WolEnv (σ : Type) where
  /-- The number of sockets that are made for the port. -/
  createAndBindForAllInterfaces : UInt16 → σ → Except WolException ℕ × σ
  enableBroadcast : ℕ → σ → Except SocketException Unit × σ
  enableNonBlocking : ℕ → σ → Except SocketException Unit × σ
  send : ℕ → Bytes → σ → Except SocketException Unit × σ

/-- The environment that also records the calls of `send`. -/
def WolEnv.logged {σ : Type} (env : WolEnv σ) : WolEnv (σ × List SendCall) where
  createAndBindForAllInterfaces port s :=
    let r := env.createAndBindForAllInterfaces port s.1
    (r.1, (r.2, s.2))
  enableBroadcast k s :=
    let r := env.enableBroadcast k s.1
    (r.1, (r.2, s.2))
  enableNonBlocking k s :=
    let r := env.enableNonBlocking k s.1
    (r.1, (r.2, s.2))
  send k p s :=
    let r := env.send k p s.1
    (r.1, (r.2, s.2 ++ [⟨k, p, thrownBy r.1⟩]))

section Logged

variable {σ : Type} (env : WolEnv σ) (s : σ) (log : List SendCall)

@[simp] theorem logged_createAndBindForAllInterfaces (port : UInt16) :
    env.logged.createAndBindForAllInterfaces port (s, log) =
      ((env.createAndBindForAllInterfaces port s).1,
        ((env.createAndBindForAllInterfaces port s).2, log)) := rfl

@[simp] theorem logged_enableBroadcast (k : ℕ) :
    env.logged.enableBroadcast k (s, log) =
      ((env.enableBroadcast k s).1, ((env.enableBroadcast k s).2, log)) := rfl

@[simp] theorem logged_enableNonBlocking (k : ℕ) :
    env.logged.enableNonBlocking k (s, log) =
      ((env.enableNonBlocking k s).1, ((env.enableNonBlocking k s).2, log)) := rfl

@[simp] theorem WolEnv.logged_send (k : ℕ) (p : Bytes) :
    env.logged.send k p (s, log) = ((env.send k p s).1, ((env.send k p s).2,
      log ++ [⟨k, p, thrownBy (env.send k p s).1⟩])) := rfl

end Logged

/-- No socket refuses to be set up. -/
def WolEnv.SetsUp {σ : Type} (env : WolEnv σ) : Prop :=
  ∀ k s, (env.enableBroadcast k s).1 = .ok () ∧ (env.enableNonBlocking k s).1 = .ok ()

/-- `WOL`. -/
structure WOL where
  hardwareAddr : Vector UInt8 6
  port : UInt16
  deriving DecidableEq, Repr

namespace WOL

/-! ### The magic packet -/

/-- `toByteArray<num>`. -/
def toByteArray (num : ℕ) (data : UInt64) : Vector UInt8 num :=
  Vector.ofFn fun i => ((data >>> UInt64.ofNat ((num - 1 - i) * 8)) &&& 0xFF).toUInt8

/-- The constructor for a number. -/
def ofNumber (hardwareAddr : UInt64) (port : UInt16) : WOL := ⟨toByteArray 6 hardwareAddr, port⟩

/-- The constructor for an array. -/
def ofArray (hardwareAddr : Vector UInt8 6) (port : UInt16) : WOL := ⟨hardwareAddr, port⟩

/-- `appendMagicPacket`. -/
def appendMagicPacket (wol : WOL) (sendbuf : Bytes) (password : Option (Vector UInt8 4)) : Bytes :=
  let sendbuf := sendbuf ++ List.replicate 6 0xFF
  let sendbuf := sendbuf ++ (List.replicate 16 wol.hardwareAddr.toList).flatten
  match password with
  | some password => sendbuf ++ password.toList
  | none => sendbuf

section Sending

variable {σ : Type} (env : WolEnv σ)

/-- A call on a socket. -/
def onSocket (f : σ → Except SocketException Unit × σ) : Program σ WolException Unit :=
  ofExcept fun s => ((f s).1.mapError .socket, (f s).2)

/-- The loop of `sendImpl` over so many sockets from position `k` on. -/
def sendLoop (wol : WOL) (password : Option (Vector UInt8 4)) :
    ℕ → ℕ → Program σ WolException Unit
  | _, 0 => pure ()
  | k, n + 1 => do
    let sendbuf := wol.appendMagicPacket [] password
    onSocket (env.enableBroadcast k)
    onSocket (env.enableNonBlocking k)
    tryCatch (onSocket (env.send k sendbuf)) fun
      | .socket (.networkUnreachableException _ _) => pure ()
      | e => throw e
    sendLoop wol password (k + 1) n

/-- `sendImpl`. -/
def sendImpl (wol : WOL) (password : Option (Vector UInt8 4)) : Program σ WolException Unit := do
  let n ← ofExcept (env.createAndBindForAllInterfaces wol.port)
  sendLoop env wol password 0 n

/-- `send` with a password. -/
def send (wol : WOL) (password : Vector UInt8 4) : Program σ WolException Unit :=
  sendImpl env wol (some password)

/-- One socket of the loop. -/
theorem exec_sendLoop_succ (wol : WOL) (password : Option (Vector UInt8 4)) (k n : ℕ) (s : σ) :
    exec (sendLoop env wol password k (n + 1)) s =
      match env.enableBroadcast k s with
      | (.error e, t) => (.error (.socket e), t)
      | (.ok _, t) =>
        match env.enableNonBlocking k t with
        | (.error e, t) => (.error (.socket e), t)
        | (.ok _, t) =>
          match env.send k (wol.appendMagicPacket [] password) t with
          | (.error (.socketException msg errnum), t) =>
            (.error (.socket (.socketException msg errnum)), t)
          | (_, t) => exec (sendLoop env wol password (k + 1) n) t := by
  simp only [sendLoop, onSocket, exec_bind, exec_tryCatch, exec_ofExcept]
  rcases env.enableBroadcast k s with ⟨_ | _, s₁⟩
  · rfl
  simp only [Except.mapError]
  rcases env.enableNonBlocking k s₁ with ⟨_ | _, s₂⟩
  · rfl
  simp only
  rcases env.send k (wol.appendMagicPacket [] password) s₂ with ⟨(_ | _) | _, s₃⟩ <;> rfl

end Sending

/-! ### Every run -/

section Runs

variable {σ : Type} (env : WolEnv σ)

/-- **Every run of the loop** hands out the magic packet only, and hands it to all sockets when
they can be set up and the only failures of `send` are unreachable networks. -/
theorem sendLoop_logged (wol : WOL) (password : Option (Vector UInt8 4)) (k n : ℕ) (s : σ)
    (log : List SendCall) :
    ∃ (calls : List SendCall) (res : Except WolException Unit) (t : σ),
      exec (sendLoop env.logged wol password k n) (s, log) = (res, (t, log ++ calls)) ∧
      (∀ c ∈ calls, c.packet = wol.appendMagicPacket [] password) ∧
      (env.SetsUp → (∀ c ∈ calls, Tolerated c.thrown) →
        res = .ok () ∧ calls.map SendCall.socket = List.range' k n) := by
  induction n generalizing k s log with
  | zero => exact ⟨[], .ok (), s, by simp [sendLoop], by simp, by simp⟩
  | succ n ih =>
    rw [exec_sendLoop_succ, logged_enableBroadcast]
    rcases hbroadcast : env.enableBroadcast k s with ⟨e | _, s₁⟩
    · refine ⟨[], .error (.socket e), s₁, by simp, by simp, fun h => ?_⟩
      have := (h k s).1
      simp [hbroadcast] at this
    simp only [logged_enableNonBlocking]
    rcases hblocking : env.enableNonBlocking k s₁ with ⟨e | _, s₂⟩
    · refine ⟨[], .error (.socket e), s₂, by simp, by simp, fun h => ?_⟩
      have := (h k s₁).2
      simp [hblocking] at this
    simp only [WolEnv.logged_send]
    rcases env.send k (wol.appendMagicPacket [] password) s₂ with ⟨r, s₃⟩
    obtain ⟨calls, res, t, hrun, hpackets, hok⟩ := ih (k + 1) s₃
      (log ++ [⟨k, wol.appendMagicPacket [] password, thrownBy r⟩])
    have hrest : ∃ (calls : List SendCall) (res : Except WolException Unit) (t : σ),
        exec (sendLoop env.logged wol password (k + 1) n)
          (s₃, log ++ [⟨k, wol.appendMagicPacket [] password, thrownBy r⟩]) =
          (res, (t, log ++ calls)) ∧
        (∀ c ∈ calls, c.packet = wol.appendMagicPacket [] password) ∧
        (env.SetsUp → (∀ c ∈ calls, Tolerated c.thrown) →
          res = .ok () ∧ calls.map SendCall.socket = List.range' k (n + 1)) := by
      refine ⟨⟨k, wol.appendMagicPacket [] password, thrownBy r⟩ :: calls, res, t, by simp [hrun],
        List.forall_mem_cons.2 ⟨rfl, hpackets⟩, fun hup h => ?_⟩
      obtain ⟨hres, hsockets⟩ := hok hup fun c hc => h c (List.mem_cons_of_mem _ hc)
      exact ⟨hres, by rw [List.map_cons, hsockets, List.range'_succ]⟩
    rcases r with (⟨msg, errnum⟩ | ⟨msg, errnum⟩) | _
    · exact ⟨[⟨k, wol.appendMagicPacket [] password, some (.socketException msg errnum)⟩],
        .error (.socket (.socketException msg errnum)), s₃, rfl, by simp,
        fun _ h => (h _ List.mem_cons_self).elim⟩
    · exact hrest
    · exact hrest

/-- **Every run of `send`** hands out the magic packet. -/
theorem send_logged (wol : WOL) (password : Vector UInt8 4) (s : σ) (log : List SendCall) :
    ∃ (calls : List SendCall) (res : Except WolException Unit) (u : σ),
      exec (wol.send env.logged password) (s, log) = (res, (u, log ++ calls)) ∧
      (∀ c ∈ calls, c.packet = wol.appendMagicPacket [] (some password)) ∧
      ∀ n t, env.createAndBindForAllInterfaces wol.port s = (.ok n, t) → env.SetsUp →
        (∀ c ∈ calls, Tolerated c.thrown) →
          res = .ok () ∧ calls.map SendCall.socket = List.range n := by
  rcases hcreate : env.createAndBindForAllInterfaces wol.port s with ⟨e | n, t⟩
  · refine ⟨[], .error e, t, ?_, by simp, fun _ _ h => by simp at h⟩
    simp [send, sendImpl, exec_bind, hcreate]
  · obtain ⟨calls, res, u, hloop, hpackets, hok⟩ :=
      sendLoop_logged env wol (some password) 0 n t log
    refine ⟨calls, res, u, ?_, hpackets, fun n' t' h hup htolerated => ?_⟩
    · simp [send, sendImpl, exec_bind, hcreate, hloop]
    · obtain ⟨rfl, rfl⟩ : n = n' ∧ t = t' := by simpa using h
      obtain ⟨hres, hsockets⟩ := hok hup htolerated
      exact ⟨hres, hsockets.trans List.range_eq_range'.symm⟩

end Runs

/-- A call of `send` hands `p` to the sockets and nothing else.  It hands it to each socket once
when they can be made and set up and the only failures of `send` are unreachable networks. -/
def HandsOut (wol : WOL) (password : Vector UInt8 4) (p : Bytes) : Prop :=
  ∀ (σ : Type) (env : WolEnv σ) (s : σ),
    let run := exec (wol.send env.logged password) (s, [])
    (∀ c ∈ run.2.2, c.packet = p) ∧
    ∀ n t, env.createAndBindForAllInterfaces wol.port s = (.ok n, t) → env.SetsUp →
      (∀ c ∈ run.2.2, Tolerated c.thrown) →
        run.1 = .ok () ∧ run.2.2.map SendCall.socket = List.range n

theorem handsOut_magicPacket (wol : WOL) (password : Vector UInt8 4) :
    wol.HandsOut password (wol.appendMagicPacket [] (some password)) := by
  intro σ env s run
  obtain ⟨calls, res, u, hrun, h⟩ := send_logged env wol password s []
  have hrun' : run = (res, (u, calls)) := hrun
  rw [hrun']
  exact h

/-- The magic packet for six bytes and a password. -/
theorem appendMagicPacket_eq (wol : WOL) (password : Vector UInt8 4) :
    wol.appendMagicPacket [] (some password) =
      List.replicate 6 0xFF ++ (List.replicate 16 wol.hardwareAddr.toList).flatten ++
        password.toList := rfl

/-- The shift loop takes out the big-endian bytes. -/
theorem toList_toByteArray (m : UInt64) : (toByteArray 6 m).toList = digits 6 m.toNat := by
  have hbyte : ∀ k < 6, ((m >>> UInt64.ofNat (k * 8)) &&& 0xFF).toUInt8 =
      UInt8.ofNat (m.toNat >>> (8 * k)) := by
    intro k hk
    have hshift : (UInt64.ofNat (k * 8)).toNat % 64 = 8 * k := by
      rw [UInt64.toNat_ofNat']
      omega
    rw [← UInt8.toNat_inj, UInt64.toNat_toUInt8, UInt64.toNat_and, UInt64.toNat_shiftRight, hshift,
      UInt8.toNat_ofNat', show (0xFF : UInt64).toNat = 2 ^ 8 - 1 from rfl,
      Nat.and_two_pow_sub_one_eq_mod, Nat.mod_mod]
  rw [toByteArray, Vector.toList_ofFn, List.ofFn_eq_map]
  change [5, 4, 3, 2, 1, 0].map (fun k => ((m >>> UInt64.ofNat (k * 8)) &&& 0xFF).toUInt8) = _
  simp only [List.map_cons, List.map_nil]
  rw [hbyte 5 (by decide), hbyte 4 (by decide), hbyte 3 (by decide), hbyte 2 (by decide),
    hbyte 1 (by decide), hbyte 0 (by decide)]
  rfl

end WOL
end RcDiscover
