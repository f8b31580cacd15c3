import RcDiscover.Gvcp.Plan
import RcDiscover.Lib.Destutter

/-!
# The claim and release discipline of `writeConfig`

Whatever the network and the device do, the requests of `writeConfig` are bracketed: the
claim of `GevCCP` first, then the settings one after the other as long as they succeed, then
one release.  `Discipline` states the shape for the exchanges of a run together with the
outcome; `requestsSent` reads the sequence of requests off a log of datagrams by dropping
retransmissions.
-/

namespace RcDiscover
namespace Gvcp

open Program

/-! ### The shape of a run -/

/-- The requests between claim and release, when the mode register held `mode`. -/
def settings (c : IPConfig) (mode : UInt32) : List RegisterRequest :=
  (if c.persistentIpEnabled then
    [.write gevPersistentIpAddress c.persistentIp,
      .write gevPersistentSubnetMask c.persistentSubnet,
      .write gevPersistentDefaultGateway c.persistentGateway]
  else []) ++
    [.read gevCurrentIpConfiguration, .write gevCurrentIpConfiguration (newMode c mode)]

theorem settings_address_ne {c : IPConfig} {mode : UInt32} {r : RegisterRequest}
    (h : r ∈ settings c mode) : r.address ≠ gevCcp := by
  have haddr : ∀ r ∈ settings c mode, r.address ∈ [gevPersistentIpAddress,
      gevPersistentSubnetMask, gevPersistentDefaultGateway, gevCurrentIpConfiguration] := by
    unfold settings
    split_ifs <;> simp [RegisterRequest.address]
  intro hccp
  have := haddr r h
  rw [hccp] at this
  revert this
  decide

/-- Every read of the mode register that succeeded returned `mode`. -/
def ReadsMode (mode : UInt32) (xs : List Exchange) : Prop :=
  ∀ x ∈ xs, ∀ v, x.request = .read gevCurrentIpConfiguration → x.result = .ok v → v = mode

/-- The exchanges of a run of `writeConfig` and its outcome. -/
inductive Discipline (c : IPConfig) : List Exchange → Except GvcpException Unit → Prop
  | claimFailed {claim : Exchange} {e : GvcpException} :
      claim.request = .write gevCcp 1 → claim.FailedWith e →
      Discipline c [claim] (.error e)
  | settled {claim release : Exchange} {middle : List Exchange} {mode : UInt32} :
      claim.request = .write gevCcp 1 → claim.Succeeded →
      middle.map Exchange.request = settings c mode → ReadsMode mode middle →
      (∀ x ∈ middle, x.Succeeded) →
      release.request = .write gevCcp 0 →
      Discipline c (claim :: middle ++ [release]) (.ok ())
  | aborted {claim x release : Exchange} {pre : List Exchange} {mode : UInt32}
      {e : GvcpException} :
      claim.request = .write gevCcp 1 → claim.Succeeded →
      (pre ++ [x]).map Exchange.request <+: settings c mode → ReadsMode mode (pre ++ [x]) →
      (∀ y ∈ pre, y.Succeeded) → x.FailedWith e →
      release.request = .write gevCcp 0 →
      Discipline c (claim :: (pre ++ [x]) ++ [release]) (.error e)

section Cut

variable {α : Type*} {l pre post : List α} {x y : α}

/-- An element of `l ++ [y]` other than `y` lies in `l`, with everything in front of it. -/
theorem append_singleton_prefix_of_ne (h : l ++ [y] = pre ++ x :: post) (hne : y ≠ x) :
    pre ++ [x] <+: l := by
  rcases List.eq_nil_or_concat post with rfl | ⟨post', z, rfl⟩
  · obtain ⟨-, hlast⟩ := List.append_inj' h rfl
    exact absurd (List.singleton_inj.1 hlast) hne
  · rw [List.concat_eq_append, ← List.cons_append, ← List.append_assoc] at h
    obtain ⟨rfl, -⟩ := List.append_inj' h rfl
    exact ⟨post', by rw [List.append_assoc, List.singleton_append]⟩

theorem mem_of_prefix_append_singleton (h : pre ++ [x] <+: l ++ [y]) {z : α} (hz : z ∈ pre) :
    z ∈ l := by
  have hlen : pre.length ≤ l.length := by
    have := h.length_le
    rw [List.length_append, List.length_append] at this
    exact Nat.le_of_add_le_add_right this
  have hpre : pre <+: l ++ [y] := (List.prefix_append pre [x]).trans h
  exact (List.prefix_of_prefix_length_le hpre (List.prefix_append l [y]) hlen).subset hz

end Cut

namespace Discipline

variable {c : IPConfig} {xs : List Exchange} {res : Except GvcpException Unit}

/-- A request other than the release is issued when all before it have succeeded, and in the
order of the settings. -/
theorem issued_in_order (h : Discipline c xs res) {pre post : List Exchange} {x : Exchange}
    (hx : xs = pre ++ x :: post) (hrel : x.request ≠ .write gevCcp 0) :
    ∃ mode, (pre ++ [x]).map Exchange.request <+: .write gevCcp 1 :: settings c mode ∧
      ∀ y ∈ pre, y.Succeeded := by
  -- `x` is in `claim :: middle`, all of which but its last is known to have succeeded
  have hcut : ∀ {claim release : Exchange} {middle : List Exchange},
      release.request = .write gevCcp 0 → claim :: middle ++ [release] = pre ++ x :: post →
      pre ++ [x] <+: claim :: middle := by
    intro claim release middle hr he
    refine append_singleton_prefix_of_ne he ?_
    rintro rfl
    exact hrel hr
  cases h with
  | @claimFailed claim e hclaim he =>
    obtain ⟨rfl, rfl, rfl⟩ : pre = [] ∧ claim = x ∧ post = [] := by
      cases pre <;> simp_all
    exact ⟨0, by simp [hclaim], by simp⟩
  | @settled claim release middle mode hclaim hsucc hmid _ hok hr =>
    have hin := hcut hr hx
    refine ⟨mode, ?_, fun y hy => ?_⟩
    · simpa [hclaim, hmid] using hin.map Exchange.request
    · rcases List.mem_cons.1 (hin.subset (List.mem_append_left _ hy)) with rfl | hy
      · exact hsucc
      · exact hok y hy
  | @aborted claim z release before mode e hclaim hsucc hmid _ hok _ hr =>
    have hin := hcut hr hx
    refine ⟨mode, ?_, fun y hy => ?_⟩
    · refine (hin.map Exchange.request).trans ?_
      rw [List.map_cons, hclaim]
      exact (List.prefix_cons_inj _).2 hmid
    · rcases List.mem_cons.1 (mem_of_prefix_append_singleton (l := claim :: before) hin hy) with
        rfl | hy
      · exact hsucc
      · exact hok y hy

/-- The mode register is not written before all requested persistent registers have been
acknowledged. -/
theorem persistent_before_mode (h : Discipline c xs res) (hc : c.persistentIpEnabled = true)
    {pre post : List Exchange} {x : Exchange} {v : UInt32} (hx : xs = pre ++ x :: post)
    (hreq : x.request = .write gevCurrentIpConfiguration v) :
    ∀ r ∈ [RegisterRequest.write gevPersistentIpAddress c.persistentIp,
        .write gevPersistentSubnetMask c.persistentSubnet,
        .write gevPersistentDefaultGateway c.persistentGateway],
      ∃ y ∈ pre, y.request = r ∧ y.Succeeded := by
  obtain ⟨mode, hpre, hok⟩ :=
    h.issued_in_order hx (by simp [hreq, gevCcp, gevCurrentIpConfiguration])
  suffices hmap : pre.map Exchange.request = [.write gevCcp 1,
      .write gevPersistentIpAddress c.persistentIp,
      .write gevPersistentSubnetMask c.persistentSubnet,
      .write gevPersistentDefaultGateway c.persistentGateway, .read gevCurrentIpConfiguration] by
    intro r hr
    have hmem : r ∈ pre.map Exchange.request := by
      rw [hmap]
      simp only [List.mem_cons, List.not_mem_nil, or_false] at hr ⊢
      tauto
    obtain ⟨y, hy, rfl⟩ := List.mem_map.1 hmem
    exact ⟨y, hy, rfl, hok y hy⟩
  rw [List.map_append, List.map_singleton, hreq] at hpre
  generalize pre.map Exchange.request = reqs at hpre
  rw [settings, if_pos hc] at hpre
  -- the only write of the mode register is the sixth request
  rcases reqs with _ | ⟨r₁, _ | ⟨r₂, _ | ⟨r₃, _ | ⟨r₄, _ | ⟨r₅, _ | ⟨r₆, reqs⟩⟩⟩⟩⟩⟩ <;>
    simp_all [gevCcp, gevCurrentIpConfiguration, gevPersistentIpAddress, gevPersistentSubnetMask,
      gevPersistentDefaultGateway]

/-- The run throws exactly what a request other than the release failed with. -/
theorem throws_iff (h : Discipline c xs res) (e : GvcpException) :
    res = .error e ↔ ∃ x ∈ xs, x.request ≠ .write gevCcp 0 ∧ x.FailedWith e := by
  have hne : ∀ {x : Exchange}, x.Succeeded → ¬ x.FailedWith e := by
    rintro x ⟨v, hv⟩ he
    rw [Exchange.FailedWith, hv] at he
    cases he
  cases h with
  | @claimFailed claim e' hclaim he =>
    have hreq : claim.request ≠ .write gevCcp 0 := by rw [hclaim]; decide
    simp only [List.mem_singleton, exists_eq_left, Exchange.FailedWith] at he ⊢
    simp [he, hreq]
  | @settled claim release middle mode hclaim hsucc hmid _ hok hr =>
    refine ⟨nofun, ?_⟩
    rintro ⟨x, hx, hreq, hfail⟩
    rcases List.mem_append.1 hx with hx | hx
    · rcases List.mem_cons.1 hx with rfl | hx
      · exact absurd hfail (hne hsucc)
      · exact absurd hfail (hne (hok x hx))
    · exact absurd (List.mem_singleton.1 hx ▸ hr) hreq
  | @aborted claim z release before mode e' hclaim hsucc hmid _ hok he hr =>
    constructor
    · intro h
      cases h
      refine ⟨z, by simp, fun hz => ?_, he⟩
      exact settings_address_ne (r := z.request) (hmid.subset (by simp)) (by rw [hz]; rfl)
    · rintro ⟨x, hx, hreq, hfail⟩
      rcases List.mem_append.1 hx with hx | hx
      · rcases List.mem_cons.1 hx with rfl | hx
        · exact absurd hfail (hne hsucc)
        rcases List.mem_append.1 hx with hx | hx
        · exact absurd hfail (hne (hok x hx))
        · rw [List.mem_singleton.1 hx, Exchange.FailedWith, he] at hfail
          rw [Except.error.inj hfail]
      · exact absurd (List.mem_singleton.1 hx ▸ hr) hreq

end Discipline

/-! ### The settings as a plan -/

/-- The last two settings. -/
def modePlan (c : IPConfig) : Plan :=
  .request (.read gevCurrentIpConfiguration) fun mode =>
    .request (.write gevCurrentIpConfiguration (newMode c mode)) fun _ => .done

/-- The body of the `try` block of `writeConfig` as a plan. -/
def settingsPlan (c : IPConfig) : Plan :=
  if c.persistentIpEnabled then
    .request (.write gevPersistentIpAddress c.persistentIp) fun _ =>
      .request (.write gevPersistentSubnetMask c.persistentSubnet) fun _ =>
        .request (.write gevPersistentDefaultGateway c.persistentGateway) fun _ => modePlan c
  else modePlan c

theorem exec_writeSettings {σ : Type} (env : SocketEnv σ) (c : IPConfig) (s : σ) :
    exec (writeSettings env c) s = exec ((settingsPlan c).run env) s := by
  have hwrite : ∀ (a v : UInt32) (m : Program σ GvcpException Unit) (p : Plan),
      (∀ s, exec m s = exec (p.run env) s) → ∀ s,
      exec (writeRegister env a v >>= fun _ => m) s =
        exec ((Plan.request (.write a v) fun _ => p).run env) s := by
    intro a v m p h s
    rw [Plan.run, exec_bind, exec_bind, exec_writeRegister]
    rcases exec ((RegisterRequest.write a v).perform env) s with ⟨e | x, t⟩
    · rfl
    · exact h t
  have hmode : ∀ s, exec (readRegister env gevCurrentIpConfiguration >>= fun mode =>
      writeRegister env gevCurrentIpConfiguration (newMode c mode)) s =
        exec ((modePlan c).run env) s := by
    intro s
    rw [modePlan, Plan.run, exec_bind, exec_bind, exec_readRegister]
    rcases exec ((RegisterRequest.read gevCurrentIpConfiguration).perform env) s with ⟨e | x, t⟩
    · rfl
    · simp only [Plan.run, exec_writeRegister, exec_bind]
      rcases exec ((RegisterRequest.write gevCurrentIpConfiguration (newMode c x)).perform env) t
        with ⟨e | y, u⟩ <;> rfl
  unfold writeSettings settingsPlan
  cases c.persistentIpEnabled with
  | false =>
    simp only [Bool.false_eq_true, if_false]
    exact hmode s
  | true =>
    simp only [if_true]
    exact hwrite _ _ _ _ (hwrite _ _ _ _ (hwrite _ _ _ _ hmode)) s

/-- The exchanges of a plan issue a prefix of `pre` and the two mode requests, and all of it
when the run ends well. -/
def IssuesPrefix (c : IPConfig) (pre : List RegisterRequest) (p : Plan) : Prop :=
  ∀ xs res, p.Traced xs res → ∃ mode, ReadsMode mode xs ∧
    xs.map Exchange.request <+: pre ++
      [.read gevCurrentIpConfiguration, .write gevCurrentIpConfiguration (newMode c mode)] ∧
    (res = .ok () → xs.map Exchange.request = pre ++
      [.read gevCurrentIpConfiguration, .write gevCurrentIpConfiguration (newMode c mode)])

theorem issuesPrefix_modePlan (c : IPConfig) : IssuesPrefix c [] (modePlan c) := by
  intro xs res h
  cases h with
  | @failed _ _ x e hx he =>
    refine ⟨0, fun y hy v _ hv => ?_, by simp [hx], by simp⟩
    rw [List.mem_singleton.1 hy, he] at hv
    cases hv
  | @succeeded _ _ x mode ys _ hx hv h =>
    have hreads : ∀ y : Exchange, y.request = .write gevCurrentIpConfiguration (newMode c mode) →
        ReadsMode mode [x, y] := by
      intro y hy z hz v hread hv'
      rcases List.mem_pair.1 hz with rfl | rfl
      · rw [hv] at hv'
        exact (Except.ok.inj hv').symm
      · rw [hy] at hread
        cases hread
    cases h with
    | @failed _ _ y e hy he => exact ⟨mode, hreads y hy, by simp [hx, hy], by simp⟩
    | @succeeded _ _ y _ _ _ hy _ h =>
      cases h
      exact ⟨mode, hreads y hy, by simp [hx, hy], by simp [hx, hy]⟩

theorem IssuesPrefix.write {c : IPConfig} {pre : List RegisterRequest} {p : Plan}
    (hp : IssuesPrefix c pre p) (a v : UInt32) :
    IssuesPrefix c (.write a v :: pre) (.request (.write a v) fun _ => p) := by
  intro xs res h
  have hreads : ∀ (x : Exchange) (ys : List Exchange) (mode : UInt32), x.request = .write a v →
      ReadsMode mode ys → ReadsMode mode (x :: ys) := by
    intro x ys mode hx hys y hy w hread hw
    rcases List.mem_cons.1 hy with rfl | hy
    · rw [hx] at hread
      cases hread
    · exact hys y hy w hread hw
  cases h with
  | @failed _ _ x e hx he =>
    exact ⟨0, hreads x [] 0 hx (fun _ h => absurd h List.not_mem_nil), by simp [hx], by simp⟩
  | @succeeded _ _ x w ys _ hx hv h =>
    obtain ⟨mode, hmode, hpre, hall⟩ := hp ys res h
    refine ⟨mode, hreads x ys mode hx hmode, ?_, fun hres => ?_⟩
    · simpa [hx] using hpre
    · simpa [hx] using hall hres

/-- The settings are issued in order, and all of them when none fails. -/
theorem settingsPlan_traced {c : IPConfig} {xs : List Exchange}
    {res : Except GvcpException Unit} (h : (settingsPlan c).Traced xs res) :
    ∃ mode, ReadsMode mode xs ∧ xs.map Exchange.request <+: settings c mode ∧
      (res = .ok () → xs.map Exchange.request = settings c mode) := by
  unfold settingsPlan at h
  unfold settings
  cases hc : c.persistentIpEnabled with
  | false =>
    rw [hc] at h
    exact issuesPrefix_modePlan c xs res h
  | true =>
    rw [hc] at h
    exact (((issuesPrefix_modePlan c).write _ _).write _ _).write _ _ xs res h

/-! ### `writeConfig` -/

variable {σ : Type} (env : SocketEnv σ)

/-- The release issues its request and never throws. -/
theorem releaseControl_logged (s : σ) (log : List Event) :
    ∃ (x : Exchange) (t : σ), x.request = .write gevCcp 0 ∧
      exec (releaseControl env) s = (.ok (), t) ∧
      exec (releaseControl env.logged) (s, log) = (.ok (), (t, log ++ x.events)) := by
  obtain ⟨x, t, hx, hr, hlog⟩ := perform_logged env (.write gevCcp 0) s log
  refine ⟨x, t, hx, ?_, ?_⟩
  · rw [exec_releaseControl, exec_writeRegister, hr]
    cases x.result <;> rfl
  · rw [exec_releaseControl, exec_writeRegister, hlog]
    cases x.result <;> rfl

/-- A run of `writeConfig` consists of exchanges that keep the discipline. -/
theorem writeConfig_logged (c : IPConfig) (s : σ) (log : List Event) :
    ∃ xs res t, Discipline c xs res ∧ exec (writeConfig env c) s = (res, t) ∧
      exec (writeConfig env.logged c) (s, log) =
        (res, (t, log ++ xs.flatMap Exchange.events)) := by
  obtain ⟨claim, s₁, hclaim, hr₁, hlog₁⟩ := perform_logged env (.write gevCcp 1) s log
  rcases hv : claim.result with e | v
  · -- the claim throws before the try block
    refine ⟨[claim], .error e, s₁, .claimFailed hclaim hv, ?_, ?_⟩
    · simp [exec_writeConfig, exec_writeRegister, hr₁, hv]
    · simp [exec_writeConfig, exec_writeRegister, hlog₁, hv]
  obtain ⟨middle, res, s₂, hmid, hr₂, hlog₂⟩ :=
    (settingsPlan c).run_logged env s₁ (log ++ claim.events)
  rw [← exec_writeSettings] at hr₂ hlog₂
  obtain ⟨release, s₃, hrel, hr₃, hlog₃⟩ :=
    releaseControl_logged env s₂ (log ++ claim.events ++ middle.flatMap Exchange.events)
  obtain ⟨mode, hreads, hpre, hall⟩ := settingsPlan_traced hmid
  refine ⟨claim :: middle ++ [release], res, s₃, ?_, ?_, ?_⟩
  · rcases hmid.ends with ⟨rfl, hok⟩ | ⟨pre, x, e, rfl, rfl, he, hok⟩
    · exact .settled hclaim ⟨v, hv⟩ (hall rfl) hreads hok hrel
    · exact .aborted hclaim ⟨v, hv⟩ hpre hreads hok he hrel
  · simp only [exec_writeConfig, exec_writeRegister, hr₁, hv, hr₂, hr₃]
  · simp only [exec_writeConfig, exec_writeRegister, hlog₁, hv, hlog₂, hlog₃]
    simp

/-! ### Requests on the wire -/

/-- The datagrams that a log shows as handed to `send`. -/
def datagramsSent (log : List Event) : List Bytes :=
  log.filterMap fun
    | .sent p _ => some p
    | _ => none

/-- The requests in a log, retransmissions collapsed: a datagram that is sent again right after
itself counts once. -/
def requestsSent (log : List Event) : List Bytes := (datagramsSent log).destutter (· ≠ ·)

theorem datagramsSent_events (x : Exchange) :
    datagramsSent x.events = List.replicate x.attempts.length (x.request.datagram x.id) := by
  unfold Exchange.events
  induction x.attempts with
  | nil => rfl
  | cons a as ih =>
    simp only [datagramsSent] at ih
    cases a <;>
      simp [datagramsSent, Attempt.events, ih, List.replicate_succ]

theorem datagramsSent_flatMap (xs : List Exchange) :
    datagramsSent (xs.flatMap Exchange.events) =
      xs.flatMap fun x => List.replicate x.attempts.length (x.request.datagram x.id) := by
  induction xs with
  | nil => rfl
  | cons x xs ih =>
    rw [List.flatMap_cons, List.flatMap_cons, ← ih, ← datagramsSent_events]
    exact List.filterMap_append

/-- A log of exchanges shows their requests, when neighbours are different requests. -/
theorem requestsSent_flatMap {xs : List Exchange}
    (h : (xs.map Exchange.request).IsChain (· ≠ ·)) :
    requestsSent (xs.flatMap Exchange.events) = xs.map fun x => x.request.datagram x.id := by
  rw [requestsSent, datagramsSent_flatMap]
  refine Destutter.destutter_blocks (fun x => List.length_pos_of_ne_nil x.attempts_ne_nil) ?_
  rw [List.isChain_map] at h ⊢
  refine h.imp fun x y hne heq => hne ?_
  have := congrArg RegisterRequest.decode heq
  rw [RegisterRequest.decode_datagram, RegisterRequest.decode_datagram] at this
  simp only [Option.some.injEq, Prod.mk.injEq] at this
  exact this.1

theorem Discipline.nodup_requests {c : IPConfig} {xs : List Exchange}
    {res : Except GvcpException Unit} (h : Discipline c xs res) :
    (xs.map Exchange.request).Nodup := by
  have hsettings : ∀ mode, (settings c mode).Nodup := by
    intro mode
    unfold settings
    split_ifs <;> simp [gevCurrentIpConfiguration, gevPersistentIpAddress,
      gevPersistentSubnetMask, gevPersistentDefaultGateway]
  have hbracket : ∀ {l : List RegisterRequest} {mode : UInt32}, l <+: settings c mode →
      (RegisterRequest.write gevCcp 1 :: l ++ [RegisterRequest.write gevCcp 0]).Nodup := by
    intro l mode hl
    have hccp : ∀ v, RegisterRequest.write gevCcp v ∉ l := fun v hv =>
      settings_address_ne (hl.subset hv) rfl
    refine List.nodup_append.2 ⟨List.nodup_cons.2 ⟨hccp 1, (hsettings mode).sublist hl.sublist⟩,
      List.nodup_singleton _, ?_⟩
    intro r hr r' hr' heq
    rw [heq, List.mem_singleton.1 hr'] at hr
    rcases List.mem_cons.1 hr with h | h
    · revert h
      decide
    · exact hccp 0 h
  cases h with
  | claimFailed hclaim _ => simp
  | settled hclaim _ hmid _ _ hr =>
    simpa [hclaim, hmid, hr] using hbracket (List.prefix_refl _)
  | aborted hclaim _ hmid _ _ _ hr =>
    simpa [hclaim, hr] using hbracket hmid

/-- **Claim and release of `writeConfig`.**  In every environment and from every state of it,
the requests on the wire are those of exchanges that keep the discipline.  In particular the
mode register is written only after the requested persistent registers were acknowledged, and
what is thrown is what a request other than the release failed with. -/
theorem writeConfig_discipline (c : IPConfig) (s : σ) :
    ∃ xs res t, exec (writeConfig env c) s = (res, t) ∧
      exec (writeConfig env.logged c) (s, []) = (res, (t, xs.flatMap Exchange.events)) ∧
      requestsSent (xs.flatMap Exchange.events) = xs.map (fun x => x.request.datagram x.id) ∧
      Discipline c xs res ∧
      (∀ pre x post v, xs = pre ++ x :: post → x.request = .write gevCurrentIpConfiguration v →
        c.persistentIpEnabled = true →
        ∀ r ∈ [RegisterRequest.write gevPersistentIpAddress c.persistentIp,
            .write gevPersistentSubnetMask c.persistentSubnet,
            .write gevPersistentDefaultGateway c.persistentGateway],
          ∃ y ∈ pre, y.request = r ∧ y.Succeeded) ∧
      ∀ e, res = .error e ↔ ∃ x ∈ xs, x.request ≠ .write gevCcp 0 ∧ x.FailedWith e := by
  obtain ⟨xs, res, t, hd, hr, hlog⟩ := writeConfig_logged env c s []
  refine ⟨xs, res, t, hr, hlog, ?_, hd, ?_, hd.throws_iff⟩
  · exact requestsSent_flatMap (List.Pairwise.isChain hd.nodup_requests)
  · intro pre x post v hx hreq hc
    exact hd.persistent_before_mode hc hx hreq

end Gvcp
end RcDiscover
