import RcDiscover.Gvcp.Exchange

/-!
# Sequences of register requests

A `Plan` is a sequence of register requests in which each request may depend on the values
returned so far.  Running a plan stops at the first request that throws.  `Plan.Traced` says
which exchanges such a run consists of; `Plan.run_logged` proves it of every run in every
environment, by induction on the plan.
-/

namespace RcDiscover
namespace Gvcp

open Program

variable {σ : Type} (env : SocketEnv σ)

/-- `sendAndReceive` for a register request, with the check of the body that follows it. -/
def RegisterRequest.perform (r : RegisterRequest) : Program σ GvcpException UInt32 := do
  let body ← sendAndReceive env r.cmd r.ackCmd r.address r.payload
  ofExcept fun s => (r.accept body, s)

theorem exec_readRegister (a : UInt32) (s : σ) :
    exec (readRegister env a) s = exec ((RegisterRequest.read a).perform env) s := by
  simp only [readRegister, RegisterRequest.perform, RegisterRequest.cmd, RegisterRequest.ackCmd,
    RegisterRequest.address, RegisterRequest.payload, RegisterRequest.accept, exec_bind]
  rcases exec (sendAndReceive env readregCmd readregAck a (appendUint32 [] a)) s
    with ⟨e | body, t⟩
  · rfl
  · simp only
    split_ifs <;> rfl

theorem exec_writeRegister (a v : UInt32) (s : σ) :
    exec (writeRegister env a v) s =
      match exec ((RegisterRequest.write a v).perform env) s with
      | (.ok _, t) => (.ok (), t)
      | (.error e, t) => (.error e, t) := by
  simp only [writeRegister, RegisterRequest.perform, RegisterRequest.cmd, RegisterRequest.ackCmd,
    RegisterRequest.address, RegisterRequest.payload, RegisterRequest.accept, exec_bind,
    exec_ofExcept]
  rcases exec (sendAndReceive env writeregCmd writeregAck a
    (appendUint32 (appendUint32 [] a) v)) s with ⟨e | body, t⟩ <;> rfl

/-- One request leaves the events of one exchange behind and ends as it does. -/
theorem perform_logged (r : RegisterRequest) (s : σ) (log : List Event) :
    ∃ (x : Exchange) (t : σ), x.request = r ∧ exec (r.perform env) s = (x.result, t) ∧
      exec (r.perform env.logged) (s, log) = (x.result, (t, log ++ x.events)) := by
  obtain ⟨as, t, hc, hr, hlog⟩ :=
    attemptLoop_logged env r (env.getNext s).1 3 (env.getNext s).2 log
  refine ⟨⟨r, (env.getNext s).1, as, hc⟩, t, rfl, ?_, ?_⟩
  · have hsend : exec (sendAndReceive env r.cmd r.ackCmd r.address r.payload) s =
        (outcomeOf r (env.getNext s).1 as, t) := by
      simp only [sendAndReceive, exec_bind, exec_ofState]
      exact hr
    simp only [RegisterRequest.perform, exec_bind, hsend, Exchange.result]
    cases outcomeOf r (env.getNext s).1 as <;> rfl
  · have hsend : exec (sendAndReceive env.logged r.cmd r.ackCmd r.address r.payload) (s, log) =
        (outcomeOf r (env.getNext s).1 as,
          (t, log ++ as.flatMap (Attempt.events (r.datagram (env.getNext s).1)))) := by
      simp only [sendAndReceive, exec_bind, exec_ofState, logged_getNext]
      exact hlog
    simp only [RegisterRequest.perform, exec_bind, hsend, Exchange.result, Exchange.events]
    cases outcomeOf r (env.getNext s).1 as <;> rfl

/-! ### Plans -/

/-- A sequence of register requests. -/
inductive Plan
  | done
  | request (r : RegisterRequest) (next : UInt32 → Plan)

/-- The requests of the plan in order, up to the first that throws. -/
def Plan.run : Plan → Program σ GvcpException Unit
  | .done => pure ()
  | .request r next => do
    let v ← r.perform env
    (next v).run

/-- The exchanges of a run of the plan, and how the run ends. -/
inductive Plan.Traced : Plan → List Exchange → Except GvcpException Unit → Prop
  | done : Traced .done [] (.ok ())
  | failed {r next x e} : x.request = r → x.FailedWith e →
      Traced (.request r next) [x] (.error e)
  | succeeded {r next x v xs res} : x.request = r → x.result = .ok v → Traced (next v) xs res →
      Traced (.request r next) (x :: xs) res

/-- **Every run of a plan is traced by exchanges.** -/
theorem Plan.run_logged (p : Plan) (s : σ) (log : List Event) :
    ∃ xs res t, Plan.Traced p xs res ∧ exec (p.run env) s = (res, t) ∧
      exec (p.run env.logged) (s, log) = (res, (t, log ++ xs.flatMap Exchange.events)) := by
  induction p generalizing s log with
  | done => exact ⟨[], .ok (), s, .done, by simp [Plan.run], by simp [Plan.run]⟩
  | request r next ih =>
    obtain ⟨x, t, hx, hr, hlog⟩ := perform_logged env r s log
    rcases hv : x.result with e | v
    · refine ⟨[x], .error e, t, .failed hx hv, ?_, ?_⟩
      · simp [Plan.run, exec_bind, hr, hv]
      · simp [Plan.run, exec_bind, hlog, hv]
    · obtain ⟨xs, res, t', hxs, hrun, hrunLog⟩ := ih v t (log ++ x.events)
      refine ⟨x :: xs, res, t', .succeeded hx hv hxs, ?_, ?_⟩
      · simp [Plan.run, exec_bind, hr, hv, hrun]
      · simp [Plan.run, exec_bind, hlog, hv, hrunLog]

/-- A run ends well when all its requests succeed, and otherwise with the exception of its
last request, all others having succeeded. -/
theorem Plan.Traced.ends {p : Plan} {xs : List Exchange} {res : Except GvcpException Unit}
    (h : Plan.Traced p xs res) :
    (res = .ok () ∧ ∀ x ∈ xs, x.Succeeded) ∨
      ∃ pre x e, xs = pre ++ [x] ∧ res = .error e ∧ x.FailedWith e ∧ ∀ y ∈ pre, y.Succeeded := by
  induction h with
  | done => exact .inl ⟨rfl, by simp⟩
  | @failed r next x e _ he => exact .inr ⟨[], x, e, rfl, rfl, he, by simp⟩
  | @succeeded r next x v xs res _ hv _ ih =>
    rcases ih with ⟨rfl, hall⟩ | ⟨pre, y, e, rfl, rfl, he, hpre⟩
    · refine .inl ⟨rfl, fun y hy => ?_⟩
      rcases List.mem_cons.1 hy with rfl | hy
      · exact ⟨v, hv⟩
      · exact hall y hy
    · refine .inr ⟨x :: pre, y, e, rfl, rfl, he, fun z hz => ?_⟩
      rcases List.mem_cons.1 hz with rfl | hz
      · exact ⟨v, hv⟩
      · exact hpre z hz

end Gvcp
end RcDiscover
