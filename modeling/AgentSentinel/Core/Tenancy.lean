import AgentSentinel.Core.Interceptor
import AgentSentinel.Core.PipelineRuns
import AgentSentinel.Core.SharedPipeline
import AgentSentinel.Lib.Noninterference

/-!
# AgentSentinel.Core.Tenancy

One interceptor serving several tenants. Identities are documented to be isolated by
tenant, but nothing behind the front door is told the tenant of a request: the
identity store and the anomaly windows are keyed by the DID alone, and there is one
identity breaker. So a tenant can overwrite another tenant's identity, fill its
window and open the breaker for it.

Noninterference is proved for the runs in which the tenant stays away from the DIDs
of the others and its evaluations leave the breaker as they find it. Times are
rationals where the code has doubles.
-/

namespace AgentSentinel

open Lib

/-- What a tenant can ask of the interceptor. -/
inductive Operation
  | evaluate (action : Action) (clock : EvaluationClock) (elapsedMs : ℚ)
  | upsertIdentity (identity : Identity)
  | lookupIdentity (did : PyStr)

/-- The DID an operation is about. -/
def Operation.did : Operation → PyStr
  | evaluate action _ _ => action.agentDid
  | upsertIdentity identity => identity.did
  | lookupIdentity did => did

/-- A request, and the tenant it is made under. -/
structure Request where
  tenant : PyStr
  operation : Operation

inductive Response
  | decision (result : Result Decision)
  | identity (identity : Option Identity)

/-- An interceptor on the in-memory stores. -/
structure SharedInterceptor where
  pipeline : SharedPipeline
  lib : HashLibrary

namespace SharedInterceptor

variable (shared : SharedInterceptor) (rt : PyRuntime) (s : PipelineState)

/-- The interceptor as it finds its stores. -/
def interceptorAt (clock : EvaluationClock) : Interceptor :=
  ⟨shared.pipeline.depsAt s clock, shared.lib⟩

/-- `evaluate`, and what it leaves behind. -/
def evaluate (action : Action) (clock : EvaluationClock) (elapsedMs : ℚ) :
    Result Decision × PipelineState :=
  let interceptor := shared.interceptorAt s clock
  ((interceptor.evaluate rt clock.toReadings action elapsedMs).1,
    match interceptor.stamp rt action with
    | .error _ => s
    | .ok action => (shared.pipeline.evaluate rt s clock action).2)

/-- `lookup_identity`: no breaker, and any exception is no identity. -/
def lookupIdentity (did : PyStr) : Option Identity :=
  match s.resolver.resolve did with
  | .ok identity => some identity
  | .error _ => none

/-- `upsert_identity`. -/
def upsertIdentity (identity : Identity) : Identity × PipelineState :=
  (identity, { s with identities := s.identities.set identity.did identity })

/-- The answer to a request and what it leaves behind. No operation is told the
tenant. -/
def serve : Server PipelineState Request Response := fun s request =>
  match request.operation with
  | .evaluate action clock elapsedMs =>
    let (result, s) := shared.evaluate rt s action clock elapsedMs
    (.decision result, s)
  | .upsertIdentity identity =>
    let (identity, s) := upsertIdentity s identity
    (.identity (some identity), s)
  | .lookupIdentity did => (.identity (lookupIdentity s did), s)

/-- The answers to the requests made under a tenant. -/
def answersTo (tenant : PyStr) (s : PipelineState) (requests : List Request) :
    List (Request × Response) :=
  ((shared.serve rt).answers s requests).filter fun a => a.1.tenant = tenant

/-! ### When a tenant keeps apart -/

/-- An identity call for `did` leaves the breaker as it is: refused outright, or a
success that has no failure to forget. -/
def LeavesBreaker (start : ℚ) (did : PyStr) : Prop :=
  (s.breaker.state = .closed ∧ s.breaker.failures = 0 ∧ (s.known did).isSome = true) ∨
    (s.breaker.state = .open ∧ ¬ s.breaker.EntersHalfOpen start) ∨
    (s.breaker.state = .halfOpen ∧ s.breaker.halfOpenProbes ≤ s.breaker.probesInFlight)

/-- Whatever tenant `b` evaluates or registers is for DIDs of its own and leaves the
breaker as it is, or fails before it gets to the pipeline; the others stay away from
these DIDs. -/
def KeepsApart (b : PyStr) (own : PyStr → Prop) (s : PipelineState) (request : Request) : Prop :=
  if request.tenant = b then
    match request.operation with
    | .evaluate action clock _ =>
      Raised ((shared.interceptorAt s clock).stamp rt action) ∨
        (own action.agentDid ∧ LeavesBreaker s clock.start action.agentDid)
    | .upsertIdentity identity => own identity.did
    | .lookupIdentity _ => True
  else ¬ own request.operation.did

/-- Two states that differ in the DIDs of one tenant only. -/
structure Agree (own : PyStr → Prop) (s t : PipelineState) : Prop where
  breaker : s.breaker = t.breaker
  identities : ∀ did, ¬ own did → s.identities.get did = t.identities.get did
  windows : ∀ did, ¬ own did → s.baseline.window did = t.baseline.window did

variable {shared rt s} {t : PipelineState} {own : PyStr → Prop} {b : PyStr}

theorem Agree.symm (h : Agree own s t) : Agree own t s where
  breaker := h.breaker.symm
  identities did hdid := (h.identities did hdid).symm
  windows did hdid := (h.windows did hdid).symm

/-- A DID that is one's own and one that is not are different. -/
theorem ne_of_own {did did' : PyStr} (hown : own did') (hdid : ¬ own did) : did ≠ did' := by
  intro h
  rw [h] at hdid
  exact hdid hown

/-- A success of a closed breaker without failures leaves no trace. -/
theorem recordSuccess_of_idle {breaker : CircuitBreaker} (hst : breaker.state = .closed)
    (hzero : breaker.failures = 0) : breaker.recordSuccess = breaker := by
  cases breaker
  simp_all [CircuitBreaker.recordSuccess]

theorem LeavesBreaker.call {start finish : ℚ} {did : PyStr} (h : LeavesBreaker s start did) :
    (s.breaker.call start finish (s.resolver.resolve did)).2 = s.breaker := by
  unfold CircuitBreaker.call
  rcases CircuitBreaker.enterCall_cases s.breaker start with ⟨hst, ha⟩ | ⟨hen, hb, ha⟩ |
    ⟨hst, hb, ha⟩ | ⟨⟨e, ha, -⟩, -⟩ | ⟨hen, hb, e, ha, -⟩
  · rcases h with ⟨-, hzero, hknown⟩ | ⟨hopen, -⟩ | ⟨hhalf, -⟩
    · obtain ⟨identity, hidentity⟩ := Option.isSome_iff_exists.mp hknown
      rw [ha, PipelineState.resolver_resolve_eq_ok.mpr hidentity]
      exact recordSuccess_of_idle hst hzero
    · simp [hst] at hopen
    · simp [hst] at hhalf
  · rcases h with ⟨hclosed, -⟩ | ⟨-, hno⟩ | ⟨hhalf, -⟩
    · simp [hen.1] at hclosed
    · exact absurd hen hno
    · simp [hen.1] at hhalf
  · rcases h with ⟨hclosed, -⟩ | ⟨hopen, -⟩ | ⟨-, hfull⟩
    · simp [hst] at hclosed
    · simp [hst] at hopen
    · omega
  · rw [ha]
  · rcases h with ⟨hclosed, -⟩ | ⟨-, hno⟩ | ⟨hhalf, -⟩
    · simp [hen.1] at hclosed
    · exact absurd hen hno
    · simp [hen.1] at hhalf

/-- The digest is stamped on the action that was submitted. -/
theorem stamp_agentDid {interceptor : Interceptor} {action stamped : Action}
    (h : interceptor.stamp rt action = .ok stamped) : stamped.agentDid = action.agentDid := by
  unfold Interceptor.stamp at h
  cases hdigest : action.payloadDigest with
  | some digest =>
      rw [hdigest] at h
      obtain rfl := Except.ok.inj h
      rfl
  | none =>
      rw [hdigest] at h
      obtain ⟨digest, -, hstamped⟩ := bind_eq_ok.mp h
      obtain rfl := Except.ok.inj hstamped
      rfl

theorem evaluate_of_stamp {clock : EvaluationClock} {action stamped : Action} {elapsedMs : ℚ}
    (h : (shared.interceptorAt s clock).stamp rt action = .ok stamped) :
    shared.evaluate rt s action clock elapsedMs =
      (((shared.pipeline.depsAt s clock).evaluate rt clock.toReadings stamped).1.map
          fun decision =>
            if decision.latencyMs.isNone then { decision with latencyMs := some elapsedMs }
            else decision,
        (shared.pipeline.evaluate rt s clock stamped).2) := by
  simp only [evaluate, Interceptor.evaluate, h]
  rfl

theorem evaluate_of_stamp_error {clock : EvaluationClock} {action : Action} {elapsedMs : ℚ}
    {e : PyExc} (h : (shared.interceptorAt s clock).stamp rt action = .error e) :
    shared.evaluate rt s action clock elapsedMs = (.error e, s) := by
  simp only [evaluate, Interceptor.evaluate, h]

/-- A hidden request that keeps apart changes nothing outside the tenant's DIDs. -/
theorem Agree.hidden {request : Request} (h : Agree own s t)
    (htenant : request.tenant = b) (hG : shared.KeepsApart rt b own s request) :
    Agree own (shared.serve rt s request).2 t := by
  unfold KeepsApart at hG
  rw [if_pos htenant] at hG
  obtain ⟨tenant, operation⟩ := request
  cases operation with
  | evaluate action clock elapsedMs =>
      simp only [serve, evaluate]
      cases hstamp : (shared.interceptorAt s clock).stamp rt action with
      | error e => exact h
      | ok stamped =>
          have hdid := stamp_agentDid hstamp
          obtain ⟨hown, hleaves⟩ : own action.agentDid ∧ LeavesBreaker s clock.start
              action.agentDid := by
            rcases hG with hraised | hG
            · simp only [hstamp] at hraised
              exact absurd hraised not_raised_ok
            · exact hG
          rw [← hdid] at hown hleaves
          constructor
          · exact (SharedPipeline.evaluate_breaker.trans hleaves.call).trans h.breaker
          · exact h.identities
          · intro did hdid
            exact (AnomalyDetector.window_score_of_ne (ne_of_own hown hdid)).trans
              (h.windows did hdid)
  | upsertIdentity identity =>
      refine ⟨h.breaker, fun did hdid => ?_, h.windows⟩
      have hne : did ≠ identity.did := ne_of_own hG hdid
      simpa [serve, upsertIdentity, hne] using h.identities did hdid
  | lookupIdentity did => exact h

/-- A request about a DID that is nobody's secret is answered alike in states that
agree, and leaves states that agree. -/
theorem Agree.visible {request : Request} (h : Agree own s t)
    (hdid : ¬ own request.operation.did) :
    (shared.serve rt s request).1 = (shared.serve rt t request).1 ∧
      Agree own (shared.serve rt s request).2 (shared.serve rt t request).2 := by
  obtain ⟨tenant, operation⟩ := request
  cases operation with
  | evaluate action clock elapsedMs =>
      cases hstamp : (shared.interceptorAt s clock).stamp rt action with
      | error e =>
          simp only [serve, evaluate_of_stamp_error hstamp]
          rw [evaluate_of_stamp_error (s := t) hstamp]
          exact ⟨rfl, h⟩
      | ok stamped =>
          have hown : ¬ own stamped.agentDid := by rwa [stamp_agentDid hstamp]
          have hwindow := h.windows _ hown
          have hrun : (shared.pipeline.depsAt s clock).evaluate rt clock.toReadings stamped =
              (shared.pipeline.depsAt t clock).evaluate rt clock.toReadings stamped :=
            SharedPipeline.depsAt_evaluate_congr h.breaker (h.identities _ hown) hwindow
          have hbreaker : (shared.pipeline.evaluate rt s clock stamped).2.breaker =
              (shared.pipeline.evaluate rt t clock stamped).2.breaker := by
            rw [SharedPipeline.evaluate_breaker, SharedPipeline.evaluate_breaker, h.breaker,
              PipelineState.resolve_congr (h.identities _ hown)]
          simp only [serve, evaluate_of_stamp hstamp]
          rw [evaluate_of_stamp (s := t) hstamp, hrun]
          refine ⟨rfl, hbreaker, h.identities, fun did hdid => ?_⟩
          by_cases hsame : did = stamped.agentDid
          · rw [hsame]
            exact AnomalyDetector.window_score_congr hwindow
          · exact (AnomalyDetector.window_score_of_ne hsame).trans
              ((h.windows did hdid).trans (AnomalyDetector.window_score_of_ne hsame).symm)
  | upsertIdentity identity =>
      refine ⟨rfl, h.breaker, fun did hdid => ?_, h.windows⟩
      simp only [serve, upsertIdentity, PyDict.get_set]
      rw [h.identities did hdid]
  | lookupIdentity did =>
      refine ⟨?_, h⟩
      simp only [serve, lookupIdentity, PipelineState.resolve_congr (h.identities did hdid)]

/-- The unwinding conditions, the requests of the others being visible. -/
theorem unwinds (b : PyStr) (own : PyStr → Prop) :
    (shared.serve rt).Unwinds (fun request => request.tenant ≠ b) (shared.KeepsApart rt b own)
      (Agree own) := by
  have hdid {s : PipelineState} {request : Request} (hvisible : request.tenant ≠ b)
      (hG : shared.KeepsApart rt b own s request) : ¬ own request.operation.did := by
    unfold KeepsApart at hG
    rwa [if_neg hvisible] at hG
  constructor
  · exact fun h => h.symm
  · intro s t request h hhidden hG
    exact h.hidden (by simpa using hhidden) hG
  · intro s t request h hvisible hG _
    exact (h.visible (hdid (by simpa using hvisible) hG)).1
  · intro s t request h hvisible hG _
    exact (h.visible (hdid (by simpa using hvisible) hG)).2

/-- **Tenant noninterference, where the tenant keeps apart**: in two runs that differ in
the requests of tenant `b` only, every other tenant gets the same answers. -/
theorem noninterference_of_keepsApart {a : PyStr} (hab : a ≠ b) {requests requests' :
    List Request}
    (hsame : requests.filter (fun request => request.tenant ≠ b) =
      requests'.filter fun request => request.tenant ≠ b)
    (hapart : (shared.serve rt).Along (shared.KeepsApart rt b own) s requests)
    (hapart' : (shared.serve rt).Along (shared.KeepsApart rt b own) s requests') :
    shared.answersTo rt a s requests = shared.answersTo rt a s requests' := by
  have hobserved := (unwinds b own).noninterference ⟨rfl, fun _ _ => rfl, fun _ _ => rfl⟩ hapart
    hapart' hsame
  -- The answers to one tenant are among those of everybody but `b`.
  have hamong (rs : List Request) : shared.answersTo rt a s rs =
      ((shared.serve rt).observed (fun request => request.tenant ≠ b) s rs).filter
        fun x => x.1.tenant = a := by
    unfold answersTo Server.observed
    rw [List.filter_filter]
    refine List.filter_congr fun x _ => ?_
    by_cases hx : x.1.tenant = a
    · simp [hx, hab]
    · simp [hx]
  rw [hamong, hamong, hobserved]

/-! ### Two runs of an interceptor with one registered agent -/

/-- An interceptor that finds nothing wrong. -/
def quiet : SharedInterceptor where
  pipeline := ⟨quietDeps [] default, { log10 := fun _ => 0 }⟩
  lib := Interceptor.storeDown.lib

/-- Only the default agent is registered. -/
def oneAgent : PipelineState where
  identities := PyDict.empty.set (default : Identity).did default

/-- Tenant `a` has an action of the agent evaluated. -/
def askForAgent : Request where
  tenant := py "a"
  operation := .evaluate { (default : Action) with
    agentDid := (default : Identity).did, agentDid_length := (default : Identity).did_length
    payloadDigest := some [] } ⟨.zero, 0⟩ 0

/-- Tenant `b` registers an identity. -/
def registerAsB (identity : Identity) : Request := ⟨py "b", .upsertIdentity identity⟩

/-- The agent of the default DID, revoked. -/
def revokedAgent : Identity := { (default : Identity) with revoked := true }

theorem noninterference_of_keepsApart_stranger :
    quiet.answersTo default (py "a") oneAgent [registerAsB PipelineWorld.stranger, askForAgent] =
      quiet.answersTo default (py "a") oneAgent [askForAgent] := by
  have hnot : ¬ askForAgent.operation.did = PipelineWorld.stranger.did := by decide
  have hother : askForAgent.tenant ≠ py "b" := by decide
  have hregister : quiet.KeepsApart default (py "b") (fun did => did = PipelineWorld.stranger.did)
      oneAgent (registerAsB PipelineWorld.stranger) := by
    simp [KeepsApart, registerAsB]
  have hask (s : PipelineState) : quiet.KeepsApart default (py "b")
      (fun did => did = PipelineWorld.stranger.did) s askForAgent := by
    simp [KeepsApart, hother, hnot]
  exact noninterference_of_keepsApart (by decide) rfl ⟨hregister, hask _, trivial⟩
    ⟨hask _, trivial⟩

/-- The verdict in a response, if it is a decision. -/
def verdictIn : Response → Option DecisionVerdict
  | .decision (.ok d) => some d.verdict
  | _ => none

/-- Tenant `b` overwrites the identity with a revoked one, and tenant `a`'s agent is no
longer known. -/
theorem upsert_crosses_tenants : ¬ ∀ (shared : SharedInterceptor) (rt : PyRuntime)
    (s : PipelineState) (a b : PyStr) (requests requests' : List Request), a ≠ b →
    requests.filter (fun request => request.tenant ≠ b) =
      requests'.filter (fun request => request.tenant ≠ b) →
    shared.answersTo rt a s requests = shared.answersTo rt a s requests' := by
  intro h
  have hsame := h quiet default oneAgent (py "a") (py "b")
    [registerAsB revokedAgent, askForAgent] [askForAgent] (by decide) rfl
  have hverdicts := congrArg (List.map fun x => verdictIn x.2) hsame
  exact absurd hverdicts (by decide +kernel)

end SharedInterceptor

end AgentSentinel
