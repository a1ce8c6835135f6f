import AgentSentinel.Classifiers.AnomalyDetector
import AgentSentinel.Core.Pipeline

/-!
# AgentSentinel.Core.SharedPipeline

A pipeline together with what its evaluations leave behind for later ones. With the
in-memory stores that is the registered identities, the windows of the anomaly
detector and the identity breaker. The other classifiers keep nothing between two
actions, and neither does the trust scorer.
-/

namespace AgentSentinel

/-- What outlives an evaluation. -/
structure PipelineState where
  /-- `InMemoryIdentityStore`. -/
  identities : PyDict Identity
  baseline : BaselineStore := {}
  breaker : CircuitBreaker := { name := py "identity" }

/-- The clocks of one evaluation, the time at which the anomaly detector records the
action included. -/
structure EvaluationClock extends Readings where
  recordedAt : ℚ

/-- A pipeline on the in-memory stores: the collaborators that keep no state, and the
settings of the anomaly detector. -/
structure SharedPipeline where
  deps : PipelineDeps
  detector : AnomalyDetector

namespace PipelineState

/-- The identity that resolving the DID gives: registered and not revoked. -/
def known (s : PipelineState) (did : PyStr) : Option Identity :=
  (s.identities.get did).filter fun identity => !identity.revoked

/-- `IdentityResolver` on the in-memory store. -/
def resolver (s : PipelineState) : IdentityResolver := ⟨fun did => .ok (s.identities.get did)⟩

theorem resolver_resolve_eq_ok {s : PipelineState} {did : PyStr} {identity : Identity} :
    s.resolver.resolve did = .ok identity ↔ s.known did = some identity := by
  rw [IdentityResolver.resolve_eq_ok, known, Option.filter_eq_some_iff]
  simp [resolver]

/-- Resolving a DID is a matter of what is registered under it. -/
theorem resolve_congr {s t : PipelineState} {did : PyStr}
    (h : s.identities.get did = t.identities.get did) :
    s.resolver.resolve did = t.resolver.resolve did := by
  simp only [IdentityResolver.resolve, resolver, h]

/-- The in-memory store raises nothing that the identity call does not handle. -/
theorem identityOutcome_call (s : PipelineState) (start finish : ℚ) (did : PyStr) :
    ∃ outcome, identityOutcome (s.breaker.call start finish (s.resolver.resolve did)).1 =
      .ok outcome := by
  by_cases hadmits : s.breaker.Admits start
  · rw [CircuitBreaker.call_of_admits hadmits]
    cases hresolve : s.resolver.resolve did with
    | ok identity => exact ⟨_, rfl⟩
    | error e =>
        rcases IdentityResolver.resolve_eq_error hresolve with hstore | hkind
        · cases hstore
        · exact ⟨_, PipelineDeps.identityOutcome_eq_ok.mpr (Or.inr (Or.inr ⟨e, rfl, hkind, rfl⟩))⟩
  · obtain ⟨e, he, hkind⟩ := CircuitBreaker.call_of_refused hadmits finish
      (s.resolver.resolve did)
    rw [he]
    exact ⟨_, PipelineDeps.identityOutcome_eq_ok.mpr (Or.inr (Or.inl ⟨e, rfl, hkind, rfl⟩))⟩

end PipelineState

namespace SharedPipeline

variable (pipeline : SharedPipeline) (rt : PyRuntime) (s : PipelineState)
  (clock : EvaluationClock) (action : Action)

/-- The pipeline as it finds its stores. -/
def depsAt : PipelineDeps :=
  { pipeline.deps with
    identityResolver := s.resolver
    anomalyDetector := fun action =>
      (pipeline.detector.score s.baseline clock.recordedAt action).1
    identityBreaker := s.breaker }

/-- `evaluate`. The in-memory store never raises, so the classifiers always run. -/
def evaluate : Result Decision × PipelineState :=
  let (result, breaker) := (pipeline.depsAt s clock).evaluate rt clock.toReadings action
  (result, { s with
    breaker
    baseline := (pipeline.detector.score s.baseline clock.recordedAt action).2 })

variable {pipeline rt s clock action} {t : PipelineState}

/-- No evaluation writes to the identity store. -/
@[simp] theorem evaluate_identities :
    (pipeline.evaluate rt s clock action).2.identities = s.identities := rfl

/-- The breaker an evaluation leaves is that of its identity call. -/
theorem evaluate_breaker : (pipeline.evaluate rt s clock action).2.breaker =
    (s.breaker.call clock.start clock.finish (s.resolver.resolve action.agentDid)).2 := rfl

/-- An evaluation is a matter of the agent's identity, its window and the breaker. -/
theorem depsAt_evaluate_congr (hbreaker : s.breaker = t.breaker)
    (hidentity : s.identities.get action.agentDid = t.identities.get action.agentDid)
    (hwindow : s.baseline.window action.agentDid = t.baseline.window action.agentDid) :
    (pipeline.depsAt s clock).evaluate rt clock.toReadings action =
      (pipeline.depsAt t clock).evaluate rt clock.toReadings action := by
  -- Both sides, asked for no more than the action's own agent.
  rw [PipelineDeps.evaluate_local]
  conv_rhs => rw [PipelineDeps.evaluate_local]
  simp only [depsAt, PipelineState.resolver, AnomalyDetector.score_fst, hbreaker, hidentity,
    hwindow]

end SharedPipeline

end AgentSentinel
