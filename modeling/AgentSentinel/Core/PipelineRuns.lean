import AgentSentinel.Core.Pipeline
import AgentSentinel.Lib.Transition

/-!
# AgentSentinel.Core.PipelineRuns

Evaluations one after the other on one pipeline, as a transition system. What
carries over from one evaluation to the next is the identity breaker; everything
else the pipeline consults (the registry, the bundle, the detectors' state) may be
different every time. The identity store never fails: it always says whether a DID
is registered. The clock is a rational, as in the breaker.

An unregistered or revoked DID makes the resolver raise, and the breaker counts
that like a failure of the store. So a row of such evaluations can open the
breaker, and the next agent is turned away although the store is fine. A registered
agent is resolved as long as no row gets long enough.
-/

namespace AgentSentinel

open Lib

/-- One evaluation: the action, the clocks, the collaborators as they stand, and who
is registered. -/
structure Evaluation where
  deps : PipelineDeps
  registered : PyStr → Option Identity
  readings : Readings
  action : Action

namespace Evaluation

variable (e : Evaluation)

/-- The pipeline of this evaluation, with a store that answers from the registry. -/
def pipeline (breaker : CircuitBreaker) : PipelineDeps :=
  { e.deps with
    identityResolver := ⟨fun did => .ok (e.registered did)⟩
    identityBreaker := breaker }

/-- The identity of the action's agent, if it is registered and not revoked. -/
def known : Option Identity :=
  (e.registered e.action.agentDid).filter fun identity => !identity.revoked

/-- The evaluation's identity step. -/
def resolve (breaker : CircuitBreaker) : Result IdentityOutcome × CircuitBreaker :=
  (e.pipeline breaker).resolveIdentity e.readings e.action

end Evaluation

/-- The breaker and the clock between two evaluations. -/
structure PipelineWorld where
  breaker : CircuitBreaker
  clock : ℚ
  deriving DecidableEq

namespace PipelineWorld

/-- One evaluation; `none` where the clock would run backwards. -/
def step (rt : PyRuntime) (w : PipelineWorld) (e : Evaluation) : Option PipelineWorld :=
  if w.clock ≤ e.readings.start ∧ e.readings.start ≤ e.readings.finish then
    some ⟨((e.pipeline w.breaker).evaluate rt e.readings e.action).2, e.readings.finish⟩
  else none

/-- All sequences of evaluations on a pipeline with the identity breaker `b`. -/
def runs (rt : PyRuntime) (b : CircuitBreaker) : TransitionSystem PipelineWorld Evaluation where
  init w := w.breaker = b
  step w e w' := w.step rt e = some w'

/-- A registered agent that is not revoked is resolved, and its decision is not
degraded. Only a policy rule that raises can keep the evaluation from returning. -/
def ResolvesKnown (rt : PyRuntime) (w : PipelineWorld) (e : Evaluation) : Prop :=
  ∀ identity, e.known = some identity →
    (e.resolve w.breaker).1 = .ok ⟨some identity, false, false⟩ ∧
    (¬ e.deps.policyEngine.RuleRaises rt e.action (some identity)
        (e.deps.collectFactors e.readings e.action ⟨some identity, false, false⟩) →
      ∃ d, ((e.pipeline w.breaker).evaluate rt e.readings e.action).1 = .ok d ∧
        d.degraded = false)

/-- An evaluation for an unregistered or revoked DID is not the one that reaches the
failure threshold, or else the breaker needs no time to recover. -/
def SparesBreaker (w : PipelineWorld) (e : Evaluation) : Prop :=
  e.known.isNone = true →
    w.breaker.failures + 1 < w.breaker.failureThreshold ∨
      (w.breaker.resetTimeout ≤ 0 ∧ 0 < w.breaker.halfOpenProbes)

instance (w : PipelineWorld) : DecidablePred w.SparesBreaker :=
  fun _ => inferInstanceAs (Decidable (_ → _))

/-- The breaker is closed, or open with nothing to wait for. -/
def Ready (w : PipelineWorld) : Prop :=
  w.breaker.state = .closed ∨
    (w.breaker.state = .open ∧ w.breaker.resetTimeout ≤ 0 ∧ 0 < w.breaker.halfOpenProbes ∧
      w.breaker.openedAt ≤ w.clock)

variable {rt : PyRuntime} {w w' : PipelineWorld} {e : Evaluation}

theorem step_eq_some :
    w.step rt e = some w' ↔
      (w.clock ≤ e.readings.start ∧ e.readings.start ≤ e.readings.finish) ∧
        w' = ⟨((e.pipeline w.breaker).evaluate rt e.readings e.action).2, e.readings.finish⟩ := by
  simp only [step, Option.ite_none_right_eq_some, Option.some.injEq]
  exact and_congr_right fun _ => eq_comm

/-- What the resolver answers from the registry. -/
theorem resolve_known (b : CircuitBreaker) {identity : Identity} (h : e.known = some identity) :
    (e.pipeline b).identityResolver.resolve e.action.agentDid = .ok identity := by
  obtain ⟨hregistered, hlive⟩ := Option.filter_eq_some_iff.mp h
  rw [IdentityResolver.resolve_eq_ok]
  exact ⟨congrArg Except.ok hregistered, by simpa using hlive⟩

theorem Ready.admits {now : ℚ} (h : w.Ready) (hnow : w.clock ≤ now) :
    w.breaker.Admits now := by
  rw [CircuitBreaker.admits_iff]
  rcases h with hclosed | ⟨hopen, htimeout, hprobes, hopened⟩
  · exact Or.inl hclosed
  · exact Or.inr (Or.inl ⟨⟨hopen, by linarith⟩, hprobes⟩)

theorem resolve_unknown (b : CircuitBreaker) (h : e.known = none) :
    Raised ((e.pipeline b).identityResolver.resolve e.action.agentDid) := by
  by_contra hno
  obtain ⟨identity, hidentity⟩ := not_raised_iff.mp hno
  obtain ⟨hregistered, hlive⟩ := IdentityResolver.resolve_eq_ok.mp hidentity
  have hsome : e.known = some identity :=
    Option.filter_eq_some_iff.mpr ⟨Except.ok.inj hregistered, by simp [hlive]⟩
  rw [h] at hsome
  cases hsome

/-- The breaker a ready world leaves the call to: closed, or half-open for it alone. -/
theorem Ready.enterCall_cases {now : ℚ} (h : w.Ready) (hnow : w.clock ≤ now) :
    (w.breaker.state = .closed ∧ (w.breaker.enterCall now).2 = w.breaker) ∨
    (w.breaker.resetTimeout ≤ 0 ∧ 0 < w.breaker.halfOpenProbes ∧
      (w.breaker.enterCall now).2 =
        { w.breaker with state := .halfOpen, probesInFlight := 1 }) := by
  have hadmits := h.admits hnow
  unfold CircuitBreaker.Admits at hadmits
  rcases CircuitBreaker.enterCall_cases w.breaker now with ⟨hst, ha⟩ | ⟨hen, hb, ha⟩ |
    ⟨hst, hb, ha⟩ | ⟨⟨e, ha, -⟩, -⟩ | ⟨-, -, e, ha, -⟩
  · exact Or.inl ⟨hst, by rw [ha]⟩
  · rcases h with hclosed | ⟨-, htimeout, -, -⟩
    · rw [hen.1] at hclosed
      cases hclosed
    · exact Or.inr ⟨htimeout, hb, by rw [ha]⟩
  · rcases h with hclosed | ⟨hopen, -⟩
    · rw [hst] at hclosed
      cases hclosed
    · rw [hst] at hopen
      cases hopen
  · rw [ha] at hadmits
    cases hadmits
  · rw [ha] at hadmits
    cases hadmits

/-- A ready breaker stays ready: a known agent closes it, and an unknown one that
spares it is only counted or trips it for no time at all. -/
theorem Ready.step (h : w.Ready) (hstep : w.step rt e = some w') (hspares : w.SparesBreaker e) :
    w'.Ready := by
  obtain ⟨⟨hstart, hfinish⟩, hw'⟩ := step_eq_some.mp hstep
  have hbreaker : w'.breaker = (w.breaker.call e.readings.start e.readings.finish
      ((e.pipeline w.breaker).identityResolver.resolve e.action.agentDid)).2 := by
    rw [hw']
    rfl
  have hclock : w'.clock = e.readings.finish := by rw [hw']
  rw [CircuitBreaker.call_snd_of_admits (h.admits hstart)] at hbreaker
  cases hknown : e.known with
  | some identity =>
      rw [resolve_known w.breaker hknown] at hbreaker
      -- A success closes the breaker, also as the one probe of a half-open state.
      left
      rcases h.enterCall_cases hstart with ⟨hst, hentered⟩ | ⟨-, -, hentered⟩
      · simp [hbreaker, hentered, CircuitBreaker.recordSuccess, hst]
      · simp [hbreaker, hentered, CircuitBreaker.recordSuccess]
  | none =>
      -- "Unknown DID" and "revoked" reach the breaker as failures of the call.
      obtain ⟨exc, hexc⟩ := resolve_unknown w.breaker hknown
      rw [hexc] at hbreaker
      rcases h.enterCall_cases hstart with ⟨hst, hentered⟩ | ⟨htimeout, hprobes, hentered⟩
      · rcases w.breaker.recordFailure_cases e.readings.finish with ⟨hmany, hb⟩ | ⟨-, -, hb⟩
        -- The row is long enough to trip: the condition leaves a timeout of zero only.
        · have hrow := hmany.resolve_left (by simp [hst])
          obtain ⟨htimeout, hprobes⟩ :=
            (hspares (by simp [hknown])).resolve_left (not_lt.mpr hrow)
          simp only [hentered, hb] at hbreaker
          exact Or.inr (by simp [hbreaker, hclock, CircuitBreaker.trip, htimeout, hprobes])
        · left
          simp [hbreaker, hentered, hb, hst]
      · right
        simp [hbreaker, hclock, hentered, CircuitBreaker.recordFailure, CircuitBreaker.trip,
          htimeout, hprobes]

theorem ready_of_reachable {b : CircuitBreaker} (hfresh : b.Fresh)
    (h : ((runs rt b).restrict SparesBreaker).Reachable w) : w.Ready := by
  refine h.invariant ?_ fun _ _ _ _ hI hstep => hI.step hstep.1 hstep.2
  intro w hw
  obtain rfl : w.breaker = b := hw
  exact Or.inl hfresh.1

/-- **Unknown agents leave known ones alone** in every run whose evaluations spare
the breaker. -/
theorem resolvesKnown_of_sparesBreaker {b : CircuitBreaker} (hfresh : b.Fresh)
    (h : ((runs rt b).restrict SparesBreaker).Reachable w)
    (hstep : ((runs rt b).restrict SparesBreaker).step w e w') : w.ResolvesKnown rt e := by
  intro identity hknown
  have hstart : w.clock ≤ e.readings.start := (step_eq_some.mp hstep.1).1.1
  have hadmits := (ready_of_reachable hfresh h).admits hstart
  have houtcome : (e.resolve w.breaker).1 = .ok ⟨some identity, false, false⟩ := by
    obtain ⟨hstore, hlive⟩ := IdentityResolver.resolve_eq_ok.mp (resolve_known w.breaker hknown)
    exact PipelineDeps.resolveIdentity_of_registered hadmits hstore hlive
  refine ⟨houtcome, fun hno => ?_⟩
  obtain ⟨d, hd⟩ := PipelineDeps.evaluate_returns_iff.mpr ⟨_, houtcome, hno⟩
  obtain ⟨outcome, ms, houtcome', -, hdecision⟩ := PipelineDeps.evaluate_eq_ok.mp hd
  obtain rfl := Except.ok.inj (houtcome.symm.trans houtcome')
  exact ⟨d, hd, by rw [hdecision, PipelineDeps.decision_degraded]⟩

/-- An agent the store has never seen. -/
def stranger : Identity := { (default : Identity) with
  did := py "did:stranger", did_length := by decide }

/-- An agent acts; only the default one is registered. -/
def visit (agent : Identity) : Evaluation where
  deps := quietDeps [] default
  registered := fun did => if did = (default : Identity).did then some default else none
  readings := .zero
  action := { (default : Action) with agentDid := agent.did, agentDid_length := agent.did_length }

theorem resolvesKnown_of_sparesBreaker_visits :
    ResolvesKnown default ⟨{ failures := 4 }, 0⟩ (visit default) :=
  resolvesKnown_of_sparesBreaker (b := {}) (by decide)
    (.replay_restrict (fun _ _ _ h => h) (show (runs default {}).init ⟨{}, 0⟩ from rfl)
      (List.replicate 4 (visit stranger)) (by decide +kernel))
    ⟨(by decide +kernel : PipelineWorld.step _ _ _ = some ⟨{}, 0⟩), by decide⟩

/-- Five strangers in a row open the breaker, and the registered agent is turned
away. -/
theorem strangers_degrade_known : ¬ ∀ (rt : PyRuntime) (b : CircuitBreaker)
    (w w' : PipelineWorld) (e : Evaluation), b.Fresh → (runs rt b).Reachable w →
      (runs rt b).step w e w' → w.ResolvesKnown rt e := by
  intro h
  have hrun : (runs default {}).Reachable ⟨{ state := .open, failures := 5 }, 0⟩ :=
    .replay (fun _ _ _ h => h) (.init (show (runs default {}).init ⟨{}, 0⟩ from rfl))
      (List.replicate 5 (visit stranger)) (by decide +kernel)
  have hresolves := h default {} _ ⟨{ state := .open, failures := 5 }, 0⟩
    (visit default) (by decide) hrun
    (by decide +kernel : PipelineWorld.step _ _ _ = some _) default rfl
  have hdegraded := congrArg (Except.map IdentityOutcome.degraded) hresolves.1
  exact absurd hdegraded (by decide +kernel)

end PipelineWorld

end AgentSentinel
