import AgentSentinel.Core.AllowSoundness
import AgentSentinel.Utils.Canonical

/-!
# AgentSentinel.Core.Interceptor

The front door: stamp the action's payload digest and hand it to the pipeline.
The stopwatch and the log have no part in the verdict.

Not everything that can go wrong behind the front door is turned into a decision.
What leaves it as an exception instead is told exactly: a digest that cannot be
computed, an exception of the identity store that the pipeline has no handler for,
and a policy rule that raises.
-/

namespace AgentSentinel

open Lib

/-- Front-door for actions awaiting evaluation. -/
structure Interceptor where
  pipeline : PipelineDeps
  lib : HashLibrary

namespace Interceptor

variable (interceptor : Interceptor) (rt : PyRuntime) (r : Readings) (action : Action)

/-- Stamp the digest, unless the action comes with one. -/
def stamp : Result Action :=
  match action.payloadDigest with
  | some _ => .ok action
  | none => do
    let digest ← action.digest interceptor.lib rt
    return { action with payloadDigest := some digest }

/-- `evaluate`; `elapsedMs` is what the interceptor's own stopwatch shows. -/
def evaluate (elapsedMs : ℚ) : Result Decision × CircuitBreaker :=
  match interceptor.stamp rt action with
  | .error e => (.error e, interceptor.pipeline.identityBreaker)
  | .ok action =>
    let (result, breaker) := interceptor.pipeline.evaluate rt r action
    (result.map fun decision =>
      if decision.latencyMs.isNone then { decision with latencyMs := some elapsedMs }
      else decision, breaker)

/-- The identity store raised, or one of the classifiers did. -/
def CollaboratorRaised : Prop :=
  Raised (interceptor.pipeline.identityResolver.store action.agentDid) ∨
    ∃ outcome, (interceptor.pipeline.resolveIdentity r action).1 = .ok outcome ∧
      ∃ run ∈ interceptor.pipeline.classifierRuns r action outcome.identity, Raised run.2

/-- The breaker refuses the identity call, or the store returns or raises one of the
two exceptions the pipeline has a handler for. -/
def StoreHandled : Prop :=
  interceptor.pipeline.identityBreaker.Admits r.start →
    ∀ e, interceptor.pipeline.identityResolver.store action.agentDid = .error e →
      e.kind = .identityError ∨ e.kind = .dependencyUnavailable

/-- No enabled rule raises on the action, with the identity the identity step hands
on and the factors collected for it. -/
def RulesReturn : Prop :=
  ∀ outcome, (interceptor.pipeline.resolveIdentity r action).1 = .ok outcome →
    ¬ interceptor.pipeline.policyEngine.RuleRaises rt action outcome.identity
      (interceptor.pipeline.collectFactors r action outcome)

variable {interceptor rt r action} {elapsedMs : ℚ}

/-- The interceptor returns the pipeline's decision on the stamped action, but for
the latency. -/
theorem evaluate_eq_ok {d : Decision} (h : (interceptor.evaluate rt r action elapsedMs).1 = .ok d) :
    ∃ stamped d', interceptor.stamp rt action = .ok stamped ∧
      (interceptor.pipeline.evaluate rt r stamped).1 = .ok d' ∧ d.verdict = d'.verdict := by
  unfold evaluate at h
  cases hstamp : interceptor.stamp rt action with
  | error e =>
      rw [hstamp] at h
      cases h
  | ok stamped =>
      rw [hstamp] at h
      obtain ⟨d', hd', hd⟩ := map_eq_ok.mp h
      refine ⟨stamped, d', rfl, hd', ?_⟩
      rw [← hd]
      split <;> rfl

theorem evaluate_returns {stamped : Action} {d : Decision}
    (hstamp : interceptor.stamp rt action = .ok stamped)
    (h : (interceptor.pipeline.evaluate rt r stamped).1 = .ok d) (elapsedMs : ℚ) :
    ∃ d', (interceptor.evaluate rt r action elapsedMs).1 = .ok d' := by
  simp only [evaluate, hstamp, h]
  exact ⟨_, rfl⟩

/-- The identity step returns exactly when the store's answer is handled. -/
theorem resolveIdentity_returns_iff :
    (∃ outcome, (interceptor.pipeline.resolveIdentity r action).1 = .ok outcome) ↔
      interceptor.StoreHandled r action := by
  rw [PipelineDeps.resolveIdentity_fst]
  by_cases hadmits : interceptor.pipeline.identityBreaker.Admits r.start
  -- The breaker passes the resolver's own exception on, whatever its class.
  · rw [CircuitBreaker.call_of_admits hadmits, StoreHandled]
    constructor
    · intro h _ e he
      obtain ⟨outcome, houtcome⟩ := h
      have hraise : interceptor.pipeline.identityResolver.resolve action.agentDid = .error e := by
        simp [IdentityResolver.resolve, he, bind, Except.bind]
      rw [hraise] at houtcome
      rcases PipelineDeps.identityOutcome_eq_ok.mp houtcome with ⟨i, hi, -⟩ |
        ⟨e', he', hkind, -⟩ | ⟨e', he', hkind, -⟩
      · cases hi
      · exact Or.inr (Except.error.inj he' ▸ hkind)
      · exact Or.inl (Except.error.inj he' ▸ hkind)
    · intro hhandled
      cases hanswer : interceptor.pipeline.identityResolver.resolve action.agentDid with
      | ok identity => exact ⟨_, rfl⟩
      | error e =>
          have hkind : e.kind = .identityError ∨ e.kind = .dependencyUnavailable := by
            rcases IdentityResolver.resolve_eq_error hanswer with hstore | hkind
            · exact hhandled hadmits e hstore
            · exact Or.inl hkind
          rcases hkind with hkind | hkind <;> simp [identityOutcome, hkind]
  · obtain ⟨e, he, hkind⟩ := CircuitBreaker.call_of_refused hadmits r.finish
      (interceptor.pipeline.identityResolver.resolve action.agentDid)
    rw [he]
    exact iff_of_true ⟨⟨none, true, false⟩, by simp [identityOutcome, hkind]⟩
      (fun hyes => absurd hyes hadmits)

/-- What is allowed, nobody raised on. -/
theorem not_collaboratorRaised_of_allow {d : Decision}
    (h : (interceptor.pipeline.evaluate rt r action).1 = .ok d) (hallow : d.verdict = .allow) :
    ¬ interceptor.CollaboratorRaised r action := by
  obtain ⟨identity, ms, houtcome, -, -, -, hscore, -⟩ :=
    PipelineDeps.evaluate_allow_inv h hallow
  obtain ⟨-, -, hstore, -⟩ := PipelineDeps.resolveIdentity_eq_some houtcome rfl
  intro hraises
  rcases hraises with hraised | ⟨outcome, houtcome', run, hrun, hraised⟩
  · rw [hstore] at hraised
    exact not_raised_ok hraised
  · obtain rfl := Except.ok.inj (houtcome.symm.trans houtcome')
    exact PipelineDeps.not_raised_of_lowRisk hscore run hrun hraised

/-- **Failures become decisions** exactly when the digest can be stamped, the store's
answer is handled and no rule raises. -/
theorem evaluate_fails_closed_iff :
    (∃ d, (interceptor.evaluate rt r action elapsedMs).1 = .ok d ∧
      ∀ stamped, interceptor.stamp rt action = .ok stamped →
        interceptor.CollaboratorRaised r stamped → d.verdict ≠ .allow) ↔
      ∃ stamped, interceptor.stamp rt action = .ok stamped ∧
        interceptor.StoreHandled r stamped ∧ interceptor.RulesReturn rt r stamped := by
  constructor
  · intro h
    obtain ⟨d, hd, -⟩ := h
    obtain ⟨stamped, d', hstamp, hd', -⟩ := evaluate_eq_ok hd
    obtain ⟨outcome, houtcome, hno⟩ := PipelineDeps.evaluate_returns_iff.mp ⟨d', hd'⟩
    refine ⟨stamped, hstamp, resolveIdentity_returns_iff.mp ⟨outcome, houtcome⟩, ?_⟩
    intro outcome' houtcome'
    obtain rfl := Except.ok.inj (houtcome.symm.trans houtcome')
    exact hno
  · intro h
    obtain ⟨stamped, hstamp, hstore, hrules⟩ := h
    obtain ⟨outcome, houtcome⟩ := resolveIdentity_returns_iff.mpr hstore
    obtain ⟨d', hd'⟩ := PipelineDeps.evaluate_returns_iff.mpr ⟨outcome, houtcome, hrules _ houtcome⟩
    obtain ⟨d, hd⟩ := evaluate_returns hstamp hd' elapsedMs
    refine ⟨d, hd, fun stamped' hstamp' hraised hallow => ?_⟩
    obtain ⟨stamped'', d'', hstamp'', hd'', hverdict⟩ := evaluate_eq_ok hd
    obtain rfl := Except.ok.inj (hstamp'.symm.trans hstamp'')
    exact not_collaboratorRaised_of_allow hd'' (hverdict ▸ hallow) hraised

/-- An interceptor whose identity store is down. -/
def storeDown : Interceptor where
  pipeline := { quietDeps [] default with
    identityResolver := ⟨fun _ => .error ⟨.other (py "ConnectionError"), py "refused"⟩⟩ }
  lib := {
    orjsonDumps := fun _ => .ok []
    dumpArguments := fun _ => .ok .none
    sha256Hex := fun _ => [] }

/-- The breaker passes the store's own exception on, and nobody catches it. -/
theorem store_exception_escapes : ¬ ∀ (interceptor : Interceptor) (rt : PyRuntime) (r : Readings)
    (action : Action) (elapsedMs : ℚ),
    ∃ d, (interceptor.evaluate rt r action elapsedMs).1 = .ok d ∧
      ∀ stamped, interceptor.stamp rt action = .ok stamped →
        interceptor.CollaboratorRaised r stamped → d.verdict ≠ .allow := by
  intro h
  obtain ⟨d, hd, -⟩ := h storeDown default .zero default 0
  have hverdict := congrArg (Except.map Decision.verdict) hd
  have hraises : (storeDown.evaluate default .zero default 0).1.map Decision.verdict =
      .error ⟨.other (py "ConnectionError"), py "refused"⟩ := by decide +kernel
  rw [hraises] at hverdict
  cases hverdict

end Interceptor

end AgentSentinel
