import AgentSentinel.Core.AllowSoundness

/-!
# AgentSentinel.Core.TrustGate

What the trust gate guarantees to an agent in the observe tier, documented as
"read-only, no side effects".

The gate never looks at the tier the agent holds. It recomputes a tier from the
score, and from the score *after* the verdict has moved it, clean recovery
included. An agent that was put into the observe tier with a score above the band,
or whose score the recovery lifts over the edge of the band, passes the gate.
-/

namespace AgentSentinel

open Lib

/-- The tier of a score is observe exactly below the band of the constrained tier. -/
theorem resolveTier_eq_observe_iff {score : ℚ} : resolveTier score = .observe ↔ score < 1 / 4 := by
  unfold resolveTier tierBands
  simp only [List.find?_cons, List.find?_nil]
  by_cases h : (1 / 4 : ℚ) ≤ score
  · refine iff_of_false ?_ (not_lt.mpr h)
    by_cases h1 : (9 / 10 : ℚ) ≤ score <;> by_cases h2 : (7 / 10 : ℚ) ≤ score <;>
      by_cases h3 : (1 / 2 : ℚ) ≤ score <;>
        simp only [h, h1, h2, h3, decide_true, decide_false, reduceCtorEq, not_false_iff]
  · have hs := not_le.mp h
    have hband (threshold : ℚ) (ht : 1 / 4 ≤ threshold) : decide (threshold ≤ score) = false :=
      decide_eq_false (not_le.mpr (hs.trans_le ht))
    refine iff_of_true ?_ hs
    simp only [hband (9 / 10) (by norm_num), hband (7 / 10) (by norm_num),
      hband (1 / 2) (by norm_num), hband (1 / 4) le_rfl]
    -- The score may even be negative: no band is left then, which is observe as well.
    by_cases hzero : (0 : ℚ) ≤ score <;> simp only [hzero, decide_true, decide_false]

/-- Whether the scorer's verdict on an identity collapses is a matter of its score. -/
theorem TrustScorer.collapsesToObserve_some_iff {scorer : TrustScorer} {identity : Identity}
    {factors : List RiskFactor} {verdict : DecisionVerdict} :
    scorer.CollapsesToObserve (some identity) factors verdict ↔
      clampUnit (scorer.moved identity.trustScore.val factors verdict) < 1 / 4 := by
  rw [← resolveTier_eq_observe_iff]
  simp [CollapsesToObserve, adjust]

namespace PipelineDeps

variable {deps : PipelineDeps} {rt : PyRuntime} {r : Readings} {action : Action}
  {identity : Identity}

/-- An identity that holds the observe tier gets no action allowed but one that only
reads. -/
def ObserveReadsOnly (deps : PipelineDeps) (rt : PyRuntime) (r : Readings) (action : Action)
    (identity : Identity) : Prop :=
  identity.tier = .observe → action.type.readOnly = false →
    ∀ d, (deps.evaluate rt r action).1 = .ok d → d.verdict ≠ .allow

/-- An evaluation for a resolved identity allows exactly what no rule, no score and
no gate objects to. -/
theorem evaluate_allows_iff
    (hresolved : (deps.resolveIdentity r action).1 = .ok ⟨some identity, false, false⟩) :
    (∃ d, (deps.evaluate rt r action).1 = .ok d ∧ d.verdict = .allow) ↔
      ¬ deps.policyEngine.RuleRaises rt action (some identity)
          (deps.factorsWith r action identity) ∧
        deps.policyEngine.Unrestricted rt action (some identity)
          (deps.factorsWith r action identity) ∧
        aggregateRisk (deps.factorsWith r action identity) < throttleThreshold ∧
        ¬ deps.GateCloses action (some identity) (deps.factorsWith r action identity) := by
  constructor
  · intro h
    obtain ⟨d, hd, hallow⟩ := h
    obtain ⟨i, ms, houtcome, hms, -, hfree, hscore, hgate⟩ := evaluate_allow_inv hd hallow
    obtain rfl : identity = i := by
      have hsame := congrArg IdentityOutcome.identity
        (Except.ok.inj (hresolved.symm.trans houtcome))
      exact Option.some.inj hsame
    exact ⟨PolicyEngine.evaluate_returns_iff.mp ⟨ms, hms⟩, hfree, hscore, hgate⟩
  · intro h
    obtain ⟨hno, hfree, hscore, hgate⟩ := h
    obtain ⟨ms, hms⟩ := PolicyEngine.evaluate_returns_iff.mpr hno
    refine ⟨_, evaluate_eq_ok.mpr ⟨_, ms, hresolved, hms, rfl⟩, ?_⟩
    rw [decision_verdict, if_neg fun h => hgate h.2]
    exact (reconcile_eq_allow_iff hms).mpr ⟨hfree, hscore, Option.some_ne_none _⟩

/-- **The gate protects by the score and not by the tier held**: an agent in the
observe tier is kept from writing exactly where the rules or the risk score already
do so, or where its score lies below the band after the recovery of a clean action. -/
theorem observeReadsOnly_iff
    (hresolved : (deps.resolveIdentity r action).1 = .ok ⟨some identity, false, false⟩)
    (hobserve : identity.tier = .observe) (hwrite : action.type.readOnly = false) :
    ObserveReadsOnly deps rt r action identity ↔
      deps.policyEngine.RuleRaises rt action (some identity) (deps.factorsWith r action identity) ∨
      ¬ deps.policyEngine.Unrestricted rt action (some identity)
          (deps.factorsWith r action identity) ∨
      throttleThreshold ≤ aggregateRisk (deps.factorsWith r action identity) ∨
      clampUnit (deps.trustScorer.moved identity.trustScore.val
        (deps.factorsWith r action identity) .allow) < 1 / 4 := by
  have hnone : ObserveReadsOnly deps rt r action identity ↔
      ¬ ∃ d, (deps.evaluate rt r action).1 = .ok d ∧ d.verdict = .allow := by
    constructor
    · intro h hallows
      obtain ⟨d, hd, hallow⟩ := hallows
      exact h hobserve hwrite d hd hallow
    · intro h _ _ d hd hallow
      exact h ⟨d, hd, hallow⟩
  have hgate : deps.GateCloses action (some identity) (deps.factorsWith r action identity) ↔
      clampUnit (deps.trustScorer.moved identity.trustScore.val
        (deps.factorsWith r action identity) .allow) < 1 / 4 := by
    rw [GateCloses, TrustScorer.collapsesToObserve_some_iff, and_iff_left hwrite]
  rw [hnone, evaluate_allows_iff hresolved, hgate, not_and_or, not_and_or, not_and_or, not_not,
    not_not, not_lt]

/-- The one agent of a quiet pipeline is resolved. -/
theorem quietDeps_resolves {rules : List PolicyRule} (hdid : action.agentDid = identity.did)
    (hlive : identity.revoked = false) :
    ((quietDeps rules identity).resolveIdentity .zero action).1 =
      .ok ⟨some identity, false, false⟩ :=
  resolveIdentity_of_registered (CircuitBreaker.admits_iff.mpr (Or.inl rfl))
    (by simp [quietDeps, hdid]) hlive

/-- An agent put into the observe tier without touching its score. -/
def observer : Identity := { (default : Identity) with tier := .observe }

/-- The same agent with a score of 0.2. -/
def lowObserver : Identity := { observer with trustScore := ⟨1 / 5, by norm_num⟩ }

/-- A tool call of the agent. -/
def observerAction : Action := { (default : Action) with
  agentDid := observer.did, agentDid_length := observer.did_length }

theorem observeReadsOnly_iff_lowObserver :
    ObserveReadsOnly (quietDeps [] lowObserver) default .zero observerAction lowObserver :=
  (observeReadsOnly_iff (quietDeps_resolves rfl rfl) rfl (by decide)).mpr
    (Or.inr (Or.inr (Or.inr (by decide +kernel))))

/-- With the default score of 0.75 an agent in the observe tier calls a tool. -/
theorem observe_agent_writes : ¬ ∀ (deps : PipelineDeps) (rt : PyRuntime) (r : Readings)
    (action : Action) (identity : Identity),
    (deps.resolveIdentity r action).1 = .ok ⟨some identity, false, false⟩ →
      ObserveReadsOnly deps rt r action identity := by
  intro h
  have hrun : ((quietDeps [] observer).evaluate default .zero observerAction).1.map (·.verdict) =
      .ok .allow := by decide +kernel
  obtain ⟨d, hd, hallow⟩ := map_eq_ok.mp hrun
  exact h _ default .zero observerAction observer (quietDeps_resolves rfl rfl) rfl (by decide) d hd
    hallow

end PipelineDeps

end AgentSentinel
