import AgentSentinel.Core.SharedPipeline
import AgentSentinel.Core.VerdictOrder
import AgentSentinel.Lib.Transition

/-!
# AgentSentinel.Core.TrustDecay

Trust over a row of evaluations. The documentation promises trust-score decay, so the
identity an evaluation resolves should carry the score that the verdicts before it
have left: the fold of `adjust` over them.

An evaluation computes the adjusted identity for the trust gate and drops it. Nothing
is written to the identity store, and the next evaluation resolves the identity as it
was registered. That is the fold exactly as long as no verdict moves the score or the
tier.
-/

namespace AgentSentinel

open Lib

/-- The identity after the scorer has observed the decisions. -/
def TrustScorer.fold (scorer : TrustScorer) (identity : Identity) (decisions : List Decision) :
    Option Identity :=
  decisions.foldl (fun i d => scorer.adjust i d.explanation.riskFactors d.verdict) (some identity)

/-- A verdict leaves an identity as it is exactly when it leaves the score, rounded to
four decimals, and the tier. -/
theorem TrustScorer.adjust_eq_self_iff {scorer : TrustScorer} {identity : Identity}
    {factors : List RiskFactor} {verdict : DecisionVerdict} :
    scorer.adjust (some identity) factors verdict = some identity ↔
      roundTo 4 (clampUnit (scorer.moved identity.trustScore.val factors verdict)) =
          identity.trustScore.val ∧
        resolveTier (clampUnit (scorer.moved identity.trustScore.val factors verdict)) =
          identity.tier := by
  obtain ⟨did, hdid, tenantId, capabilities, tier, score, revoked⟩ := identity
  simp only [adjust, Option.map_some, Option.some.injEq, Identity.mk.injEq, true_and, and_true]
  rw [and_comm, Subtype.ext_iff]

namespace PipelineDeps

variable {deps : PipelineDeps} {rt : PyRuntime} {r : Readings} {action : Action}

/-- Neither a rule nor the score objects to the action of a resolved agent. -/
def Passes (deps : PipelineDeps) (rt : PyRuntime) (action : Action)
    (identity : Option Identity) (factors : List RiskFactor) : Prop :=
  deps.policyEngine.Unrestricted rt action identity factors ∧
    aggregateRisk factors < throttleThreshold ∧ identity ≠ none

/-- The verdict that the rules, the score, the missing identity and the trust gate call
for. -/
def CallsFor (deps : PipelineDeps) (rt : PyRuntime) (action : Action)
    (identity : Option Identity) (factors : List RiskFactor) : DecisionVerdict → Prop
  | .deny => Denies rt deps.policyEngine action identity factors ∨
      (deps.Passes rt action identity factors ∧ deps.GateCloses action identity factors)
  | .throttle => Throttles rt deps.policyEngine action identity factors
  | .allow => deps.Passes rt action identity factors ∧
      ¬ deps.GateCloses action identity factors
  | .escalate => ¬ Denies rt deps.policyEngine action identity factors ∧
      ¬ Throttles rt deps.policyEngine action identity factors ∧
      ¬ deps.Passes rt action identity factors

/-- An evaluation decides as is called for. -/
theorem callsFor_decision {outcome : IdentityOutcome} {factors : List RiskFactor}
    {ms : List RuleMatch}
    (hms : deps.policyEngine.evaluate rt action outcome.identity factors = .ok ms) :
    deps.CallsFor rt action outcome.identity factors
      (deps.decision r action outcome factors ms).verdict := by
  have hdeny := reconcile_eq_deny_iff hms
  have hthrottle := reconcile_eq_throttle_iff hms
  have hpasses : _ ↔ deps.Passes rt action outcome.identity factors := reconcile_eq_allow_iff hms
  rw [decision_verdict]
  cases hv : (reconcile ms factors outcome.identity).1 with
  | allow =>
      have hpass := hpasses.mp hv
      by_cases hgate : deps.GateCloses action outcome.identity factors
      · rw [if_pos ⟨rfl, hgate⟩]
        exact Or.inr ⟨hpass, hgate⟩
      · rw [if_neg fun h => hgate h.2]
        exact ⟨hpass, hgate⟩
  | deny =>
      rw [if_neg fun h => nomatch h.1]
      exact Or.inl (hdeny.mp hv)
  | throttle =>
      rw [if_neg fun h => nomatch h.1]
      exact hthrottle.mp hv
  | escalate =>
      rw [if_neg fun h => nomatch h.1]
      simp only [hv, reduceCtorEq, false_iff] at hdeny hthrottle hpasses
      exact ⟨hdeny, hthrottle, hpasses⟩

end PipelineDeps

/-! ### Rows of evaluations -/

/-- One evaluation of a row: the action and the clocks. -/
structure TrackedEvaluation where
  action : Action
  clock : EvaluationClock

/-- The pipeline's state, and the decisions it has returned. -/
structure TrustWorld where
  state : PipelineState
  decisions : List Decision

namespace TrustWorld

variable (pipeline : SharedPipeline) (rt : PyRuntime)

/-- An evaluation that raises returns no decision. -/
def step (w : TrustWorld) (e : TrackedEvaluation) : TrustWorld :=
  let (result, state) := pipeline.evaluate rt w.state e.clock e.action
  match result with
  | .ok d => ⟨state, w.decisions ++ [d]⟩
  | .error _ => ⟨state, w.decisions⟩

/-- The rows of evaluations for the DID of a registered identity. Nothing is registered
in between. -/
def runs (identity : Identity) : TransitionSystem TrustWorld TrackedEvaluation where
  init w := w.state.identities.get identity.did = some identity ∧ w.decisions = []
  step w e w' := e.action.agentDid = identity.did ∧ w' = w.step pipeline rt e

/-- The identity that the next evaluation resolves is the fold of `adjust` over the
decisions so far. -/
def DecayAccumulates (identity : Identity) (w : TrustWorld) : Prop :=
  ∀ (e : TrackedEvaluation) (resolved : Identity), e.action.agentDid = identity.did →
    ((pipeline.depsAt w.state e.clock).resolveIdentity e.clock.toReadings e.action).1 =
      .ok ⟨some resolved, false, false⟩ →
    pipeline.deps.trustScorer.fold identity w.decisions = some resolved

/-- The verdict that is called for, unless a rule raises, leaves the score and the tier
of the stored identity as they are. -/
def KeepsTrust (w : TrustWorld) (e : TrackedEvaluation) : Prop :=
  let deps := pipeline.depsAt w.state e.clock
  ∀ identity outcome v, w.state.identities.get e.action.agentDid = some identity →
    (deps.resolveIdentity e.clock.toReadings e.action).1 = .ok outcome →
    let factors := deps.collectFactors e.clock.toReadings e.action outcome
    ¬ deps.policyEngine.RuleRaises rt e.action outcome.identity factors →
    deps.CallsFor rt e.action outcome.identity factors v →
      deps.trustScorer.adjust (some identity) factors v = some identity

variable {pipeline rt} {identity : Identity} {w w' : TrustWorld} {e : TrackedEvaluation}

/-- A row changes nothing that is registered. -/
theorem step_identities : (w.step pipeline rt e).state.identities = w.state.identities := by
  unfold step
  dsimp only
  split <;> rfl

/-- A step that keeps the trust keeps the fold. -/
theorem step_fold {stored : Identity}
    (hstored : w.state.identities.get e.action.agentDid = some stored)
    (hfold : pipeline.deps.trustScorer.fold identity w.decisions = some stored)
    (hkeeps : w.KeepsTrust pipeline rt e) :
    pipeline.deps.trustScorer.fold identity (w.step pipeline rt e).decisions = some stored := by
  unfold step
  dsimp only
  split
  next result d hd =>
      obtain ⟨outcome, ms, houtcome, hms, rfl⟩ := PipelineDeps.evaluate_eq_ok.mp hd
      have hno := PolicyEngine.evaluate_returns_iff.mp ⟨ms, hms⟩
      have hadjust := hkeeps stored outcome _ hstored houtcome hno
        (PipelineDeps.callsFor_decision (r := e.clock.toReadings) hms)
      rw [TrustScorer.fold] at hfold ⊢
      rw [List.foldl_append, hfold]
      exact hadjust
  next => exact hfold

/-- **Trust decay, where no verdict moves the trust.** -/
theorem decayAccumulates_of_keepsTrust
    (h : ((runs pipeline rt identity).restrict (KeepsTrust pipeline rt)).Reachable w) :
    w.DecayAccumulates pipeline identity := by
  have hinv : w.state.identities.get identity.did = some identity ∧
      pipeline.deps.trustScorer.fold identity w.decisions = some identity := by
    refine h.invariant (I := fun w => w.state.identities.get identity.did = some identity ∧
      pipeline.deps.trustScorer.fold identity w.decisions = some identity) ?_ ?_
    · intro w hinit
      obtain ⟨hregistered, hnone⟩ := hinit
      exact ⟨hregistered, by rw [hnone]; rfl⟩
    · intro w e w' _ hI hstep
      obtain ⟨⟨hdid, rfl⟩, hkeeps⟩ := hstep
      obtain ⟨hregistered, hfold⟩ := hI
      exact ⟨by rw [step_identities]; exact hregistered,
        step_fold (hdid ▸ hregistered) hfold hkeeps⟩
  intro e resolved hdid hresolved
  obtain ⟨-, -, hstore, -⟩ := PipelineDeps.resolveIdentity_eq_some hresolved rfl
  have hstored : w.state.identities.get e.action.agentDid = some resolved := Except.ok.inj hstore
  rw [hdid, hinv.1] at hstored
  rw [hinv.2, hstored]

/-! ### Two rows for one agent -/

/-- A pipeline with the given bundle that finds nothing. -/
def quietPipeline (rules : List PolicyRule) : SharedPipeline :=
  ⟨quietDeps rules default, { log10 := fun _ => 0 }⟩

/-- The agent is registered and nothing has been evaluated. -/
def registered (agent : Identity) : TrustWorld where
  state := { identities := PyDict.empty.set agent.did agent }
  decisions := []

/-- The agent calls a tool. -/
def toolCall (agent : Identity) : TrackedEvaluation where
  action := { (default : Action) with agentDid := agent.did, agentDid_length := agent.did_length }
  clock := ⟨.zero, 0⟩

/-- An agent whose score cannot rise any more. -/
def topAgent : Identity := { (default : Identity) with
  tier := .privileged, trustScore := ⟨1, by norm_num⟩ }

theorem keepsTrust_topAgent :
    (registered topAgent).KeepsTrust (quietPipeline []) default (toolCall topAgent) := by
  intro identity outcome v hstored houtcome factors hno hcalls
  obtain rfl : topAgent = identity := Option.some.inj hstored
  have hresolved : (((quietPipeline []).depsAt (registered topAgent).state
      (toolCall topAgent).clock).resolveIdentity .zero (toolCall topAgent).action).1 =
        .ok ⟨some topAgent, false, false⟩ :=
    PipelineDeps.resolveIdentity_of_registered (CircuitBreaker.admits_iff.mpr (Or.inl rfl)) rfl rfl
  obtain rfl := Except.ok.inj (hresolved.symm.trans houtcome)
  have hfactors : factors = [] := List.isEmpty_iff.mp (by decide +kernel)
  rw [hfactors] at hcalls ⊢
  have hnone (effect : RuleEffect) : ¬ PolicyEngine.Triggers default
      ((quietPipeline []).depsAt (registered topAgent).state (toolCall topAgent).clock).policyEngine
      (toolCall topAgent).action (some topAgent) [] effect := by
    intro h
    obtain ⟨rule, hrule, -⟩ := h
    cases hrule
  have hrisk : aggregateRisk [] < throttleThreshold := by decide +kernel
  -- No rule and no score objects, so the action is allowed, and the score stays at its top.
  have hpasses : PipelineDeps.Passes
      ((quietPipeline []).depsAt (registered topAgent).state (toolCall topAgent).clock) default
      (toolCall topAgent).action (some topAgent) [] :=
    ⟨fun effect h => absurd h (hnone effect), hrisk, Option.some_ne_none _⟩
  cases v with
  | allow =>
      exact TrustScorer.adjust_eq_self_iff.mpr (by decide +kernel)
  | deny =>
      rcases hcalls with (hrule | ⟨-, hscore⟩) | ⟨-, hgate⟩
      · exact absurd hrule (hnone _)
      · exact absurd hscore (by decide +kernel)
      · exact absurd hgate (by decide +kernel)
  | throttle =>
      rcases hcalls with ⟨hrule, -⟩ | ⟨-, hscore, -⟩
      · exact absurd hrule (hnone _)
      · exact absurd hscore (not_le.mpr hrisk)
  | escalate => exact absurd hpasses hcalls.2.2

/-- Two clean actions of the agent with the top score. -/
theorem decayAccumulates_of_keepsTrust_topAgent :
    ((registered topAgent).step (quietPipeline []) default (toolCall topAgent)).DecayAccumulates
      (quietPipeline []) topAgent :=
  decayAccumulates_of_keepsTrust
    (.step (.init ⟨rfl, rfl⟩) ⟨⟨rfl, rfl⟩, keepsTrust_topAgent⟩)

/-- Deny everything. -/
def denyAll : PolicyRule := { id := py "deny-all", effect := .deny }

/-- The agent after `n` tool calls. -/
def deniedCalls : ℕ → TrustWorld
  | 0 => registered default
  | n + 1 => (deniedCalls n).step (quietPipeline [denyAll]) default (toolCall default)

theorem deniedCalls_reachable (n : ℕ) :
    (runs (quietPipeline [denyAll]) default default).Reachable (deniedCalls n) := by
  induction n with
  | zero => exact .init ⟨rfl, rfl⟩
  | succ n ih => exact .step ih ⟨rfl, rfl⟩

/-- Three denials should leave a score of 0.15; the fourth evaluation resolves the agent
with the score it was registered with. -/
theorem denials_forgotten : ¬ ∀ (pipeline : SharedPipeline) (rt : PyRuntime)
    (identity : Identity) (w : TrustWorld), (runs pipeline rt identity).Reachable w →
      w.DecayAccumulates pipeline identity := by
  intro h
  have hclosed : (deniedCalls 3).state.breaker.state = .closed := by decide +kernel
  have hstored : (deniedCalls 3).state.identities.get (default : Identity).did = some default := by
    simp only [deniedCalls, step_identities]
    rfl
  have hfold := h _ _ _ _ (deniedCalls_reachable 3) (toolCall default) default rfl
    (PipelineDeps.resolveIdentity_of_registered
      (CircuitBreaker.admits_iff.mpr (Or.inl hclosed)) (congrArg Except.ok hstored) rfl)
  have hscore := congrArg (Option.map fun i => (i.trustScore.val, i.tier)) hfold
  exact absurd hscore (by decide +kernel)

end TrustWorld

end AgentSentinel
