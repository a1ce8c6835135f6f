import AgentSentinel.Classifiers.ToolValidator
import AgentSentinel.Core.CircuitBreaker
import AgentSentinel.Core.Reconcile
import AgentSentinel.Identity.Resolver

/-!
# AgentSentinel.Core.Pipeline

The decision pipeline: resolve the identity behind its circuit breaker, run the
five classifiers, evaluate the policy bundle, reconcile and apply the trust gate.

`evaluate` returns what the call returns or raises together with the breaker it
leaves behind. Only the identity step and the policy engine can make it raise; a
classifier that raises is turned into a risk factor. What a call that returns has
computed is `evaluate_eq_ok`, and everything proved about verdicts goes through
it.
-/

namespace AgentSentinel

open Lib

/-- A classifier applied to the action. The four detectors besides the tool
validator are handed the identity, too, but none of them reads it. -/
abbrev Detector := Action → Result (List RiskFactor)

/-- Wires the pipeline to its collaborators. -/
structure PipelineDeps where
  policyEngine : PolicyEngine
  identityResolver : IdentityResolver
  trustScorer : TrustScorer := {}
  intentClassifier : Detector
  toolValidator : ToolValidator
  anomalyDetector : Detector
  injectionDetector : Detector
  dlpScanner : Detector
  identityBreaker : CircuitBreaker := { name := py "identity" }

/-- What the clocks say to one evaluation: the monotonic clock when the identity
call starts and when its failure is recorded, the time of day, and the stopwatch
around the classifiers. -/
structure Readings where
  start : ℚ
  finish : ℚ
  now : PyDatetime
  elapsedMs : ℚ

/-! ### The identity step -/

/-- What the identity step leaves for the rest of the evaluation. -/
structure IdentityOutcome where
  identity : Option Identity
  degraded : Bool
  unknown : Bool

/-- The handlers around the identity call. An exception they do not name leaves
the pipeline. -/
def identityOutcome : Result Identity → Result IdentityOutcome
  | .ok identity => .ok ⟨some identity, false, false⟩
  | .error e =>
    match e.kind with
    | .dependencyUnavailable => .ok ⟨none, true, false⟩
    | .identityError => .ok ⟨none, false, true⟩
    | _ => .error e

/-- The factor that stands for an unknown identity. -/
def unknownIdentity (action : Action) : RiskFactor where
  code := py "identity.unknown"
  severity := ⟨3 / 5, by norm_num⟩
  detector := py "identity_resolver"
  message := py "Unknown or anonymous agent DID: " ++ action.agentDid
  evidence := ⟨[(py "references", py "OWASP-AGENT-04")], by decide⟩

/-! ### The classifiers -/

/-- The factor that stands for a classifier that raised. -/
def classifierError (qualname : PyStr) (e : PyExc) : RiskFactor where
  code := py "classifier.error"
  severity := ⟨3 / 5, by norm_num⟩
  detector := qualname
  message := py "Classifier failed; treating as elevated risk."
  evidence := ⟨[(py "error", e.msg.take 200)], by simp⟩

/-- `_safe_run` on what the classifier of this name does. -/
def safeRun (qualname : PyStr) : Result (List RiskFactor) → List RiskFactor
  | .ok fs => fs
  | .error e => [classifierError qualname e]

/-! ### The trust gate and the explanation -/

/-- The action types an agent in the observe tier may still use. -/
def ActionType.readOnly (type : ActionType) : Bool :=
  [py "file_read", py "memory_read", py "llm_prompt"].contains type.value

/-- The first of the factors with the largest severity. -/
def topFactor (f : RiskFactor) (fs : List RiskFactor) : RiskFactor :=
  fs.foldl (fun top f => if top.severity.val < f.severity.val then f else top) f

/-- `_remediation`. -/
def remediation (verdict : DecisionVerdict) (factors : List RiskFactor) : Option PyStr :=
  if verdict = .allow then none
  else
    match factors with
    | [] => some (py "Review the triggered policy rule(s) and adjust agent behavior.")
    | f :: fs =>
      let top := topFactor f fs
      some (py "Top risk factor: " ++ top.code ++ py " (" ++ top.detector ++ py "). " ++
        top.message)

/-- `_refs_for`. -/
def refsFor (f : RiskFactor) : List PyStr :=
  match f.evidence.get (py "references") with
  | none => []
  | some refs => if refs.isEmpty then [] else PyStr.split refs ','

/-- `_unique`: the first occurrences, in order, without empty strings. -/
def uniqueRefs (seen : List PyStr) : List PyStr → List PyStr
  | [] => []
  | ref :: refs =>
    if ref.isEmpty ∨ ref ∈ seen then uniqueRefs seen refs
    else ref :: uniqueRefs (ref :: seen) refs

namespace PipelineDeps

variable (deps : PipelineDeps) (rt : PyRuntime) (r : Readings) (action : Action)

/-- The same pipeline with its identity breaker in another state. -/
def withBreaker (breaker : CircuitBreaker) : PipelineDeps :=
  { deps with identityBreaker := breaker }

/-- The identity call behind the breaker, and its handlers. -/
def resolveIdentity : Result IdentityOutcome × CircuitBreaker :=
  let (answer, breaker) := deps.identityBreaker.call r.start r.finish
    (deps.identityResolver.resolve action.agentDid)
  (identityOutcome answer, breaker)

/-- The five classifiers by name, and what each does. -/
def classifierRuns (identity : Option Identity) : List (PyStr × Result (List RiskFactor)) :=
  [(py "IntentClassifier.classify", deps.intentClassifier action),
    (py "ToolValidator.validate", deps.toolValidator.validate r.now action identity),
    (py "AnomalyDetector.score", deps.anomalyDetector action),
    (py "PromptInjectionDetector.scan", deps.injectionDetector action),
    (py "DLPScanner.scan", deps.dlpScanner action)]

/-- All risk factors of one evaluation. -/
def collectFactors (outcome : IdentityOutcome) : List RiskFactor :=
  (if outcome.unknown then [unknownIdentity action] else []) ++
    (deps.classifierRuns r action outcome.identity).flatMap fun run => safeRun run.1 run.2

/-- The trust gate closes: what would be allowed is denied to an agent whose trust
has collapsed, unless the action only reads. -/
def GateCloses (identity : Option Identity) (factors : List RiskFactor) : Prop :=
  deps.trustScorer.CollapsesToObserve identity factors .allow ∧ action.type.readOnly = false

instance (identity : Option Identity) (factors : List RiskFactor) :
    Decidable (deps.GateCloses action identity factors) :=
  inferInstanceAs (Decidable (_ ∧ _))

/-- The verdict and the summary after the trust gate. -/
def trustGate (identity : Option Identity) (factors : List RiskFactor)
    (verdict : DecisionVerdict) (summary : PyStr) : DecisionVerdict × PyStr :=
  if deps.trustScorer.CollapsesToObserve identity factors verdict then
    if verdict = .allow ∧ action.type.readOnly = false then
      (.deny, py "Identity demoted to OBSERVE tier; write actions denied.")
    else (verdict, summary)
  else (verdict, summary)

/-- The decision on an action, once the identity, the factors and the matched
rules are known. -/
def decision (outcome : IdentityOutcome) (factors : List RiskFactor) (ms : List RuleMatch) :
    Decision :=
  let (verdict, summary, ruleIds) := reconcile ms factors outcome.identity
  let (verdict, summary) := deps.trustGate action outcome.identity factors verdict summary
  { actionId := action.id
    verdict
    explanation := {
      summary
      triggeredRuleIds := ruleIds
      riskFactors := factors
      riskScore := ⟨aggregateRisk factors, aggregateRisk_mem_unit factors⟩
      recommendedRemediation := remediation verdict factors
      references := uniqueRefs [] (factors.flatMap refsFor) }
    latencyMs := some r.elapsedMs
    degraded := outcome.degraded }

/-- `evaluate`. -/
def evaluate : Result Decision × CircuitBreaker :=
  let (answer, breaker) := deps.resolveIdentity r action
  let result := do
    let outcome ← answer
    let factors := deps.collectFactors r action outcome
    let ms ← deps.policyEngine.evaluate rt action outcome.identity factors
    return deps.decision r action outcome factors ms
  (result, breaker)

end PipelineDeps

/-- A pipeline in which nothing is found and only `agent` is registered. -/
def quietDeps (rules : List PolicyRule) (agent : Identity) : PipelineDeps where
  policyEngine := ⟨⟨rules⟩⟩
  identityResolver := ⟨fun did => .ok (if did = agent.did then some agent else none)⟩
  intentClassifier _ := .ok []
  toolValidator := { registry := .empty, schemaValidate := fun _ _ => .valid }
  anomalyDetector _ := .ok []
  injectionDetector _ := .ok []
  dlpScanner _ := .ok []

/-- Readings of clocks that stand still. -/
def Readings.zero : Readings := ⟨0, 0, .aware 0 0, 0⟩

/-! ### What an evaluation that returns has computed -/

namespace PipelineDeps

variable {deps : PipelineDeps} {rt : PyRuntime} {r : Readings} {action : Action}

/-- The store is asked for the action's agent and the anomaly detector about the action,
and for nothing else. -/
theorem evaluate_local : deps.evaluate rt r action =
    ({ deps with
        identityResolver := ⟨fun _ => deps.identityResolver.store action.agentDid⟩
        anomalyDetector := fun _ => deps.anomalyDetector action } : PipelineDeps).evaluate
      rt r action := rfl

theorem evaluate_eq_ok {d : Decision} :
    (deps.evaluate rt r action).1 = .ok d ↔
      ∃ outcome ms, (deps.resolveIdentity r action).1 = .ok outcome ∧
        deps.policyEngine.evaluate rt action outcome.identity
          (deps.collectFactors r action outcome) = .ok ms ∧
        d = deps.decision r action outcome (deps.collectFactors r action outcome) ms := by
  simp only [evaluate, bind_eq_ok]
  constructor
  · intro h
    obtain ⟨outcome, houtcome, ms, hms, hd⟩ := h
    exact ⟨outcome, ms, houtcome, hms, (Except.ok.inj hd).symm⟩
  · intro h
    obtain ⟨outcome, ms, houtcome, hms, rfl⟩ := h
    exact ⟨outcome, houtcome, ms, hms, rfl⟩

/-- The evaluation returns exactly when the identity step and the policy engine do. -/
theorem evaluate_returns_iff :
    (∃ d, (deps.evaluate rt r action).1 = .ok d) ↔
      ∃ outcome, (deps.resolveIdentity r action).1 = .ok outcome ∧
        ¬ deps.policyEngine.RuleRaises rt action outcome.identity
          (deps.collectFactors r action outcome) := by
  constructor
  · intro h
    obtain ⟨d, hd⟩ := h
    obtain ⟨outcome, ms, houtcome, hms, -⟩ := evaluate_eq_ok.mp hd
    exact ⟨outcome, houtcome, PolicyEngine.evaluate_returns_iff.mp ⟨ms, hms⟩⟩
  · intro h
    obtain ⟨outcome, houtcome, hno⟩ := h
    obtain ⟨ms, hms⟩ := PolicyEngine.evaluate_returns_iff.mpr hno
    exact ⟨_, evaluate_eq_ok.mpr ⟨outcome, ms, houtcome, hms, rfl⟩⟩

@[simp] theorem decision_degraded {outcome : IdentityOutcome} {factors : List RiskFactor}
    {ms : List RuleMatch} :
    (deps.decision r action outcome factors ms).degraded = outcome.degraded := rfl

/-- The gate turns an `allow` into a `deny` and leaves every other verdict alone. -/
theorem decision_verdict {outcome : IdentityOutcome} {factors : List RiskFactor}
    {ms : List RuleMatch} :
    (deps.decision r action outcome factors ms).verdict =
      if (reconcile ms factors outcome.identity).1 = .allow ∧
          deps.GateCloses action outcome.identity factors then .deny
      else (reconcile ms factors outcome.identity).1 := by
  simp only [decision, trustGate, GateCloses]
  generalize (reconcile ms factors outcome.identity).1 = verdict
  by_cases hallow : verdict = .allow
  · subst hallow
    by_cases hobserve : deps.trustScorer.CollapsesToObserve outcome.identity factors .allow
    · by_cases hread : action.type.readOnly = false <;> simp [hobserve, hread]
    · simp [hobserve]
  · simp [hallow]

/-- Every way the identity step returns: with a registered identity, degraded, or
with an unknown one. -/
theorem identityOutcome_eq_ok {answer : Result Identity} {outcome : IdentityOutcome} :
    identityOutcome answer = .ok outcome ↔
      (∃ identity, answer = .ok identity ∧ outcome = ⟨some identity, false, false⟩) ∨
      (∃ e, answer = .error e ∧ e.kind = .dependencyUnavailable ∧ outcome = ⟨none, true, false⟩) ∨
      (∃ e, answer = .error e ∧ e.kind = .identityError ∧ outcome = ⟨none, false, true⟩) := by
  cases answer with
  | ok identity => simp [identityOutcome, eq_comm]
  | error e =>
      cases hkind : e.kind <;> simp [identityOutcome, hkind, eq_comm]

theorem resolveIdentity_fst : (deps.resolveIdentity r action).1 =
    identityOutcome (deps.identityBreaker.call r.start r.finish
      (deps.identityResolver.resolve action.agentDid)).1 := rfl

/-- The identity step hands on an identity exactly when the breaker admits the
call and the DID is that of a registered identity that is not revoked. -/
theorem resolveIdentity_eq_some {identity : Identity} {outcome : IdentityOutcome}
    (h : (deps.resolveIdentity r action).1 = .ok outcome)
    (hidentity : outcome.identity = some identity) :
    outcome = ⟨some identity, false, false⟩ ∧ deps.identityBreaker.Admits r.start ∧
      deps.identityResolver.store action.agentDid = .ok (some identity) ∧
      identity.revoked = false := by
  rw [resolveIdentity_fst] at h
  rcases identityOutcome_eq_ok.mp h with ⟨i, hcall, rfl⟩ | ⟨e, -, -, rfl⟩ | ⟨e, -, -, rfl⟩
  · obtain rfl := Option.some.inj hidentity
    by_cases hadmits : deps.identityBreaker.Admits r.start
    · rw [CircuitBreaker.call_of_admits hadmits] at hcall
      exact ⟨rfl, hadmits, IdentityResolver.resolve_eq_ok.mp hcall⟩
    · obtain ⟨e, herr, -⟩ := CircuitBreaker.call_of_refused hadmits r.finish
        (deps.identityResolver.resolve action.agentDid)
      rw [hcall] at herr
      cases herr
  · cases hidentity
  · cases hidentity

/-- A registered identity that is not revoked is handed on where the breaker admits
the call. -/
theorem resolveIdentity_of_registered {identity : Identity}
    (hadmits : deps.identityBreaker.Admits r.start)
    (hstore : deps.identityResolver.store action.agentDid = .ok (some identity))
    (hlive : identity.revoked = false) :
    (deps.resolveIdentity r action).1 = .ok ⟨some identity, false, false⟩ := by
  rw [resolveIdentity_fst, CircuitBreaker.call_of_admits hadmits,
    IdentityResolver.resolve_eq_ok.mpr ⟨hstore, hlive⟩]
  rfl

end PipelineDeps

end AgentSentinel
