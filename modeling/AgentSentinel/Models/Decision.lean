import AgentSentinel.Models.Action

/-!
# AgentSentinel.Models.Decision

Risk factors, verdicts and decisions. Verdicts are linearly ordered by how much
they restrict the agent, `allow < throttle < escalate < deny`; the order is what
every comparison of two decisions in this development means. Severities and scores
are rationals where the code has doubles.
-/

namespace AgentSentinel

/-- Terminal verdict the pipeline emits for an action. -/
inductive DecisionVerdict
  | allow
  | deny
  | escalate
  | throttle
  deriving DecidableEq

namespace DecisionVerdict

/-- The value of a verdict in messages. -/
def value : DecisionVerdict → PyStr
  | allow => py "allow"
  | deny => py "deny"
  | escalate => py "escalate"
  | throttle => py "throttle"

/-- How restrictive a verdict is. -/
def rank : DecisionVerdict → ℕ
  | allow => 0
  | throttle => 1
  | escalate => 2
  | deny => 3

theorem rank_injective : Function.Injective rank := by
  intro v w h
  cases v <;> cases w <;> simp_all [rank]

instance : LinearOrder DecisionVerdict := LinearOrder.lift' rank rank_injective

instance : OrderBot DecisionVerdict where
  bot := allow
  bot_le v := by cases v <;> decide

@[simp] theorem bot_eq_allow : (⊥ : DecisionVerdict) = allow := rfl

@[simp] theorem allow_le (v : DecisionVerdict) : allow ≤ v := bot_le (α := DecisionVerdict)

end DecisionVerdict

theorem zero_mem_unit : (0 : ℚ) ∈ Set.Icc (0 : ℚ) 1 := ⟨le_refl 0, by decide⟩

theorem one_mem_unit : (1 : ℚ) ∈ Set.Icc (0 : ℚ) 1 := ⟨by decide, le_refl 1⟩

/-- A single contributing risk signal. -/
structure RiskFactor where
  code : PyStr
  severity : UnitRat
  detector : PyStr
  message : PyStr
  evidence : PyDict PyStr

/-- `RiskFactor(...)`: the model validates that the severity lies in `[0, 1]`. -/
def RiskFactor.make (code : PyStr) (severity : ℚ) (detector message : PyStr)
    (evidence : PyDict PyStr) : Result RiskFactor :=
  if h : 0 ≤ severity ∧ severity ≤ 1 then
    .ok { code, severity := ⟨severity, h⟩, detector, message, evidence }
  else .error ⟨.validationError, py "1 validation error for RiskFactor"⟩

/-- A severity in `[0, 1]` is accepted. -/
theorem RiskFactor.exists_make {severity : ℚ} (h : severity ∈ Set.Icc (0 : ℚ) 1)
    (code detector message : PyStr) (evidence : PyDict PyStr) :
    ∃ f, RiskFactor.make code severity detector message evidence = .ok f ∧
      f.severity.val = severity :=
  ⟨_, dif_pos h, rfl⟩

theorem RiskFactor.make_severity {code : PyStr} {severity : ℚ} {detector message : PyStr}
    {evidence : PyDict PyStr} {f : RiskFactor}
    (h : RiskFactor.make code severity detector message evidence = .ok f) :
    f.severity.val = severity := by
  unfold RiskFactor.make at h
  split at h
  · obtain rfl := Except.ok.inj h
    rfl
  · cases h

/-- Construction keeps everything it is given. -/
theorem RiskFactor.eq_of_make {code : PyStr} {severity : ℚ} {detector message : PyStr}
    {evidence : PyDict PyStr} {f : RiskFactor}
    (h : RiskFactor.make code severity detector message evidence = .ok f) :
    ∃ unit, f = ⟨code, unit, detector, message, evidence⟩ := by
  unfold RiskFactor.make at h
  split at h
  · exact ⟨_, (Except.ok.inj h).symm⟩
  · cases h

/-- The severity of the factor a detector returns, `0` if it returns none. -/
def reportedSeverity : Result (List RiskFactor) → ℚ
  | .ok (f :: _) => f.severity.val
  | _ => 0

theorem reportedSeverity_nonneg {result : Result (List RiskFactor)} :
    0 ≤ reportedSeverity result := by
  unfold reportedSeverity
  split
  · rename_i f _
    exact f.severity.property.1
  · exact le_refl _

/-- Structured rationale attached to every decision. -/
structure DecisionExplanation where
  summary : PyStr
  triggeredRuleIds : List PyStr
  riskFactors : List RiskFactor
  riskScore : UnitRat
  recommendedRemediation : Option PyStr
  references : List PyStr

/-- Final decision for an action. -/
structure Decision where
  actionId : UUID
  verdict : DecisionVerdict
  decidedBy : PyStr := py "sentinel.pipeline"
  explanation : DecisionExplanation
  latencyMs : Option ℚ
  degraded : Bool

end AgentSentinel
