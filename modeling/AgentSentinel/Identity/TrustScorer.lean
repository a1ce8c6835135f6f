import AgentSentinel.Lib.Rounding
import AgentSentinel.Models.Decision
import AgentSentinel.Models.Identity

/-!
# AgentSentinel.Identity.TrustScorer

Behavioural trust scoring. A verdict moves the identity's trust score, and the
moved score decides the tier the identity operates in. The tier is taken from the
score before it is rounded. Scores and amounts are rationals where the code has
doubles; the only rounding is the code's own to four decimals.
-/

namespace AgentSentinel

open Lib

/-- Tier thresholds, descending. -/
def tierBands : List (ℚ × TrustTier) :=
  [(9 / 10, .privileged), (7 / 10, .elevated), (1 / 2, .standard), (1 / 4, .constrained),
    (0, .observe)]

/-- `_resolve_tier`: the first band the score reaches. -/
def resolveTier (score : ℚ) : TrustTier :=
  match tierBands.find? fun band => band.1 ≤ score with
  | some band => band.2
  | none => .observe

/-- `max(0.0, min(1.0, score))`. -/
def clampUnit (score : ℚ) : ℚ := max 0 (min 1 score)

theorem clampUnit_mem_unit (score : ℚ) : clampUnit score ∈ Set.Icc (0 : ℚ) 1 :=
  ⟨le_max_left _ _, max_le (by norm_num) (min_le_left _ _)⟩

/-- `max(0.0, min(1.0, score))` leaves a number of the unit interval alone. -/
@[simp] theorem clampUnit_unit (p : UnitRat) : clampUnit p.val = p.val := by
  rw [clampUnit, min_eq_right p.property.2, max_eq_right p.property.1]

/-- Stateless trust adjustment given recent risk factors and verdict. -/
structure TrustScorer where
  denyPenalty : ℚ := 1 / 5
  escalatePenalty : ℚ := 2 / 25
  throttlePenalty : ℚ := 3 / 100
  cleanRecovery : ℚ := 1 / 200

namespace TrustScorer

/-- The score before clamping. -/
def moved (scorer : TrustScorer) (score : ℚ) (factors : List RiskFactor) :
    DecisionVerdict → ℚ
  | .deny => score - scorer.denyPenalty
  | .escalate => score - scorer.escalatePenalty
  | .throttle => score - scorer.throttlePenalty
  | .allow => score + if factors.isEmpty then scorer.cleanRecovery else 0

/-- `adjust`: the identity with its score and tier moved by the verdict. -/
def adjust (scorer : TrustScorer) (identity : Option Identity) (factors : List RiskFactor)
    (verdict : DecisionVerdict) : Option Identity :=
  identity.map fun identity =>
    let score := clampUnit (scorer.moved identity.trustScore.val factors verdict)
    { identity with
      trustScore := ⟨roundTo 4 score, roundTo_mem_unit (clampUnit_mem_unit _)⟩
      tier := resolveTier score }

/-- `observe`: the new score, and the identity as it is left. -/
def observe (scorer : TrustScorer) (identity : Identity) (verdict : DecisionVerdict)
    (riskFactors : Option (List RiskFactor)) : UnitRat × Identity :=
  match scorer.adjust (some identity) (riskFactors.getD []) verdict with
  | none => (identity.trustScore, identity)
  | some updated =>
    (updated.trustScore, { identity with trustScore := updated.trustScore, tier := updated.tier })

/-- The adjusted identity is in the observe tier. -/
def CollapsesToObserve (scorer : TrustScorer) (identity : Option Identity)
    (factors : List RiskFactor) (verdict : DecisionVerdict) : Prop :=
  (scorer.adjust identity factors verdict).map Identity.tier = some .observe

instance (scorer : TrustScorer) (identity : Option Identity) (factors : List RiskFactor)
    (verdict : DecisionVerdict) :
    Decidable (scorer.CollapsesToObserve identity factors verdict) :=
  inferInstanceAs (Decidable (_ = _))

@[simp] theorem not_collapsesToObserve_none {scorer : TrustScorer} {factors : List RiskFactor}
    {verdict : DecisionVerdict} : ¬ scorer.CollapsesToObserve none factors verdict := by
  simp [CollapsesToObserve, adjust]

end TrustScorer

end AgentSentinel
