import AgentSentinel.Identity.TrustEvolution

/-!
# AgentSentinel.Identity.TrustBudget

How fast trust can grow. Only a clean action that is allowed adds to a score, and always the same
small amount, so that an agent's score and tier are bounded by the number of its clean actions
alone. Stored scores are rounded to four decimals, and that can lift a score as well: 0.89996 is
stored as 0.9. So the bound is one of numbers with four decimals, above the score to begin with
and above what a clean action adds; rounding does not carry a score across it.
-/

namespace AgentSentinel

open Lib

namespace TrustScorer

variable {scorer : TrustScorer} {i final : Identity} {o : Observation} {os : List Observation}
  {n r : ℤ}

/-- An action that was allowed without any risk factor. -/
def Observation.Clean (o : Observation) : Prop := o.verdict = .allow ∧ o.factors = []

instance : DecidablePred Observation.Clean := fun o =>
  decidable_of_iff (o.verdict = .allow ∧ o.factors.isEmpty = true) (by
    rw [Observation.Clean, List.isEmpty_iff])

/-- No amount is negative. -/
structure NonNegative (scorer : TrustScorer) : Prop where
  deny : 0 ≤ scorer.denyPenalty
  escalate : 0 ≤ scorer.escalatePenalty
  throttle : 0 ≤ scorer.throttlePenalty
  recovery : 0 ≤ scorer.cleanRecovery

/-- Nothing but a clean action adds to a score. -/
theorem gain_le_of_nonNegative (hamounts : scorer.NonNegative) (o : Observation) :
    scorer.gain o ≤ if o.Clean then scorer.cleanRecovery else 0 := by
  obtain ⟨hdeny, hescalate, hthrottle, hrecovery⟩ := hamounts
  obtain ⟨factors, verdict⟩ := o
  cases verdict with
  | allow =>
      cases factors with
      | nil => simp [Observation.Clean, gain, moved]
      | cons f fs => simp [Observation.Clean, gain, moved]
  | _ =>
      simp only [Observation.Clean, reduceCtorEq, false_and, if_false, gain, moved]
      linarith

/-- A number of ten-thousandths, with what the clean actions among observations earn. -/
def earned (r n : ℤ) (os : List Observation) : ℤ := n + r * os.countP fun o => o.Clean

theorem earned_cons : earned r n (o :: os) = earned r (earned r n [o]) os := by
  unfold earned
  rw [List.countP_cons, List.countP_singleton]
  push_cast
  ring

theorem le_earned (hr : 0 ≤ r) : n ≤ earned r n os :=
  le_add_of_nonneg_right (mul_nonneg hr (Int.natCast_nonneg _))

theorem earned_single : earned r n [o] = n + if o.Clean then r else 0 := by
  rw [earned, List.countP_singleton]
  by_cases hclean : o.Clean <;> simp [hclean]

/-- A bound with four decimals moves by what a clean action earns. -/
theorem moved_le (hamounts : scorer.NonNegative) (hrecovery : scorer.cleanRecovery ≤ r / 10 ^ 4)
    {score : ℚ} (hscore : score ≤ n / 10 ^ 4) (o : Observation) :
    scorer.moved score o.factors o.verdict ≤ (earned r n [o] : ℚ) / 10 ^ 4 := by
  have hgain := gain_le_of_nonNegative hamounts o
  rw [moved_eq, earned_single]
  split at hgain
  · next hclean =>
      rw [if_pos hclean, Int.cast_add, add_div]
      linarith
  · next hclean =>
      rw [if_neg hclean, add_zero]
      linarith

/-- **One observation.** -/
theorem adjusted_le (hamounts : scorer.NonNegative)
    (hrecovery : scorer.cleanRecovery ≤ r / 10 ^ 4) (hr : 0 ≤ r)
    (hscore : i.trustScore.val ≤ n / 10 ^ 4) (o : Observation) :
    (scorer.adjusted i o.factors o.verdict).trustScore.val ≤ (earned r n [o] : ℚ) / 10 ^ 4 ∧
      (scorer.adjusted i o.factors o.verdict).tier ≤
        resolveTier ((earned r n [o] : ℚ) / 10 ^ 4) := by
  have hpos : (0 : ℚ) ≤ (earned r n [o] : ℚ) / 10 ^ 4 := by
    have hearned : (n : ℚ) ≤ (earned r n [o] : ℚ) := by exact_mod_cast le_earned hr
    have hn : (0 : ℚ) ≤ n / 10 ^ 4 := i.trustScore.property.1.trans hscore
    exact hn.trans (by gcongr)
  have hclamped : clampUnit (scorer.moved i.trustScore.val o.factors o.verdict) ≤
      (earned r n [o] : ℚ) / 10 ^ 4 :=
    max_le hpos ((min_le_right _ _).trans (moved_le hamounts hrecovery hscore o))
  refine ⟨?_, resolveTier_mono hclamped⟩
  have hround := roundTo_mono 4 hclamped
  rwa [roundTo_grid] at hround

/-- **Trust is earned by clean actions only**: over any row of observations a score, rounded up
to begin with, rises by no more than the recovery, rounded up, for each clean action, and the tier
with it. -/
theorem trust_earned (hamounts : scorer.NonNegative)
    (hrecovery : scorer.cleanRecovery ≤ r / 10 ^ 4) (hscore : i.trustScore.val ≤ n / 10 ^ 4)
    (hrun : scorer.run i os = some final) :
    final.trustScore.val ≤ (earned r n os : ℚ) / 10 ^ 4 ∧
      (os ≠ [] ∨ i.tier ≤ resolveTier (n / 10 ^ 4) →
        final.tier ≤ resolveTier ((earned r n os : ℚ) / 10 ^ 4)) := by
  have hr : 0 ≤ r := by
    have hnonneg := hamounts.recovery.trans hrecovery
    rw [le_div_iff₀ (by norm_num), zero_mul] at hnonneg
    exact_mod_cast hnonneg
  induction os generalizing i n with
  | nil =>
      obtain rfl := Option.some.inj hrun
      have hsame : earned r n [] = n := by simp [earned]
      rw [hsame]
      exact ⟨hscore, fun h => h.resolve_left fun hne => hne rfl⟩
  | cons o os ih =>
      obtain ⟨hnext, htier⟩ := adjusted_le hamounts hrecovery hr hscore o
      obtain ⟨hfinal, hfinalTier⟩ := ih hnext hrun
      rw [earned_cons]
      exact ⟨hfinal, fun _ => hfinalTier (Or.inr htier)⟩

/-- A denial and two clean actions: a score of 0.75 is no more than 0.76 afterwards. -/
theorem trust_earned_default : ∃ final,
    ({} : TrustScorer).run default [⟨[], .deny⟩, ⟨[], .allow⟩, ⟨[], .allow⟩] = some final ∧
      final.trustScore.val ≤ 7600 / 10 ^ 4 ∧ final.tier ≤ .elevated := by
  obtain ⟨final, hrun⟩ : ∃ final, ({} : TrustScorer).run default
      [⟨[], .deny⟩, ⟨[], .allow⟩, ⟨[], .allow⟩] = some final := ⟨_, rfl⟩
  have hamounts : ({} : TrustScorer).NonNegative := by constructor <;> norm_num
  have hrecovery : ({} : TrustScorer).cleanRecovery ≤ (50 : ℤ) / 10 ^ 4 := by norm_num
  have hscore : (default : Identity).trustScore.val ≤ (7500 : ℤ) / 10 ^ 4 := by
    have hscore₀ : (default : Identity).trustScore.val = 3 / 4 := rfl
    rw [hscore₀]
    norm_num
  obtain ⟨hfinal, htier⟩ := trust_earned hamounts hrecovery hscore hrun
  have hsum : earned 50 7500 [⟨[], .deny⟩, ⟨[], .allow⟩, ⟨[], .allow⟩] = 7600 := by decide
  rw [hsum] at hfinal htier
  refine ⟨final, hrun, hfinal, (htier (Or.inl (List.cons_ne_nil _ _))).trans ?_⟩
  decide +kernel

end TrustScorer

end AgentSentinel
