import AgentSentinel.Identity.TrustScorer
import AgentSentinel.Lib.Bands

/-!
# AgentSentinel.Identity.TrustEvolution

How scores and tiers move under the scorer. The tier is the band of the moved score and the
stored score is that score rounded, so the two agree unless rounding lifts the score into a
band. Over a row of observations the scorer keeps an order: an agent that starts no higher
and behaves no better ends no higher, in score and in tier.
-/

namespace AgentSentinel

open Lib

/-! ### Tiers as bands -/

/-- The bands above the lowest tier. -/
def upperBands : List (ℚ × TrustTier) :=
  [(9 / 10, .privileged), (7 / 10, .elevated), (1 / 2, .standard), (1 / 4, .constrained)]

theorem resolveTier_eq_reach (score : ℚ) : resolveTier score = reach upperBands .observe score := by
  have hbands : tierBands = upperBands ++ [(0, .observe)] := rfl
  rw [← reach_concat_bottom upperBands .observe 0 score, ← hbands]
  unfold resolveTier reach
  cases tierBands.find? fun band => band.1 ≤ score <;> rfl

theorem resolveTier_mono : Monotone resolveTier := by
  have hmono : Monotone (reach upperBands .observe) := reach_mono (by decide) (by decide)
  intro x y hxy
  rw [resolveTier_eq_reach, resolveTier_eq_reach]
  exact hmono hxy

/-- Two scores have one tier exactly if they reach the same bands. -/
theorem resolveTier_eq_iff {x y : ℚ} :
    resolveTier x = resolveTier y ↔ ∀ band ∈ upperBands, (band.1 ≤ x ↔ band.1 ≤ y) := by
  rw [resolveTier_eq_reach, resolveTier_eq_reach]
  exact reach_eq_iff (by decide +kernel) (by decide)

/-! ### Scores beside their tiers -/

/-- The score lies below a band, by half a unit of the fourth decimal at most. -/
def JustBelowBand (score : ℚ) : Prop :=
  ∃ band ∈ upperBands, band.1 - 1 / 20000 ≤ score ∧ score < band.1

/-- The stored tier is the band of the stored score. -/
def Identity.Consistent (identity : Identity) : Prop :=
  identity.trustScore.val ∈ Set.Icc (0 : ℚ) 1 ∧
    identity.tier = resolveTier identity.trustScore.val

/-- Every band begins at an even number of ten-thousandths. -/
theorem upperBands_even : ∀ band ∈ upperBands,
    ∃ n : ℤ, n % 2 = 0 ∧ band.1 = (n / 10 ^ 4 : ℚ) ∧ 1 / 4 ≤ band.1 ∧ band.1 ≤ 1 := by
  simp only [upperBands, List.forall_mem_cons, List.not_mem_nil, false_implies, implies_true,
    and_true]
  refine ⟨⟨9000, ?_⟩, ⟨7000, ?_⟩, ⟨5000, ?_⟩, ⟨2500, ?_⟩⟩ <;> norm_num

/-- Clamping does not carry a score across a number of the unit interval. -/
theorem le_clampUnit_iff {t score : ℚ} (ht : 0 < t) (ht' : t ≤ 1) :
    t ≤ clampUnit score ↔ t ≤ score := by
  rw [clampUnit, le_max_iff, le_min_iff, or_iff_right (not_le.mpr ht), and_iff_right ht']

/-- Rounding keeps the tier of a score unless the score lies just below a band. -/
theorem resolveTier_roundTo_iff {score : ℚ} :
    resolveTier (clampUnit score) = resolveTier (roundTo 4 (clampUnit score)) ↔
      ¬ JustBelowBand score := by
  rw [resolveTier_eq_iff, JustBelowBand]
  push Not
  refine forall₂_congr fun band hband => ?_
  obtain ⟨n, hn, heq, hlow, hone⟩ := upperBands_even band hband
  have hround : band.1 ≤ roundTo 4 (clampUnit score) ↔ band.1 - 1 / 20000 ≤ score := by
    rw [heq, le_roundTo_iff_of_even hn, ← heq, show (1 / (2 * 10 ^ 4) : ℚ) = 1 / 20000 by norm_num]
    exact le_clampUnit_iff (by linarith) (by linarith)
  rw [le_clampUnit_iff (by linarith) hone, hround]
  constructor
  · intro h hbelow
    exact h.mpr hbelow
  · intro h
    exact ⟨fun hreached => by linarith, h⟩

namespace TrustScorer

variable {scorer : TrustScorer} {identity : Identity} {factors : List RiskFactor}
  {verdict : DecisionVerdict}

/-- The identity that `adjust` returns. -/
def adjusted (scorer : TrustScorer) (identity : Identity) (factors : List RiskFactor)
    (verdict : DecisionVerdict) : Identity :=
  let score := clampUnit (scorer.moved identity.trustScore.val factors verdict)
  { identity with
    trustScore := ⟨roundTo 4 score, roundTo_mem_unit (clampUnit_mem_unit _)⟩
    tier := resolveTier score }

theorem adjust_some (scorer : TrustScorer) (identity : Identity) (factors : List RiskFactor)
    (verdict : DecisionVerdict) :
    scorer.adjust (some identity) factors verdict =
      some (scorer.adjusted identity factors verdict) := rfl

theorem observe_snd (scorer : TrustScorer) (identity : Identity) (verdict : DecisionVerdict)
    (riskFactors : Option (List RiskFactor)) :
    (scorer.observe identity verdict riskFactors).2 =
      scorer.adjusted identity (riskFactors.getD []) verdict := by
  simp only [observe, adjust_some, adjusted]

theorem consistent_adjusted_iff :
    (scorer.adjusted identity factors verdict).Consistent ↔
      ¬ JustBelowBand (scorer.moved identity.trustScore.val factors verdict) := by
  rw [← resolveTier_roundTo_iff]
  exact and_iff_right (scorer.adjusted identity factors verdict).trustScore.property

/-- **Tiers beside scores.** An adjusted or observed identity has a score of the unit
interval and the tier of that score if and only if the score did not move to just below a
band. -/
theorem consistent_iff (scorer : TrustScorer) (identity : Identity) (factors : List RiskFactor)
    (riskFactors : Option (List RiskFactor)) (verdict : DecisionVerdict) :
    ((∃ updated, scorer.adjust (some identity) factors verdict = some updated ∧
        updated.Consistent) ↔
      ¬ JustBelowBand (scorer.moved identity.trustScore.val factors verdict)) ∧
    ((scorer.observe identity verdict riskFactors).2.Consistent ↔
      ¬ JustBelowBand
        (scorer.moved identity.trustScore.val (riskFactors.getD []) verdict)) := by
  constructor
  · simp only [adjust_some, Option.some.injEq, exists_eq_left', consistent_adjusted_iff]
  · rw [observe_snd, consistent_adjusted_iff]

/-- A score of 0.92998 that is throttled moves to 0.89998. It is stored as 0.9, which is the
band of the privileged, beside the tier below. -/
theorem throttled_inconsistent :
    (({} : TrustScorer).adjust
        (some { (default : Identity) with trustScore := ⟨92998 / 100000, by norm_num⟩ }) []
        .throttle).map (fun i => (i.trustScore.val, i.tier)) = some (9 / 10, .elevated) ∧
      resolveTier (9 / 10) = .privileged := by
  decide +kernel

/-! ### Rows of observations -/

/-- What one call of the scorer is given besides the identity. -/
structure Observation where
  factors : List RiskFactor
  verdict : DecisionVerdict

/-- The calls of `adjust` one after the other. -/
def run (scorer : TrustScorer) (identity : Identity) (observations : List Observation) :
    Option Identity :=
  observations.foldl (fun i o => scorer.adjust i o.factors o.verdict) (some identity)

/-- The verdict is at least as severe, and where both allow, the first has risk factors
whenever the second has. -/
structure Observation.NoMilder (o o' : Observation) : Prop where
  verdict : o'.verdict ≤ o.verdict
  factors : o.verdict = .allow → o'.verdict = .allow → o'.factors ≠ [] → o.factors ≠ []

/-- A more severe verdict costs no less, and a clean action nothing. -/
structure Graded (scorer : TrustScorer) : Prop where
  throttle_nonneg : 0 ≤ scorer.throttlePenalty
  throttle_le_escalate : scorer.throttlePenalty ≤ scorer.escalatePenalty
  escalate_le_deny : scorer.escalatePenalty ≤ scorer.denyPenalty
  recovery_nonneg : 0 ≤ scorer.cleanRecovery

/-- What an observation adds to the score. -/
def gain (scorer : TrustScorer) (o : Observation) : ℚ := scorer.moved 0 o.factors o.verdict

theorem moved_eq (scorer : TrustScorer) (score : ℚ) (o : Observation) :
    scorer.moved score o.factors o.verdict = score + scorer.gain o := by
  unfold gain moved
  cases o.verdict <;> ring

theorem gain_allow_le (hrecovery : 0 ≤ scorer.cleanRecovery) {factors factors' : List RiskFactor}
    (h : factors' ≠ [] → factors ≠ []) :
    scorer.gain ⟨factors, .allow⟩ ≤ scorer.gain ⟨factors', .allow⟩ := by
  simp only [gain, moved, zero_add]
  cases factors' with
  | nil =>
      rw [List.isEmpty_nil, if_pos rfl]
      split
      · exact le_rfl
      · exact hrecovery
  | cons f fs =>
      have hsome : factors.isEmpty = false :=
        List.isEmpty_eq_false_iff.mpr (h (List.cons_ne_nil f fs))
      rw [hsome, List.isEmpty_cons]

theorem gain_allow_nonneg (hrecovery : 0 ≤ scorer.cleanRecovery) (factors : List RiskFactor) :
    0 ≤ scorer.gain ⟨factors, .allow⟩ := by
  simp only [gain, moved, zero_add]
  split
  · exact hrecovery
  · exact le_rfl

/-- Worse behaviour gains no more. -/
theorem gain_le (hgraded : scorer.Graded) {o o' : Observation} (h : o.NoMilder o') :
    scorer.gain o ≤ scorer.gain o' := by
  obtain ⟨hthrottle, hescalate, hdeny, hrecovery⟩ := hgraded
  obtain ⟨hverdict, hfactors⟩ := h
  obtain ⟨factors, verdict⟩ := o
  obtain ⟨factors', verdict'⟩ := o'
  have hverdict : verdict' ≤ verdict := hverdict
  cases verdict' with
  | allow =>
      have hgain := gain_allow_nonneg hrecovery factors'
      cases verdict with
      | allow => exact gain_allow_le hrecovery (hfactors rfl rfl)
      | throttle => exact le_trans (by simp only [gain, moved]; linarith) hgain
      | escalate => exact le_trans (by simp only [gain, moved]; linarith) hgain
      | deny => exact le_trans (by simp only [gain, moved]; linarith) hgain
  | throttle =>
      cases verdict with
      | allow => exact absurd hverdict (by decide)
      | _ =>
          simp only [gain, moved]
          linarith
  | escalate =>
      cases verdict with
      | deny =>
          simp only [gain, moved]
          linarith
      | escalate => exact le_rfl
      | _ => exact absurd hverdict (by decide)
  | deny =>
      cases verdict with
      | deny => exact le_rfl
      | _ => exact absurd hverdict (by decide)

theorem clampUnit_mono : Monotone clampUnit := fun _ _ h => max_le_max le_rfl (min_le_min le_rfl h)

/-- One call keeps the order of the scores, and puts the tiers in it. -/
theorem adjusted_mono (hgraded : scorer.Graded) {i i' : Identity} {o o' : Observation}
    (hscore : i.trustScore.val ≤ i'.trustScore.val) (h : o.NoMilder o') :
    (scorer.adjusted i o.factors o.verdict).trustScore.val ≤
        (scorer.adjusted i' o'.factors o'.verdict).trustScore.val ∧
      (scorer.adjusted i o.factors o.verdict).tier ≤
        (scorer.adjusted i' o'.factors o'.verdict).tier := by
  have hmoved : scorer.moved i.trustScore.val o.factors o.verdict ≤
      scorer.moved i'.trustScore.val o'.factors o'.verdict := by
    rw [moved_eq, moved_eq]
    exact add_le_add hscore (gain_le hgraded h)
  have hclamped := clampUnit_mono hmoved
  exact ⟨roundTo_mono 4 hclamped, resolveTier_mono hclamped⟩

/-- **Trust evolution** keeps the order of two agents. The scores need be in order when the
rows begin; the tiers are after the first call, and after none if they were. -/
theorem run_mono (hgraded : scorer.Graded) {i i' : Identity}
    (hscore : i.trustScore.val ≤ i'.trustScore.val) {os os' : List Observation}
    (h : List.Forall₂ Observation.NoMilder os os') :
    ∃ final final', scorer.run i os = some final ∧ scorer.run i' os' = some final' ∧
      final.trustScore.val ≤ final'.trustScore.val ∧
      (os ≠ [] ∨ i.tier ≤ i'.tier → final.tier ≤ final'.tier) := by
  induction h generalizing i i' with
  | nil => exact ⟨i, i', rfl, rfl, hscore, fun h => h.resolve_left fun hne => hne rfl⟩
  | @cons o o' os os' hstep _ ih =>
      obtain ⟨hscores, htiers⟩ := adjusted_mono hgraded hscore hstep
      obtain ⟨final, final', hrun, hrun', hfinal, htier⟩ := ih hscores
      exact ⟨final, final', hrun, hrun', hfinal, fun _ => htier (Or.inr htiers)⟩

/-- The default penalties are graded. -/
theorem graded_default : ({} : TrustScorer).Graded := by
  constructor <;> decide +kernel

/-- A denial and a clean action, beside a throttling and a clean action. -/
theorem run_mono_default :
    ∃ final final', ({} : TrustScorer).run default [⟨[], .deny⟩, ⟨[], .allow⟩] = some final ∧
      ({} : TrustScorer).run default [⟨[], .throttle⟩, ⟨[], .allow⟩] = some final' ∧
      final.trustScore.val ≤ final'.trustScore.val ∧ final.tier ≤ final'.tier := by
  have hsteps : List.Forall₂ Observation.NoMilder [⟨[], .deny⟩, ⟨[], .allow⟩]
      [⟨[], .throttle⟩, ⟨[], .allow⟩] :=
    .cons ⟨by decide, nofun⟩ (.cons ⟨le_rfl, fun _ _ h => h⟩ .nil)
  obtain ⟨final, final', hrun, hrun', hscore, htier⟩ :=
    run_mono graded_default (le_refl (default : Identity).trustScore.val) hsteps
  exact ⟨final, final', hrun, hrun', hscore, htier (Or.inl (List.cons_ne_nil _ _))⟩

end TrustScorer

end AgentSentinel
