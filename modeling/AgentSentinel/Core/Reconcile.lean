import Mathlib.Data.Multiset.Lattice
import AgentSentinel.Core.PolicyEngine
import AgentSentinel.Identity.TrustScorer
import AgentSentinel.Lib.NoisyOr
import AgentSentinel.Lib.Override

/-!
# AgentSentinel.Core.Reconcile

From matched rules and risk factors to a verdict. The code tries the effects of
the matched rules, three score thresholds and the missing identity in a fixed
order and takes the first that applies.

Read abstractly, three sources give a verdict each, every one of them monotone in
what it is given: the strictest matched effect, the score band and the missing
identity. The code lets the earlier source override the later ones
(`reconcile_verdict`), which `Lib.Override` knows how to compare.
-/

namespace AgentSentinel

open Lib

/-! ### The code -/

/-- `_aggregate_risk`. -/
def aggregateRisk (factors : List RiskFactor) : ℚ :=
  if factors.isEmpty then 0
  else roundTo 4 (1 - factors.foldl (fun pSafe f => pSafe * (1 - clampUnit f.severity.val)) 1)

def denyThreshold : ℚ := 17 / 20

def escalateThreshold : ℚ := 11 / 20

def throttleThreshold : ℚ := 7 / 20

/-- The summary of a verdict that matched rules decide. -/
def ruleSummary (what : PyStr) (ruleIds : List PyStr) : PyStr :=
  py "Action " ++ what ++ py " by policy rule(s): " ++ PyStr.join (py ", ") ruleIds

/-- The summary of a verdict that the risk score decides. -/
def riskSummary (score : ℚ) (what : PyStr) : PyStr :=
  py "Aggregate risk score " ++ fixed2 score ++ py " exceeded " ++ what ++ py " threshold."

/-- `_reconcile`: the verdict, its summary and the ids of the matched rules. -/
def reconcile (ms : List RuleMatch) (factors : List RiskFactor) (identity : Option Identity) :
    DecisionVerdict × PyStr × List PyStr :=
  let ruleIds := ms.map (·.rule.id)
  let effects : List RuleEffect := ms.map (·.effect)
  let score := aggregateRisk factors
  if .deny ∈ effects then (.deny, ruleSummary (py "denied") ruleIds, ruleIds)
  else if .escalate ∈ effects then
    (.escalate, ruleSummary (py "escalated to human review") ruleIds, ruleIds)
  else if .throttle ∈ effects then (.throttle, ruleSummary (py "throttled") ruleIds, ruleIds)
  else if denyThreshold ≤ score then (.deny, riskSummary score (py "deny"), ruleIds)
  else if escalateThreshold ≤ score then (.escalate, riskSummary score (py "escalate"), ruleIds)
  else if throttleThreshold ≤ score then (.throttle, riskSummary score (py "throttle"), ruleIds)
  else if identity.isNone then
    (.escalate, py "Agent identity unresolved; escalating.", ruleIds)
  else (.allow, py "Action passed all sentinel checks.", ruleIds)

/-! ### The three sources of a verdict -/

/-- The strictest effect among the matched rules. -/
def ruleVerdict (ms : List RuleMatch) : DecisionVerdict :=
  (↑(ms.map (·.effect.verdict)) : Multiset DecisionVerdict).sup

/-- The verdict of the band the score lies in. -/
def riskVerdict (score : ℚ) : DecisionVerdict :=
  if denyThreshold ≤ score then .deny
  else if escalateThreshold ≤ score then .escalate
  else if throttleThreshold ≤ score then .throttle
  else .allow

/-- An action without a resolved identity is escalated. -/
def unresolvedVerdict (identity : Option Identity) : DecisionVerdict :=
  if identity.isNone then .escalate else .allow

/-- The verdict where no matched rule restricts the action. -/
def ruleFreeVerdict (factors : List RiskFactor) (identity : Option Identity) : DecisionVerdict :=
  override (riskVerdict (aggregateRisk factors)) (unresolvedVerdict identity)

@[simp] theorem ruleVerdict_nil : ruleVerdict [] = .allow := rfl

@[simp] theorem ruleVerdict_cons (m : RuleMatch) (ms : List RuleMatch) :
    ruleVerdict (m :: ms) = m.effect.verdict ⊔ ruleVerdict ms := by
  simp [ruleVerdict, ← Multiset.cons_coe]

/-- The strictest effect, found by looking for the effects one after the other. -/
theorem ruleVerdict_eq (ms : List RuleMatch) :
    ruleVerdict ms =
      if .deny ∈ ms.map (·.effect) then .deny
      else if .escalate ∈ ms.map (·.effect) then .escalate
      else if .throttle ∈ ms.map (·.effect) then .throttle
      else .allow := by
  induction ms with
  | nil => rfl
  | cons m ms ih =>
      rw [ruleVerdict_cons, ih]
      simp only [List.map_cons, List.mem_cons]
      generalize ms.map (·.effect) = effects
      cases m.effect <;> by_cases hd : RuleEffect.deny ∈ effects <;>
        by_cases he : RuleEffect.escalate ∈ effects <;>
          by_cases ht : RuleEffect.throttle ∈ effects <;>
            simp [hd, he, ht, RuleEffect.verdict] <;> decide

/-- **The code decides by precedence**: rules over the score, the score over the
missing identity. -/
theorem reconcile_verdict (ms : List RuleMatch) (factors : List RiskFactor)
    (identity : Option Identity) :
    (reconcile ms factors identity).1 =
      override (ruleVerdict ms) (ruleFreeVerdict factors identity) := by
  rw [ruleVerdict_eq]
  simp only [reconcile, ruleFreeVerdict, riskVerdict, unresolvedVerdict, apply_ite Prod.fst]
  split_ifs <;> rfl

/-! ### Each source is monotone -/

theorem ruleVerdict_mono {ms ns : List RuleMatch}
    (h : ∀ m ∈ ms, ∃ n ∈ ns, n.effect = m.effect) : ruleVerdict ms ≤ ruleVerdict ns := by
  refine Multiset.sup_le.mpr fun v hv => ?_
  obtain ⟨m, hm, rfl⟩ := List.mem_map.mp (Multiset.mem_coe.mp hv)
  obtain ⟨n, hn, heffect⟩ := h m hm
  rw [← heffect]
  exact Multiset.le_sup (Multiset.mem_coe.mpr (List.mem_map.mpr ⟨n, hn, rfl⟩))

theorem riskVerdict_mono : Monotone riskVerdict := by
  intro p q hpq
  unfold riskVerdict
  have hgrow {threshold : ℚ} (h : threshold ≤ p) : threshold ≤ q := h.trans hpq
  by_cases hd : denyThreshold ≤ p
  · rw [if_pos hd, if_pos (hgrow hd)]
  · by_cases he : escalateThreshold ≤ p
    · rw [if_neg hd, if_pos he, if_pos (hgrow he)]
      split <;> decide
    · by_cases ht : throttleThreshold ≤ p
      · rw [if_neg hd, if_neg he, if_pos ht, if_pos (hgrow ht)]
        split_ifs <;> decide
      · rw [if_neg hd, if_neg he, if_neg ht]
        exact DecisionVerdict.allow_le _

theorem riskVerdict_eq_allow_iff {score : ℚ} :
    riskVerdict score = .allow ↔ score < throttleThreshold := by
  unfold riskVerdict denyThreshold escalateThreshold throttleThreshold
  split_ifs with hd he ht
  all_goals simp only [false_iff, true_iff, not_lt, not_le] at *
  all_goals linarith

theorem riskVerdict_lt_escalate_iff {score : ℚ} :
    riskVerdict score < .escalate ↔ score < escalateThreshold := by
  unfold riskVerdict denyThreshold escalateThreshold throttleThreshold
  split_ifs with hd he ht
  · refine iff_of_false (by decide) (not_lt.mpr ?_)
    linarith
  · exact iff_of_false (by decide) (not_lt.mpr he)
  · exact iff_of_true (by decide) (not_le.mp he)
  · exact iff_of_true (by decide) (not_le.mp he)

/-! ### The aggregate score -/

/-- The code computes the noisy-or of the severities, rounded to four decimals;
the clamp and the case of no factors change nothing. -/
theorem aggregateRisk_eq (factors : List RiskFactor) :
    aggregateRisk factors = roundTo 4 (noisyOr (factors.map (·.severity))) := by
  -- The loop multiplies onto what it has, so the induction is over every start value.
  have hfold (p : ℚ) : factors.foldl (fun pSafe f => pSafe * (1 - clampUnit f.severity.val)) p =
      p * noneOf (factors.map (·.severity)) := by
    induction factors generalizing p with
    | nil => simp
    | cons f fs ih =>
        rw [List.foldl_cons, ih, List.map_cons, noneOf_cons, clampUnit_unit, mul_assoc]
  unfold aggregateRisk
  split
  case isTrue h => simp [List.isEmpty_iff.mp h, noisyOr]
  case isFalse => rw [hfold, one_mul, noisyOr]

theorem aggregateRisk_mem_unit (factors : List RiskFactor) :
    aggregateRisk factors ∈ Set.Icc (0 : ℚ) 1 := by
  rw [aggregateRisk_eq]
  exact roundTo_mem_unit noisyOr_mem_unit

/-- More factors never lower the score. -/
theorem aggregateRisk_sublist {factors more : List RiskFactor} (h : factors.Sublist more) :
    aggregateRisk factors ≤ aggregateRisk more := by
  rw [aggregateRisk_eq, aggregateRisk_eq]
  exact roundTo_mono 4 (noisyOr_sublist (h.map _))

/-- The order of the factors does not matter. -/
theorem aggregateRisk_perm {factors others : List RiskFactor} (h : factors.Perm others) :
    aggregateRisk factors = aggregateRisk others := by
  rw [aggregateRisk_eq, aggregateRisk_eq, noisyOr_perm (h.map _)]

/-- Factors that are added anywhere never lower the score. -/
theorem aggregateRisk_subperm {factors more : List RiskFactor} (h : factors.Subperm more) :
    aggregateRisk factors ≤ aggregateRisk more := by
  obtain ⟨rest, hperm, hsub⟩ := h
  rw [aggregateRisk_eq, aggregateRisk_eq]
  exact roundTo_mono 4 (noisyOr_subperm ⟨_, hperm.map _, hsub.map _⟩)

/-- No factor counts for less than its own severity, rounded as the score is. -/
theorem roundTo_severity_le_aggregateRisk {factors : List RiskFactor} {f : RiskFactor}
    (hf : f ∈ factors) : roundTo 4 f.severity.val ≤ aggregateRisk factors := by
  rw [aggregateRisk_eq]
  exact roundTo_mono 4 (le_noisyOr (List.mem_map_of_mem hf))

/-- A threshold of four decimals that one factor reaches is reached by the score: rounding
cannot carry it below. -/
theorem grid_le_aggregateRisk {factors : List RiskFactor} {f : RiskFactor} {threshold : ℚ}
    {n : ℤ} (hgrid : (n : ℚ) / 10 ^ 4 = threshold) (hf : f ∈ factors)
    (h : threshold ≤ f.severity.val) : threshold ≤ aggregateRisk factors := by
  rw [← hgrid] at h ⊢
  exact (le_roundTo_of_grid h).trans (roundTo_severity_le_aggregateRisk hf)

/-- One factor in the throttle band or above keeps the score out of the lowest
band, rounding included. -/
theorem throttleThreshold_le_aggregateRisk {factors : List RiskFactor} {f : RiskFactor}
    (hf : f ∈ factors) (h : throttleThreshold ≤ f.severity.val) :
    throttleThreshold ≤ aggregateRisk factors :=
  grid_le_aggregateRisk (n := 3500) (by norm_num [throttleThreshold]) hf h

/-- One factor in the deny band keeps the score there. -/
theorem denyThreshold_le_aggregateRisk {factors : List RiskFactor} {f : RiskFactor}
    (hf : f ∈ factors) (h : denyThreshold ≤ f.severity.val) :
    denyThreshold ≤ aggregateRisk factors :=
  grid_le_aggregateRisk (n := 8500) (by norm_num [denyThreshold]) hf h

/-- A single severe factor is not diluted: without a matching rule the verdict is `deny`. -/
theorem reconcile_nil_eq_deny {factors : List RiskFactor} {f : RiskFactor}
    {identity : Option Identity} (hf : f ∈ factors) (h : denyThreshold ≤ f.severity.val) :
    (reconcile [] factors identity).1 = .deny := by
  have hscore : riskVerdict (aggregateRisk factors) = .deny :=
    if_pos (denyThreshold_le_aggregateRisk hf h)
  rw [reconcile_verdict, ruleVerdict_nil, ruleFreeVerdict, hscore]
  rfl

/-- **The score is a sound probabilistic or**: a probability that does not depend on the
order of the factors, grows with them and dominates each of them, so that one severe factor
is enough for a denial where no rule decides. -/
theorem aggregateRisk_sound (factors : List RiskFactor) :
    aggregateRisk factors ∈ Set.Icc (0 : ℚ) 1 ∧
      (∀ others, factors.Perm others → aggregateRisk factors = aggregateRisk others) ∧
      (∀ more, factors.Subperm more → aggregateRisk factors ≤ aggregateRisk more) ∧
      (∀ f ∈ factors, roundTo 4 f.severity.val ≤ aggregateRisk factors) ∧
      ∀ f ∈ factors, denyThreshold ≤ f.severity.val →
        ∀ identity, (reconcile [] factors identity).1 = .deny :=
  ⟨aggregateRisk_mem_unit factors, fun _ => aggregateRisk_perm, fun _ => aggregateRisk_subperm,
    fun _ => roundTo_severity_le_aggregateRisk, fun _ hf h _ => reconcile_nil_eq_deny hf h⟩

/-! ### The rules' verdict and the rules that match -/

section Triggers

open PolicyEngine

variable {rt : PyRuntime} {engine : PolicyEngine} {action : Action}
  {identity : Option Identity} {factors : List RiskFactor} {ms : List RuleMatch}

theorem ruleVerdict_eq_bot_iff (hms : engine.evaluate rt action identity factors = .ok ms) :
    ruleVerdict ms = ⊥ ↔ engine.Unrestricted rt action identity factors := by
  have hlist : ruleVerdict ms = ⊥ ↔ ∀ effect ∈ ms.map (·.effect), effect = .allow := by
    clear hms
    induction ms with
    | nil => simp
    | cons m ms ih =>
        rw [ruleVerdict_cons, sup_eq_bot_iff, ih, List.map_cons, List.forall_mem_cons]
        refine and_congr_left fun _ => ?_
        cases m.effect <;> decide
  simp only [hlist, effect_mem_iff hms, Unrestricted]

/-- Where some restrictive rule matches, a bound on the rules' verdict is a bound on
every effect that is triggered. -/
theorem ruleVerdict_lt_iff (hms : engine.evaluate rt action identity factors = .ok ms)
    (hsome : ¬ engine.Unrestricted rt action identity factors) {v : DecisionVerdict} :
    ruleVerdict ms < v ↔
      ∀ effect, engine.Triggers rt action identity factors effect → effect.verdict < v := by
  have hlist (hv : .allow < v) :
      ruleVerdict ms < v ↔ ∀ effect ∈ ms.map (·.effect), effect.verdict < v := by
    clear hms hsome
    induction ms with
    | nil => simp [hv]
    | cons m ms ih => simp [sup_lt_iff, ih]
  simp only [← effect_mem_iff hms]
  constructor
  · intro h
    exact (hlist ((DecisionVerdict.allow_le _).trans_lt h)).mp h
  · intro h
    obtain ⟨effect, heffect, -⟩ := by simpa only [Unrestricted, not_forall] using hsome
    have hmem := (effect_mem_iff hms).mpr heffect
    exact (hlist ((DecisionVerdict.allow_le _).trans_lt (h effect hmem))).mpr h

/-- A run whose triggered effects another run triggers, too, has the weaker rules'
verdict. -/
theorem ruleVerdict_le_of_triggers {engine' : PolicyEngine} {identity' : Option Identity}
    {factors' : List RiskFactor} {ns : List RuleMatch}
    (hms : engine.evaluate rt action identity factors = .ok ms)
    (hns : engine'.evaluate rt action identity' factors' = .ok ns)
    (h : ∀ effect, engine.Triggers rt action identity factors effect →
      engine'.Triggers rt action identity' factors' effect) :
    ruleVerdict ms ≤ ruleVerdict ns := by
  refine ruleVerdict_mono fun m hm => ?_
  have hmem := (effect_mem_iff hms).mp (List.mem_map.mpr ⟨m, hm, rfl⟩)
  exact List.mem_map.mp ((effect_mem_iff hns).mpr (h _ hmem))

/-- A verdict of `allow` says what nobody objects to. -/
theorem reconcile_eq_allow_iff {ms : List RuleMatch}
    (hms : engine.evaluate rt action identity factors = .ok ms) :
    (reconcile ms factors identity).1 = .allow ↔
      engine.Unrestricted rt action identity factors ∧
        aggregateRisk factors < throttleThreshold ∧ identity ≠ none := by
  have hidentity : unresolvedVerdict identity = ⊥ ↔ identity ≠ none := by
    cases identity <;> simp [unresolvedVerdict]
  rw [reconcile_verdict, ← DecisionVerdict.bot_eq_allow, override_eq_bot_iff,
    ruleVerdict_eq_bot_iff hms, ruleFreeVerdict, override_eq_bot_iff, hidentity,
    DecisionVerdict.bot_eq_allow, riskVerdict_eq_allow_iff]

end Triggers

end AgentSentinel
