import AgentSentinel.Core.FactorOrder
import AgentSentinel.Core.Reconcile

/-!
# AgentSentinel.Core.VerdictOrder

Comparing verdicts: what learning of more risk factors, or adding a rule, does to
the verdict of the rules and the score. Either makes the rules' verdict stricter
and leaves the verdict without them at least as strict, and still the decision can
become laxer, because matched rules override the score. Both results say exactly
when.
-/

namespace AgentSentinel

open Lib PolicyEngine

/-- The verdict on an action by the rules and the risk factors: the policy engine,
then `_reconcile`. -/
def policyVerdict (rt : PyRuntime) (engine : PolicyEngine) (action : Action)
    (identity : Option Identity) (factors : List RiskFactor) : Result DecisionVerdict := do
  let ms ← engine.evaluate rt action identity factors
  return (reconcile ms factors identity).1

variable {rt : PyRuntime} {engine : PolicyEngine} {action : Action}
  {identity : Option Identity} {factors extra : List RiskFactor} {v w : DecisionVerdict}

theorem policyVerdict_eq_ok (h : policyVerdict rt engine action identity factors = .ok v) :
    ∃ ms, engine.evaluate rt action identity factors = .ok ms ∧
      v = override (ruleVerdict ms) (ruleFreeVerdict factors identity) := by
  obtain ⟨ms, hms, hv⟩ := bind_eq_ok.mp h
  exact ⟨ms, hms, by rw [← reconcile_verdict]; exact (Except.ok.inj hv).symm⟩

/-! ### Which verdict it is

Each verdict but `allow`, read off the effects that are triggered and the score. -/

section Verdicts

variable (rt : PyRuntime) (engine : PolicyEngine) (action : Action)
  (identity : Option Identity) (factors : List RiskFactor)

/-- A rule denies, or no rule restricts and the score lies in the deny band. -/
def Denies : Prop :=
  engine.Triggers rt action identity factors .deny ∨
    (engine.Unrestricted rt action identity factors ∧ denyThreshold ≤ aggregateRisk factors)

/-- A rule escalates and none denies, or no rule restricts and the score lies in the
escalate band. -/
def Escalates : Prop :=
  (engine.Triggers rt action identity factors .escalate ∧
    ¬ engine.Triggers rt action identity factors .deny) ∨
  (engine.Unrestricted rt action identity factors ∧
    escalateThreshold ≤ aggregateRisk factors ∧ aggregateRisk factors < denyThreshold)

/-- A rule throttles and none does more, or no rule restricts and the score lies in
the throttle band. -/
def Throttles : Prop :=
  (engine.Triggers rt action identity factors .throttle ∧
    ¬ engine.Triggers rt action identity factors .escalate ∧
    ¬ engine.Triggers rt action identity factors .deny) ∨
  (engine.Unrestricted rt action identity factors ∧
    throttleThreshold ≤ aggregateRisk factors ∧ aggregateRisk factors < escalateThreshold)

end Verdicts

section Verdicts

variable {ms : List RuleMatch}

theorem unrestricted_iff : engine.Unrestricted rt action identity factors ↔
    ¬ engine.Triggers rt action identity factors .deny ∧
      ¬ engine.Triggers rt action identity factors .escalate ∧
      ¬ engine.Triggers rt action identity factors .throttle := by
  constructor
  · intro h
    refine ⟨fun hd => ?_, fun he => ?_, fun ht => ?_⟩
    · cases h _ hd
    · cases h _ he
    · cases h _ ht
  · intro hnone effect htriggers
    obtain ⟨hd, he, ht⟩ := hnone
    cases effect with
    | allow => rfl
    | deny => exact absurd htriggers hd
    | escalate => exact absurd htriggers he
    | throttle => exact absurd htriggers ht

/-- The verdict with the effects that are triggered in place of the matched rules. -/
theorem reconcile_verdict_cases (hms : engine.evaluate rt action identity factors = .ok ms) :
    (engine.Triggers rt action identity factors .deny ∧
      (reconcile ms factors identity).1 = .deny) ∨
    (¬ engine.Triggers rt action identity factors .deny ∧
      engine.Triggers rt action identity factors .escalate ∧
      (reconcile ms factors identity).1 = .escalate) ∨
    (¬ engine.Triggers rt action identity factors .deny ∧
      ¬ engine.Triggers rt action identity factors .escalate ∧
      engine.Triggers rt action identity factors .throttle ∧
      (reconcile ms factors identity).1 = .throttle) ∨
    (¬ engine.Triggers rt action identity factors .deny ∧
      ¬ engine.Triggers rt action identity factors .escalate ∧
      ¬ engine.Triggers rt action identity factors .throttle ∧
      (reconcile ms factors identity).1 = ruleFreeVerdict factors identity) := by
  rw [reconcile_verdict, ruleVerdict_eq]
  simp only [← effect_mem_iff hms]
  by_cases hd : RuleEffect.deny ∈ ms.map (·.effect)
  · exact Or.inl ⟨hd, by rw [if_pos hd]; rfl⟩
  · by_cases he : RuleEffect.escalate ∈ ms.map (·.effect)
    · exact Or.inr (Or.inl ⟨hd, he, by rw [if_neg hd, if_pos he]; rfl⟩)
    · by_cases ht : RuleEffect.throttle ∈ ms.map (·.effect)
      · exact Or.inr (Or.inr (Or.inl ⟨hd, he, ht, by rw [if_neg hd, if_neg he, if_pos ht]; rfl⟩))
      · exact Or.inr (Or.inr (Or.inr
          ⟨hd, he, ht, by rw [if_neg hd, if_neg he, if_neg ht]; rfl⟩))

theorem ruleFreeVerdict_eq_deny_iff :
    ruleFreeVerdict factors identity = .deny ↔ denyThreshold ≤ aggregateRisk factors := by
  unfold ruleFreeVerdict riskVerdict unresolvedVerdict
  split_ifs <;> simp_all [override]

theorem ruleFreeVerdict_eq_throttle_iff :
    ruleFreeVerdict factors identity = .throttle ↔
      throttleThreshold ≤ aggregateRisk factors ∧ aggregateRisk factors < escalateThreshold := by
  have hbands : escalateThreshold ≤ denyThreshold := by
    norm_num [escalateThreshold, denyThreshold]
  unfold ruleFreeVerdict riskVerdict unresolvedVerdict
  split_ifs <;> simp_all [override] <;> intro _ <;> linarith

theorem ruleFreeVerdict_eq_escalate_iff :
    ruleFreeVerdict factors identity = .escalate ↔
      (escalateThreshold ≤ aggregateRisk factors ∧ aggregateRisk factors < denyThreshold) ∨
        (identity = none ∧ aggregateRisk factors < throttleThreshold) := by
  have hbands : throttleThreshold ≤ escalateThreshold ∧ escalateThreshold ≤ denyThreshold := by
    norm_num [throttleThreshold, escalateThreshold, denyThreshold]
  unfold ruleFreeVerdict riskVerdict unresolvedVerdict
  split_ifs <;> simp_all [override]
  linarith

theorem reconcile_eq_deny_iff (hms : engine.evaluate rt action identity factors = .ok ms) :
    (reconcile ms factors identity).1 = .deny ↔ Denies rt engine action identity factors := by
  rw [Denies, unrestricted_iff]
  rcases reconcile_verdict_cases hms with ⟨hd, hv⟩ | ⟨hd, he, hv⟩ | ⟨hd, he, ht, hv⟩ |
    ⟨hd, he, ht, hv⟩
  · simp [hv, hd]
  · simp [hv, hd, he]
  · simp [hv, hd, ht]
  · simp [hv, hd, he, ht, ruleFreeVerdict_eq_deny_iff]

theorem reconcile_eq_throttle_iff (hms : engine.evaluate rt action identity factors = .ok ms) :
    (reconcile ms factors identity).1 = .throttle ↔
      Throttles rt engine action identity factors := by
  rw [Throttles, unrestricted_iff]
  rcases reconcile_verdict_cases hms with ⟨hd, hv⟩ | ⟨hd, he, hv⟩ | ⟨hd, he, ht, hv⟩ |
    ⟨hd, he, ht, hv⟩
  · simp [hv, hd]
  · simp [hv, hd, he]
  · simp [hv, hd, he, ht]
  · simp [hv, hd, he, ht, ruleFreeVerdict_eq_throttle_iff]

/-- With an identity, nothing escalates but the rules and the score. -/
theorem reconcile_eq_escalate_iff {i : Identity}
    (hms : engine.evaluate rt action (some i) factors = .ok ms) :
    (reconcile ms factors (some i)).1 = .escalate ↔
      Escalates rt engine action (some i) factors := by
  rw [Escalates, unrestricted_iff]
  rcases reconcile_verdict_cases hms with ⟨hd, hv⟩ | ⟨hd, he, hv⟩ | ⟨hd, he, ht, hv⟩ |
    ⟨hd, he, ht, hv⟩
  · simp [hv, hd]
  · simp [hv, hd, he]
  · simp [hv, he, ht]
  · simp [hv, hd, he, ht, ruleFreeVerdict_eq_escalate_iff]

end Verdicts

/-! ### What more factors and more rules change -/

/-- More factors make more rules match. -/
theorem triggers_mono {effect : RuleEffect}
    (h : engine.Triggers rt action identity factors effect) :
    engine.Triggers rt action identity (factors ++ extra) effect := by
  obtain ⟨rule, hrule, henabled, heffect, hmatch⟩ := h
  exact ⟨rule, hrule, henabled, heffect, ruleMatches_mono (List.subset_append_left _ _) hmatch⟩

theorem triggers_insert_iff {rules₁ rules₂ : List PolicyRule} {r : PolicyRule}
    (hr : r.enabled = true) {effect : RuleEffect} :
    (⟨⟨rules₁ ++ r :: rules₂⟩⟩ : PolicyEngine).Triggers rt action identity factors effect ↔
      (⟨⟨rules₁ ++ rules₂⟩⟩ : PolicyEngine).Triggers rt action identity factors effect ∨
        (r.effect = effect ∧ ruleMatches rt action identity factors r = .ok true) := by
  simp only [Triggers, List.mem_append, List.mem_cons]
  constructor
  · intro h
    obtain ⟨rule, hrule | rfl | hrule, hrest⟩ := h
    · exact Or.inl ⟨rule, Or.inl hrule, hrest⟩
    · exact Or.inr hrest.2
    · exact Or.inl ⟨rule, Or.inr hrule, hrest⟩
  · intro h
    rcases h with ⟨rule, hrule | hrule, hrest⟩ | hrest
    · exact ⟨rule, Or.inl hrule, hrest⟩
    · exact ⟨rule, Or.inr (Or.inr hrule), hrest⟩
    · exact ⟨r, Or.inr (Or.inl rfl), hr, hrest⟩

/-- The score and the missing identity alone: more factors make the verdict
stricter, unless they lift the score of an unresolved agent's action out of the
lowest band without reaching the escalate band. -/
theorem ruleFreeVerdict_le_iff :
    ruleFreeVerdict factors identity ≤ ruleFreeVerdict (factors ++ extra) identity ↔
      ¬ (identity = none ∧ aggregateRisk factors < throttleThreshold ∧
        throttleThreshold ≤ aggregateRisk (factors ++ extra) ∧
        aggregateRisk (factors ++ extra) < escalateThreshold) := by
  have hscore : riskVerdict (aggregateRisk factors) ≤
      riskVerdict (aggregateRisk (factors ++ extra)) :=
    riskVerdict_mono (aggregateRisk_sublist (List.sublist_append_left _ _))
  rw [ruleFreeVerdict, ruleFreeVerdict, override_le_override_iff hscore fun _ => le_refl _,
    DecisionVerdict.bot_eq_allow, Ne, riskVerdict_eq_allow_iff, riskVerdict_eq_allow_iff, not_lt]
  refine not_congr ?_
  cases identity with
  | none =>
      have hband : riskVerdict (aggregateRisk (factors ++ extra)) < .escalate ↔
          aggregateRisk (factors ++ extra) < escalateThreshold := riskVerdict_lt_escalate_iff
      simp [unresolvedVerdict, hband]
  | some i => simp [unresolvedVerdict]

/-! ### The two comparisons -/

/-- A likely prompt injection. -/
def injection : RiskFactor where
  code := py "injection.prompt_injection"
  severity := ⟨9 / 10, by norm_num⟩
  detector := py "prompt_injection_detector"
  message := []
  evidence := .empty

/-- An agent that acts more often than expected. -/
def rateSpike : RiskFactor where
  code := py "anomaly.rate_spike"
  severity := ⟨1 / 10, by norm_num⟩
  detector := py "anomaly_detector"
  message := []
  evidence := .empty

/-- The rule of the default bundle for behavioural anomalies. -/
def rogueAnomalySpike : PolicyRule where
  id := py "rogue-anomaly-spike"
  effect := .throttle
  matchOn := ⟨[(py "risk.factor_code_any",
      .list [.str (py "anomaly.rate_spike"), .str (py "anomaly.tool_drift")]),
    (py "risk.score_min", .float (.finite (3 / 4)))],
    show [py "risk.factor_code_any", py "risk.score_min"].Nodup by decide⟩

/-- Slow every agent down. -/
def throttleAll : PolicyRule := { id := py "throttle-all", effect := .throttle }

/-- **More risk factors.** The verdict becomes no laxer, unless the new factors
switch on the first restrictive rules and all of these are weaker than what the
old factors alone called for. Left out is an agent without identity whose action
no restrictive rule matches, as its score moves from the lowest band into the
throttle band. -/
theorem policyVerdict_le_append_iff
    (hv : policyVerdict rt engine action identity factors = .ok v)
    (hw : policyVerdict rt engine action identity (factors ++ extra) = .ok w)
    (hfallback : ¬ (identity = none ∧
      engine.Unrestricted rt action identity (factors ++ extra) ∧
      aggregateRisk factors < throttleThreshold ∧
      throttleThreshold ≤ aggregateRisk (factors ++ extra) ∧
      aggregateRisk (factors ++ extra) < escalateThreshold)) :
    v ≤ w ↔ ¬ (engine.Unrestricted rt action identity factors ∧
      ¬ engine.Unrestricted rt action identity (factors ++ extra) ∧
      ∀ effect, engine.Triggers rt action identity (factors ++ extra) effect →
        effect.verdict < ruleFreeVerdict factors identity) := by
  obtain ⟨ms, hms, rfl⟩ := policyVerdict_eq_ok hv
  obtain ⟨ns, hns, rfl⟩ := policyVerdict_eq_ok hw
  have hrules : ruleVerdict ms ≤ ruleVerdict ns :=
    ruleVerdict_le_of_triggers hms hns fun _ => triggers_mono
  rw [override_le_override_iff hrules]
  · rw [ruleVerdict_eq_bot_iff hms, Ne, ruleVerdict_eq_bot_iff hns]
    exact not_congr (and_congr_right fun _ => and_congr_right fun hsome =>
      ruleVerdict_lt_iff hns hsome)
  -- Where the rules stay silent, the comparison is that of the score and the identity.
  · intro hbot
    rw [ruleVerdict_eq_bot_iff hns] at hbot
    rw [ruleFreeVerdict_le_iff]
    intro hband
    exact hfallback ⟨hband.1, hbot, hband.2⟩

theorem policyVerdict_le_append_iff_spike :
    DecisionVerdict.allow ≤ .throttle ↔
      ¬ ((⟨⟨[rogueAnomalySpike]⟩⟩ : PolicyEngine).Unrestricted default default (some default) [] ∧
        ¬ (⟨⟨[rogueAnomalySpike]⟩⟩ : PolicyEngine).Unrestricted default default (some default)
          ([] ++ [rateSpike]) ∧
        ∀ effect, (⟨⟨[rogueAnomalySpike]⟩⟩ : PolicyEngine).Triggers default default (some default)
          ([] ++ [rateSpike]) effect → effect.verdict < ruleFreeVerdict [] (some default)) :=
  policyVerdict_le_append_iff
    (by decide +kernel : policyVerdict default ⟨⟨[rogueAnomalySpike]⟩⟩ default (some default) [] =
      .ok .allow)
    (by decide +kernel) (by simp)

/-- An injection is denied; with a rate spike on top of it the rule for anomalies
matches, and the action is only throttled. -/
theorem more_factors_loosen : ¬ ∀ (rt : PyRuntime) (engine : PolicyEngine) (action : Action)
    (identity : Option Identity) (factors extra : List RiskFactor) (v w : DecisionVerdict),
    policyVerdict rt engine action identity factors = .ok v →
      policyVerdict rt engine action identity (factors ++ extra) = .ok w → v ≤ w := by
  intro h
  have hdeny : policyVerdict default ⟨⟨[rogueAnomalySpike]⟩⟩ default (some default) [injection] =
      .ok .deny := by decide +kernel
  have hthrottle : policyVerdict default ⟨⟨[rogueAnomalySpike]⟩⟩ default (some default)
      ([injection] ++ [rateSpike]) = .ok .throttle := by decide +kernel
  exact absurd (h _ _ _ _ _ _ _ _ hdeny hthrottle) (by decide)

/-- **One more restrictive rule.** The verdict becomes no laxer, unless the new
rule is the only restrictive one to match and is weaker than what the score and
the missing identity call for. -/
theorem policyVerdict_le_insert_iff {rules₁ rules₂ : List PolicyRule} {r : PolicyRule}
    (hr : r.enabled = true) (heffect : r.effect ≠ .allow)
    (hv : policyVerdict rt ⟨⟨rules₁ ++ rules₂⟩⟩ action identity factors = .ok v)
    (hw : policyVerdict rt ⟨⟨rules₁ ++ r :: rules₂⟩⟩ action identity factors = .ok w) :
    v ≤ w ↔ ¬ (ruleMatches rt action identity factors r = .ok true ∧
      (⟨⟨rules₁ ++ rules₂⟩⟩ : PolicyEngine).Unrestricted rt action identity factors ∧
      r.effect.verdict < ruleFreeVerdict factors identity) := by
  obtain ⟨ms, hms, rfl⟩ := policyVerdict_eq_ok hv
  obtain ⟨ns, hns, rfl⟩ := policyVerdict_eq_ok hw
  have hrules : ruleVerdict ms ≤ ruleVerdict ns :=
    ruleVerdict_le_of_triggers hms hns fun _ h => (triggers_insert_iff hr).mpr (Or.inl h)
  rw [override_le_override_iff hrules fun _ => le_refl _, ruleVerdict_eq_bot_iff hms, Ne,
    ruleVerdict_eq_bot_iff hns]
  refine not_congr ⟨?_, ?_⟩
  · intro hloosens
    obtain ⟨hfree, hsome, hlt⟩ := hloosens
    -- What the larger bundle triggers, the smaller one does not: it must be the new rule.
    obtain ⟨effect, htriggers, hne⟩ : ∃ effect,
        (⟨⟨rules₁ ++ r :: rules₂⟩⟩ : PolicyEngine).Triggers rt action identity factors effect ∧
          effect ≠ .allow := by
      simpa only [Unrestricted, not_forall, exists_prop] using hsome
    have hlt := (ruleVerdict_lt_iff hns hsome).mp hlt effect htriggers
    rcases (triggers_insert_iff hr).mp htriggers with hold | ⟨rfl, hmatch⟩
    · exact absurd (hfree effect hold) hne
    · exact ⟨hmatch, hfree, hlt⟩
  · intro hnew
    obtain ⟨hmatch, hfree, hlt⟩ := hnew
    have htriggers : (⟨⟨rules₁ ++ r :: rules₂⟩⟩ : PolicyEngine).Triggers rt action identity
        factors r.effect := (triggers_insert_iff hr).mpr (Or.inr ⟨rfl, hmatch⟩)
    have hsome : ¬ (⟨⟨rules₁ ++ r :: rules₂⟩⟩ : PolicyEngine).Unrestricted rt action identity
        factors := fun h => heffect (h _ htriggers)
    refine ⟨hfree, hsome, (ruleVerdict_lt_iff hns hsome).mpr fun effect h => ?_⟩
    rcases (triggers_insert_iff hr).mp h with hold | ⟨rfl, -⟩
    · rw [hfree effect hold]
      exact (DecisionVerdict.allow_le _).trans_lt hlt
    · exact hlt

theorem policyVerdict_le_insert_iff_throttleAll :
    DecisionVerdict.allow ≤ .throttle ↔
      ¬ (ruleMatches default default (some default) [] throttleAll = .ok true ∧
        (⟨⟨[] ++ []⟩⟩ : PolicyEngine).Unrestricted default default (some default) [] ∧
        throttleAll.effect.verdict < ruleFreeVerdict [] (some default)) :=
  policyVerdict_le_insert_iff (r := throttleAll) rfl (by decide) (by decide +kernel)
    (by decide +kernel)

/-- Without a rule an injection is denied, with a rule that throttles everything it
is throttled. -/
theorem restrictive_rule_loosens : ¬ ∀ (rt : PyRuntime) (rules₁ rules₂ : List PolicyRule)
    (r : PolicyRule) (action : Action) (identity : Option Identity) (factors : List RiskFactor)
    (v w : DecisionVerdict), r.enabled = true → r.effect ≠ .allow →
    policyVerdict rt ⟨⟨rules₁ ++ rules₂⟩⟩ action identity factors = .ok v →
      policyVerdict rt ⟨⟨rules₁ ++ r :: rules₂⟩⟩ action identity factors = .ok w → v ≤ w := by
  intro h
  have hdeny : policyVerdict default ⟨⟨[] ++ []⟩⟩ default (some default) [injection] =
      .ok .deny := by decide +kernel
  have hthrottle : policyVerdict default ⟨⟨[] ++ throttleAll :: []⟩⟩ default (some default)
      [injection] = .ok .throttle := by decide +kernel
  exact absurd (h _ _ _ throttleAll _ _ _ _ _ rfl (by decide) hdeny hthrottle) (by decide)

end AgentSentinel
