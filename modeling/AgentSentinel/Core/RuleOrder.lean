import AgentSentinel.Core.VerdictOrder

/-!
# AgentSentinel.Core.RuleOrder

What the order of a bundle's rules decides, and what it does not. It decides the
order in which matches are reported: ascending priority, ties as in the bundle. It
does not decide the verdict. Rules may be reordered and get other priorities, and
rules that allow or are disabled may come and go: the verdict only depends on which
restrictive effects are triggered.
-/

namespace AgentSentinel

open Lib PolicyEngine

variable {rt : PyRuntime} {engine : PolicyEngine} {action : Action}
  {identity : Option Identity} {factors : List RiskFactor} {rules rules' : List PolicyRule}

/-! ### The order of the matches -/

instance priorityLe_total : Std.Total PolicyBundle.priorityLe :=
  ⟨fun r s => le_total r.priority s.priority⟩

instance priorityLe_trans : IsTrans PolicyRule PolicyBundle.priorityLe :=
  ⟨fun _ _ _ => le_trans⟩

/-- The sort is stable: among rules of one priority nothing moves. -/
theorem PolicyBundle.filter_byPriority (b : PolicyBundle) (p : Fin 10001) :
    b.byPriority.filter (·.priority = p) = b.rules.filter fun r => r.enabled && r.priority = p := by
  have htied : ((b.rules.filter (·.enabled)).filter (·.priority = p)).Pairwise priorityLe := by
    refine List.pairwise_iff_forall_sublist.mpr fun {r s} hsub => ?_
    have hmem (t : PolicyRule) (ht : t ∈ [r, s]) : t.priority = p := by
      simpa using (List.mem_filter.mp (hsub.subset ht)).2
    rw [priorityLe, hmem r (by simp), hmem s (by simp)]
  have hperm := (List.perm_insertionSort priorityLe (b.rules.filter (·.enabled))).filter
    (·.priority = p)
  -- What keeps its order and loses nothing is the same list.
  have hkept : ((b.rules.filter (·.enabled)).filter (·.priority = p)).Sublist
      (b.byPriority.filter (·.priority = p)) := by
    have hsub := (List.sublist_insertionSort htied List.filter_sublist).filter (·.priority = p)
    rwa [List.filter_filter (l := b.rules.filter (·.enabled)), funext fun r => Bool.and_self _]
      at hsub
  have hsame := hkept.eq_of_length hperm.symm.length_eq
  rw [← hsame, List.filter_filter]
  exact List.filter_congr fun r _ => Bool.and_comm _ _

/-- What `evaluate` should return for a bundle: every enabled rule that matches, once,
with its effect, by ascending priority and in the order of the bundle where priorities
are equal. -/
structure InRuleOrder (matching : PolicyRule → Bool) (rules : List PolicyRule)
    (ms : List RuleMatch) : Prop where
  effects : ∀ m ∈ ms, m.effect = m.rule.effect
  once : (ms.map (·.rule)).Perm (rules.filter fun r => r.enabled && matching r)
  ascending : (ms.map (·.rule)).Pairwise fun r s => r.priority ≤ s.priority
  ties : ∀ p, (ms.map (·.rule)).filter (·.priority = p) =
    rules.filter fun r => (r.enabled && matching r) && r.priority = p

/-- The rule applies. -/
def applies (rt : PyRuntime) (action : Action) (identity : Option Identity)
    (factors : List RiskFactor) (rule : PolicyRule) : Bool :=
  decide (ruleMatches rt action identity factors rule = .ok true)

theorem inRuleOrder_of_evaluate {ms : List RuleMatch}
    (h : engine.evaluate rt action identity factors = .ok ms) :
    InRuleOrder (applies rt action identity factors) engine.bundle.rules ms := by
  obtain ⟨-, rfl⟩ := matchRules_eq_ok h
  have hrules : ((engine.bundle.byPriority.filter fun rule =>
      decide (ruleMatches rt action identity factors rule = .ok true)).map
        fun rule => (⟨rule, rule.effect⟩ : RuleMatch)).map (·.rule) =
      engine.bundle.byPriority.filter (applies rt action identity factors) := by
    rw [List.map_map]
    exact List.map_id _
  constructor
  · intro m hm
    obtain ⟨rule, -, rfl⟩ := List.mem_map.mp hm
    rfl
  · rw [hrules]
    refine ((List.perm_insertionSort _ _).filter _).trans (.of_eq ?_)
    rw [List.filter_filter]
    exact List.filter_congr fun r _ => Bool.and_comm _ _
  · rw [hrules]
    exact (List.pairwise_insertionSort PolicyBundle.priorityLe _).filter _
  · intro p
    rw [hrules, List.filter_comm, PolicyBundle.filter_byPriority, List.filter_filter]
    exact List.filter_congr fun r _ => by rw [Bool.and_left_comm, Bool.and_assoc]

/-! ### The verdict -/

/-- One bundle's rules made into another's by changes that should not matter. -/
inductive Rearranged : List PolicyRule → List PolicyRule → Prop
  | permute {rules rules' : List PolicyRule} : rules.Perm rules' → Rearranged rules rules'
  | reprioritise {rules₁ rules₂ : List PolicyRule} {r : PolicyRule} (p : Fin 10001) :
      Rearranged (rules₁ ++ r :: rules₂) (rules₁ ++ { r with priority := p } :: rules₂)
  | insert {rules₁ rules₂ : List PolicyRule} {r : PolicyRule} :
      r.effect = .allow ∨ r.enabled = false → Rearranged (rules₁ ++ rules₂) (rules₁ ++ r :: rules₂)
  | symm {rules rules' : List PolicyRule} : Rearranged rules rules' → Rearranged rules' rules
  | trans {rules rules' rules'' : List PolicyRule} :
      Rearranged rules rules' → Rearranged rules' rules'' → Rearranged rules rules''

theorem triggers_middle_iff {rules₁ rules₂ : List PolicyRule} {r : PolicyRule}
    {effect : RuleEffect} :
    (⟨⟨rules₁ ++ r :: rules₂⟩⟩ : PolicyEngine).Triggers rt action identity factors effect ↔
      (r.enabled = true ∧ r.effect = effect ∧
        ruleMatches rt action identity factors r = .ok true) ∨
      (⟨⟨rules₁ ++ rules₂⟩⟩ : PolicyEngine).Triggers rt action identity factors effect := by
  simp only [Triggers, List.perm_middle.mem_iff, List.mem_cons]
  constructor
  · intro h
    obtain ⟨rule, rfl | hrule, henabled, heffect, hmatch⟩ := h
    · exact Or.inl ⟨henabled, heffect, hmatch⟩
    · exact Or.inr ⟨rule, hrule, henabled, heffect, hmatch⟩
  · intro h
    rcases h with ⟨henabled, heffect, hmatch⟩ | ⟨rule, hrule, hrest⟩
    · exact ⟨r, Or.inl rfl, henabled, heffect, hmatch⟩
    · exact ⟨rule, Or.inr hrule, hrest⟩

/-- None of the changes touches the restrictive effects that are triggered. -/
theorem Rearranged.triggers_iff (h : Rearranged rules rules') {effect : RuleEffect}
    (hrestrictive : effect ≠ .allow) :
    (⟨⟨rules⟩⟩ : PolicyEngine).Triggers rt action identity factors effect ↔
      (⟨⟨rules'⟩⟩ : PolicyEngine).Triggers rt action identity factors effect := by
  induction h with
  | permute h => simp only [Triggers, h.mem_iff]
  | reprioritise p =>
      rw [triggers_middle_iff, triggers_middle_iff]
      rfl
  | @insert rules₁ rules₂ r hr =>
      rw [triggers_middle_iff, or_iff_right]
      intro htriggers
      obtain ⟨henabled, rfl, -⟩ := htriggers
      rcases hr with hallow | hdisabled
      · exact hrestrictive hallow
      · rw [henabled] at hdisabled
        cases hdisabled
  | symm _ ih => exact ih.symm
  | trans _ _ ih₁ ih₂ => exact ih₁.trans ih₂

/-- Where no rule raises, there is a verdict, and it depends on the restrictive effects
that are triggered alone. -/
theorem policyVerdict_congr {engine' : PolicyEngine}
    (hreturns : ¬ engine.RuleRaises rt action identity factors)
    (hreturns' : ¬ engine'.RuleRaises rt action identity factors)
    (h : ∀ effect, effect ≠ .allow → (engine.Triggers rt action identity factors effect ↔
      engine'.Triggers rt action identity factors effect)) :
    ∃ v, policyVerdict rt engine action identity factors = .ok v ∧
      policyVerdict rt engine' action identity factors = .ok v := by
  obtain ⟨ms, hms⟩ := evaluate_returns_iff.mpr hreturns
  obtain ⟨ns, hns⟩ := evaluate_returns_iff.mpr hreturns'
  have hsame : (reconcile ms factors identity).1 = (reconcile ns factors identity).1 := by
    have hmem (effect : RuleEffect) (hne : effect ≠ .allow) :
        effect ∈ ms.map (·.effect) ↔ effect ∈ ns.map (·.effect) := by
      rw [effect_mem_iff hms, effect_mem_iff hns]
      exact h effect hne
    rw [reconcile_verdict, reconcile_verdict, ruleVerdict_eq, ruleVerdict_eq]
    simp only [hmem .deny (by decide), hmem .escalate (by decide), hmem .throttle (by decide)]
  exact ⟨_, bind_eq_ok.mpr ⟨ms, hms, rfl⟩, bind_eq_ok.mpr ⟨ns, hns, by rw [hsame]; rfl⟩⟩

/-- **The order of the rules.** Rearranging a bundle does not change the verdict, and the
matches of a bundle come in the order of its rules. -/
theorem verdict_of_rearranged (rt : PyRuntime) (action : Action) (identity : Option Identity)
    (factors : List RiskFactor) {bundle bundle' : PolicyBundle}
    (hreturns : ¬ (⟨bundle⟩ : PolicyEngine).RuleRaises rt action identity factors)
    (hreturns' : ¬ (⟨bundle'⟩ : PolicyEngine).RuleRaises rt action identity factors)
    (h : Rearranged bundle.rules bundle'.rules) :
    (∃ v, policyVerdict rt ⟨bundle⟩ action identity factors = .ok v ∧
      policyVerdict rt ⟨bundle'⟩ action identity factors = .ok v) ∧
    ∃ ms, (⟨bundle⟩ : PolicyEngine).evaluate rt action identity factors = .ok ms ∧
      InRuleOrder (applies rt action identity factors) bundle.rules ms := by
  constructor
  · exact policyVerdict_congr hreturns hreturns' fun effect hne => h.triggers_iff hne
  · obtain ⟨ms, hms⟩ := evaluate_returns_iff.mpr hreturns
    exact ⟨ms, hms, inRuleOrder_of_evaluate hms⟩

/-- Rules that match everything do not raise. -/
theorem not_ruleRaises_of_matchAll (h : ∀ rule ∈ rules, rule.matchOn = .empty) :
    ¬ (⟨⟨rules⟩⟩ : PolicyEngine).RuleRaises rt action identity factors := by
  intro hraises
  obtain ⟨rule, hrule, -, hraised⟩ := hraises
  have hmatch : ruleMatches rt action identity factors rule = .ok true := by
    simp [ruleMatches, h rule hrule, PyDict.empty]
  rw [hmatch] at hraised
  exact not_raised_ok hraised

/-- A rule that allows everything. -/
def allowAll : PolicyRule := { id := py "allow-all", effect := .allow }

/-- Allowing everything before it is throttled makes no difference. -/
theorem verdict_of_rearranged_allowAll :
    (∃ v, policyVerdict default ⟨⟨[throttleAll]⟩⟩ default none [] = .ok v ∧
      policyVerdict default ⟨⟨[allowAll, { throttleAll with priority := 7 }]⟩⟩ default none [] =
        .ok v) ∧
    ∃ ms, (⟨⟨[throttleAll]⟩⟩ : PolicyEngine).evaluate default default none [] = .ok ms ∧
      InRuleOrder (applies default default none []) [throttleAll] ms :=
  verdict_of_rearranged default default none []
    (not_ruleRaises_of_matchAll (by simp [throttleAll]))
    (not_ruleRaises_of_matchAll (by simp [throttleAll, allowAll]))
    ((show Rearranged ([] ++ throttleAll :: []) ([] ++ { throttleAll with priority := 7 } :: []) from
      .reprioritise 7).trans
      (show Rearranged ([] ++ [{ throttleAll with priority := 7 }])
        ([] ++ allowAll :: [{ throttleAll with priority := 7 }]) from .insert (Or.inl rfl)))

end AgentSentinel
