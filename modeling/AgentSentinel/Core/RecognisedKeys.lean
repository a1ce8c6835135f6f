import AgentSentinel.Core.MatchAgreement
import AgentSentinel.Core.Pipeline

/-!
# AgentSentinel.Core.RecognisedKeys

Match keys that the matcher does not know. It looks its own keys up and never at the others,
so the whole pipeline decides by what is left of the rules without them. A rule of which
nothing is left matches every action, and its effect is the least that any decision comes to.
-/

namespace AgentSentinel

open Lib

/-- The matcher looks at values under this key. -/
def recognised (key : PyStr) : Bool := MatchKey.parse key != .unknown

/-- The rule with the recognised part of its match dictionary. -/
def PolicyRule.recognised (rule : PolicyRule) : PolicyRule :=
  { rule with matchOn := rule.matchOn.filterKeys AgentSentinel.recognised }

def PolicyBundle.recognised (bundle : PolicyBundle) : PolicyBundle :=
  ⟨bundle.rules.map PolicyRule.recognised⟩

/-- The rule asks nothing that the matcher knows. -/
def PolicyRule.Blanket (rule : PolicyRule) : Prop :=
  ∀ e ∈ rule.matchOn.entries, AgentSentinel.recognised e.1 = false

instance : DecidablePred PolicyRule.Blanket :=
  fun rule => inferInstanceAs (Decidable (∀ e ∈ rule.matchOn.entries, _))

section Rules

variable {rt : PyRuntime} {action : Action} {identity : Option Identity}
  {factors : List RiskFactor} {rule : PolicyRule}

theorem Interchangeable.refl (k : MatchKey) (v : Value) : Interchangeable rt k v v := by
  cases k with
  | unknown => trivial
  | didPrefix => exact ⟨Iff.rfl, rfl⟩
  | minSeverity => exact ⟨Iff.rfl, rfl⟩
  | _ => exact Or.inl rfl

theorem matchAgree_recognised (rule : PolicyRule) :
    MatchAgree rt rule.matchOn rule.recognised.matchOn := by
  intro key hkey
  have hrecognised : AgentSentinel.recognised key = true := bne_iff_ne.mpr hkey
  rw [PolicyRule.recognised, PyDict.get_filterKeys, if_pos hrecognised]
  cases rule.matchOn.get key with
  | none => exact .none
  | some v => exact .some (.refl _ v)

theorem ruleAgree_recognised (rule : PolicyRule) : RuleAgree rt rule rule.recognised :=
  ⟨rfl, rfl, rfl, rfl, fun _ => matchAgree_recognised rule⟩

/-- A rule of which nothing is left matches everything. -/
theorem PolicyRule.Blanket.ruleMatches (h : rule.Blanket) :
    PolicyEngine.ruleMatches rt action identity factors rule = .ok true := by
  have hnothing : rule.recognised.matchOn.entries = [] := by
    refine List.filter_eq_nil_iff.mpr fun e he => ?_
    simp [h e he]
  rw [(matchAgree_recognised rule).ruleMatches, PolicyEngine.ruleMatches, hnothing]
  rfl

theorem outcome_recognised (bundle : PolicyBundle) :
    (⟨bundle⟩ : PolicyEngine).outcome rt action identity factors =
      (⟨bundle.recognised⟩ : PolicyEngine).outcome rt action identity factors := by
  refine outcome_agree ?_
  rw [PolicyBundle.recognised, List.forall₂_map_right_iff]
  exact List.forall₂_same.mpr fun rule _ => ruleAgree_recognised rule

end Rules

/-! ### The pipeline -/

theorem reconcile_congr {ms ns : List RuleMatch} (h : matchNames ms = matchNames ns)
    (factors : List RiskFactor) (identity : Option Identity) :
    reconcile ms factors identity = reconcile ns factors identity := by
  have hids : ms.map (·.rule.id) = ns.map (·.rule.id) := by
    simpa [matchNames, Function.comp_def] using congrArg (List.map Prod.fst) h
  have heffects : ms.map (·.effect) = ns.map (·.effect) := by
    simpa [matchNames, Function.comp_def] using congrArg (List.map Prod.snd) h
  rw [reconcile, reconcile, hids, heffects]

namespace PipelineDeps

variable {deps : PipelineDeps} {rt : PyRuntime} {r : Readings} {action : Action} {d : Decision}

/-- The same pipeline with another bundle. -/
def withBundle (deps : PipelineDeps) (bundle : PolicyBundle) : PipelineDeps :=
  { deps with policyEngine := ⟨bundle⟩ }

/-- Bundles that say the same of every action make for the same decisions. -/
theorem evaluate_withBundle {bundle : PolicyBundle}
    (h : ∀ identity factors, deps.policyEngine.outcome rt action identity factors =
      (⟨bundle⟩ : PolicyEngine).outcome rt action identity factors) :
    (deps.withBundle bundle).evaluate rt r action = deps.evaluate rt r action := by
  refine Prod.ext ?_ rfl
  refine bind_congr fun outcome => ?_
  refine bind_congr_of_map (h _ _).symm fun ms ns hnames => congrArg Except.ok ?_
  simp only [decision, reconcile_congr hnames]

/-- **Unknown keys are ignored.** The pipeline decides, or raises, as with the recognised part
of its bundle. -/
theorem evaluate_recognised (deps : PipelineDeps) (rt : PyRuntime) (r : Readings)
    (action : Action) :
    (deps.withBundle deps.policyEngine.bundle.recognised).evaluate rt r action =
      deps.evaluate rt r action :=
  evaluate_withBundle fun _ _ => outcome_recognised _

/-- **Blanket rules bound every decision.** Where an enabled rule asks nothing that the matcher
knows, no decision is milder than the effect of the rule. -/
theorem effect_le_of_blanket {rule : PolicyRule} (hrule : rule ∈ deps.policyEngine.bundle.rules)
    (henabled : rule.enabled = true) (hblanket : rule.Blanket)
    (h : (deps.evaluate rt r action).1 = .ok d) : rule.effect.verdict ≤ d.verdict := by
  obtain ⟨outcome, ms, -, hms, rfl⟩ := evaluate_eq_ok.mp h
  have hmatch : (⟨rule, rule.effect⟩ : RuleMatch) ∈ ms :=
    (PolicyEngine.mem_evaluate hms).mpr ⟨rule, hrule, henabled, hblanket.ruleMatches, rfl⟩
  have hrule : rule.effect.verdict ≤ ruleVerdict ms :=
    Multiset.le_sup (List.mem_map.mpr ⟨_, hmatch, rfl⟩)
  have hreconciled : rule.effect.verdict ≤ (reconcile ms
      (deps.collectFactors r action outcome) outcome.identity).1 := by
    rw [reconcile_verdict]
    exact hrule.trans le_override
  rw [decision_verdict]
  split
  · cases rule.effect.verdict <;> decide
  · exact hreconciled

end PipelineDeps

end AgentSentinel
