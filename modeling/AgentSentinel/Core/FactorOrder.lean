import AgentSentinel.Core.MatchLanguage

/-!
# AgentSentinel.Core.FactorOrder

What more risk factors do to the matches. A check that reads the factors can only turn from
a refusal to something else, and whether it raises is not up to them. So the matches of fewer
factors are found again among those of more, in the same order.
-/

namespace AgentSentinel

variable {rt : PyRuntime} {engine : PolicyEngine} {action : Action} {identity : Option Identity}
  {factors more extra : List RiskFactor} {m : PyDict Value}

/-! ### One check -/

/-- The second answer is the first one, unless that one is a refusal. -/
def Relaxes (r r' : Result Bool) : Prop := r = .ok false ∨ r' = r

theorem Relaxes.whenGiven {key : PyStr} {test test' : Value → Result Bool}
    (h : ∀ val, Relaxes (test val) (test' val)) :
    Relaxes (whenGiven m key test) (whenGiven m key test') := by
  unfold AgentSentinel.whenGiven
  cases m.getNonNull key with
  | none => exact .inr rfl
  | some val => exact h val

/-- Two answers of which the first implies the second, after a part that may raise. -/
theorem Relaxes.map {α : Type} {x : Result α} {p q : α → Bool} (h : ∀ a, p a = true → q a = true) :
    Relaxes (x.map p) (x.map q) := by
  cases x with
  | error e => exact .inr rfl
  | ok a =>
      cases hp : p a with
      | false => exact .inl (congrArg Except.ok hp)
      | true => exact .inr (congrArg Except.ok ((h a hp).trans hp.symm))

/-- A chain of checks relaxes where each of them does. -/
theorem Relaxes.checkAll {cs cs' : List (Result Bool)} (h : List.Forall₂ Relaxes cs cs') :
    Relaxes (checkAll cs) (checkAll cs') := by
  induction h with
  | nil => exact .inr rfl
  | @cons c c' cs cs' hhead _ ih =>
      rcases hhead with rfl | rfl
      · exact .inl (checkAll_stop (by simp) cs)
      · by_cases hpass : c' = .ok true
        · rw [hpass]
          exact ih
        · rw [Relaxes, checkAll_stop hpass, checkAll_stop hpass]
          exact .inr rfl

theorem le_topSeverity {f : RiskFactor} (h : f ∈ factors) :
    f.severity.val ≤ topSeverity factors := by
  induction factors with
  | nil => cases h
  | cons g factors ih =>
      rcases List.mem_cons.mp h with rfl | h
      · exact le_max_left _ _
      · exact (ih h).trans (le_max_right _ _)

theorem topSeverity_nonneg : 0 ≤ topSeverity factors := by
  cases factors with
  | nil => exact le_refl _
  | cons f fs => exact f.severity.property.1.trans (le_max_left _ _)

theorem topSeverity_mono (h : factors ⊆ more) :
    topSeverity factors ≤ topSeverity more := by
  induction factors with
  | nil => exact topSeverity_nonneg
  | cons f fs ih =>
      exact max_le (le_topSeverity (h List.mem_cons_self))
        (ih fun g hg => h (List.mem_cons_of_mem _ hg))

theorem codePresent_mono (hsub : factors ⊆ more) {w : Value}
    (h : codePresent factors w = true) : codePresent more w = true := by
  rw [codePresent_iff] at h ⊢
  obtain ⟨f, hf, heq⟩ := h
  exact ⟨f, hsub hf, heq⟩

theorem checkFactorCodeAny_relaxes (hsub : factors ⊆ more) :
    Relaxes (checkFactorCodeAny m factors) (checkFactorCodeAny m more) := by
  refine .whenGiven fun val => .map fun wanted hany => ?_
  rw [List.any_eq_true] at hany ⊢
  obtain ⟨w, hw, hpresent⟩ := hany
  exact ⟨w, hw, codePresent_mono hsub hpresent⟩

theorem checkFactorCodeAll_relaxes (hsub : factors ⊆ more) :
    Relaxes (checkFactorCodeAll m factors) (checkFactorCodeAll m more) := by
  refine .whenGiven fun val => .map fun wanted hall => ?_
  rw [List.all_eq_true] at hall ⊢
  exact fun w hw => codePresent_mono hsub (hall w hw)

theorem checkMinSeverity_relaxes (hsub : factors ⊆ more) :
    Relaxes (checkMinSeverity m factors) (checkMinSeverity m more) := by
  refine .whenGiven fun val => ?_
  cases val.toFloat with
  -- A threshold that is no number refuses, or raises, whatever the factors are.
  | error e => exact .inr rfl
  | ok threshold =>
      cases hlow : (PyFloat.finite (topSeverity factors)).lt threshold with
      | true => exact .inl (by simp [hlow])
      | false =>
          refine .inr ?_
          have hmore : (PyFloat.finite (topSeverity more)).lt threshold = false := by
            rw [← Bool.not_eq_true] at hlow ⊢
            exact fun hlt => hlow (PyFloat.lt_of_finite_le (topSeverity_mono hsub) hlt)
          simp [hlow, hmore]

namespace PolicyEngine

/-! ### The matcher and the loop over the rules -/

/-- More factors change the answer for a rule only where it was a refusal. -/
theorem ruleMatches_relaxes (hsub : factors ⊆ more) (rule : PolicyRule) :
    Relaxes (ruleMatches rt action identity factors rule)
      (ruleMatches rt action identity more rule) := by
  rw [ruleMatches_eq_checkAll, ruleMatches_eq_checkAll]
  have hsame (c : Result Bool) : Relaxes c c := .inr rfl
  exact .checkAll (.cons (hsame _) (.cons (hsame _) (.cons (hsame _) (.cons (hsame _)
    (.cons (checkFactorCodeAny_relaxes hsub) (.cons (checkFactorCodeAll_relaxes hsub)
      (.cons (checkMinSeverity_relaxes hsub) (.cons (hsame _) (.cons (hsame _) .nil)))))))))

/-- A rule that matches keeps matching as risk factors are added. -/
theorem ruleMatches_mono (hsub : factors ⊆ more) {rule : PolicyRule}
    (h : ruleMatches rt action identity factors rule = .ok true) :
    ruleMatches rt action identity more rule = .ok true := by
  rcases @ruleMatches_relaxes rt action identity factors more hsub rule with hrefused | hsame
  · rw [h] at hrefused
    cases hrefused
  · rw [hsame, h]

/-- The loop returns for fewer factors if it does for more, and has then left matches out. -/
theorem matchRules_sublist (hsub : factors ⊆ more) {rules : List PolicyRule}
    {ns : List RuleMatch} (h : matchRules rt action identity more rules = .ok ns) :
    ∃ ms, matchRules rt action identity factors rules = .ok ms ∧ ms.Sublist ns := by
  induction rules generalizing ns with
  | nil =>
      obtain rfl := Except.ok.inj h
      exact ⟨[], rfl, .slnil⟩
  | cons rule rules ih =>
      obtain ⟨hit, hrule, hloop⟩ := bind_eq_ok.mp h
      obtain ⟨ns, hns, hall⟩ := bind_eq_ok.mp hloop
      obtain rfl := Except.ok.inj hall
      obtain ⟨ms, hms, hsublist⟩ := ih hns
      rcases @ruleMatches_relaxes rt action identity factors more hsub rule with hrefused | hsame
      · refine ⟨ms, bind_eq_ok.mpr ⟨false, hrefused, bind_eq_ok.mpr ⟨ms, hms, rfl⟩⟩, ?_⟩
        cases hit with
        | false => exact hsublist
        | true => exact hsublist.cons _
      · refine ⟨_, bind_eq_ok.mpr ⟨hit, hsame ▸ hrule, bind_eq_ok.mpr ⟨ms, hms, rfl⟩⟩, ?_⟩
        cases hit with
        | false => exact hsublist
        | true => exact hsublist.cons_cons _

/-- **More factors only add matches**, each in its place among those of the fewer ones. -/
theorem evaluate_sublist_append
    (h : ¬ engine.RuleRaises rt action identity (factors ++ extra)) :
    ∃ ms ns, engine.evaluate rt action identity factors = .ok ms ∧
      engine.evaluate rt action identity (factors ++ extra) = .ok ns ∧ ms.Sublist ns := by
  obtain ⟨ns, hns⟩ := evaluate_returns_iff.mpr h
  obtain ⟨ms, hms, hsublist⟩ := matchRules_sublist (List.subset_append_left factors extra) hns
  exact ⟨ms, ns, hms, hns, hsublist⟩

/-- A rule on a code, one on a severity and one that always matches. -/
def factorRules : PolicyEngine where
  bundle := ⟨[
    { id := py "any", effect := .allow },
    { id := py "severe", effect := .deny, priority := 10,
      matchOn := ⟨[(py "risk.min_severity", .float (.finite (9 / 10)))], by decide⟩ },
    { id := py "spike", effect := .throttle, priority := 200,
      matchOn := ⟨[(py "risk.factor_code_any", .str (py "anomaly.rate_spike"))], by decide⟩ }]⟩

/-- An agent that acts far more often than expected. -/
def spiking : RiskFactor where
  code := py "anomaly.rate_spike"
  severity := ⟨1, one_mem_unit⟩
  detector := py "anomaly_detector"
  message := []
  evidence := .empty

theorem evaluate_sublist_append_spiking : ∃ ms ns,
    factorRules.evaluate default default none [] = .ok ms ∧
      factorRules.evaluate default default none ([] ++ [spiking]) = .ok ns ∧ ms.Sublist ns :=
  evaluate_sublist_append (evaluate_returns_iff.mp (exists_of_isOk (by decide +kernel)))

end PolicyEngine

end AgentSentinel
