import AgentSentinel.Core.MatchLanguage
import AgentSentinel.Utils.JsonEquality

/-!
# AgentSentinel.Core.MatchAgreement

Match dictionaries that the matcher does not tell apart. Most of its checks compare the
value under their key with something of the action, and no comparison tells values apart
that stand for one JSON value. Two of them convert the value first, and then what it is
converted to is all that counts.
-/

namespace AgentSentinel

open Lib

/-! ### What is asked of values -/

namespace Value.OneJson

variable {v w : Value} {xs ys : List Value}

theorem ensureList (h : v.OneJson w) :
    List.Forall₂ OneJson (ensureList v) (AgentSentinel.ensureList w) := by
  rcases h.cases with rfl | ⟨xs, ys, rfl, rfl, hxs⟩ | ⟨es, fs, rfl, rfl⟩
  · exact List.forall₂_same.mpr fun _ _ => Or.inl rfl
  · exact hxs
  · exact .cons h .nil

theorem codePresent (h : v.OneJson w) (factors : List RiskFactor) :
    codePresent factors v = AgentSentinel.codePresent factors w := by
  simp only [AgentSentinel.codePresent, h.pyEq_str]

theorem setOf_map {f : List Value → Bool} (h : List.Forall₂ OneJson xs ys) (hf : f xs = f ys) :
    (setOf xs).map f = (setOf ys).map f := by
  unfold setOf
  rw [all_eq h OneJson.hashable]
  split
  · exact congrArg Except.ok hf
  · rfl

theorem anyNeedle (h : List.Forall₂ OneJson xs ys) (haystack : PyStr) :
    anyNeedle haystack xs = AgentSentinel.anyNeedle haystack ys := by
  induction h with
  | nil => rfl
  | cons hhead _ ih =>
      rcases hhead.cases with rfl | ⟨xs, ys, rfl, rfl, -⟩ | ⟨es, fs, rfl, rfl⟩
      · next v _ _ _ => cases v <;> simp only [AgentSentinel.anyNeedle, ih]
      · rfl
      · rfl

end Value.OneJson

/-! ### Dictionaries with the same meaning -/

/-- `float(v)`, whichever NaN it is. -/
def Value.threshold (v : Value) : Result PyFloat := v.toFloat.map PyFloat.anonymous

/-- The check of the key does not tell the two values apart. -/
def Interchangeable (rt : PyRuntime) : MatchKey → Value → Value → Prop
  | .unknown, _, _ => True
  | .didPrefix, v, w => (v = .none ↔ w = .none) ∧ v.toStr rt = w.toStr rt
  | .minSeverity, v, w => (v = .none ↔ w = .none) ∧ v.threshold = w.threshold
  | _, v, w => v.OneJson w

/-- Under every key that is read, the dictionaries have values that are not told apart. -/
def MatchAgree (rt : PyRuntime) (m n : PyDict Value) : Prop :=
  ∀ key, MatchKey.parse key ≠ .unknown →
    Option.Rel (Interchangeable rt (MatchKey.parse key)) (m.get key) (n.get key)

theorem Interchangeable.none_iff {rt : PyRuntime} {k : MatchKey} {v w : Value}
    (h : Interchangeable rt k v w) (hk : k ≠ .unknown) : v = .none ↔ w = .none := by
  cases k with
  | unknown => exact absurd rfl hk
  | didPrefix => exact h.1
  | minSeverity => exact h.1
  | _ => exact Value.OneJson.none_iff h

theorem Interchangeable.symm {rt : PyRuntime} {k : MatchKey} {v w : Value}
    (h : Interchangeable rt k v w) : Interchangeable rt k w v := by
  cases k with
  | unknown => trivial
  | didPrefix => exact ⟨h.1.symm, h.2.symm⟩
  | minSeverity => exact ⟨h.1.symm, h.2.symm⟩
  | _ => exact Value.OneJson.symm h

section Args

variable {m n : PyDict Value} {action : Action}

/-- What the loop over the `args.` entries demands. -/
theorem checkArgs_iff : checkArgs m action = .ok true ↔
    ∀ key, key.startsWith (py "args.") = true →
      (m.get key).map (deepEq action.arguments.toValue (argsPath key)) ≠ some false := by
  rw [checkArgs, Except.ok.injEq, List.all_eq_true]
  constructor
  · intro hall key hkey hfalse
    obtain ⟨v, hv, hno⟩ := Option.map_eq_some_iff.mp hfalse
    have hentry := hall (key, v) (PyDict.get_eq_some_iff.mp hv)
    simp [hkey, hno] at hentry
  · intro hall e he
    cases hkey : e.1.startsWith (py "args.") with
    | false => rfl
    | true =>
        have hentry := hall e.1 hkey
        rw [PyDict.get_eq_some_iff.mpr he] at hentry
        simpa using hentry

theorem checkArgs_congr (h : ∀ key, key.startsWith (py "args.") = true →
    (m.get key).map (deepEq action.arguments.toValue (argsPath key)) =
      (n.get key).map (deepEq action.arguments.toValue (argsPath key))) :
    checkArgs m action = checkArgs n action := by
  have hiff : checkArgs m action = .ok true ↔ checkArgs n action = .ok true := by
    rw [checkArgs_iff, checkArgs_iff]
    exact forall₂_congr fun key hkey => by rw [h key hkey]
  rw [checkArgs, checkArgs, Except.ok.injEq, Except.ok.injEq] at hiff
  rw [checkArgs, checkArgs, Bool.eq_iff_iff.mpr hiff]

end Args

namespace MatchAgree

variable {rt : PyRuntime} {m n : PyDict Value} {action : Action} {identity : Option Identity}
  {factors : List RiskFactor}

/-- A check that does not tell the values of its key apart gives one answer. -/
theorem whenGiven (h : MatchAgree rt m n) {key : PyStr} {k : MatchKey}
    {test : Value → Result Bool} (hkey : MatchKey.parse key = k) (hk : k ≠ .unknown)
    (htest : ∀ v w, Interchangeable rt k v w → test v = test w) :
    whenGiven m key test = AgentSentinel.whenGiven n key test := by
  subst hkey
  have hget := h key hk
  unfold AgentSentinel.whenGiven PyDict.getNonNull
  generalize m.get key = found at hget
  generalize n.get key = found' at hget
  cases hget with
  | none => rfl
  | @some v w hvw =>
      by_cases hv : v = .none
      · obtain rfl := hv
        obtain rfl := (hvw.none_iff hk).mp rfl
        rfl
      · have hw : w ≠ .none := fun hw => hv ((hvw.none_iff hk).mpr hw)
        have hgiven {u : Value} (hu : u ≠ .none) : (!u.isNone) = true := by
          cases u <;> simp_all [Value.isNone]
        rw [Option.filter_some, Option.filter_some, if_pos (hgiven hv), if_pos (hgiven hw)]
        exact htest v w hvw

theorem actionType (h : MatchAgree rt m n) :
    checkActionType m action = checkActionType n action :=
  h.whenGiven (k := .actionType) (by decide) (by decide) fun v w hvw =>
    congrArg Except.ok (Value.OneJson.pyEq hvw _)

theorem actionTool (h : MatchAgree rt m n) :
    checkActionTool m action = checkActionTool n action :=
  h.whenGiven (k := .actionTool) (by decide) (by decide) fun v w hvw => by
    rcases Value.OneJson.cases hvw with rfl | ⟨xs, ys, rfl, rfl, hxs⟩ | ⟨es, fs, rfl, rfl⟩
    · rfl
    · exact congrArg Except.ok (Value.OneJson.any_eq hxs fun h => h.pyEq _)
    · exact congrArg Except.ok (Value.OneJson.pyEq hvw _)

theorem tier (h : MatchAgree rt m n) : checkTier m identity = checkTier n identity :=
  h.whenGiven (k := .identityTier) (by decide) (by decide) fun v w hvw => by
    cases identity with
    | none => rfl
    | some identity => exact congrArg Except.ok (Value.OneJson.pyEq hvw _)

theorem didPrefix (h : MatchAgree rt m n) :
    checkDidPrefix rt m action = checkDidPrefix rt n action :=
  h.whenGiven (k := .didPrefix) (by decide) (by decide) fun v w hvw => by rw [hvw.2]

theorem factorCodeAny (h : MatchAgree rt m n) :
    checkFactorCodeAny m factors = checkFactorCodeAny n factors :=
  h.whenGiven (k := .factorCodeAny) (by decide) (by decide) fun v w hvw =>
    Value.OneJson.setOf_map (Value.OneJson.ensureList hvw)
      (Value.OneJson.any_eq (Value.OneJson.ensureList hvw) fun h => h.codePresent factors)

theorem factorCodeAll (h : MatchAgree rt m n) :
    checkFactorCodeAll m factors = checkFactorCodeAll n factors :=
  h.whenGiven (k := .factorCodeAll) (by decide) (by decide) fun v w hvw =>
    Value.OneJson.setOf_map (Value.OneJson.ensureList hvw)
      (Value.OneJson.all_eq (Value.OneJson.ensureList hvw) fun h => h.codePresent factors)

theorem minSeverity (h : MatchAgree rt m n) :
    checkMinSeverity m factors = checkMinSeverity n factors :=
  h.whenGiven (k := .minSeverity) (by decide) (by decide) fun v w hvw => by
    have hsame := hvw.2
    unfold Value.threshold at hsame
    cases hv : v.toFloat with
    | ok x =>
        cases hw : w.toFloat with
        | ok y =>
            rw [hv, hw] at hsame
            have hxy : x.anonymous = y.anonymous := Except.ok.inj hsame
            simp only [← PyFloat.lt_anonymous _ x, ← PyFloat.lt_anonymous _ y, hxy]
        | error e => simp [hv, hw, Except.map] at hsame
    | error e =>
        cases hw : w.toFloat with
        | ok y => simp [hv, hw, Except.map] at hsame
        | error e' =>
            rw [hv, hw] at hsame
            rw [Except.error.inj hsame]

theorem argsContains (h : MatchAgree rt m n) :
    checkArgsContains rt m action = checkArgsContains rt n action :=
  h.whenGiven (k := .argsContains) (by decide) (by decide) fun v w hvw => by
    cases Json.dumps rt .default action.arguments.toValue with
    | error e => rfl
    | ok haystack => exact Value.OneJson.anyNeedle (Value.OneJson.ensureList hvw) haystack

theorem symm (h : MatchAgree rt m n) : MatchAgree rt n m := by
  intro key hk
  have hget := h key hk
  generalize m.get key = found at hget ⊢
  generalize n.get key = found' at hget ⊢
  cases hget with
  | none => exact .none
  | some hvw => exact .some hvw.symm

theorem deepEq_eq {v w : Value} (h : v.OneJson w) (cur : Value) (path : List PyStr) :
    deepEq cur path v = deepEq cur path w := by
  induction path generalizing cur with
  | nil => simp only [deepEq, h.pyEq]
  | cons part path ih => cases cur <;> simp only [deepEq, ih]

theorem args (h : MatchAgree rt m n) : checkArgs m action = checkArgs n action := by
  refine checkArgs_congr fun key hkey => ?_
  have hget := h key (by simp [parse_args hkey])
  rw [parse_args hkey] at hget
  generalize m.get key = found at hget ⊢
  generalize n.get key = found' at hget ⊢
  cases hget with
  | none => rfl
  | some hvw => exact congrArg some (deepEq_eq hvw _ _)

/-- **Rules whose dictionaries agree** match the same actions, and raise on the same. -/
theorem ruleMatches {rule rule' : PolicyRule} (h : MatchAgree rt rule.matchOn rule'.matchOn) :
    PolicyEngine.ruleMatches rt action identity factors rule =
      PolicyEngine.ruleMatches rt action identity factors rule' := by
  rw [PolicyEngine.ruleMatches_eq_checkAll, PolicyEngine.ruleMatches_eq_checkAll, matchChecks,
    matchChecks, h.actionType, h.actionTool, h.tier, h.didPrefix, h.factorCodeAny,
    h.factorCodeAll, h.minSeverity, h.args, h.argsContains]

end MatchAgree

/-! ### Entry by entry -/

/-- A rule with one entry in its match dictionary. -/
def entryRule (key : PyStr) (v : Value) : PolicyRule :=
  { id := [], effect := .deny, matchOn := PyDict.empty.set key v }

/-- Under this key the matcher does not tell the two values apart. -/
def SameEntry (rt : PyRuntime) (key : PyStr) (v w : Value) : Prop :=
  ∀ action identity factors,
    PolicyEngine.ruleMatches rt action identity factors (entryRule key v) =
      PolicyEngine.ruleMatches rt action identity factors (entryRule key w)

section Entries

variable (rt : PyRuntime) (action : Action) (identity : Option Identity)
  (factors : List RiskFactor) {m n : PyDict Value}

/-- The keys that are looked up, in the order of the matcher. -/
def matchKeys : List PyStr :=
  [py "action.type", py "action.tool", py "identity.tier", py "identity.did_prefix",
    py "risk.factor_code_any", py "risk.factor_code_all", py "risk.min_severity",
    py "args_contains"]

/-- The checks of these keys. -/
def keyChecks : List (PyStr × (PyDict Value → Result Bool)) :=
  [(py "action.type", fun m => checkActionType m action),
    (py "action.tool", fun m => checkActionTool m action),
    (py "identity.tier", fun m => checkTier m identity),
    (py "identity.did_prefix", fun m => checkDidPrefix rt m action),
    (py "risk.factor_code_any", fun m => checkFactorCodeAny m factors),
    (py "risk.factor_code_all", fun m => checkFactorCodeAll m factors),
    (py "risk.min_severity", fun m => checkMinSeverity m factors),
    (py "args_contains", fun m => checkArgsContains rt m action)]

/-- The loop over the `args.` entries stands before the last of them. -/
theorem matchChecks_eq (m : PyDict Value) : matchChecks rt m action identity factors =
    ((keyChecks rt action identity factors).take 7).map (fun c => c.2 m) ++ checkArgs m action ::
      ((keyChecks rt action identity factors).drop 7).map fun c => c.2 m := rfl

variable {rt action identity factors} {c : PyStr × (PyDict Value → Result Bool)}

theorem keyChecks_keys : (keyChecks rt action identity factors).map Prod.fst = matchKeys := rfl

theorem matchKeys_nodup : matchKeys.Nodup := by decide

theorem matchKeys_not_args : ∀ key ∈ matchKeys, key.startsWith (py "args.") = false := by decide

theorem mem_matchKeys (hc : c ∈ keyChecks rt action identity factors) : c.1 ∈ matchKeys :=
  keyChecks_keys ▸ List.mem_map_of_mem hc

/-- Each of them looks at the value under its key. -/
theorem keyChecks_whenGiven (hc : c ∈ keyChecks rt action identity factors) :
    ∃ test, ∀ m, c.2 m = whenGiven m c.1 test := by
  simp only [keyChecks, List.mem_cons, List.not_mem_nil, or_false] at hc
  rcases hc with rfl | rfl | rfl | rfl | rfl | rfl | rfl | rfl <;> exact ⟨_, fun _ => rfl⟩

theorem keyChecks_congr (hc : c ∈ keyChecks rt action identity factors)
    (h : m.get c.1 = n.get c.1) : c.2 m = c.2 n := by
  obtain ⟨test, htest⟩ := keyChecks_whenGiven hc
  simp only [htest, whenGiven, PyDict.getNonNull, h]

theorem keyChecks_not_given (hc : c ∈ keyChecks rt action identity factors)
    (h : m.get c.1 = none) : c.2 m = .ok true := by
  obtain ⟨test, htest⟩ := keyChecks_whenGiven hc
  simp [htest, whenGiven, PyDict.getNonNull, h]

theorem checkArgs_of_no_args (h : ∀ e ∈ m.entries, e.1.startsWith (py "args.") = false) :
    checkArgs m action = .ok true := by
  rw [checkArgs, Except.ok.injEq, List.all_eq_true]
  intro e he
  rw [h e he]
  rfl

/-- A chain of which all checks pass but one. -/
theorem checkAll_of_mem {r : Result Bool} {cs : List (Result Bool)} (hr : r ∈ cs)
    (h : ∀ c ∈ cs, c = .ok true ∨ c = r) : checkAll cs = r := by
  by_cases hpass : r = .ok true
  · rw [hpass, checkAll_eq_true]
    intro c hc
    exact (h c hc).elim id fun heq => heq.trans hpass
  · induction cs with
    | nil => cases hr
    | cons c cs ih =>
        rw [List.forall_mem_cons] at h
        rcases h.1 with rfl | rfl
        · rw [checkAll_pass]
          exact ih ((List.mem_cons.mp hr).resolve_left hpass) h.2
        · exact checkAll_stop hpass cs

theorem get_entryRule (key k : PyStr) (v : Value) :
    (entryRule key v).matchOn.get k = if k = key then some v else none := by
  by_cases hk : k = key
  · simp [entryRule, PyDict.get, PyDict.set, PyDict.setEntries, PyDict.empty, hk]
  · simp [entryRule, PyDict.get, PyDict.set, PyDict.setEntries, PyDict.empty, List.lookup_cons,
      beq_false_of_ne hk, hk]

theorem entries_entryRule (key : PyStr) (v : Value) :
    (entryRule key v).matchOn.entries = [(key, v)] := rfl

/-- The checks of other keys let a rule with one entry pass. -/
theorem keyChecks_other {key : PyStr} (hc : c ∈ keyChecks rt action identity factors)
    (hne : c.1 ≠ key) (v : Value) : c.2 (entryRule key v).matchOn = .ok true :=
  keyChecks_not_given hc (by rw [get_entryRule, if_neg hne])

/-- A rule with one entry is decided by the check of its key. -/
theorem ruleMatches_entryRule (hc : c ∈ keyChecks rt action identity factors) (v : Value) :
    PolicyEngine.ruleMatches rt action identity factors (entryRule c.1 v) =
      c.2 (entryRule c.1 v).matchOn := by
  have hkeys : ((keyChecks rt action identity factors).map Prod.fst).Nodup := matchKeys_nodup
  rw [PolicyEngine.ruleMatches_eq_checkAll, matchChecks_eq]
  refine checkAll_of_mem ?_ fun r hr => ?_
  · rw [List.mem_append, List.mem_cons]
    rw [← List.take_append_drop 7 (keyChecks rt action identity factors), List.mem_append] at hc
    rcases hc with hc | hc
    · exact Or.inl (List.mem_map_of_mem hc)
    · exact Or.inr (Or.inr (List.mem_map_of_mem hc))
  · have hother {d : PyStr × (PyDict Value → Result Bool)}
        (hd : d ∈ keyChecks rt action identity factors) :
        d.2 (entryRule c.1 v).matchOn = .ok true ∨
          d.2 (entryRule c.1 v).matchOn = c.2 (entryRule c.1 v).matchOn := by
      by_cases hkey : d.1 = c.1
      · obtain rfl := List.inj_on_of_nodup_map hkeys hd hc hkey
        exact Or.inr rfl
      · exact Or.inl (keyChecks_other hd hkey v)
    rcases List.mem_append.mp hr with hr | hr
    · obtain ⟨d, hd, rfl⟩ := List.mem_map.mp hr
      exact hother (List.mem_of_mem_take hd)
    · rcases List.mem_cons.mp hr with rfl | hr
      · left
        refine checkArgs_of_no_args fun e he => ?_
        rw [entries_entryRule, List.mem_singleton] at he
        exact he ▸ matchKeys_not_args _ (mem_matchKeys hc)
      · obtain ⟨d, hd, rfl⟩ := List.mem_map.mp hr
        exact hother (List.mem_of_mem_drop hd)

/-- The entry of an `args.` key is decided by the loop over the entries. -/
theorem ruleMatches_args {key : PyStr} (hkey : key.startsWith (py "args.") = true) (v : Value) :
    PolicyEngine.ruleMatches rt action identity factors (entryRule key v) =
      .ok (deepEq action.arguments.toValue (argsPath key) v) := by
  have hargs : checkArgs (entryRule key v).matchOn action =
      .ok (deepEq action.arguments.toValue (argsPath key) v) := by
    simp [checkArgs, entries_entryRule, hkey]
  rw [PolicyEngine.ruleMatches_eq_checkAll, matchChecks_eq, ← hargs]
  refine checkAll_of_mem (by simp) fun r hr => ?_
  have hother {d : PyStr × (PyDict Value → Result Bool)}
      (hd : d ∈ keyChecks rt action identity factors) :
      d.2 (entryRule key v).matchOn = .ok true := by
    refine keyChecks_other hd (fun heq => ?_) v
    have hno := matchKeys_not_args _ (mem_matchKeys hd)
    rw [heq, hkey] at hno
    cases hno
  rcases List.mem_append.mp hr with hr | hr
  · obtain ⟨d, hd, rfl⟩ := List.mem_map.mp hr
    exact Or.inl (hother (List.mem_of_mem_take hd))
  · rcases List.mem_cons.mp hr with rfl | hr
    · exact Or.inr rfl
    · obtain ⟨d, hd, rfl⟩ := List.mem_map.mp hr
      exact Or.inl (hother (List.mem_of_mem_drop hd))

/-- **Entry by entry.** Dictionaries with values under each key that are not told apart match
the same actions, and raise on the same. -/
theorem ruleMatches_of_entries {rule rule' : PolicyRule}
    (h : ∀ key, Option.Rel (SameEntry rt key) (rule.matchOn.get key) (rule'.matchOn.get key)) :
    PolicyEngine.ruleMatches rt action identity factors rule =
      PolicyEngine.ruleMatches rt action identity factors rule' := by
  have hkeys : ∀ c ∈ keyChecks rt action identity factors,
      c.2 rule.matchOn = c.2 rule'.matchOn := by
    intro c hc
    have hget := h c.1
    generalize hv : rule.matchOn.get c.1 = found at hget
    generalize hw : rule'.matchOn.get c.1 = found' at hget
    cases hget with
    | none => exact keyChecks_congr hc (hv.trans hw.symm)
    | @some v w hvw =>
        have hentry := hvw action identity factors
        rw [ruleMatches_entryRule hc, ruleMatches_entryRule hc] at hentry
        rw [keyChecks_congr hc (hv.trans (by rw [get_entryRule, if_pos rfl])), hentry,
          keyChecks_congr hc (hw.trans (by rw [get_entryRule, if_pos rfl]))]
  have hargs : checkArgs rule.matchOn action = checkArgs rule'.matchOn action := by
    refine checkArgs_congr fun key hkey => ?_
    have hget := h key
    generalize rule.matchOn.get key = found at hget ⊢
    generalize rule'.matchOn.get key = found' at hget ⊢
    cases hget with
    | none => rfl
    | some hvw =>
        have hentry := hvw action identity factors
        rw [ruleMatches_args hkey, ruleMatches_args hkey] at hentry
        exact congrArg some (Except.ok.inj hentry)
  rw [PolicyEngine.ruleMatches_eq_checkAll, PolicyEngine.ruleMatches_eq_checkAll, matchChecks_eq,
    matchChecks_eq, hargs, List.map_congr_left fun c hc => hkeys c (List.mem_of_mem_take hc),
    List.map_congr_left fun c hc => hkeys c (List.mem_of_mem_drop hc)]

end Entries

/-! ### Bundles with the same meaning -/

/-- The names of the rules that matched, and their effects. -/
def matchNames (ms : List RuleMatch) : List (PyStr × RuleEffect) :=
  ms.map fun m => (m.rule.id, m.effect)

/-- What `evaluate` says of an action. -/
def PolicyEngine.outcome (rt : PyRuntime) (engine : PolicyEngine) (action : Action)
    (identity : Option Identity) (factors : List RiskFactor) :
    Result (List (PyStr × RuleEffect)) :=
  (engine.evaluate rt action identity factors).map matchNames

/-- The rules differ at most in a match dictionary that the matcher does not tell from the
other, or does not look at. -/
structure RuleAgree (rt : PyRuntime) (rule rule' : PolicyRule) : Prop where
  id : rule.id = rule'.id
  effect : rule.effect = rule'.effect
  priority : rule.priority = rule'.priority
  enabled : rule.enabled = rule'.enabled
  matchOn : rule.enabled = true → MatchAgree rt rule.matchOn rule'.matchOn

/-- The rules differ at most in what does not matter for this action. -/
structure RuleAlike (rt : PyRuntime) (action : Action) (identity : Option Identity)
    (factors : List RiskFactor) (rule rule' : PolicyRule) : Prop where
  id : rule.id = rule'.id
  effect : rule.effect = rule'.effect
  priority : rule.priority = rule'.priority
  enabled : rule.enabled = rule'.enabled
  hits : rule.enabled = true → PolicyEngine.ruleMatches rt action identity factors rule =
    PolicyEngine.ruleMatches rt action identity factors rule'

section Bundles

variable {rt : PyRuntime} {action : Action} {identity : Option Identity}
  {factors : List RiskFactor}

theorem RuleAgree.alike {rule rule' : PolicyRule} (h : RuleAgree rt rule rule') :
    RuleAlike rt action identity factors rule rule' where
  id := h.id
  effect := h.effect
  priority := h.priority
  enabled := h.enabled
  hits henabled := (h.matchOn henabled).ruleMatches

theorem byPriority_alike {bundle bundle' : PolicyBundle}
    (h : List.Forall₂ (RuleAlike rt action identity factors) bundle.rules bundle'.rules) :
    List.Forall₂ (RuleAlike rt action identity factors) bundle.byPriority bundle'.byPriority := by
  refine forall₂_insertionSort (fun h h' => ?_) (List.rel_filter (fun rule rule' h => ?_) h)
  · rw [PolicyBundle.priorityLe, PolicyBundle.priorityLe, h.priority, h'.priority]
  · exact iff_of_eq (congrArg (· = true) h.enabled)

/-- The loop puts the name of the first rule before those of the others, if it matches. -/
theorem matchNames_cons (rule : PolicyRule) (rules : List PolicyRule) :
    (PolicyEngine.matchRules rt action identity factors (rule :: rules)).map matchNames =
      (PolicyEngine.ruleMatches rt action identity factors rule).bind fun hit =>
        ((PolicyEngine.matchRules rt action identity factors rules).map matchNames).map
          fun names => if hit then (rule.id, rule.effect) :: names else names := by
  rw [PolicyEngine.matchRules]
  cases PolicyEngine.ruleMatches rt action identity factors rule with
  | error e => rfl
  | ok hit =>
      cases PolicyEngine.matchRules rt action identity factors rules with
      | error e => rfl
      | ok rest => cases hit <;> rfl

theorem matchRules_alike {rules rules' : List PolicyRule}
    (h : List.Forall₂ (RuleAlike rt action identity factors) rules rules')
    (henabled : ∀ rule ∈ rules, rule.enabled = true) :
    (PolicyEngine.matchRules rt action identity factors rules).map matchNames =
      (PolicyEngine.matchRules rt action identity factors rules').map matchNames := by
  induction h with
  | nil => rfl
  | @cons rule rule' rules rules' hhead _ ih =>
      rw [List.forall_mem_cons] at henabled
      rw [matchNames_cons, matchNames_cons, ih henabled.2, hhead.hits henabled.1, hhead.id,
        hhead.effect]

/-- Bundles whose rules are alike for an action say the same of it. -/
theorem outcome_alike {engine engine' : PolicyEngine}
    (h : List.Forall₂ (RuleAlike rt action identity factors) engine.bundle.rules
      engine'.bundle.rules) :
    engine.outcome rt action identity factors = engine'.outcome rt action identity factors :=
  matchRules_alike (byPriority_alike h) fun _ hrule => (PolicyBundle.mem_byPriority.mp hrule).2

/-- **Bundles whose rules agree** say the same of every action. -/
theorem outcome_agree {engine engine' : PolicyEngine}
    (h : List.Forall₂ (RuleAgree rt) engine.bundle.rules engine'.bundle.rules) :
    engine.outcome rt action identity factors = engine'.outcome rt action identity factors :=
  outcome_alike (h.imp fun _ _ h => h.alike)

end Bundles

end AgentSentinel
