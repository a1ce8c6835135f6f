import AgentSentinel.Core.PolicyEngine

/-!
# AgentSentinel.Core.MatchLanguage

The documented match language, and how far the matcher implements it.

`MatchKey` is the vocabulary of the language and `Satisfied` the meaning of one
entry; a rule is meant to match when all its entries are satisfied. The matcher
agrees with this entry by entry except on two kinds, both named here on the
entry alone: entries it ignores (`Ignored`: a key outside the vocabulary, a
`None`, a NaN threshold), which are not satisfied but do not stop the match, and
entries it raises on although they are satisfied (`Crashes`).
-/

namespace AgentSentinel

/-- The keys of the match language. -/
inductive MatchKey
  | actionType
  | actionTool
  | identityTier
  | didPrefix
  | factorCodeAny
  | factorCodeAll
  | minSeverity
  | args (path : List PyStr)
  | argsContains
  | unknown
  deriving DecidableEq

/-- Read a key of a match dictionary. -/
def MatchKey.parse (key : PyStr) : MatchKey :=
  if key = py "action.type" then actionType
  else if key = py "action.tool" then actionTool
  else if key = py "identity.tier" then identityTier
  else if key = py "identity.did_prefix" then didPrefix
  else if key = py "risk.factor_code_any" then factorCodeAny
  else if key = py "risk.factor_code_all" then factorCodeAll
  else if key = py "risk.min_severity" then minSeverity
  else if key = py "args_contains" then argsContains
  else if key.startsWith (py "args.") then args (argsPath key)
  else unknown

section Meaning

variable (rt : PyRuntime) (action : Action) (identity : Option Identity)
  (factors : List RiskFactor)

/-- The documented meaning of an entry with the given key and expected value. -/
def Satisfied : MatchKey → Value → Prop
  | .actionType, v => (Value.str action.type.value).pyEq v = true
  | .actionTool, .list vs => ∃ v ∈ vs, action.toolValue.pyEq v = true
  | .actionTool, v => action.toolValue.pyEq v = true
  | .identityTier, v => ∃ i, identity = some i ∧ (Value.str i.tier.value).pyEq v = true
  | .didPrefix, v => v ≠ .none ∧ ∃ s, v.toStr rt = .ok s ∧ s <+: action.agentDid
  | .factorCodeAny, v => ∃ w ∈ ensureList v, ∃ f ∈ factors, w.pyEq (.str f.code) = true
  | .factorCodeAll, v => ∀ w ∈ ensureList v, ∃ f ∈ factors, w.pyEq (.str f.code) = true
  | .minSeverity, v =>
    ∃ x, v.toFloat = .ok x ∧ x.le (.finite (topSeverity factors)) = true
  | .args path, v => ∃ w, action.arguments.toValue.atPath path = some w ∧ w.pyEq v = true
  | .argsContains, v =>
    ∃ haystack, Json.dumps rt .default action.arguments.toValue = .ok haystack ∧
      ∃ s, .str s ∈ ensureList v ∧ s <:+: haystack
  | .unknown, _ => False

/-- The entries the matcher does not look at, or looks at to no effect. A `None`
tool entry is no exception to the others but where it names what a toolless
action has. -/
def Ignored : MatchKey → Value → Prop
  | .unknown, _ => True
  | .args _, _ => False
  | .actionTool, v => v = .none ∧ action.tool ≠ none
  | .minSeverity, v => v = .none ∨ ∃ i, v.toFloat = .ok (.nan i)
  | _, v => v = .none

/-- The satisfied entries the matcher raises on: a list of codes with a value
that has no hash beside one that is present, and a list of needles with a value
that is no string before the first one found. -/
def Crashes : MatchKey → Value → Prop
  | .factorCodeAny, v =>
    Satisfied rt action identity factors .factorCodeAny v ∧
      ∃ w ∈ ensureList v, w.hashable = false
  | .argsContains, v =>
    Satisfied rt action identity factors .argsContains v ∧
      ∃ haystack, Json.dumps rt .default action.arguments.toValue = .ok haystack ∧
        Raised (anyNeedle haystack (ensureList v))
  | _, _ => False

/-- What the matcher asks of an entry. -/
def Passes (k : MatchKey) (v : Value) : Prop :=
  Ignored action k v ∨
    (Satisfied rt action identity factors k v ∧ ¬ Crashes rt action identity factors k v)

end Meaning

variable {rt : PyRuntime} {action : Action} {identity : Option Identity}
  {factors : List RiskFactor}

/-! ### The tests of the matcher, one key at a time -/

theorem toolValue_eq_none_iff : action.toolValue = .none ↔ action.tool = none := by
  unfold Action.toolValue
  cases action.tool <;> simp

theorem codePresent_iff {w : Value} :
    codePresent factors w = true ↔ ∃ f ∈ factors, w.pyEq (.str f.code) = true := by
  simp [codePresent]

/-- A code that is present is a string, so it has a hash. -/
theorem hashable_of_codePresent {w : Value} (h : codePresent factors w = true) :
    w.hashable = true := by
  obtain ⟨f, -, hf⟩ := codePresent_iff.mp h
  rw [Value.pyEq_str_right hf]
  rfl

theorem setOf_eq_ok {xs ys : List Value} : setOf xs = .ok ys ↔ xs.all Value.hashable ∧ xs = ys := by
  unfold setOf
  split <;> simp_all

theorem deepEq_iff {v : Value} {path : List PyStr} {expected : Value} :
    deepEq v path expected = true ↔
      ∃ w, v.atPath path = some w ∧ w.pyEq expected = true := by
  induction path generalizing v with
  | nil => simp [deepEq, Value.atPath]
  | cons part path ih =>
      cases v with
      | dict es =>
          simp only [deepEq, Value.atPath]
          cases Value.lookupStr es part with
          | none => simp
          | some w => simp [ih]
      | _ => simp [deepEq, Value.atPath]

/-- The search for a needle finds a string that occurs. -/
theorem anyNeedle_eq_true {haystack : PyStr} {needles : List Value}
    (h : anyNeedle haystack needles = .ok true) :
    ∃ s, .str s ∈ needles ∧ s <:+: haystack := by
  induction needles with
  | nil => simp [anyNeedle] at h
  | cons v needles ih =>
      cases v with
      | str s =>
          simp only [anyNeedle] at h
          by_cases hs : haystack.contains s = true
          · exact ⟨s, List.mem_cons_self, PyStr.contains_iff.mp hs⟩
          · rw [if_neg hs] at h
            obtain ⟨t, hmem, ht⟩ := ih h
            exact ⟨t, List.mem_cons_of_mem _ hmem, ht⟩
      | _ => simp [anyNeedle] at h

/-- A search that returns `False` has tried every needle. -/
theorem anyNeedle_eq_false {haystack : PyStr} {needles : List Value}
    (h : anyNeedle haystack needles = .ok false) {s : PyStr} (hs : .str s ∈ needles) :
    ¬ s <:+: haystack := by
  induction needles with
  | nil => cases hs
  | cons v needles ih =>
      cases v with
      | str t =>
          simp only [anyNeedle] at h
          by_cases ht : haystack.contains t = true
          · rw [if_pos ht] at h
            simp at h
          · rw [if_neg ht] at h
            rcases List.mem_cons.mp hs with heq | hmem
            · obtain rfl := Value.str.inj heq
              rwa [PyStr.contains_iff] at ht
            · exact ih h hmem
      | _ => simp [anyNeedle] at h

/-! ### Each test passes exactly the entries it should -/

theorem actionType_test_iff {v : Value} :
    (v ≠ .none → (Except.ok ((Value.str action.type.value).pyEq v) : Result Bool) = .ok true) ↔
      Passes rt action identity factors .actionType v := by
  simp only [Passes, Ignored, Satisfied, Crashes, not_false_eq_true, and_true, Except.ok.injEq]
  tauto

theorem actionTool_test_iff {v : Value} :
    (v ≠ .none → (match v with
      | .list vals => .ok (vals.any action.toolValue.pyEq)
      | val => .ok (action.toolValue.pyEq val) : Result Bool) = .ok true) ↔
      Passes rt action identity factors .actionTool v := by
  cases v with
  | none =>
      simp only [Passes, Ignored, Satisfied, Crashes, Value.pyEq_none_right,
        toolValue_eq_none_iff]
      tauto
  | list vs => simp [Passes, Ignored, Satisfied, Crashes]
  | _ => simp [Passes, Ignored, Satisfied, Crashes]

theorem identityTier_test_iff {v : Value} :
    (v ≠ .none → (match identity with
      | none => .ok false
      | some i => .ok ((Value.str i.tier.value).pyEq v) : Result Bool) = .ok true) ↔
      Passes rt action identity factors .identityTier v := by
  cases identity with
  | none => simp [Passes, Ignored, Satisfied, Crashes]
  | some i =>
      simp only [Passes, Ignored, Satisfied, Crashes, Option.some.injEq, exists_eq_left',
        not_false_eq_true, and_true, Except.ok.injEq]
      tauto

theorem didPrefix_test_iff {v : Value} :
    (v ≠ .none → (v.toStr rt).map action.agentDid.startsWith = .ok true) ↔
      Passes rt action identity factors .didPrefix v := by
  simp only [Passes, Ignored, Satisfied, Crashes, not_false_eq_true, and_true]
  cases hs : v.toStr rt with
  | error e =>
      simp only [Except.map, reduceCtorEq, false_and, exists_false, and_false, or_false]
      tauto
  | ok s =>
      simp only [Except.map, Except.ok.injEq, PyStr.startsWith_iff, exists_eq_left']
      tauto

theorem factorCodeAny_test_iff {v : Value} :
    (v ≠ .none → (setOf (ensureList v)).map (fun wanted => wanted.any (codePresent factors)) =
      .ok true) ↔ Passes rt action identity factors .factorCodeAny v := by
  have hsat : Satisfied rt action identity factors .factorCodeAny v ↔
      (ensureList v).any (codePresent factors) = true := by
    simp [Satisfied, codePresent]
  simp only [Passes, Ignored, Crashes]
  by_cases hall : (ensureList v).all Value.hashable = true
  · rw [setOf_eq_ok.mpr ⟨hall, rfl⟩]
    have hno : ¬ ∃ w ∈ ensureList v, w.hashable = false := by
      intro h
      obtain ⟨w, hw, hfalse⟩ := h
      have := List.all_eq_true.mp hall w hw
      simp [hfalse] at this
    simp only [Except.map, Except.ok.injEq, hsat, hno, and_false, not_false_eq_true, and_true]
    tauto
  -- Building the set raises first, even if one of the other codes is present.
  · have hyes : ∃ w ∈ ensureList v, w.hashable = false := by simpa using hall
    simp only [setOf, if_neg hall, Except.map, reduceCtorEq, hyes, and_true, and_not_self_iff,
      or_false]
    tauto

theorem factorCodeAll_test_iff {v : Value} :
    (v ≠ .none → (setOf (ensureList v)).map (fun wanted => wanted.all (codePresent factors)) =
      .ok true) ↔ Passes rt action identity factors .factorCodeAll v := by
  have hsat : Satisfied rt action identity factors .factorCodeAll v ↔
      (ensureList v).all (codePresent factors) = true := by
    simp [Satisfied, codePresent]
  simp only [Passes, Ignored, Crashes, not_false_eq_true, and_true, hsat]
  by_cases hall : (ensureList v).all Value.hashable = true
  · rw [setOf_eq_ok.mpr ⟨hall, rfl⟩]
    simp only [Except.map, Except.ok.injEq]
    tauto
  -- A value without a hash is no code, so the entry is not satisfied either.
  · have hunsat : ¬ (ensureList v).all (codePresent factors) = true := by
      intro hpresent
      refine hall (List.all_eq_true.mpr fun w hw => ?_)
      exact hashable_of_codePresent (List.all_eq_true.mp hpresent w hw)
    simp only [setOf, if_neg hall, Except.map, reduceCtorEq, hunsat, or_false]
    tauto

theorem minSeverity_test_iff {v : Value} :
    (v ≠ .none → (match v.toFloat with
      | .ok threshold => .ok (!(PyFloat.finite (topSeverity factors)).lt threshold)
      | .error e => if e.kind = .typeError ∨ e.kind = .valueError then .ok false else .error e :
        Result Bool) = .ok true) ↔ Passes rt action identity factors .minSeverity v := by
  simp only [Passes, Ignored, Satisfied, Crashes, not_false_eq_true, and_true]
  cases hx : v.toFloat with
  | error e =>
      have hstop : ((if e.kind = .typeError ∨ e.kind = .valueError then .ok false
          else .error e : Result Bool) = .ok true) ↔ False := by
        split <;> simp
      simp only [hstop, reduceCtorEq, false_and, exists_false, or_false]
      tauto
  | ok x =>
      by_cases hnan : ∃ i, x = .nan i
      · obtain ⟨i, rfl⟩ := hnan
        simp
      · simp only [Except.ok.injEq, exists_eq_left', PyFloat.le_finite_eq (not_exists.mp hnan),
          hnan, or_false]
        tauto

variable (rt identity factors) in
theorem args_test_iff {path : List PyStr} {v : Value} :
    deepEq action.arguments.toValue path v = true ↔
      Passes rt action identity factors (.args path) v := by
  simp [Passes, Ignored, Satisfied, Crashes, deepEq_iff]

theorem argsContains_test_iff {v : Value} :
    (v ≠ .none → (match Json.dumps rt .default action.arguments.toValue with
      | .error e => .error e
      | .ok haystack => anyNeedle haystack (ensureList v) : Result Bool) = .ok true) ↔
      Passes rt action identity factors .argsContains v := by
  simp only [Passes, Ignored, Crashes]
  cases hdump : Json.dumps rt .default action.arguments.toValue with
  | error e =>
      simp only [Satisfied, hdump, reduceCtorEq, false_and, exists_false, or_false]
      tauto
  | ok haystack =>
      simp only [Except.ok.injEq, exists_eq_left']
      cases hfind : anyNeedle haystack (ensureList v) with
      | error e =>
          simp only [reduceCtorEq, Raised, Except.error.injEq, exists_eq', and_true,
            and_not_self_iff, or_false]
          tauto
      | ok found =>
          have hsat : Satisfied rt action identity factors .argsContains v ↔ found = true := by
            simp only [Satisfied, hdump, Except.ok.injEq, exists_eq_left']
            cases found with
            | true => simpa using anyNeedle_eq_true hfind
            | false =>
                simp only [Bool.false_eq_true, iff_false, not_exists, not_and]
                exact fun s hs => anyNeedle_eq_false hfind hs
          simp only [Raised, reduceCtorEq, exists_false, and_false, not_false_eq_true, and_true,
            Except.ok.injEq, hsat]
          tauto

/-! ### The matcher as a conjunction over the entries -/

/-- An `args.` key is none of the other keys. -/
theorem parse_args {key : PyStr} (h : key.startsWith (py "args.") = true) :
    MatchKey.parse key = .args (argsPath key) := by
  have hne {lit : PyStr} (hlit : lit.startsWith (py "args.") = false) : key ≠ lit := by
    intro heq
    subst heq
    simp [h] at hlit
  unfold MatchKey.parse
  rw [if_neg (hne (by decide)), if_neg (hne (by decide)), if_neg (hne (by decide)),
    if_neg (hne (by decide)), if_neg (hne (by decide)), if_neg (hne (by decide)),
    if_neg (hne (by decide)), if_neg (hne (by decide)), if_pos h]

variable (rt identity factors) in
theorem checkArgs_eq_true {m : PyDict Value} :
    checkArgs m action = .ok true ↔ ∀ e ∈ m.entries, e.1.startsWith (py "args.") = true →
      Passes rt action identity factors (.args (argsPath e.1)) e.2 := by
  simp only [checkArgs, Except.ok.injEq, List.all_eq_true, Bool.or_eq_true, Bool.not_eq_true',
    args_test_iff rt identity factors]
  refine forall₂_congr fun e _ => ?_
  cases e.1.startsWith (py "args.") <;> simp

/-- The matcher returns `True` exactly when every entry passes its test. -/
theorem ruleMatches_eq_true {rule : PolicyRule} :
    PolicyEngine.ruleMatches rt action identity factors rule = .ok true ↔
      ∀ e ∈ rule.matchOn.entries,
        Passes rt action identity factors (MatchKey.parse e.1) e.2 := by
  rw [PolicyEngine.ruleMatches_eq_checkAll, checkAll_eq_true]
  simp only [matchChecks, List.forall_mem_cons, List.not_mem_nil, false_imp_iff, implies_true,
    and_true, checkActionType, checkActionTool, checkTier, checkDidPrefix, checkFactorCodeAny,
    checkFactorCodeAll, checkMinSeverity, checkArgsContains, whenGiven_eq_true,
    checkArgs_eq_true rt identity factors]
  constructor
  · intro hchecks e hmem
    obtain ⟨htype, htool, htier, hdid, hany, hall, hmin, hargs, hcontains⟩ := hchecks
    obtain ⟨key, v⟩ := e
    -- One branch after the other: `split` would go through all that follow each time.
    have hbranch {p : Prop} [Decidable p] {k k' : MatchKey}
        (hk : p → Passes rt action identity factors k v)
        (hk' : Passes rt action identity factors k' v) :
        Passes rt action identity factors (if p then k else k') v :=
      iteInduction (motive := fun k => Passes rt action identity factors k v) hk fun _ => hk'
    exact hbranch (fun h => actionType_test_iff.mp (htype v (h ▸ hmem)))
      (hbranch (fun h => actionTool_test_iff.mp (htool v (h ▸ hmem)))
      (hbranch (fun h => identityTier_test_iff.mp (htier v (h ▸ hmem)))
      (hbranch (fun h => didPrefix_test_iff.mp (hdid v (h ▸ hmem)))
      (hbranch (fun h => factorCodeAny_test_iff.mp (hany v (h ▸ hmem)))
      (hbranch (fun h => factorCodeAll_test_iff.mp (hall v (h ▸ hmem)))
      (hbranch (fun h => minSeverity_test_iff.mp (hmin v (h ▸ hmem)))
      (hbranch (fun h => argsContains_test_iff.mp (hcontains v (h ▸ hmem)))
      (hbranch (fun h => hargs _ hmem h) (Or.inl trivial)))))))))
  · intro hpass
    have hat {key : PyStr} {k : MatchKey} (v : Value) (hmem : (key, v) ∈ rule.matchOn.entries)
        (hk : MatchKey.parse key = k := by decide) :
        Passes rt action identity factors k v := hk ▸ hpass _ hmem
    exact ⟨fun v hmem => actionType_test_iff.mpr (hat v hmem),
      fun v hmem => actionTool_test_iff.mpr (hat v hmem),
      fun v hmem => identityTier_test_iff.mpr (hat v hmem),
      fun v hmem => didPrefix_test_iff.mpr (hat v hmem),
      fun v hmem => factorCodeAny_test_iff.mpr (hat v hmem),
      fun v hmem => factorCodeAll_test_iff.mpr (hat v hmem),
      fun v hmem => minSeverity_test_iff.mpr (hat v hmem),
      fun e hmem hstart => hat e.2 hmem (parse_args hstart),
      fun v hmem => argsContains_test_iff.mpr (hat v hmem)⟩

/-! ### Agreement with the documented meaning -/

/-- An ignored entry is not satisfied. -/
theorem not_satisfied_of_ignored {k : MatchKey} {v : Value} (h : Ignored action k v) :
    ¬ Satisfied rt action identity factors k v := by
  cases k with
  | actionType =>
      obtain rfl : v = .none := h
      simp [Satisfied, Value.pyEq, Value.number?]
  | actionTool =>
      obtain ⟨rfl, htool⟩ : v = .none ∧ action.tool ≠ none := h
      rwa [Satisfied, Value.pyEq_none_right, toolValue_eq_none_iff]
      exact fun _ => Value.noConfusion
  | identityTier =>
      obtain rfl : v = .none := h
      simp [Satisfied, Value.pyEq, Value.number?]
  | didPrefix =>
      obtain rfl : v = .none := h
      simp [Satisfied]
  | factorCodeAny =>
      obtain rfl : v = .none := h
      simp [Satisfied, ensureList, Value.pyEq, Value.number?]
  | factorCodeAll =>
      obtain rfl : v = .none := h
      simp [Satisfied, ensureList, Value.pyEq, Value.number?]
  | minSeverity =>
      intro hsat
      obtain ⟨x, hx, hle⟩ := hsat
      rcases h with rfl | ⟨i, hnan⟩
      · simp [Value.toFloat] at hx
      · obtain rfl := Except.ok.inj (hnan.symm.trans hx)
        simp at hle
  | args path => exact absurd h id
  | argsContains =>
      obtain rfl : v = .none := h
      simp [Satisfied, ensureList]
  | unknown => exact id

theorem satisfied_of_crashes {k : MatchKey} {v : Value}
    (h : Crashes rt action identity factors k v) : Satisfied rt action identity factors k v := by
  cases k with
  | factorCodeAny => exact h.1
  | argsContains => exact h.1
  | _ => exact absurd h id

/-- **Where the matcher implements the match language.** It returns `True` for
exactly the rules all of whose entries are satisfied, if and only if some entry
it does look at is not satisfied, or the rule has an ignored entry just when it
has one the matcher raises on (so, in particular, when it has neither). -/
theorem ruleMatches_documented_iff {rule : PolicyRule} :
    (PolicyEngine.ruleMatches rt action identity factors rule = .ok true ↔
      ∀ e ∈ rule.matchOn.entries,
        Satisfied rt action identity factors (MatchKey.parse e.1) e.2) ↔
      (∃ e ∈ rule.matchOn.entries, ¬ Ignored action (MatchKey.parse e.1) e.2 ∧
        ¬ Satisfied rt action identity factors (MatchKey.parse e.1) e.2) ∨
      ((∃ e ∈ rule.matchOn.entries, Ignored action (MatchKey.parse e.1) e.2) ↔
        ∃ e ∈ rule.matchOn.entries,
          Crashes rt action identity factors (MatchKey.parse e.1) e.2) := by
  rw [ruleMatches_eq_true]
  by_cases hbad : ∃ e ∈ rule.matchOn.entries, ¬ Ignored action (MatchKey.parse e.1) e.2 ∧
      ¬ Satisfied rt action identity factors (MatchKey.parse e.1) e.2
  -- An entry that fails its test stops the matcher and the conjunction alike.
  · obtain ⟨e, hmem, hig, hsat⟩ := hbad
    have hcode : ¬ ∀ e ∈ rule.matchOn.entries,
        Passes rt action identity factors (MatchKey.parse e.1) e.2 := by
      intro hall
      rcases hall e hmem with h | h
      · exact hig h
      · exact hsat h.1
    have hdoc : ¬ ∀ e ∈ rule.matchOn.entries,
        Satisfied rt action identity factors (MatchKey.parse e.1) e.2 :=
      fun hall => hsat (hall e hmem)
    exact iff_of_true (iff_of_false hcode hdoc) (Or.inl ⟨e, hmem, hig, hsat⟩)
  -- Otherwise the matcher asks that no entry crashes and the documentation that none is ignored.
  · have hcover : ∀ e ∈ rule.matchOn.entries, Ignored action (MatchKey.parse e.1) e.2 ∨
        Satisfied rt action identity factors (MatchKey.parse e.1) e.2 := by
      intro e hmem
      by_contra hno
      exact hbad ⟨e, hmem, fun h => hno (Or.inl h), fun h => hno (Or.inr h)⟩
    have hcode : (∀ e ∈ rule.matchOn.entries,
        Passes rt action identity factors (MatchKey.parse e.1) e.2) ↔
        ¬ ∃ e ∈ rule.matchOn.entries,
          Crashes rt action identity factors (MatchKey.parse e.1) e.2 := by
      constructor
      · intro hall hcrashes
        obtain ⟨e, hmem, hcr⟩ := hcrashes
        rcases hall e hmem with h | h
        · exact not_satisfied_of_ignored h (satisfied_of_crashes hcr)
        · exact h.2 hcr
      · intro hno e hmem
        exact (hcover e hmem).imp id fun h => ⟨h, fun hcr => hno ⟨e, hmem, hcr⟩⟩
    have hdoc : (∀ e ∈ rule.matchOn.entries,
        Satisfied rt action identity factors (MatchKey.parse e.1) e.2) ↔
        ¬ ∃ e ∈ rule.matchOn.entries, Ignored action (MatchKey.parse e.1) e.2 := by
      constructor
      · intro hall hignored
        obtain ⟨e, hmem, hig⟩ := hignored
        exact not_satisfied_of_ignored hig (hall e hmem)
      · intro hno e hmem
        exact (hcover e hmem).resolve_left fun h => hno ⟨e, hmem, h⟩
    rw [hcode, hdoc, or_iff_right hbad, not_iff_not]
    exact Iff.comm

/-- A shipped rule whose only key the matcher does not know matches every action;
here it denies one that nothing is wrong with. -/
theorem unknown_key_matches :
    ¬ (PolicyEngine.ruleMatches default default (some default) []
        { id := py "supply-chain-unverified-bundle", effect := .deny,
          matchOn := ⟨[(py "runtime.bundle_signature_valid", .bool false)], by decide⟩ } =
          .ok true ↔
      ∀ e ∈ [(py "runtime.bundle_signature_valid", Value.bool false)],
        Satisfied default default (some default) [] (MatchKey.parse e.1) e.2) := by
  intro h
  have hkey : MatchKey.parse (py "runtime.bundle_signature_valid") = .unknown := by decide
  have hall := h.mp (by decide)
  have hentry := hall _ List.mem_cons_self
  rw [hkey] at hentry
  exact hentry

/-! ### An identity matches more rules -/

/-- A rule that matches without an identity matches with any identity: only the tier
is read from it, and no entry is satisfied by its absence. -/
theorem ruleMatches_of_none {i : Identity} {rule : PolicyRule}
    (h : PolicyEngine.ruleMatches rt action none factors rule = .ok true) :
    PolicyEngine.ruleMatches rt action (some i) factors rule = .ok true := by
  rw [ruleMatches_eq_true] at h ⊢
  intro e hmem
  refine (h e hmem).imp id ?_
  generalize MatchKey.parse e.1 = k
  cases k with
  | identityTier =>
      intro hsat
      obtain ⟨⟨j, hj, -⟩, -⟩ := hsat
      cases hj
  | actionTool =>
      cases e.2 <;> exact id
  | _ => exact id

end AgentSentinel
