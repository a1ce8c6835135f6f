import AgentSentinel.Models.Identity
import AgentSentinel.Models.Policy
import AgentSentinel.Python.Json

/-!
# AgentSentinel.Core.PolicyEngine

The policy engine: a rule matcher and a loop over the enabled rules of the
bundle in priority order.

The matcher is a chain of independent early exits. Each looks its own key up in
the rule's match dictionary and lets the rule through when the key is missing or
its value is `None` (`whenGiven`). Here every exit is one check and the chain is
`checkAll`, so that "the matcher returns `True`" is "every check passes". Match
values are untyped, and several checks raise on values of the wrong type.
-/

namespace AgentSentinel

/-- `val if isinstance(val, list) else [val]`. -/
def ensureList : Value → List Value
  | .list xs => xs
  | v => [v]

/-- The largest severity, `0.0` for no factors. Severities are not negative, so
the default is neutral. -/
def topSeverity : List RiskFactor → ℚ
  | [] => 0
  | f :: fs => max f.severity.val (topSeverity fs)

/-- `action.tool` as an object. -/
def Action.toolValue (action : Action) : Value :=
  match action.tool with
  | none => .none
  | some t => .str t

/-- `w in {f.code for f in risk_factors}`. -/
def codePresent (factors : List RiskFactor) (w : Value) : Bool :=
  factors.any fun f => w.pyEq (.str f.code)

/-- `set(xs)`: hashing a list, set or dictionary raises. -/
def setOf (xs : List Value) : Result (List Value) :=
  if xs.all Value.hashable then .ok xs
  else .error ⟨.typeError, py "unhashable type"⟩

/-- The value under the keys `path`, compared with `expected`. -/
def deepEq : Value → List PyStr → Value → Bool
  | cur, [], expected => cur.pyEq expected
  | .dict es, part :: path, expected =>
    match Value.lookupStr es part with
    | none => false
    | some cur => deepEq cur path expected
  | _, _ :: _, _ => false

/-- `any(needle in haystack for needle in needles)`. -/
def anyNeedle (haystack : PyStr) : List Value → Result Bool
  | [] => .ok false
  | .str s :: needles => if haystack.contains s then .ok true else anyNeedle haystack needles
  | _ :: _ => .error ⟨.typeError, py "'in <string>' requires string as left operand"⟩

/-- The keys an `args.` entry follows into the arguments. -/
def argsPath (key : PyStr) : List PyStr := PyStr.split (key.drop (py "args.").length) '.'

/-! ### The checks of the matcher, in its order -/

section Checks

variable (rt : PyRuntime) (m : PyDict Value) (action : Action) (identity : Option Identity)
  (factors : List RiskFactor)

/-- `if (val := m.get(key)) is not None and not test(val): return False`. -/
def whenGiven (key : PyStr) (test : Value → Result Bool) : Result Bool :=
  match m.getNonNull key with
  | none => .ok true
  | some val => test val

def checkActionType : Result Bool :=
  whenGiven m (py "action.type") fun val => .ok ((Value.str action.type.value).pyEq val)

def checkActionTool : Result Bool :=
  whenGiven m (py "action.tool") fun val =>
    match val with
    | .list vals => .ok (vals.any action.toolValue.pyEq)
    | val => .ok (action.toolValue.pyEq val)

def checkTier : Result Bool :=
  whenGiven m (py "identity.tier") fun val =>
    match identity with
    | none => .ok false
    | some identity => .ok ((Value.str identity.tier.value).pyEq val)

def checkDidPrefix : Result Bool :=
  whenGiven m (py "identity.did_prefix") fun val =>
    (val.toStr rt).map action.agentDid.startsWith

def checkFactorCodeAny : Result Bool :=
  whenGiven m (py "risk.factor_code_any") fun val =>
    (setOf (ensureList val)).map fun wanted => wanted.any (codePresent factors)

def checkFactorCodeAll : Result Bool :=
  whenGiven m (py "risk.factor_code_all") fun val =>
    (setOf (ensureList val)).map fun wanted => wanted.all (codePresent factors)

/-- A threshold that is no number lets no action through; one too large for a
float raises `OverflowError`, which no clause catches. -/
def checkMinSeverity : Result Bool :=
  whenGiven m (py "risk.min_severity") fun val =>
    match val.toFloat with
    | .ok threshold => .ok (!(PyFloat.finite (topSeverity factors)).lt threshold)
    | .error e => if e.kind = .typeError ∨ e.kind = .valueError then .ok false else .error e

/-- Unlike the other keys, an `args.` key is looked at also when its value is
`None`. -/
def checkArgs : Result Bool :=
  .ok (m.entries.all fun e =>
    !e.1.startsWith (py "args.") || deepEq action.arguments.toValue (argsPath e.1) e.2)

def checkArgsContains : Result Bool :=
  whenGiven m (py "args_contains") fun val =>
    match Json.dumps rt .default action.arguments.toValue with
    | .error e => .error e
    | .ok haystack => anyNeedle haystack (ensureList val)

/-- The exits of `_matches` in the order it takes them. -/
def matchChecks : List (Result Bool) :=
  [checkActionType m action, checkActionTool m action, checkTier m identity,
    checkDidPrefix rt m action, checkFactorCodeAny m factors, checkFactorCodeAll m factors,
    checkMinSeverity m factors, checkArgs m action, checkArgsContains rt m action]

end Checks

/-- A rule that matched along with its effect. -/
structure RuleMatch where
  rule : PolicyRule
  effect : RuleEffect

/-- Stateless, deterministic policy matcher. -/
structure PolicyEngine where
  bundle : PolicyBundle

namespace PolicyEngine

variable (rt : PyRuntime) (engine : PolicyEngine) (action : Action)
  (identity : Option Identity) (factors : List RiskFactor)

/-- `_matches`: whether a rule applies. -/
def ruleMatches (rule : PolicyRule) : Result Bool :=
  if rule.matchOn.entries.isEmpty then .ok true
  else checkAll (matchChecks rt rule.matchOn action identity factors)

/-- The loop of `evaluate` over the remaining rules. -/
def matchRules : List PolicyRule → Result (List RuleMatch)
  | [] => .ok []
  | rule :: rules => do
    -- A rule that raises ends the loop; no rule after it is looked at.
    let hit ← ruleMatches rt action identity factors rule
    let rest ← matchRules rules
    return if hit then ⟨rule, rule.effect⟩ :: rest else rest

/-- The matching rules of the active bundle, in priority order. -/
def evaluate : Result (List RuleMatch) :=
  matchRules rt action identity factors engine.bundle.byPriority

/-- Some enabled rule with this effect matches. -/
def Triggers (effect : RuleEffect) : Prop :=
  ∃ rule ∈ engine.bundle.rules, rule.enabled = true ∧ rule.effect = effect ∧
    ruleMatches rt action identity factors rule = .ok true

/-- No enabled rule with a restrictive effect matches. -/
def Unrestricted : Prop :=
  ∀ effect, Triggers rt engine action identity factors effect → effect = .allow

/-- Matching some enabled rule raises. -/
def RuleRaises : Prop :=
  ∃ rule ∈ engine.bundle.rules, rule.enabled = true ∧
    Raised (ruleMatches rt action identity factors rule)

end PolicyEngine

/-- What the check of one key comes to, for anything that is true of passing: its test comes to
it on the values of the key. -/
theorem whenGiven_iff {m : PyDict Value} {key : PyStr} {test : Value → Result Bool}
    {P : Result Bool → Prop} (hpass : P (.ok true)) :
    P (whenGiven m key test) ↔ ∀ v, (key, v) ∈ m.entries → v ≠ .none → P (test v) := by
  unfold whenGiven
  cases hget : m.getNonNull key with
  | none =>
      rw [PyDict.getNonNull_eq_none_iff] at hget
      exact iff_of_true hpass fun v hmem hne => absurd (hget v hmem) hne
  | some w =>
      constructor
      · intro htest v hmem hne
        have hv := PyDict.getNonNull_eq_some_iff.mpr ⟨hmem, hne⟩
        rw [hget] at hv
        exact Option.some.inj hv ▸ htest
      · intro hall
        obtain ⟨hmem, hne⟩ := PyDict.getNonNull_eq_some_iff.mp hget
        exact hall w hmem hne

theorem whenGiven_eq_true {m : PyDict Value} {key : PyStr} {test : Value → Result Bool} :
    whenGiven m key test = .ok true ↔
      ∀ v, (key, v) ∈ m.entries → v ≠ .none → test v = .ok true :=
  whenGiven_iff (P := fun r => r = .ok true) rfl

/-! ### The loop over the rules -/

namespace PolicyEngine

variable {rt : PyRuntime} {engine : PolicyEngine} {action : Action}
  {identity : Option Identity} {factors : List RiskFactor}

/-- An empty match dictionary passes every check, so the shortcut for it changes
nothing. -/
theorem ruleMatches_eq_checkAll (rule : PolicyRule) :
    ruleMatches rt action identity factors rule =
      checkAll (matchChecks rt rule.matchOn action identity factors) := by
  unfold ruleMatches
  split
  case isTrue h =>
      have hes : rule.matchOn.entries = [] := List.isEmpty_iff.mp h
      have hget (k : PyStr) : rule.matchOn.getNonNull k = none := by
        simp [PyDict.getNonNull, PyDict.get, hes]
      simp [matchChecks, whenGiven, checkActionType, checkActionTool, checkTier, checkDidPrefix,
        checkFactorCodeAny, checkFactorCodeAll, checkMinSeverity, checkArgs,
        checkArgsContains, hget, hes]
  case isFalse => rfl

/-- What a loop that returns has collected. -/
theorem matchRules_eq_ok {rules : List PolicyRule} {ms : List RuleMatch}
    (h : matchRules rt action identity factors rules = .ok ms) :
    (∀ rule ∈ rules, ¬ Raised (ruleMatches rt action identity factors rule)) ∧
      ms = (rules.filter fun rule =>
        decide (ruleMatches rt action identity factors rule = .ok true)).map
          fun rule => ⟨rule, rule.effect⟩ := by
  induction rules generalizing ms with
  | nil =>
      obtain rfl := Except.ok.inj h
      simp
  | cons rule rules ih =>
      obtain ⟨hit, hrule, hloop⟩ := bind_eq_ok.mp h
      obtain ⟨rest, hrest, hms⟩ := bind_eq_ok.mp hloop
      obtain ⟨hno, rfl⟩ := ih hrest
      obtain rfl := Except.ok.inj hms
      constructor
      · intro r hr
        rcases List.mem_cons.mp hr with rfl | hr
        · rw [hrule]
          exact not_raised_ok
        · exact hno r hr
      · cases hit <;> simp [hrule]

/-- The loop returns unless matching some rule raises. -/
theorem matchRules_returns {rules : List PolicyRule}
    (h : ∀ rule ∈ rules, ¬ Raised (ruleMatches rt action identity factors rule)) :
    ∃ ms, matchRules rt action identity factors rules = .ok ms := by
  induction rules with
  | nil => exact ⟨[], rfl⟩
  | cons rule rules ih =>
      obtain ⟨rest, hrest⟩ := ih fun r hr => h r (List.mem_cons_of_mem _ hr)
      obtain ⟨hit, hrule⟩ := not_raised_iff.mp (h rule List.mem_cons_self)
      exact ⟨_, bind_eq_ok.mpr ⟨hit, hrule, bind_eq_ok.mpr ⟨rest, hrest, rfl⟩⟩⟩

/-- The engine returns exactly when no enabled rule raises. -/
theorem evaluate_returns_iff :
    (∃ ms, engine.evaluate rt action identity factors = .ok ms) ↔
      ¬ engine.RuleRaises rt action identity factors := by
  constructor
  · intro hreturns hraises
    obtain ⟨ms, hms⟩ := hreturns
    obtain ⟨rule, hmem, henabled, hraised⟩ := hraises
    exact (matchRules_eq_ok hms).1 rule (PolicyBundle.mem_byPriority.mpr ⟨hmem, henabled⟩)
      hraised
  · intro h
    refine matchRules_returns fun rule hrule hraised => h ?_
    obtain ⟨hmem, henabled⟩ := PolicyBundle.mem_byPriority.mp hrule
    exact ⟨rule, hmem, henabled, hraised⟩

/-- The matches the engine returns are the enabled rules that match. -/
theorem mem_evaluate {ms : List RuleMatch}
    (h : engine.evaluate rt action identity factors = .ok ms) {m : RuleMatch} :
    m ∈ ms ↔ ∃ rule ∈ engine.bundle.rules, rule.enabled = true ∧
      ruleMatches rt action identity factors rule = .ok true ∧ m = ⟨rule, rule.effect⟩ := by
  rw [(matchRules_eq_ok h).2]
  simp only [List.mem_map, List.mem_filter, PolicyBundle.mem_byPriority, decide_eq_true_eq]
  constructor
  · intro hfired
    obtain ⟨rule, ⟨⟨hmem, hen⟩, hmatch⟩, rfl⟩ := hfired
    exact ⟨rule, hmem, hen, hmatch, rfl⟩
  · intro hfired
    obtain ⟨rule, hmem, hen, hmatch, rfl⟩ := hfired
    exact ⟨rule, ⟨⟨hmem, hen⟩, hmatch⟩, rfl⟩

/-- An effect is among the returned matches exactly when a rule triggers it. -/
theorem effect_mem_iff {ms : List RuleMatch}
    (h : engine.evaluate rt action identity factors = .ok ms) {effect : RuleEffect} :
    effect ∈ ms.map (·.effect) ↔ engine.Triggers rt action identity factors effect := by
  simp only [List.mem_map, mem_evaluate h, Triggers]
  constructor
  · intro hfired
    obtain ⟨m, ⟨rule, hmem, hen, hmatch, rfl⟩, rfl⟩ := hfired
    exact ⟨rule, hmem, hen, rfl, hmatch⟩
  · intro htriggers
    obtain ⟨rule, hmem, hen, rfl, hmatch⟩ := htriggers
    exact ⟨⟨rule, rule.effect⟩, ⟨rule, hmem, hen, hmatch, rfl⟩, rfl⟩

end PolicyEngine

end AgentSentinel
