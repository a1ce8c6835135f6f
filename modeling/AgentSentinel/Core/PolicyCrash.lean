import Mathlib.Tactic.IntervalCases
import AgentSentinel.Core.MatchLanguage
import AgentSentinel.Lib.EarlyExit
import AgentSentinel.Utils.JsonDumps

/-!
# AgentSentinel.Core.PolicyCrash

Where evaluating a policy raises. Match values are untyped, and five of the checks of the
matcher fail on some of them: a check aborts when its value has no text, a member without a
hash, a magnitude no float has, or a needle that is no string. The matcher comes to it only
if every check before it passes.
-/

namespace AgentSentinel

open Lib

/-- The key a check looks up. -/
def MatchKey.lookedUp : MatchKey → Option PyStr
  | .actionType => some (py "action.type")
  | .actionTool => some (py "action.tool")
  | .identityTier => some (py "identity.tier")
  | .didPrefix => some (py "identity.did_prefix")
  | .factorCodeAny => some (py "risk.factor_code_any")
  | .factorCodeAll => some (py "risk.factor_code_all")
  | .minSeverity => some (py "risk.min_severity")
  | .argsContains => some (py "args_contains")
  | .args _ | .unknown => none

/-- The place of the check of a key; an entry that no check looks at comes after all of them. -/
def MatchKey.place : MatchKey → ℕ
  | .actionType => 0
  | .actionTool => 1
  | .identityTier => 2
  | .didPrefix => 3
  | .factorCodeAny => 4
  | .factorCodeAll => 5
  | .minSeverity => 6
  | .args _ => 7
  | .argsContains => 8
  | .unknown => 9

section Meaning

variable (rt : PyRuntime) (action : Action)

/-- The search for these needles comes to one that is no string before one that occurs. -/
def Stumbles (needles : List Value) : Prop :=
  ∃ before w after, needles = before ++ w :: after ∧ (∀ s, w ≠ .str s) ∧
    ∀ b ∈ before, ∃ s, b = .str s ∧
      ∀ haystack, Json.dumps rt .default action.arguments.toValue = .ok haystack →
        ¬ s <:+: haystack

/-- The entries whose check raises, given that the matcher comes to it. -/
def Aborts : MatchKey → Value → Prop
  | .didPrefix, v => v.printable = false
  | .factorCodeAny, v | .factorCodeAll, v => ∃ w ∈ ensureList v, w.hashable = false
  | .minSeverity, v => ∃ n : ℤ, v = .int n ∧ floatOverflow ≤ |(n : ℚ)|
  | .argsContains, v => v ≠ .none ∧
      (action.arguments.toValue.printable = false ∨ Stumbles rt action (ensureList v))
  | _, _ => False

end Meaning

variable {rt : PyRuntime} {action : Action} {identity : Option Identity}
  {factors : List RiskFactor} {m : PyDict Value} {key : PyStr} {v : Value}

/-! ### The keys -/

theorem parse_lookedUp {k : MatchKey} (h : k.lookedUp = some key) : MatchKey.parse key = k := by
  cases k <;> simp only [MatchKey.lookedUp, Option.some.injEq, reduceCtorEq] at h <;>
    subst h <;> decide

theorem lookedUp_parse (key : PyStr) : ∀ lit ∈ (MatchKey.parse key).lookedUp, key = lit := by
  have hread : ∀ {k : MatchKey} {lit' : PyStr}, k.lookedUp = some lit' → key = lit' →
      ∀ lit ∈ k.lookedUp, key = lit := by
    rintro k lit' hk rfl lit hlit
    rw [hk] at hlit
    exact Option.some.inj hlit
  unfold MatchKey.parse
  -- The first eight branches have the key in their conditions, the others look nothing up.
  iterate 8
    refine iteInduction (motive := fun k : MatchKey => ∀ lit ∈ k.lookedUp, key = lit) (hread rfl)
      fun _ => ?_
  split <;> simp [MatchKey.lookedUp]

/-- An entry that aborts a check is looked at by one. -/
theorem place_of_aborts {k : MatchKey} (h : Aborts rt action k v) : k.place < 9 := by
  cases k with
  | unknown => exact absurd h id
  | args path => exact absurd h id
  | _ => decide

/-- A check has its place to itself. -/
theorem place_eq_iff {k k' : MatchKey} (h : k.lookedUp = some key) :
    k'.place = k.place ↔ k' = k := by
  cases k <;> simp only [MatchKey.lookedUp, reduceCtorEq] at h <;>
    cases k' <;> simp [MatchKey.place]

theorem place_parse_iff {k : MatchKey} {key' : PyStr} (h : k.lookedUp = some key) :
    (MatchKey.parse key').place = k.place ↔ key' = key := by
  rw [place_eq_iff h]
  constructor
  · rintro rfl
    exact lookedUp_parse key' key h
  · rintro rfl
    exact parse_lookedUp h

/-! ### One check -/

/-- The check at this place passes if every entry that it looks at does, and returns unless one
of them aborts it. -/
structure Decides (rt : PyRuntime) (action : Action) (identity : Option Identity)
    (factors : List RiskFactor) (m : PyDict Value) (place : ℕ) (check : Result Bool) : Prop where
  passes : check = .ok true ↔ ∀ e ∈ m.entries, (MatchKey.parse e.1).place = place →
    Passes rt action identity factors (MatchKey.parse e.1) e.2
  returns : (∃ b, check = .ok b) ↔ ∀ e ∈ m.entries, (MatchKey.parse e.1).place = place →
    ¬ Aborts rt action (MatchKey.parse e.1) e.2

theorem whenGiven_returns_iff {test : Value → Result Bool} :
    (∃ b, whenGiven m key test = .ok b) ↔
      ∀ v, (key, v) ∈ m.entries → v ≠ .none → ∃ b, test v = .ok b :=
  whenGiven_iff (P := fun r => ∃ b, r = .ok b) ⟨true, rfl⟩

/-- A check that looks up one key is decided by what its test says of the values. -/
theorem decides_whenGiven {k : MatchKey} {test : Value → Result Bool} (hk : k.lookedUp = some key)
    (hpasses : ∀ v, (v ≠ .none → test v = .ok true) ↔ Passes rt action identity factors k v)
    (hreturns : ∀ v, (key, v) ∈ m.entries →
      ((v ≠ .none → ∃ b, test v = .ok b) ↔ ¬ Aborts rt action k v)) :
    Decides rt action identity factors m k.place (whenGiven m key test) := by
  have hentries : ∀ P : MatchKey → Value → Prop, (∀ v, (key, v) ∈ m.entries → P k v) ↔
      ∀ e ∈ m.entries, (MatchKey.parse e.1).place = k.place → P (MatchKey.parse e.1) e.2 := by
    intro P
    simp only [place_parse_iff hk, Prod.forall]
    constructor
    · rintro h _ v hmem rfl
      rw [parse_lookedUp hk]
      exact h v hmem
    · intro h v hmem
      have hentry := h key v hmem rfl
      rwa [parse_lookedUp hk] at hentry
  constructor
  · rw [whenGiven_eq_true, ← hentries (Passes rt action identity factors)]
    simp only [hpasses]
  · rw [whenGiven_returns_iff, ← hentries fun k v => ¬ Aborts rt action k v]
    exact forall₂_congr hreturns

/-! ### The tests that raise -/

theorem didPrefix_returns_iff : (v ≠ .none → ∃ b, (v.toStr rt).map action.agentDid.startsWith =
    .ok b) ↔ ¬ Aborts rt action .didPrefix v := by
  have htext : (∃ b, (v.toStr rt).map action.agentDid.startsWith = .ok b) ↔
      v.printable = true := by
    have hreturns : (∃ s, v.toStr rt = .ok s) ↔ v.printable = true := Value.toStr_returns_iff
    rw [← hreturns]
    cases v.toStr rt <;> simp [Except.map]
  rw [htext, Aborts, Bool.not_eq_false]
  constructor
  · intro h
    by_cases hnone : v = .none
    · rw [hnone]
      rfl
    · exact h hnone
  · exact fun h _ => h

theorem setOf_returns_iff {f : List Value → Bool} :
    (v ≠ .none → ∃ b, (setOf (ensureList v)).map f = .ok b) ↔
      ¬ ∃ w ∈ ensureList v, w.hashable = false := by
  have hset : (∃ b, (setOf (ensureList v)).map f = .ok b) ↔
      ¬ ∃ w ∈ ensureList v, w.hashable = false := by
    unfold setOf
    split
    · next hall =>
        refine iff_of_true ⟨_, rfl⟩ ?_
        rintro ⟨w, hw, hfalse⟩
        rw [List.all_eq_true.mp hall w hw] at hfalse
        cases hfalse
    · next hall =>
        refine iff_of_false (by simp [Except.map]) fun hno => hall ?_
        rw [List.all_eq_true]
        intro w hw
        by_contra hfalse
        exact hno ⟨w, hw, Bool.eq_false_iff.mpr hfalse⟩
  rw [hset]
  constructor
  · intro h
    by_cases hnone : v = .none
    · rw [hnone]
      decide
    · exact h hnone
  · exact fun h _ => h

/-- `float` raises what the check does not catch only for an integer beyond every float. -/
theorem toFloat_uncaught_iff :
    (∃ e, v.toFloat = .error e ∧ ¬ (e.kind = .typeError ∨ e.kind = .valueError)) ↔
      ∃ n : ℤ, v = .int n ∧ floatOverflow ≤ |(n : ℚ)| := by
  have htext : ∀ space s, ¬ ∃ e, Value.toFloat.ofText space s = .error e ∧
      ¬ (e.kind = .typeError ∨ e.kind = .valueError) := by
    rintro space s ⟨e, he, huncaught⟩
    unfold Value.toFloat.ofText at he
    split at he
    · cases he
    · obtain rfl := Except.error.inj he
      exact huncaught (.inr rfl)
  cases v with
  | int n =>
      simp only [Value.toFloat, Value.int.injEq, exists_eq_left']
      split
      · next hlarge => exact iff_of_true ⟨_, rfl, by simp⟩ hlarge
      · next hsmall => exact iff_of_false (by simp) hsmall
  | str s => exact iff_of_false (htext _ s) (by simp)
  | bytes bs => exact iff_of_false (htext _ _) (by simp)
  | _ => simp [Value.toFloat]

theorem minSeverity_returns_iff : (v ≠ .none → ∃ b, (match v.toFloat with
      | .ok threshold => .ok (!(PyFloat.finite (topSeverity factors)).lt threshold)
      | .error e => if e.kind = .typeError ∨ e.kind = .valueError then .ok false else .error e :
        Result Bool) = .ok b) ↔ ¬ Aborts rt action .minSeverity v := by
  rw [Aborts, ← toFloat_uncaught_iff]
  have hnone : v = .none → v.toFloat =
      .error ⟨.typeError, py "float() argument must be a string or a real number"⟩ := by
    rintro rfl
    rfl
  cases hx : v.toFloat with
  | ok x => simp
  | error e =>
      by_cases hcaught : e.kind = .typeError ∨ e.kind = .valueError
      · refine iff_of_true (fun _ => ⟨false, if_pos hcaught⟩) ?_
        rintro ⟨_, he, huncaught⟩
        obtain rfl := Except.error.inj he
        exact huncaught hcaught
      · have hgiven : v ≠ .none := by
          intro hv
          obtain rfl := Except.error.inj (hx.symm.trans (hnone hv))
          exact hcaught (.inl rfl)
        refine iff_of_false (fun h => ?_) fun hno => hno ⟨e, rfl, hcaught⟩
        obtain ⟨b, hb⟩ := h hgiven
        simp [if_neg hcaught] at hb

/-- What the search asks of one needle. -/
def needleOccurs (haystack : PyStr) : Value → Result Bool
  | .str s => .ok (haystack.contains s)
  | _ => .error ⟨.typeError, py "'in <string>' requires string as left operand"⟩

theorem anyNeedle_eq (haystack : PyStr) (needles : List Value) :
    anyNeedle haystack needles = earlyExit false (needleOccurs haystack) needles := by
  induction needles with
  | nil => rfl
  | cons w needles ih =>
      cases w with
      | str s =>
          rw [anyNeedle, earlyExit, ih, needleOccurs]
          cases haystack.contains s <;> rfl
      | _ => rfl

theorem needleOccurs_returns_iff {haystack : PyStr} {w : Value} :
    (∃ b, needleOccurs haystack w = .ok b) ↔ ∃ s, w = .str s := by
  cases w <;> simp [needleOccurs]

theorem needleOccurs_eq_false {haystack : PyStr} {w : Value} :
    needleOccurs haystack w = .ok false ↔ ∃ s, w = .str s ∧ ¬ s <:+: haystack := by
  cases w <;> simp [needleOccurs, PyStr.contains]

theorem anyNeedle_returns_iff {haystack : PyStr} {needles : List Value} :
    (∃ b, anyNeedle haystack needles = .ok b) ↔ ¬ ∃ before w after,
      needles = before ++ w :: after ∧ (∀ s, w ≠ .str s) ∧
        ∀ b ∈ before, ∃ s, b = .str s ∧ ¬ s <:+: haystack := by
  rw [anyNeedle_eq, earlyExit_returns_iff]
  simp only [needleOccurs_returns_iff, needleOccurs_eq_false]
  constructor
  · rintro h ⟨before, w, after, hneedles, hw, hbefore⟩
    obtain ⟨s, hs⟩ := h before w after hneedles hbefore
    exact hw s hs
  · intro h before w after hneedles hbefore
    by_contra hw
    exact h ⟨before, w, after, hneedles, fun s hs => hw ⟨s, hs⟩, hbefore⟩

theorem argsContains_returns_iff (hargs : v ≠ .none → action.arguments.toValue.IsJson) :
    (v ≠ .none → ∃ b, (match Json.dumps rt .default action.arguments.toValue with
      | .error e => .error e
      | .ok haystack => anyNeedle haystack (ensureList v) : Result Bool) = .ok b) ↔
      ¬ Aborts rt action .argsContains v := by
  rw [Aborts, not_and]
  refine imp_congr_right fun hgiven => ?_
  have hreturns : (∃ text, Json.dumps rt .default action.arguments.toValue = .ok text) ↔
      action.arguments.toValue.printable = true := Json.dumps_returns_iff (hargs hgiven)
  cases hdumps : Json.dumps rt .default action.arguments.toValue with
  | error e =>
      have hlong : action.arguments.toValue.printable = false := by
        rw [← Bool.not_eq_true, ← hreturns, hdumps]
        simp
      simp [hlong]
  | ok haystack =>
      have hshort := hreturns.mp ⟨_, hdumps⟩
      have hlong : ¬ action.arguments.toValue.printable = false := by simp [hshort]
      rw [or_iff_right hlong, Stumbles, hdumps]
      simp only [anyNeedle_returns_iff, Except.ok.injEq, forall_eq']

/-- The loop over the `args.` entries returns. -/
theorem decides_checkArgs :
    Decides rt action identity factors m 7 (checkArgs m action) := by
  have hargs : ∀ key : PyStr, (MatchKey.parse key).place = 7 ↔
      key.startsWith (py "args.") = true := by
    intro key
    constructor
    · unfold MatchKey.parse
      iterate 8
        refine iteInduction (motive := fun k : MatchKey => k.place = 7 → _)
          (fun _ hplace => by cases hplace) fun _ => ?_
      split
      · next hstart => exact fun _ => hstart
      · exact fun hplace => by cases hplace
    · intro hstart
      rw [parse_args hstart]
      rfl
  constructor
  · rw [checkArgs_eq_true rt identity factors]
    refine forall₂_congr fun e _ => ?_
    rw [hargs]
    refine imp_congr_right fun hstart => ?_
    rw [parse_args hstart]
  · refine iff_of_true ⟨_, rfl⟩ fun e _ hplace => ?_
    rw [parse_args ((hargs e.1).mp hplace)]
    exact id

/-- The checks of the matcher stand at the places of their keys. Only the search for needles dumps
the arguments. -/
theorem decides_matchChecks
    (hargs : ∀ v, (py "args_contains", v) ∈ m.entries → v ≠ .none →
      action.arguments.toValue.IsJson)
    {i : ℕ} (hi : i < (matchChecks rt m action identity factors).length) :
    Decides rt action identity factors m i (matchChecks rt m action identity factors)[i] := by
  have hplaces : i < 9 := hi
  interval_cases i
  · exact decides_whenGiven (k := .actionType) rfl (fun _ => actionType_test_iff)
      fun v _ => iff_of_true (fun _ => ⟨_, rfl⟩) id
  · exact decides_whenGiven (k := .actionTool) rfl (fun _ => actionTool_test_iff)
      fun v _ => iff_of_true (fun _ => by cases v <;> exact ⟨_, rfl⟩) id
  · exact decides_whenGiven (k := .identityTier) rfl (fun _ => identityTier_test_iff)
      fun v _ => iff_of_true (fun _ => by cases identity <;> exact ⟨_, rfl⟩) id
  · exact decides_whenGiven (k := .didPrefix) rfl (fun _ => didPrefix_test_iff)
      fun v _ => didPrefix_returns_iff
  · exact decides_whenGiven (k := .factorCodeAny) rfl (fun _ => factorCodeAny_test_iff)
      fun v _ => setOf_returns_iff
  · exact decides_whenGiven (k := .factorCodeAll) rfl (fun _ => factorCodeAll_test_iff)
      fun v _ => setOf_returns_iff
  · exact decides_whenGiven (k := .minSeverity) rfl (fun _ => minSeverity_test_iff)
      fun v _ => minSeverity_returns_iff
  · exact decides_checkArgs
  · exact decides_whenGiven (k := .argsContains) rfl (fun _ => argsContains_test_iff)
      fun v hv => argsContains_returns_iff (hargs v hv)

/-! ### Rules and policies -/

theorem checkAll_eq_earlyExit (cs : List (Result Bool)) : checkAll cs = earlyExit true id cs := by
  induction cs with
  | nil => rfl
  | cons c cs ih =>
      by_cases hc : c = .ok true
      · have hgo : id (.ok true : Result Bool) = .ok true := rfl
        rw [hc, checkAll_pass, earlyExit_go_on hgo, ih]
      · rw [checkAll_stop hc, earlyExit_leave hc]
        rfl

/-- Some entry aborts the matcher: what is checked before it passes. -/
def CrashesRule (rt : PyRuntime) (action : Action) (identity : Option Identity)
    (factors : List RiskFactor) (m : PyDict Value) : Prop :=
  ∃ e ∈ m.entries, Aborts rt action (MatchKey.parse e.1) e.2 ∧
    ∀ e' ∈ m.entries, (MatchKey.parse e'.1).place < (MatchKey.parse e.1).place →
      Passes rt action identity factors (MatchKey.parse e'.1) e'.2

theorem ruleMatches_returns_iff {rule : PolicyRule}
    (hargs : ∀ v, (py "args_contains", v) ∈ rule.matchOn.entries → v ≠ .none →
      action.arguments.toValue.IsJson) :
    (∃ b, PolicyEngine.ruleMatches rt action identity factors rule = .ok b) ↔
      ¬ CrashesRule rt action identity factors rule.matchOn := by
  rw [PolicyEngine.ruleMatches_eq_checkAll, checkAll_eq_earlyExit, earlyExit_returns_iff_getElem]
  have hdecides {i : ℕ} (hi : i < (matchChecks rt rule.matchOn action identity factors).length) :=
    decides_matchChecks hargs hi
  constructor
  · rintro h ⟨e, he, haborts, hbefore⟩
    have hplace : (MatchKey.parse e.1).place < 9 := place_of_aborts haborts
    have hreturns := h _ hplace fun j hj =>
      (hdecides (hj.trans hplace)).passes.mpr fun e' he' heq => hbefore e' he' (heq ▸ hj)
    exact (hdecides hplace).returns.mp hreturns e he rfl haborts
  · intro h i hi hpassed
    refine (hdecides hi).returns.mpr fun e he hplace haborts => h ⟨e, he, haborts, ?_⟩
    intro e' he' hlt
    rw [hplace] at hlt
    exact (hdecides (hlt.trans hi)).passes.mp (hpassed _ hlt) e' he' rfl

/-- **Evaluation returns** exactly if no enabled rule has an entry that aborts its check after
everything before it has passed. -/
theorem evaluate_returns_iff_of_json (hargs : action.arguments.toValue.IsJson)
    {engine : PolicyEngine} :
    (∃ ms, engine.evaluate rt action identity factors = .ok ms) ↔
      ∀ rule ∈ engine.bundle.rules, rule.enabled = true →
        ¬ CrashesRule rt action identity factors rule.matchOn := by
  rw [PolicyEngine.evaluate_returns_iff, PolicyEngine.RuleRaises]
  simp only [not_exists, not_and, not_raised_iff, ruleMatches_returns_iff fun _ _ _ => hargs]

/-- A policy of one rule with one entry. -/
def policyOf (key : PyStr) (v : Value) : PolicyEngine :=
  ⟨⟨[{ id := py "r", effect := .deny, matchOn := PyDict.empty.set key v }]⟩⟩

theorem isJson_default : (default : Action).arguments.toValue.IsJson := ⟨.obj [], rfl⟩

theorem evaluate_returns_iff_needle :
    (∃ ms, (policyOf (py "args_contains") (.list [.int 5])).evaluate default default none [] =
      .ok ms) ↔
    ∀ rule ∈ (policyOf (py "args_contains") (.list [.int 5])).bundle.rules, rule.enabled = true →
      ¬ CrashesRule default default none [] rule.matchOn :=
  evaluate_returns_iff_of_json isJson_default

/-- A single entry that aborts its check ends every evaluation. -/
theorem not_returns_policyOf (hargs : action.arguments.toValue.IsJson)
    (h : Aborts rt action (MatchKey.parse key) v) :
    ¬ ∃ ms, (policyOf key v).evaluate rt action identity factors = .ok ms := by
  rw [PolicyEngine.evaluate_returns_iff, not_not]
  refine ⟨_, List.mem_singleton_self _, rfl, ?_⟩
  by_contra hreturns
  rw [not_raised_iff, ruleMatches_returns_iff fun _ _ _ => hargs] at hreturns
  refine hreturns ⟨(key, v), List.mem_singleton_self _, h, fun e' he' hlt => ?_⟩
  obtain rfl := List.mem_singleton.mp he'
  exact absurd hlt (lt_irrefl _)

/-- A number for a needle, a list for a code and an integer beyond every float for a threshold
each end the evaluation. -/
theorem evaluate_crashes :
    ¬ (∃ ms, (policyOf (py "args_contains") (.list [.int 5])).evaluate default default none [] =
      .ok ms) ∧
    ¬ (∃ ms, (policyOf (py "risk.factor_code_any") (.list [.list []])).evaluate default default
      none [] = .ok ms) ∧
    ¬ ∃ ms, (policyOf (py "risk.min_severity") (.int (2 ^ 1024))).evaluate default default none []
      = .ok ms := by
  have hcontains : MatchKey.parse (py "args_contains") = .argsContains := by decide
  have hany : MatchKey.parse (py "risk.factor_code_any") = .factorCodeAny := by decide
  have hmin : MatchKey.parse (py "risk.min_severity") = .minSeverity := by decide
  refine ⟨not_returns_policyOf isJson_default ?_, not_returns_policyOf isJson_default ?_,
    not_returns_policyOf isJson_default ?_⟩
  · rw [hcontains]
    exact ⟨by simp, .inr ⟨[], .int 5, [], rfl, by simp, by simp⟩⟩
  · rw [hany]
    exact ⟨.list [], List.mem_singleton_self _, rfl⟩
  · rw [hmin]
    refine ⟨2 ^ 1024, rfl, ?_⟩
    rw [Int.cast_pow, abs_of_nonneg (by positivity), floatOverflow]
    exact sub_le_self _ (by positivity)

end AgentSentinel
