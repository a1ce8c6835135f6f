import AgentSentinel.Core.Explanation
import AgentSentinel.Core.PolicyCrash
import AgentSentinel.Core.RecognisedKeys
import AgentSentinel.PolicyPac.Loader

/-!
# AgentSentinel.PolicyPac.DefaultBundle

The bundle that the repository ships and that a deployment starts with. Nine of its match
keys are none of the matcher's. Five rules are left with nothing to match, three of them
denials: with this bundle every decision is a denial. Six of the other eight rules wait for
codes, types and tiers that nothing in the repository has.
-/

namespace AgentSentinel

open Lib

/-! ### The file -/

/-- A rule of the file, as it is read from YAML. -/
structure FileRule where
  id : PyStr
  description : PyStr
  owasp : List PyStr
  matchOn : PyDict Value
  effect : RuleEffect
  rationale : Option PyStr := none

namespace FileRule

/-- The mapping that it is read as. -/
def toValue (rule : FileRule) : Value :=
  .dict ([(.str (py "id"), .str rule.id), (.str (py "description"), .str rule.description),
      (.str (py "owasp"), strings rule.owasp), (.str (py "match"), rule.matchOn.toValue),
      (.str (py "effect"), .str rule.effect.value)] ++
    rule.rationale.toList.map fun text => (.str (py "rationale"), .str text))

/-- The rule that the mapping is validated to; `owasp` is no field of the model. -/
def toDocument (rule : FileRule) : RuleDocument where
  id := rule.id
  effect := rule.effect
  matchOn := rule.matchOn
  description := rule.description
  rationale := rule.rationale

/-- What the engine reads of it. -/
def toRule (rule : FileRule) : PolicyRule := rule.toDocument.toPolicyRule

end FileRule

def goalHijackMismatch : FileRule where
  id := py "goal-hijack-mismatch"
  description := py "Declared intent diverges from tool / arg shape."
  owasp := [py "AGENT-01"]
  matchOn := ⟨[(py "risk.factor_code_any", strings [py "intent.mismatch"]),
    -- The float nearest to 0.6.
    (py "risk.score_min", .float (.finite (5404319552844595 / 9007199254740992)))], by decide⟩
  effect := .deny
  rationale := some (py "High-confidence intent mismatch — refusing to forward action.")

def memPoisonInjection : FileRule where
  id := py "mem-poison-injection"
  description := py "Memory write contains likely injection content."
  owasp := [py "AGENT-02"]
  matchOn := ⟨[(py "action.type", .str (py "memory_write")),
    (py "risk.factor_code_any", strings [py "injection.prompt", py "injection.override"])],
    by decide⟩
  effect := .deny

def memWriteUntrustedTier : FileRule where
  id := py "mem-write-untrusted-tier"
  description := py "Untrusted agents may not write to long-term memory."
  owasp := [py "AGENT-02"]
  matchOn := ⟨[(py "action.type", .str (py "memory_write")),
    (py "identity.tier", .str (py "untrusted"))], by decide⟩
  effect := .deny

def toolNoCapability : FileRule where
  id := py "tool-no-capability"
  description := py "Action calls a tool the identity does not hold capability for."
  owasp := [py "AGENT-03"]
  matchOn := ⟨[(py "risk.factor_code_any",
    strings [py "tool.no_capability", py "tool.disabled", py "tool.schema_violation"])],
    by decide⟩
  effect := .deny

def toolSensitiveEscalate : FileRule where
  id := py "tool-sensitive-escalate"
  description := py "Sensitive tools require human approval for non-trusted tiers."
  owasp := [py "AGENT-03", py "AGENT-10"]
  matchOn := ⟨[(py "action.tool_any",
      strings [py "finance.transfer", py "infra.deploy", py "secrets.read"]),
    (py "identity.tier_any", strings [py "low", py "untrusted"])], by decide⟩
  effect := .escalate

def identityUnsignedRequired : FileRule where
  id := py "identity-unsigned-required"
  description := py "Production requires signed actions."
  owasp := [py "AGENT-04"]
  matchOn := ⟨[(py "identity.signed", .bool false),
    (py "action.tenant_env", .str (py "production"))], by decide⟩
  effect := .deny

def fileRogueAnomalySpike : FileRule where
  id := py "rogue-anomaly-spike"
  description := py "Behavioral anomaly score above threshold."
  owasp := [py "AGENT-05"]
  matchOn := ⟨[(py "risk.factor_code_any",
      strings [py "anomaly.rate_spike", py "anomaly.tool_drift"]),
    (py "risk.score_min", .float (.finite (3 / 4)))], by decide⟩
  effect := .throttle

def supplyChainUnverifiedBundle : FileRule where
  id := py "supply-chain-unverified-bundle"
  description := py "Refuse to evaluate when policy bundle signature is invalid."
  owasp := [py "AGENT-06"]
  matchOn := ⟨[(py "runtime.bundle_signature_valid", .bool false)], by decide⟩
  effect := .deny

def codeExecEscalate : FileRule where
  id := py "code-exec-escalate"
  description := py "Arbitrary code execution always requires approval."
  owasp := [py "AGENT-07"]
  matchOn := ⟨[(py "action.type", .str (py "code_exec"))], by decide⟩
  effect := .escalate

def iatpInvalidSignature : FileRule where
  id := py "iatp-invalid-signature"
  description := py "Inter-agent message has invalid or missing IATP signature."
  owasp := [py "AGENT-08"]
  matchOn := ⟨[(py "risk.factor_code_any",
    strings [py "iatp.bad_signature", py "iatp.replay"])], by decide⟩
  effect := .deny

def cascadeDegradedMode : FileRule where
  id := py "cascade-degraded-mode"
  description := py "While running in degraded mode, deny anything not strictly necessary."
  owasp := [py "AGENT-09"]
  matchOn := ⟨[(py "runtime.degraded", .bool true),
    (py "action.type_any", strings [py "code_exec", py "memory_write", py "tool_call"]),
    (py "identity.tier_any", strings [py "low", py "untrusted"])], by decide⟩
  effect := .deny

def humanTrustExplainRequired : FileRule where
  id := py "human-trust-explain-required"
  description := py "All deny / escalate decisions emit a structured explanation."
  owasp := [py "AGENT-10"]
  matchOn := ⟨[(py "runtime.always", .bool true)], by decide⟩
  effect := .allow
  rationale := some (py "Synthetic rule — enforces explanation enrichment in the pipeline.")

def dlpSecretBlock : FileRule where
  id := py "dlp-secret-block"
  description := py "Block actions whose payload contains likely secrets."
  owasp := [py "AGENT-02", py "AGENT-04"]
  matchOn := ⟨[(py "risk.factor_code_any",
    strings [py "dlp.api_key", py "dlp.private_key", py "dlp.aws_secret"])], by decide⟩
  effect := .deny

/-- The rules in the order of the file. -/
def fileRules : List FileRule :=
  [goalHijackMismatch, memPoisonInjection, memWriteUntrustedTier, toolNoCapability,
    toolSensitiveEscalate, identityUnsignedRequired, fileRogueAnomalySpike,
    supplyChainUnverifiedBundle, codeExecEscalate, iatpInvalidSignature, cascadeDegradedMode,
    humanTrustExplainRequired, dlpSecretBlock]

/-- The mapping in `config/policies/default.yaml`. -/
def defaultFile : List (Value × Value) :=
  [(.str (py "version"), .str (py "0.1.0")),
    (.str (py "bundle_id"), .str (py "osl-default-bundle")), (.str (py "signed_at"), .none),
    (.str (py "signature"), .none), (.str (py "rules"), .list (fileRules.map FileRule.toValue))]

/-- What the loader makes of it. -/
def defaultDocument (clock : ℤ) : BundleDocument where
  version := py "0.1.0"
  issuedAt := PolicyTools.utcNow clock
  bundleId := py "osl-default-bundle"
  rules := fileRules.map FileRule.toDocument

def defaultBundle : PolicyBundle := ⟨fileRules.map FileRule.toRule⟩

/-! ### Loading it -/

open LaxValidators in
theorem FileRule.rule_toValue {lax : LaxValidators} (keeps : lax.Keeps) {rule : FileRule}
    (hmatch : rule.matchOn.toValue.IsJson) : lax.rule rule.toValue = .ok rule.toDocument := by
  obtain ⟨t, ht⟩ := hmatch
  obtain ⟨d, hd, hvalue⟩ := keeps.dict ht
  obtain rfl := PyDict.toValue_injective hvalue
  have hmatchOn : lax.dict rule.matchOn.toValue = .ok rule.matchOn := hd
  clear hvalue hd ht
  obtain ⟨id, description, owasp, matchOn, effect, rationale⟩ := rule
  have hrationale {es : List (Value × Value)}
      (h : Value.lookupStr es (py "rationale") = rationale.map .str) :
      defaulted es (py "rationale") none (nullable lax.str) = .ok rationale := by
    cases rationale with
    | none => simp only [defaulted, h, Option.map_none]
    | some text => exact defaulted_eq_ok h (keeps.nullable (some text))
  rw [FileRule.toValue, LaxValidators.rule]
  refine bind_eq_ok.mpr ⟨id, required_eq_ok rfl (keeps.str _), ?_⟩
  refine bind_eq_ok.mpr ⟨description, defaulted_eq_ok rfl (keeps.str _), ?_⟩
  refine bind_eq_ok.mpr ⟨effect, required_eq_ok rfl (keeps.effect _), ?_⟩
  -- The other fields are looked up beyond the rationale.
  cases rationale with
  | none =>
      refine bind_eq_ok.mpr ⟨100, rfl, bind_eq_ok.mpr ⟨true, rfl, ?_⟩⟩
      refine bind_eq_ok.mpr ⟨matchOn, defaulted_eq_ok rfl hmatchOn, ?_⟩
      exact bind_eq_ok.mpr ⟨[], rfl, bind_eq_ok.mpr ⟨none, hrationale rfl, rfl⟩⟩
  | some text =>
      refine bind_eq_ok.mpr ⟨100, rfl, bind_eq_ok.mpr ⟨true, rfl, ?_⟩⟩
      refine bind_eq_ok.mpr ⟨matchOn, defaulted_eq_ok rfl hmatchOn, ?_⟩
      exact bind_eq_ok.mpr ⟨[], rfl, bind_eq_ok.mpr ⟨some text, hrationale rfl, rfl⟩⟩

theorem isJson_fileRules : ∀ rule ∈ fileRules, rule.matchOn.toValue.IsJson := by
  simp only [fileRules, List.forall_mem_cons, List.not_mem_nil, false_imp_iff, implies_true,
    and_true]
  and_intros <;> exact ⟨_, rfl⟩

namespace PolicyTools

variable {SK PK : Type} {tools : PolicyTools SK PK} {clock : ℤ}

open LaxValidators in
theorem modelValidate_defaultFile (keeps : tools.lax.Keeps) :
    tools.lax.modelValidate (utcNow clock) (.dict (popEntries defaultFile (py "signature"))) =
      .ok (defaultDocument clock) := by
  have hrules : (fileRules.map FileRule.toValue).mapM tools.lax.rule =
      .ok (fileRules.map FileRule.toDocument) := by
    refine mapM_eq_ok.mpr ?_
    rw [List.forall₂_map_left_iff, List.forall₂_map_right_iff]
    exact List.forall₂_same.mpr fun rule hrule =>
      FileRule.rule_toValue keeps (isJson_fileRules rule hrule)
  have hlist : tools.lax.list (.list (fileRules.map FileRule.toValue)) =
      .ok (fileRules.map FileRule.toValue) := keeps.list _
  generalize hvalues : fileRules.map FileRule.toValue = values at hrules hlist
  have hpopped : popEntries defaultFile (py "signature") =
      [(.str (py "version"), .str (py "0.1.0")),
        (.str (py "bundle_id"), .str (py "osl-default-bundle")), (.str (py "signed_at"), .none),
        (.str (py "rules"), .list values)] := by
    rw [defaultFile, hvalues, popEntries_str, if_neg (by decide), popEntries_str,
      if_neg (by decide), popEntries_str, if_neg (by decide), popEntries_str, if_pos rfl,
      popEntries_str, if_neg (by decide)]
    rfl
  rw [hpopped, LaxValidators.modelValidate]
  refine bind_eq_ok.mpr ⟨_, required_eq_ok rfl (keeps.str _), ?_⟩
  refine bind_eq_ok.mpr ⟨utcNow clock, rfl, bind_eq_ok.mpr ⟨[], rfl, ?_⟩⟩
  refine bind_eq_ok.mpr ⟨_, defaulted_eq_ok rfl (keeps.str _), ?_⟩
  refine bind_eq_ok.mpr ⟨_, required_eq_ok rfl (bind_eq_ok.mpr ⟨values, hlist, hrules⟩), ?_⟩
  exact bind_eq_ok.mpr ⟨none, rfl, bind_eq_ok.mpr ⟨none, rfl, rfl⟩⟩

/-- **The file is loaded without a key** and as the bundle that the engine then has. -/
theorem bundleOf_defaultFile (keeps : tools.lax.Keeps) :
    tools.bundleOf clock none defaultFile = .ok (defaultDocument clock) :=
  bind_eq_ok.mpr ⟨_, modelValidate_defaultFile keeps, rfl⟩

/-- Under any key it is refused, as its signature is still missing. -/
theorem bundleOf_defaultFile_of_key (keeps : tools.lax.Keeps) (publicKey : PK) :
    tools.bundleOf clock (some publicKey) defaultFile =
      .error (policyError (py "Public key supplied but bundle has no signature")) := by
  rw [bundleOf, modelValidate_defaultFile keeps]
  rfl

end PolicyTools

theorem toBundle_defaultDocument (clock : ℤ) : (defaultDocument clock).toBundle = defaultBundle := by
  rw [BundleDocument.toBundle, defaultDocument, List.map_map]
  rfl

/-! ### Rules that never raise -/

/-- The check of the entry returns, whatever the action is. -/
def MatchKey.calm : MatchKey → Value → Bool
  | .factorCodeAny, v | .factorCodeAll, v => (ensureList v).all Value.hashable
  | .didPrefix, v | .minSeverity, v | .argsContains, v => v.isNone
  | _, _ => true

def PolicyRule.Calm (rule : PolicyRule) : Prop :=
  ∀ e ∈ rule.matchOn.entries, (MatchKey.parse e.1).calm e.2 = true

instance : DecidablePred PolicyRule.Calm :=
  fun rule => inferInstanceAs (Decidable (∀ e ∈ rule.matchOn.entries, _))

section Calm

variable {rt : PyRuntime} {action : Action} {identity : Option Identity}
  {factors : List RiskFactor} {rule : PolicyRule}

theorem MatchKey.not_aborts_of_calm {k : MatchKey} {v : Value} (h : k.calm v = true) :
    ¬ Aborts rt action k v := by
  have hnone (h : v.isNone = true) : v = .none := by
    cases v <;> first | rfl | cases h
  have hhashable (h : (ensureList v).all Value.hashable = true) :
      ¬ ∃ w ∈ ensureList v, w.hashable = false := by
    rintro ⟨w, hw, hfalse⟩
    cases (List.all_eq_true.mp h w hw).symm.trans hfalse
  cases k with
  | factorCodeAny => exact hhashable h
  | factorCodeAll => exact hhashable h
  | didPrefix =>
      rw [hnone h]
      exact Bool.noConfusion
  | minSeverity =>
      rw [hnone h]
      exact fun ⟨_, hint, _⟩ => Value.noConfusion hint
  | argsContains => exact fun haborts => haborts.1 (hnone h)
  | _ => exact id

/-- None of its entries aborts a check, and it has no needle to search for. -/
theorem PolicyRule.Calm.ruleMatches_returns (h : rule.Calm) :
    ∃ b, PolicyEngine.ruleMatches rt action identity factors rule = .ok b := by
  refine (ruleMatches_returns_iff fun v hv hgiven => ?_).mpr ?_
  · have hcalm : MatchKey.argsContains.calm v = true := h _ hv
    cases v <;> first | exact absurd rfl hgiven | cases hcalm
  · rintro ⟨e, he, haborts, -⟩
    exact MatchKey.not_aborts_of_calm (h e he) haborts

end Calm

theorem calm_defaultBundle : ∀ rule ∈ defaultBundle.rules, rule.Calm := by decide

/-- The engine returns with it, whatever the action and the factors are. -/
theorem evaluate_defaultBundle (rt : PyRuntime) (action : Action) (identity : Option Identity)
    (factors : List RiskFactor) :
    ∃ ms, (⟨defaultBundle⟩ : PolicyEngine).evaluate rt action identity factors = .ok ms := by
  refine PolicyEngine.evaluate_returns_iff.mpr fun h => ?_
  obtain ⟨rule, hrule, -, hraised⟩ := h
  exact not_raised_iff.mpr (calm_defaultBundle rule hrule).ruleMatches_returns hraised

/-! ### Everything is denied -/

/-- This rule is left with nothing to match, and denies. -/
theorem blanket_identityUnsignedRequired : identityUnsignedRequired.toRule.Blanket := by decide

theorem mem_defaultBundle {rule : FileRule} (h : rule ∈ fileRules) :
    rule.toRule ∈ defaultBundle.rules := List.mem_map_of_mem h

theorem PipelineDeps.evaluate_default (rt : PyRuntime) {deps : PipelineDeps} {r : Readings}
    {action : Action} {outcome : IdentityOutcome}
    (houtcome : (deps.resolveIdentity r action).1 = .ok outcome) :
    ∃ d, ((deps.withBundle defaultBundle).evaluate rt r action).1 = .ok d ∧ d.verdict = .deny := by
  obtain ⟨ms, hms⟩ := evaluate_defaultBundle rt action outcome.identity
    ((deps.withBundle defaultBundle).collectFactors r action outcome)
  obtain ⟨d, hd⟩ : ∃ d, ((deps.withBundle defaultBundle).evaluate rt r action).1 = .ok d :=
    ⟨_, evaluate_eq_ok.mpr ⟨outcome, ms, houtcome, hms, rfl⟩⟩
  have hdeny : identityUnsignedRequired.toRule.effect.verdict ≤ d.verdict :=
    effect_le_of_blanket (mem_defaultBundle (by simp [fileRules])) rfl
      blanket_identityUnsignedRequired hd
  exact ⟨d, hd, le_antisymm (by cases d.verdict <;> decide) hdeny⟩

/-- **With the default bundle every decision is a denial**, and none is withheld. The bundle is
what the loader makes of the file; under a public key it makes nothing of it. -/
theorem default_denies {SK PK : Type} {tools : PolicyTools SK PK} (keeps : tools.lax.Keeps)
    (clock : ℤ) :
    (∀ publicKey, Raised (tools.bundleOf clock (some publicKey) defaultFile)) ∧
      ∃ bundle, tools.bundleOf clock none defaultFile = .ok bundle ∧
        ∀ (deps : PipelineDeps) (rt : PyRuntime) (r : Readings) (action : Action)
          (outcome : IdentityOutcome), (deps.resolveIdentity r action).1 = .ok outcome →
          ∃ d, ((deps.withBundle bundle.toBundle).evaluate rt r action).1 = .ok d ∧
            d.verdict = .deny := by
  refine ⟨fun publicKey => ⟨_, PolicyTools.bundleOf_defaultFile_of_key keeps publicKey⟩,
    _, PolicyTools.bundleOf_defaultFile keeps, fun deps rt r action outcome houtcome => ?_⟩
  rw [toBundle_defaultDocument]
  exact PipelineDeps.evaluate_default rt houtcome

theorem default_denies_payment : ∃ bundle d,
    PolicyTools.shellTools.bundleOf 0 none defaultFile = .ok bundle ∧
      (((quietDeps [] default).withBundle bundle.toBundle).evaluate default .zero
        (Detectors.payment Detectors.accessKey .empty)).1 = .ok d ∧ d.verdict = .deny := by
  obtain ⟨bundle, hbundle, hdenies⟩ :=
    (@default_denies _ _ PolicyTools.shellTools PolicyTools.exactTypes_keeps 0).2
  obtain ⟨d, hd⟩ := hdenies (quietDeps [] default) default .zero
    (Detectors.payment Detectors.accessKey .empty) ⟨some default, false, false⟩
    (PipelineDeps.resolveIdentity_of_registered (by decide) rfl rfl)
  exact ⟨bundle, d, hbundle, hd⟩

/-! ### Which rules decide -/

section Matches

variable {rt : PyRuntime} {action : Action} {identity : Option Identity}
  {factors : List RiskFactor} {rule : PolicyRule} {codes : List PyStr}

theorem passes_codes : Passes rt action identity factors .factorCodeAny (strings codes) ↔
    ∃ f ∈ factors, f.code ∈ codes := by
  have hensure : ensureList (strings codes) = codes.map .str := rfl
  have hcrash : ¬ Crashes rt action identity factors .factorCodeAny (strings codes) := by
    intro h
    obtain ⟨w, hw, hhash⟩ := h.2
    obtain ⟨code, -, rfl⟩ := List.mem_map.mp (hensure ▸ hw)
    cases hhash
  have hignored : ¬ Ignored action .factorCodeAny (strings codes) := fun h => nomatch h
  rw [Passes, or_iff_right hignored, and_iff_left hcrash, Satisfied, hensure]
  simp only [List.mem_map, exists_exists_and_eq_and, Value.pyEq, beq_iff_eq]
  constructor
  · intro h
    obtain ⟨code, hcode, f, hf, heq⟩ := h
    exact ⟨f, hf, heq ▸ hcode⟩
  · intro h
    obtain ⟨f, hf, hcode⟩ := h
    exact ⟨f.code, hcode, f, hf, rfl⟩

/-- A rule that asks for codes and for nothing else that is known. -/
theorem matches_codes_iff
    (h : rule.recognised.matchOn.entries = [(py "risk.factor_code_any", strings codes)]) :
    PolicyEngine.ruleMatches rt action identity factors rule = .ok true ↔
      ∃ f ∈ factors, f.code ∈ codes := by
  have hkey : MatchKey.parse (py "risk.factor_code_any") = .factorCodeAny := by decide
  rw [(matchAgree_recognised rule).ruleMatches, ruleMatches_eq_true, h]
  simp only [List.mem_singleton, forall_eq, hkey, passes_codes]

/-- A rule with an entry that does not pass. -/
theorem not_matches_of_entry {e : PyStr × Value} (he : e ∈ rule.matchOn.entries)
    (h : ¬ Passes rt action identity factors (MatchKey.parse e.1) e.2) :
    PolicyEngine.ruleMatches rt action identity factors rule ≠ .ok true :=
  fun hmatch => h (ruleMatches_eq_true.mp hmatch e he)

theorem not_passes_type {s : PyStr} (h : ∀ type : ActionType, type.value ≠ s) :
    ¬ Passes rt action identity factors .actionType (.str s) := by
  simp [Passes, Ignored, Satisfied, Value.pyEq, h]

theorem not_passes_tier {s : PyStr} (h : ∀ tier : TrustTier, tier.value ≠ s) :
    ¬ Passes rt action identity factors .identityTier (.str s) := by
  simp [Passes, Ignored, Satisfied, Value.pyEq, h]

end Matches

/-- The ids of the rules that match where the factors are of the known kinds. Five match
always; those that are missing never do. -/
def defaultTriggered (factors : List RiskFactor) : List PyStr :=
  let codes := factors.map (·.code)
  (if codes.contains (py "tool.no_capability") then [py "tool-no-capability"] else []) ++
    [py "tool-sensitive-escalate", py "identity-unsigned-required"] ++
    (if codes.contains (py "anomaly.rate_spike") then [py "rogue-anomaly-spike"] else []) ++
    [py "supply-chain-unverified-bundle", py "cascade-degraded-mode",
      py "human-trust-explain-required"]

/-- All rules have the same priority. -/
theorem byPriority_defaultBundle : defaultBundle.byPriority = fileRules.map FileRule.toRule := by
  have henabled : (fileRules.map FileRule.toRule).filter (·.enabled) =
      fileRules.map FileRule.toRule := rfl
  rw [PolicyBundle.byPriority, defaultBundle, henabled]
  exact List.Pairwise.insertionSort_eq (by decide)

theorem triggered_defaultBundle {rt : PyRuntime} {action : Action} {identity : Option Identity}
    {factors : List RiskFactor} {ms : List RuleMatch} (hkinds : OfKinds factorKinds factors)
    (h : (⟨defaultBundle⟩ : PolicyEngine).evaluate rt action identity factors = .ok ms) :
    ms.map (·.rule.id) = defaultTriggered factors := by
  -- Codes that no kind has are none of the factors'.
  have hnever (rule : FileRule) {codes : List PyStr}
      (hentry : (py "risk.factor_code_any", strings codes) ∈ rule.matchOn.entries)
      (hcodes : ∀ kind ∈ factorKinds, kind.code ∉ codes) :
      PolicyEngine.ruleMatches rt action identity factors rule.toRule ≠ .ok true := by
    refine not_matches_of_entry hentry fun hpass => ?_
    obtain ⟨f, hf, hcode⟩ := passes_codes.mp hpass
    exact hcodes f.kind (hkinds f hf) hcode
  have hblanket (rule : FileRule) (h : rule.toRule.Blanket) :
      PolicyEngine.ruleMatches rt action identity factors rule.toRule = .ok true := h.ruleMatches
  have honly (rule : FileRule) {codes : List PyStr} (code : PyStr)
      (h : rule.toRule.recognised.matchOn.entries = [(py "risk.factor_code_any", strings codes)])
      (hcodes : ∀ kind ∈ factorKinds, kind.code ∈ codes ↔ kind.code = code) :
      PolicyEngine.ruleMatches rt action identity factors rule.toRule = .ok true ↔
        (factors.map (·.code)).contains code = true := by
    rw [matches_codes_iff h, List.contains_iff_mem, List.mem_map]
    refine exists_congr fun f => and_congr_right fun hf => ?_
    exact hcodes f.kind (hkinds f hf)
  have hgoal := hnever goalHijackMismatch List.mem_cons_self (by decide)
  have hpoison := hnever memPoisonInjection (List.mem_cons_of_mem _ List.mem_cons_self)
    (by decide)
  have hwrite : PolicyEngine.ruleMatches rt action identity factors memWriteUntrustedTier.toRule ≠
      .ok true :=
    not_matches_of_entry (e := (py "identity.tier", .str (py "untrusted")))
      (List.mem_cons_of_mem _ List.mem_cons_self)
      (not_passes_tier (by intro tier; cases tier <;> decide))
  have hexec : PolicyEngine.ruleMatches rt action identity factors codeExecEscalate.toRule ≠
      .ok true :=
    not_matches_of_entry (e := (py "action.type", .str (py "code_exec"))) List.mem_cons_self
      (not_passes_type (by intro type; cases type <;> decide))
  have hiatp := hnever iatpInvalidSignature List.mem_cons_self (by decide)
  have hdlp := hnever dlpSecretBlock List.mem_cons_self (by decide)
  have hcapability := honly toolNoCapability (py "tool.no_capability") rfl
    (by decide)
  have hspike := honly fileRogueAnomalySpike (py "anomaly.rate_spike") rfl
    (by decide)
  have hsensitive := hblanket toolSensitiveEscalate (by decide)
  have hunsigned := hblanket identityUnsignedRequired blanket_identityUnsignedRequired
  have hsupply := hblanket supplyChainUnverifiedBundle (by decide)
  have hcascade := hblanket cascadeDegradedMode (by decide)
  have hhuman := hblanket humanTrustExplainRequired (by decide)
  have hms := (PolicyEngine.matchRules_eq_ok h).2
  rw [hms, byPriority_defaultBundle, List.map_map]
  simp only [fileRules, List.map_cons, List.map_nil, List.filter_cons, List.filter_nil, hgoal,
    hpoison, hwrite, hexec, hiatp, hdlp, hcapability, hspike, hsensitive, hunsigned, hsupply,
    hcascade, hhuman, decide_false, decide_true, if_true, if_false, Bool.false_eq_true,
    decide_eq_true_eq, defaultTriggered]
  split_ifs <;> rfl

/-- **Which rules decide**, with the detectors of the repository: five always, two on a missing
capability and on a burst of actions, and six never. -/
theorem triggered_by_default {detectors : Detectors} {deps : PipelineDeps} {rt : PyRuntime}
    {r : Readings} {action : Action} {d : Decision}
    (h : (((detectors.wire deps).withBundle defaultBundle).evaluate rt r action).1 = .ok d) :
    d.explanation.triggeredRuleIds = defaultTriggered d.explanation.riskFactors := by
  obtain ⟨outcome, ms, -, hms, rfl⟩ := PipelineDeps.evaluate_eq_ok.mp h
  refine reconcile_ruleIds.trans (triggered_defaultBundle ?_ hms)
  exact Detectors.ofKinds_collectFactors

theorem triggered_by_default_payment : ∃ d,
    (((Detectors.plain.wire (quietDeps [] default)).withBundle defaultBundle).evaluate default .zero
      (Detectors.payment Detectors.accessKey .empty)).1 = .ok d ∧
    d.explanation.triggeredRuleIds = defaultTriggered d.explanation.riskFactors := by
  have houtcome : ((Detectors.plain.wire (quietDeps [] default)).resolveIdentity .zero
      (Detectors.payment Detectors.accessKey .empty)).1 = .ok ⟨some default, false, false⟩ :=
    PipelineDeps.resolveIdentity_of_registered (by decide) rfl rfl
  obtain ⟨d, hd, -⟩ := PipelineDeps.evaluate_default default houtcome
  exact ⟨d, hd, triggered_by_default hd⟩

end AgentSentinel
