import AgentSentinel.Classifiers.AnomalyDetector
import AgentSentinel.Classifiers.InjectionDetector
import AgentSentinel.Classifiers.IntentClassifier
import AgentSentinel.Core.Pipeline
import AgentSentinel.Core.Quotation

/-!
# AgentSentinel.Core.QuotedTexts

The texts that the risk factors of an evaluation quote. Each classifier has the list of
what it quotes beside it, branch by branch as the classifier decides, and the factors of
a run that returns are harmless wording around that list. A run that raises quotes the
start of the exception's text.
-/

namespace AgentSentinel

open Lib

variable {db : CharacterData} {action : Action} {identity : Option Identity} {now : PyDatetime}

theorem Quote.unknownIdentity : Quote [unknownIdentity action] [action.agentDid] := by
  have hlabel : harmless (factorLabel (py "identity.unknown") (py "identity_resolver")) = true := by
    rw [py_ofList, py_ofList]
    decide
  refine .single hlabel fun hs => ?_
  simp (disch := rw [py_ofList]; decide) only [RiskFactor.body, AgentSentinel.unknownIdentity,
    List.flatMap_cons, List.flatMap_nil, List.append_nil, occurs_cons, occurs_nil,
    hs.infix_opening, hs.not_infix, or_false]

theorem Quote.classifierError {qualname : PyStr} {e : PyExc}
    (hlabel : harmless (factorLabel (py "classifier.error") qualname) = true) :
    Quote [classifierError qualname e] [e.msg.take 200] := by
  refine .single hlabel fun hs => ?_
  simp (disch := rw [py_ofList]; decide) only [RiskFactor.body, AgentSentinel.classifierError,
    List.flatMap_cons, List.flatMap_nil, List.append_nil, occurs_cons, occurs_nil, hs.not_infix,
    or_false, false_or]

/-- What a classifier's run quotes: its own quotations, or the start of an exception's
text. -/
def quotedBy (run : Result (List RiskFactor)) (qs : List PyStr) : List PyStr :=
  match run with
  | .ok _ => qs
  | .error e => [e.msg.take 200]

theorem Quote.safeRun {qualname : PyStr} {run : Result (List RiskFactor)} {qs : List PyStr}
    (hlabel : harmless (factorLabel (py "classifier.error") qualname) = true)
    (hok : ∀ fs, run = .ok fs → Quote fs qs) : Quote (safeRun qualname run) (quotedBy run qs) := by
  cases run with
  | ok fs => exact hok fs rfl
  | error e => exact Quote.classifierError hlabel

/-! ### The intent classifier -/

/-- The texts in the factor of an intent that drifts. -/
def IntentClassifier.quoted (classifier : IntentClassifier) (db : CharacterData)
    (action : Action) : List PyStr :=
  match classifier.assess db action with
  | .ok (.drift intent lexicalOverlap semanticOverlap) =>
    [intent.take 200, action.tool.getD [], fixed3 lexicalOverlap, fixed3 semanticOverlap]
  | _ => []

theorem harmless_actionType (type : ActionType) : harmless type.value = true := by
  cases type <;> decide

theorem harmless_driftMessage : harmless
    (py "Declared intent does not align with the action being taken. " ++
      py "Possible goal hijacking or prompt-driven redirection.") = true := by
  rw [py_ofList, py_ofList]
  decide +kernel

theorem IntentClassifier.quote_classify {classifier : IntentClassifier} {fs : List RiskFactor}
    (h : classifier.classify db action = .ok fs) : Quote fs (classifier.quoted db action) := by
  obtain ⟨assessment, hassess, hrest⟩ := bind_eq_ok.mp h
  simp only [quoted, hassess]
  cases assessment with
  | missing =>
      obtain ⟨f, hf, hfs⟩ := bind_eq_ok.mp hrest
      obtain rfl := Except.ok.inj hfs
      refine .of_make hf (by rw [py_ofList, py_ofList]; decide) fun hs => ?_
      simp (disch := rw [py_ofList]; decide) only [List.flatMap_cons, List.flatMap_nil,
        List.append_nil, occurs_cons, occurs_nil, hs.not_infix, or_false]
  | aligned =>
      obtain rfl := Except.ok.inj hrest
      exact .nil
  | drift intent lexicalOverlap semanticOverlap =>
      obtain ⟨f, hf, hfs⟩ := bind_eq_ok.mp hrest
      obtain rfl := Except.ok.inj hfs
      refine .of_make hf ?_ fun hs => ?_
      · split
        · rw [py_ofList, py_ofList]
          decide
        · rw [py_ofList, py_ofList]
          decide
      · simp (disch := rw [py_ofList]; decide) only [List.flatMap_cons, List.flatMap_nil,
          List.append_nil, List.cons_append, List.nil_append, occurs_cons, occurs_nil,
          hs.not_infix harmless_driftMessage, hs.not_infix (harmless_actionType action.type),
          hs.not_infix, false_or, or_false]

/-! ### The tool validator -/

namespace ToolValidator

/-- The texts in the report of a missing capability. -/
def quotedCapability (now : PyDatetime) (identity : Option Identity) (spec : ToolSpec) :
    List PyStr :=
  match identity with
  | none => []
  | some identity =>
    match identity.hasCapability now spec.capability with
    | .ok false => [identity.did, spec.capability, spec.name]
    | _ => []

/-- The texts in the report of arguments that violate the schema. -/
def quotedArguments (v : ToolValidator) (action : Action) (spec : ToolSpec) : List PyStr :=
  if spec.argsSchema.entries.isEmpty then []
  else
    match v.schemaValidate action.arguments spec.argsSchema with
    | .invalid message path => [message, spec.name, PyStr.join (py "/") path]
    | _ => []

/-- The texts in the factors of a validator that returns. -/
def quoted (v : ToolValidator) (now : PyDatetime) (action : Action)
    (identity : Option Identity) : List PyStr :=
  match action.toolName with
  | none => []
  | some tool =>
    match v.registry.get tool with
    | none => [tool]
    | some spec =>
      if spec.quarantined then [spec.name]
      else quotedCapability now identity spec ++ v.quotedArguments action spec

variable {v : ToolValidator} {spec : ToolSpec} {fs : List RiskFactor}

theorem quote_unknownTool {tool : PyStr} : Quote [unknownTool tool] [tool] := by
  have hlabel : harmless (factorLabel (py "tool.unknown") (py "tool_validator")) = true := by
    rw [py_ofList, py_ofList]
    decide
  refine .single hlabel fun hs => ?_
  simp (disch := rw [py_ofList]; decide) only [RiskFactor.body, unknownTool, factor,
    List.flatMap_cons, List.flatMap_nil, List.append_nil, occurs_cons, occurs_nil, hs.infix_closing,
    hs.infix_opening, hs.not_infix, or_false]

theorem quote_quarantinedTool : Quote [quarantinedTool spec] [spec.name] := by
  have hlabel : harmless (factorLabel (py "tool.quarantined") (py "tool_validator")) = true := by
    rw [py_ofList, py_ofList]
    decide
  refine .single hlabel fun hs => ?_
  simp (disch := rw [py_ofList]; decide) only [RiskFactor.body, quarantinedTool, factor,
    List.flatMap_cons, List.flatMap_nil, List.append_nil, occurs_cons, occurs_nil,
    hs.infix_closing, hs.infix_opening, hs.not_infix, or_false]

theorem quote_argsInvalid {message : PyStr} {path : List PyStr} :
    Quote [argsInvalid spec message path] [message, spec.name, PyStr.join (py "/") path] := by
  have hlabel : harmless (factorLabel (py "tool.args_invalid") (py "tool_validator")) = true := by
    rw [py_ofList, py_ofList]
    decide
  refine .single hlabel fun hs => ?_
  simp (disch := rw [py_ofList]; decide) only [RiskFactor.body, argsInvalid, factor,
    List.flatMap_cons, List.flatMap_nil, List.append_nil, List.cons_append, List.nil_append,
    occurs_cons, occurs_nil, hs.infix_opening, hs.not_infix, or_false, false_or]

theorem quote_noCapability {identity : Identity} {f : RiskFactor}
    (h : noCapability identity spec = .ok f) :
    Quote [f] [identity.did, spec.capability, spec.name] := by
  refine .of_make h (by rw [py_ofList, py_ofList]; decide) fun {s} hs => ?_
  have hmessage : s <:+: py "Identity " ++ identity.did ++ py " lacks capability '" ++
        spec.capability ++ py "' required to invoke '" ++ spec.name ++ py "'." ↔
      (s <:+: identity.did ∨ s <:+: spec.capability) ∨ s <:+: spec.name := by
    have hquote : py " lacks capability '" = afterName ++ [0x27] := by
      rw [afterName, py_ofList, py_ofList]
      decide
    have hmiddle : closing (py "' required to invoke '") = true ∧
        opening (py "' required to invoke '") = true := by
      rw [py_ofList]
      decide
    rw [hs.infix_closing (by rw [py_ofList]; decide), hs.infix_between hmiddle.1 hmiddle.2,
      hquote, ← List.append_assoc,
      List.append_assoc _ [0x27], List.singleton_append, infix_separator (hs.plain 0x27 rfl),
      hs.infix_name (by rw [py_ofList]; decide)]
  simp (disch := rw [py_ofList]; decide) only [hmessage, List.flatMap_cons, List.flatMap_nil,
    List.append_nil, List.cons_append, List.nil_append, occurs_cons, occurs_nil, hs.not_infix,
    or_false, false_or]
  tauto

theorem quote_checkCapability {fs : List RiskFactor}
    (h : checkCapability now identity spec = .ok fs) :
    Quote fs (quotedCapability now identity spec) := by
  cases identity with
  | none =>
      obtain rfl := Except.ok.inj h
      exact .nil
  | some identity =>
      obtain ⟨held, hheld, hrest⟩ := bind_eq_ok.mp h
      simp only [quotedCapability, hheld]
      cases held with
      | true =>
          obtain rfl := Except.ok.inj hrest
          exact .nil
      | false =>
          obtain ⟨f, hf, hfs⟩ := bind_eq_ok.mp hrest
          obtain rfl := Except.ok.inj hfs
          exact quote_noCapability hf

theorem quote_checkSchema (h : v.checkSchema action spec = .ok fs) :
    Quote fs (v.quotedArguments action spec) := by
  unfold checkSchema at h
  unfold quotedArguments
  split at h
  case isTrue hempty =>
      obtain rfl := Except.ok.inj h
      rw [if_pos hempty]
      exact .nil
  case isFalse hempty =>
      rw [if_neg hempty]
      cases hout : v.schemaValidate action.arguments spec.argsSchema with
      | valid =>
          rw [hout] at h
          obtain rfl := Except.ok.inj h
          exact .nil
      | invalid message path =>
          rw [hout] at h
          obtain rfl := Except.ok.inj h
          exact quote_argsInvalid
      | raised e =>
          rw [hout] at h
          cases h

theorem quote_validate (h : v.validate now action identity = .ok fs) :
    Quote fs (v.quoted now action identity) := by
  unfold validate at h
  unfold quoted
  cases htool : action.toolName with
  | none =>
      rw [htool] at h
      obtain rfl := Except.ok.inj h
      exact .nil
  | some tool =>
      simp only [htool] at h ⊢
      cases hspec : v.registry.get tool with
      | none =>
          rw [hspec] at h
          obtain rfl := Except.ok.inj h
          exact quote_unknownTool
      | some spec =>
          simp only [hspec] at h ⊢
          split at h
          case isTrue hquar =>
              obtain rfl := Except.ok.inj h
              rw [if_pos hquar]
              exact quote_quarantinedTool
          case isFalse hquar =>
              rw [if_neg hquar]
              obtain ⟨cs, hcs, hrest⟩ := bind_eq_ok.mp h
              obtain ⟨ss, hss, hfs⟩ := bind_eq_ok.mp hrest
              obtain rfl := Except.ok.inj hfs
              exact (quote_checkCapability hcs).append (quote_checkSchema hss)

end ToolValidator

/-! ### The anomaly detector -/

namespace AnomalyDetector

variable {detector : AnomalyDetector} {win : AgentWindow} {fs : List RiskFactor}

/-- The numbers in the report of a rate above the baseline. -/
def quotedSpike (detector : AnomalyDetector) (win : AgentWindow) : List PyStr :=
  let n := win.actions.length
  let rate := toDouble (n / max win.horizonSeconds 1)
  if 50 < n ∧ toDouble (detector.spikeFactor * toDouble (1 / 60)) < rate then
    [natText n, fixed3 rate]
  else []

/-- The texts in the report of a tool used for the first time. -/
def quotedTool (detector : AnomalyDetector) (win : AgentWindow) : Option PyStr → List PyStr
  | none => []
  | some tool =>
    let n := win.actions.length
    if detector.rareMin ≤ n ∧ (win.actions.countP fun a => a.2.2 = tool) = 0 then
      [tool, natText n]
    else []

/-- The texts in the factors of a detector that returns. -/
def quoted (detector : AnomalyDetector) (win : AgentWindow) (action : Action) : List PyStr :=
  detector.quotedSpike win ++ detector.quotedTool win action.toolName

theorem quote_rateSpike (h : detector.rateSpike win = .ok fs) :
    Quote fs (detector.quotedSpike win) := by
  refine .of_if h fun f hf => ?_
  refine .of_make hf (by rw [py_ofList, py_ofList]; decide) fun hs => ?_
  simp (disch := rw [py_ofList]; decide) only [List.flatMap_cons, List.flatMap_nil,
    List.append_nil, List.cons_append, List.nil_append, occurs_cons, occurs_nil, hs.not_infix,
    or_false, false_or]

theorem quote_novelTool {tool : Option PyStr} (h : detector.novelTool win tool = .ok fs) :
    Quote fs (detector.quotedTool win tool) := by
  cases tool with
  | none =>
      obtain rfl := Except.ok.inj h
      exact .nil
  | some tool =>
      refine .of_if h fun f hf => ?_
      refine .of_make hf (by rw [py_ofList, py_ofList]; decide) fun hs => ?_
      simp (disch := rw [py_ofList]; decide) only [List.flatMap_cons, List.flatMap_nil,
        List.append_nil, List.cons_append, List.nil_append, occurs_cons, occurs_nil,
        hs.infix_closing, hs.infix_opening, hs.not_infix, or_false, false_or, or_self_left]

theorem quote_findings (h : detector.findings win action = .ok fs) :
    Quote fs (detector.quoted win action) := by
  obtain ⟨spike, hspike, hrest⟩ := bind_eq_ok.mp h
  obtain ⟨novel, hnovel, hfs⟩ := bind_eq_ok.mp hrest
  obtain rfl := Except.ok.inj hfs
  exact (quote_rateSpike hspike).append (quote_novelTool hnovel)

end AnomalyDetector

/-! ### The injection detector -/

/-- The numbers in the factor of the injection detector. -/
def PromptInjectionDetector.quoted (detector : PromptInjectionDetector) (db : CharacterData)
    (action : Action) : List PyStr :=
  if detector.suspects db action then
    [natText (detector.patternHits db action), fixed3 (detector.modelScore action)]
  else []

theorem harmless_injectionMessage : harmless
    (py "Suspected prompt-injection or instruction-override pattern in agent input. " ++
      py "Review the offending fields and consider quarantine.") = true := by
  rw [py_ofList, py_ofList]
  decide +kernel

theorem PromptInjectionDetector.quote_scan {detector : PromptInjectionDetector}
    {fs : List RiskFactor} (h : detector.scan db action = .ok fs) :
    Quote fs (detector.quoted db action) := by
  refine .of_if h fun f hf => ?_
  refine .of_make hf ?_ fun hs => ?_
  · split
    · rw [py_ofList, py_ofList]
      decide +kernel
    · rw [py_ofList, py_ofList]
      decide +kernel
  · simp (disch := rw [py_ofList]; decide) only [List.flatMap_cons, List.flatMap_nil,
      List.append_nil, List.cons_append, List.nil_append, occurs_cons, occurs_nil,
      hs.not_infix harmless_injectionMessage, hs.not_infix, or_false, false_or]

/-! ### The DLP scanner -/

theorem harmless_defaultRules (db : CharacterData) : ((defaultRules db).all fun rule =>
    harmless (factorLabel rule.code (py "dlp_scanner")) && harmless rule.message &&
      harmless rule.references) = true := by
  simp only [defaultRules, DLPRule.awsAccessKey, DLPRule.privateKeyBlock, DLPRule.bearerToken,
    DLPRule.email, DLPRule.creditCard, DLPRule.usSsn, factorLabel]
  repeat rw [py_ofList]
  rfl

theorem quote_report {rule : DLPRule} (hrule : rule ∈ defaultRules db) {m : PyStr}
    {f : RiskFactor} (h : rule.report m = .ok f) : Quote [f] [] := by
  have hall := List.all_eq_true.mp (harmless_defaultRules db) rule hrule
  simp only [Bool.and_eq_true] at hall
  obtain ⟨⟨hlabel, hmessage⟩, hreferences⟩ := hall
  refine .of_make h hlabel fun {s} hs => ?_
  have hsnippet : ¬ s <:+: (redact m).take 64 := by
    intro h
    have hshort := length_le_of_infix_redact (hs.plain 0x2A rfl) h
    have hlong := hs.long
    omega
  simp (disch := rw [py_ofList]; decide) only [List.flatMap_cons, List.flatMap_nil, List.append_nil,
    List.cons_append, List.nil_append, occurs_cons, occurs_nil, hs.not_infix hmessage,
    hs.not_infix hreferences, hs.not_infix, hsnippet, or_false]

theorem quote_reports {hits : List (DLPRule × PyStr)} {fs : List RiskFactor}
    (hrules : ∀ hit ∈ hits, hit.1 ∈ defaultRules db)
    (h : (hits.mapM fun hit => hit.1.report hit.2) = .ok fs) : Quote fs [] := by
  induction hits generalizing fs with
  | nil =>
      obtain rfl := Except.ok.inj h
      exact .nil
  | cons hit hits ih =>
      rw [List.mapM_cons] at h
      obtain ⟨f, hf, hrest⟩ := bind_eq_ok.mp h
      obtain ⟨gs, hgs, hfs⟩ := bind_eq_ok.mp hrest
      obtain rfl := Except.ok.inj hfs
      have hfirst := quote_report (hrules hit List.mem_cons_self) hf
      have hlater := ih (fun other hother => hrules other (List.mem_cons_of_mem _ hother)) hgs
      exact hfirst.append hlater

theorem report_returns {rule : DLPRule} (hrule : rule ∈ defaultRules db) (m : PyStr) :
    ∃ f, rule.report m = .ok f := by
  have hunit : 0 ≤ rule.severity ∧ rule.severity ≤ 1 := by
    simp only [defaultRules, List.mem_cons, List.not_mem_nil, or_false] at hrule
    rcases hrule with rfl | rfl | rfl | rfl | rfl | rfl <;>
      norm_num [DLPRule.awsAccessKey, DLPRule.privateKeyBlock, DLPRule.bearerToken,
        DLPRule.email, DLPRule.creditCard, DLPRule.usSsn]
  exact ⟨_, dif_pos hunit⟩

theorem reports_return {hits : List (DLPRule × PyStr)}
    (hrules : ∀ hit ∈ hits, hit.1 ∈ defaultRules db) :
    ∃ fs, (hits.mapM fun hit => hit.1.report hit.2) = .ok fs := by
  induction hits with
  | nil => exact ⟨[], rfl⟩
  | cons hit hits ih =>
      obtain ⟨f, hf⟩ := report_returns (hrules hit List.mem_cons_self) hit.2
      obtain ⟨fs, hfs⟩ := ih fun other hother => hrules other (List.mem_cons_of_mem _ hother)
      refine ⟨f :: fs, ?_⟩
      rw [List.mapM_cons, hf]
      exact bind_eq_ok.mpr ⟨f, rfl, bind_eq_ok.mpr ⟨fs, hfs, rfl⟩⟩

namespace DLPScanner

theorem rule_of_mem_found {hit : DLPRule × PyStr}
    (h : hit ∈ (DLPScanner.default db).found action) : hit.1 ∈ defaultRules db := by
  obtain ⟨text, -, hfound⟩ := List.mem_flatMap.mp h
  obtain ⟨rule, hrule, hmatch⟩ := List.mem_filterMap.mp hfound
  obtain ⟨m, -, rfl⟩ := Option.map_eq_some_iff.mp hmatch
  exact hrule

/-- The scanner returns, and shows nothing of any secret. -/
theorem quote_scan {qualname : PyStr} :
    Quote (safeRun qualname ((DLPScanner.default db).scan action)) [] := by
  have hrules (hit : DLPRule × PyStr) (h : hit ∈ (DLPScanner.default db).found action) :
      hit.1 ∈ defaultRules db := rule_of_mem_found h
  obtain ⟨fs, hfs⟩ := reports_return hrules
  have hscan : (DLPScanner.default db).scan action = .ok fs := hfs
  rw [hscan]
  exact quote_reports hrules hfs

end DLPScanner

end AgentSentinel
