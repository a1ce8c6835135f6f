import AgentSentinel.Core.SecretExposure

/-!
# AgentSentinel.Core.Explanation

What a decision says for itself. With the detectors of the repository its factors are of a
few kinds, each with a detector and references of its own, so an explanation is put together
from a closed vocabulary: it refers to the categories of its factors, each once and in the
order they come up, and its remediation names the first of the most severe factors. The
summary alone tells the verdict.
-/

namespace AgentSentinel

open Lib

/-! ### Kinds of factors -/

/-- What a detector reports, whatever the action was. -/
structure FactorKind where
  code : PyStr
  detector : PyStr
  references : List PyStr
  deriving DecidableEq

def RiskFactor.kind (f : RiskFactor) : FactorKind := ⟨f.code, f.detector, refsFor f⟩

def intentKinds : List FactorKind :=
  [py "intent.missing", py "intent.soft_drift", py "intent.hard_drift"].map fun code =>
    ⟨code, py "intent_classifier", [py "OWASP-AGENT-01"]⟩

def toolKinds : List FactorKind :=
  [⟨py "tool.unknown", py "tool_validator", [py "OWASP-AGENT-03"]⟩,
    ⟨py "tool.quarantined", py "tool_validator", [py "OWASP-AGENT-03", py "OWASP-AGENT-06"]⟩,
    ⟨py "tool.no_capability", py "tool_validator", [py "OWASP-AGENT-04"]⟩,
    ⟨py "tool.args_invalid", py "tool_validator", [py "OWASP-AGENT-03"]⟩]

def anomalyKinds : List FactorKind :=
  [⟨py "anomaly.rate_spike", py "anomaly_detector", [py "OWASP-AGENT-05", py "OWASP-AGENT-09"]⟩,
    ⟨py "anomaly.novel_tool", py "anomaly_detector", [py "OWASP-AGENT-05"]⟩]

def injectionKinds : List FactorKind :=
  [py "injection.prompt_injection", py "injection.memory_poisoning"].map fun code =>
    ⟨code, py "prompt_injection_detector", [py "OWASP-AGENT-01", py "OWASP-AGENT-02"]⟩

def dlpKinds : List FactorKind :=
  [py "dlp.aws_access_key", py "dlp.private_key_block", py "dlp.bearer_token", py "dlp.email",
    py "dlp.credit_card", py "dlp.us_ssn"].map fun code =>
      ⟨code, py "dlp_scanner", [py "OWASP-AGENT-04"]⟩

def identityKinds : List FactorKind :=
  [⟨py "identity.unknown", py "identity_resolver", [py "OWASP-AGENT-04"]⟩]

/-- The kind that stands for a classifier that raised. It refers to nothing. -/
def errorKind (qualname : PyStr) : FactorKind := ⟨py "classifier.error", qualname, []⟩

def errorKinds : List FactorKind :=
  [py "IntentClassifier.classify", py "ToolValidator.validate", py "AnomalyDetector.score",
    py "PromptInjectionDetector.scan", py "DLPScanner.scan"].map errorKind

/-- Everything the repository's detectors report, and what stands for their failures. -/
def factorKinds : List FactorKind :=
  identityKinds ++ intentKinds ++ toolKinds ++ anomalyKinds ++ injectionKinds ++ dlpKinds ++
    errorKinds

/-- The factors are of these kinds. -/
def OfKinds (kinds : List FactorKind) (factors : List RiskFactor) : Prop :=
  ∀ f ∈ factors, f.kind ∈ kinds

namespace OfKinds

variable {kinds kinds' : List FactorKind} {fs gs : List RiskFactor}

theorem nil : OfKinds kinds [] := fun _ h => nomatch h

theorem append (hf : OfKinds kinds fs) (hg : OfKinds kinds gs) : OfKinds kinds (fs ++ gs) :=
  fun f h => (List.mem_append.mp h).elim (hf f) (hg f)

theorem mono (h : OfKinds kinds fs) (hsub : kinds ⊆ kinds') : OfKinds kinds' fs :=
  fun f hf => hsub (h f hf)

theorem single {f : RiskFactor} (h : kinds.contains f.kind = true) : OfKinds kinds [f] :=
  fun _ hg => List.mem_singleton.mp hg ▸ List.contains_iff_mem.mp h

/-- One factor that had to be constructed. Its severity is not part of its kind. -/
theorem of_make {code : PyStr} {severity : ℚ} {detector message : PyStr}
    {evidence : PyDict PyStr} {f : RiskFactor}
    (h : RiskFactor.make code severity detector message evidence = .ok f)
    (hkind : kinds.contains
      (⟨code, ⟨0, zero_mem_unit⟩, detector, message, evidence⟩ : RiskFactor).kind = true) :
    OfKinds kinds [f] := by
  obtain ⟨unit, rfl⟩ := RiskFactor.eq_of_make h
  exact single hkind

theorem of_if {p : Prop} [Decidable p] {x : Result RiskFactor}
    (h : (if p then do let f ← x; return [f] else return []) = .ok fs)
    (hone : ∀ f, x = .ok f → OfKinds kinds [f]) : OfKinds kinds fs := by
  split at h
  · obtain ⟨f, hf, hfs⟩ := bind_eq_ok.mp h
    obtain rfl := Except.ok.inj hfs
    exact hone f hf
  · obtain rfl := Except.ok.inj h
    exact nil

/-- A classifier that raises is replaced by a factor of its own kind. -/
theorem safeRun {qualname : PyStr} {run : Result (List RiskFactor)}
    (hok : ∀ fs, run = .ok fs → OfKinds kinds fs)
    (herror : kinds.contains (errorKind qualname) = true) :
    OfKinds kinds (AgentSentinel.safeRun qualname run) := by
  cases run with
  | ok fs => exact hok fs rfl
  | error e => exact single herror

end OfKinds

section Detectors

variable {db : CharacterData} {action : Action} {fs : List RiskFactor}

theorem IntentClassifier.ofKinds_classify {classifier : IntentClassifier}
    (h : classifier.classify db action = .ok fs) : OfKinds intentKinds fs := by
  obtain ⟨assessment, -, hrest⟩ := bind_eq_ok.mp h
  cases assessment with
  | missing =>
      obtain ⟨f, hf, hfs⟩ := bind_eq_ok.mp hrest
      obtain rfl := Except.ok.inj hfs
      exact .of_make hf rfl
  | aligned =>
      obtain rfl := Except.ok.inj hrest
      exact .nil
  | drift intent lexicalOverlap semanticOverlap =>
      obtain ⟨f, hf, hfs⟩ := bind_eq_ok.mp hrest
      obtain rfl := Except.ok.inj hfs
      refine .of_make hf ?_
      split
      · rfl
      · rfl

namespace ToolValidator

variable {v : ToolValidator} {now : PyDatetime} {identity : Option Identity} {spec : ToolSpec}

theorem ofKinds_checkCapability (h : checkCapability now identity spec = .ok fs) :
    OfKinds toolKinds fs := by
  cases identity with
  | none =>
      obtain rfl := Except.ok.inj h
      exact .nil
  | some identity =>
      obtain ⟨held, -, hrest⟩ := bind_eq_ok.mp h
      cases held with
      | true =>
          obtain rfl := Except.ok.inj hrest
          exact .nil
      | false =>
          obtain ⟨f, hf, hfs⟩ := bind_eq_ok.mp hrest
          obtain rfl := Except.ok.inj hfs
          exact .of_make hf rfl

theorem ofKinds_checkSchema (h : v.checkSchema action spec = .ok fs) : OfKinds toolKinds fs := by
  unfold checkSchema at h
  split at h
  case isTrue =>
      obtain rfl := Except.ok.inj h
      exact .nil
  case isFalse =>
      split at h
      · obtain rfl := Except.ok.inj h
        exact .nil
      · obtain rfl := Except.ok.inj h
        exact .single rfl
      · cases h

theorem ofKinds_validate (h : v.validate now action identity = .ok fs) :
    OfKinds toolKinds fs := by
  unfold validate at h
  split at h
  case h_1 =>
      obtain rfl := Except.ok.inj h
      exact .nil
  case h_2 tool _ =>
      split at h
      case h_1 =>
          obtain rfl := Except.ok.inj h
          exact .single rfl
      case h_2 spec _ =>
          split at h
          · obtain rfl := Except.ok.inj h
            exact .single rfl
          · obtain ⟨capability, hcapability, hrest⟩ := bind_eq_ok.mp h
            obtain ⟨schema, hschema, hfs⟩ := bind_eq_ok.mp hrest
            obtain rfl := Except.ok.inj hfs
            exact (ofKinds_checkCapability hcapability).append (ofKinds_checkSchema hschema)

end ToolValidator

namespace AnomalyDetector

variable {detector : AnomalyDetector} {win : AgentWindow}

theorem ofKinds_novelTool {tool : Option PyStr} (h : detector.novelTool win tool = .ok fs) :
    OfKinds anomalyKinds fs := by
  cases tool with
  | none =>
      obtain rfl := Except.ok.inj h
      exact .nil
  | some tool => exact .of_if h fun f hf => .of_make hf rfl

theorem ofKinds_findings (h : detector.findings win action = .ok fs) :
    OfKinds anomalyKinds fs := by
  obtain ⟨spike, hspike, hrest⟩ := bind_eq_ok.mp h
  obtain ⟨novel, hnovel, hfs⟩ := bind_eq_ok.mp hrest
  obtain rfl := Except.ok.inj hfs
  exact (OfKinds.of_if hspike fun f hf => .of_make hf rfl).append
    (ofKinds_novelTool hnovel)

end AnomalyDetector

theorem PromptInjectionDetector.ofKinds_scan {detector : PromptInjectionDetector}
    (h : detector.scan db action = .ok fs) : OfKinds injectionKinds fs := by
  refine .of_if h fun f hf => .of_make hf ?_
  split
  · rfl
  · rfl

theorem DLPRule.kind_of_report {rule : DLPRule} (hrule : rule ∈ defaultRules db) {m : PyStr}
    {f : RiskFactor} (h : rule.report m = .ok f) : f.kind ∈ dlpKinds := by
  suffices hmade : OfKinds dlpKinds [f] from hmade f List.mem_cons_self
  refine .of_make h ?_
  simp only [defaultRules, List.mem_cons, List.not_mem_nil, or_false] at hrule
  rcases hrule with rfl | rfl | rfl | rfl | rfl | rfl <;> rfl

theorem OfKinds.of_reports {hits : List (DLPRule × PyStr)}
    (hrules : ∀ hit ∈ hits, hit.1 ∈ defaultRules db)
    (h : (hits.mapM fun hit => hit.1.report hit.2) = .ok fs) : OfKinds dlpKinds fs := by
  induction hits generalizing fs with
  | nil =>
      obtain rfl := Except.ok.inj h
      exact .nil
  | cons hit hits ih =>
      rw [List.mapM_cons] at h
      obtain ⟨f, hf, hrest⟩ := bind_eq_ok.mp h
      obtain ⟨gs, hgs, hfs⟩ := bind_eq_ok.mp hrest
      obtain rfl := Except.ok.inj hfs
      rw [List.forall_mem_cons] at hrules
      exact List.forall_mem_cons.mpr ⟨DLPRule.kind_of_report hrules.1 hf, ih hrules.2 hgs⟩

theorem DLPScanner.ofKinds_scan (h : (DLPScanner.default db).scan action = .ok fs) :
    OfKinds dlpKinds fs :=
  .of_reports (fun _ => rule_of_mem_found) h

end Detectors

namespace Detectors

variable {detectors : Detectors} {deps : PipelineDeps} {rt : PyRuntime} {r : Readings}
  {action : Action} {d : Decision}

/-- **A closed vocabulary.** -/
theorem ofKinds_collectFactors {outcome : IdentityOutcome} :
    OfKinds factorKinds ((detectors.wire deps).collectFactors r action outcome) := by
  have hunknown : OfKinds factorKinds
      (if outcome.unknown then [unknownIdentity action] else []) := by
    split
    · exact .single rfl
    · exact .nil
  have hanomaly {fs : List RiskFactor}
      (h : (detectors.anomaly.score detectors.baseline detectors.recordedAt action).1 = .ok fs) :
      OfKinds anomalyKinds fs := by
    rw [AnomalyDetector.score_fst] at h
    exact AnomalyDetector.ofKinds_findings h
  refine hunknown.append fun f hf => ?_
  obtain ⟨run, hrun, hf⟩ := List.mem_flatMap.mp hf
  refine OfKinds.safeRun (fun fs h => ?_) ?_ f hf
  all_goals
    simp only [PipelineDeps.classifierRuns, List.mem_cons, List.not_mem_nil, or_false] at hrun
    rcases hrun with rfl | rfl | rfl | rfl | rfl
  · exact (IntentClassifier.ofKinds_classify h).mono (by decide)
  · exact (ToolValidator.ofKinds_validate h).mono (by decide)
  · exact (hanomaly h).mono (by decide)
  · exact (PromptInjectionDetector.ofKinds_scan h).mono (by decide)
  · exact (DLPScanner.ofKinds_scan h).mono (by decide)
  all_goals rfl

end Detectors

/-! ### References and remediation -/

/-- The first occurrences of what is neither empty nor seen before. -/
theorem uniqueRefs_eq (seen refs : List PyStr) : uniqueRefs seen refs =
    (refs.filter fun ref => !ref.isEmpty && !seen.contains ref).eraseDups := by
  induction refs generalizing seen with
  | nil => rfl
  | cons ref refs ih =>
      rw [uniqueRefs, List.filter_cons]
      split
      case isTrue hskip =>
          rw [if_neg (by simpa [or_iff_not_imp_left] using hskip), ih]
      case isFalse hkeep =>
          have hlater : (refs.filter fun r => !r.isEmpty && !(ref :: seen).contains r) =
              (refs.filter fun r => !r.isEmpty && !seen.contains r).filter fun r => !r == ref := by
            rw [List.filter_filter]
            refine List.filter_congr fun r _ => ?_
            rw [List.contains_cons, Bool.not_or, Bool.and_left_comm]
          rw [if_pos (by simpa using hkeep), List.eraseDups_cons, ih, hlater]

theorem nodup_uniqueRefs (seen refs : List PyStr) :
    (uniqueRefs seen refs).Nodup ∧ ∀ ref ∈ uniqueRefs seen refs, ref ∉ seen := by
  induction refs generalizing seen with
  | nil => exact ⟨List.nodup_nil, fun _ h => nomatch h⟩
  | cons ref refs ih =>
      rw [uniqueRefs]
      split
      case isTrue => exact ih seen
      case isFalse hkeep =>
          obtain ⟨hnodup, hnew⟩ := ih (ref :: seen)
          rw [not_or] at hkeep
          refine ⟨List.nodup_cons.mpr ⟨fun h => hnew ref h List.mem_cons_self, hnodup⟩, ?_⟩
          exact List.forall_mem_cons.mpr
            ⟨hkeep.2, fun r hr hseen => hnew r hr (List.mem_cons_of_mem _ hseen)⟩

/-- The search for the top factor is the one for a maximum. -/
theorem argmax_eq_topFactor (f : RiskFactor) (fs : List RiskFactor) :
    (f :: fs).argmax (·.severity.val) = some (topFactor f fs) := by
  rw [List.argmax, List.foldl_cons, topFactor]
  induction fs generalizing f with
  | nil => rfl
  | cons g fs ih =>
      rw [List.foldl_cons, List.foldl_cons, ← ih]
      congr 1
      simp only [List.argAux]
      split <;> rfl

/-- The categories that the kinds refer to. -/
def categories : List PyStr :=
  [py "OWASP-AGENT-01", py "OWASP-AGENT-02", py "OWASP-AGENT-03", py "OWASP-AGENT-04",
    py "OWASP-AGENT-05", py "OWASP-AGENT-06", py "OWASP-AGENT-09"]

theorem categories_of_factorKinds :
    ∀ kind ∈ factorKinds, ∀ ref ∈ kind.references, ref ≠ [] ∧ ref ∈ categories := by
  decide

/-- The advice that goes with the most severe factor. -/
def adviceOn : Option RiskFactor → PyStr
  | none => py "Review the triggered policy rule(s) and adjust agent behavior."
  | some top => py "Top risk factor: " ++ top.code ++ py " (" ++ top.detector ++ py "). " ++
      top.message

theorem remediation_eq (verdict : DecisionVerdict) (factors : List RiskFactor) :
    remediation verdict factors =
      if verdict = .allow then none else some (adviceOn (factors.argmax (·.severity.val))) := by
  cases factors with
  | nil => rfl
  | cons f fs =>
      rw [argmax_eq_topFactor]
      rfl

namespace Detectors

variable {detectors : Detectors} {deps : PipelineDeps} {rt : PyRuntime} {r : Readings}
  {action : Action} {d : Decision}

/-- **What explanations are made of.** The factors are of known kinds, the references are the
categories of these, each once and in the order they come up, and the remediation is about the
first of the most severe factors. -/
theorem explanation_of_kinds (h : ((detectors.wire deps).evaluate rt r action).1 = .ok d) :
    OfKinds factorKinds d.explanation.riskFactors ∧
      d.explanation.references =
        (d.explanation.riskFactors.flatMap fun f => f.kind.references).eraseDups ∧
      d.explanation.references.Nodup ∧ d.explanation.references ⊆ categories ∧
      d.explanation.recommendedRemediation = if d.verdict = .allow then none
        else some (adviceOn (d.explanation.riskFactors.argmax (·.severity.val))) := by
  obtain ⟨outcome, ms, -, -, rfl⟩ := PipelineDeps.evaluate_eq_ok.mp h
  have hkinds : OfKinds factorKinds ((detectors.wire deps).collectFactors r action outcome) :=
    ofKinds_collectFactors
  generalize (detectors.wire deps).collectFactors r action outcome = factors at hkinds ⊢
  have hcategories : ∀ ref ∈ factors.flatMap refsFor, ref ≠ [] ∧ ref ∈ categories := by
    intro ref href
    obtain ⟨f, hf, href⟩ := List.mem_flatMap.mp href
    exact categories_of_factorKinds _ (hkinds f hf) ref href
  refine ⟨hkinds, ?_, (nodup_uniqueRefs _ _).1, ?_, remediation_eq _ _⟩
  · refine (uniqueRefs_eq _ _).trans (congrArg List.eraseDups ?_)
    exact List.filter_eq_self.mpr fun ref href => by simpa using (hcategories ref href).1
  · exact fun ref href => (hcategories ref (mem_of_mem_uniqueRefs href)).2

theorem explanation_of_kinds_payment : ∃ d, ((plain.wire (quietDeps [] default)).evaluate default
      .zero (payment accessKey .empty)).1 = .ok d ∧
    OfKinds factorKinds d.explanation.riskFactors ∧ d.explanation.references ⊆ categories := by
  obtain ⟨d, hd⟩ := evaluate_payment_returns accessKey .empty
  obtain ⟨hkinds, -, -, hcategories, -⟩ := explanation_of_kinds hd
  exact ⟨d, hd, hkinds, hcategories⟩

end Detectors

/-! ### The summary -/

/-- The verdict that a summary speaks of. -/
def summaryVerdict (summary : PyStr) : DecisionVerdict :=
  if summary.startsWith (py "Action denied") then .deny
  else if summary.startsWith (py "Action escalated") then .escalate
  else if summary.startsWith (py "Action throttled") then .throttle
  else if (py "deny threshold.").isSuffixOf summary then .deny
  else if (py "escalate threshold.").isSuffixOf summary then .escalate
  else if (py "throttle threshold.").isSuffixOf summary then .throttle
  else if summary = py "Agent identity unresolved; escalating." then .escalate
  else if summary = py "Identity demoted to OBSERVE tier; write actions denied." then .deny
  else .allow

/-- Of two endings of which neither ends the other, a text has at most one. -/
theorem not_isSuffixOf {s t u : PyStr} (h : s <:+ u) (hst : s.isSuffixOf t = false)
    (hts : t.isSuffixOf s = false) : t.isSuffixOf u = false := by
  rw [Bool.eq_false_iff, ne_eq, List.isSuffixOf_iff_suffix] at *
  exact fun ht => (List.suffix_or_suffix_of_suffix h ht).elim hst hts

theorem suffix_riskSummary (score : ℚ) (what : PyStr) :
    what ++ py " threshold." <:+ riskSummary score what :=
  ⟨py "Aggregate risk score " ++ fixed2 score ++ py " exceeded ", by
    simp only [riskSummary, List.append_assoc]⟩

/-- A summary of the score speaks of the verdict of its band. -/
theorem summaryVerdict_score (score : ℚ) :
    summaryVerdict (riskSummary score (py "deny")) = .deny ∧
      summaryVerdict (riskSummary score (py "escalate")) = .escalate ∧
      summaryVerdict (riskSummary score (py "throttle")) = .throttle := by
  have hrules (what : PyStr) : (riskSummary score what).startsWith (py "Action denied") = false ∧
      (riskSummary score what).startsWith (py "Action escalated") = false ∧
      (riskSummary score what).startsWith (py "Action throttled") = false := ⟨rfl, rfl, rfl⟩
  have hself {what ending : PyStr} (h : ending = what ++ py " threshold.") :
      ending.isSuffixOf (riskSummary score what) = true :=
    List.isSuffixOf_iff_suffix.mpr (h ▸ suffix_riskSummary score what)
  have hother {what ending : PyStr}
      (h : (what ++ py " threshold.").isSuffixOf ending = false ∧
        ending.isSuffixOf (what ++ py " threshold.") = false) :
      ending.isSuffixOf (riskSummary score what) = false :=
    not_isSuffixOf (suffix_riskSummary score what) h.1 h.2
  refine ⟨?_, ?_, ?_⟩
  · simp only [summaryVerdict, hrules, Bool.false_eq_true, if_false]
    rw [if_pos (hself (by decide))]
  · simp only [summaryVerdict, hrules, Bool.false_eq_true, if_false]
    rw [if_neg (Bool.eq_false_iff.mp (hother (by decide))), if_pos (hself (by decide))]
  · simp only [summaryVerdict, hrules, Bool.false_eq_true, if_false]
    rw [if_neg (Bool.eq_false_iff.mp (hother (by decide))),
      if_neg (Bool.eq_false_iff.mp (hother (by decide))), if_pos (hself (by decide))]

theorem summaryVerdict_reconcile (ms : List RuleMatch) (factors : List RiskFactor)
    (identity : Option Identity) :
    summaryVerdict (reconcile ms factors identity).2.1 = (reconcile ms factors identity).1 := by
  obtain ⟨hdeny, hescalate, hthrottle⟩ := summaryVerdict_score (aggregateRisk factors)
  simp only [reconcile]
  split_ifs
  · rfl
  · rfl
  · rfl
  · exact hdeny
  · exact hescalate
  · exact hthrottle
  · rfl
  · rfl

/-- **The summary tells the verdict**, whatever pipeline it comes from. -/
theorem PipelineDeps.summaryVerdict_summary {deps : PipelineDeps} {rt : PyRuntime} {r : Readings}
    {action : Action} {d : Decision} (h : (deps.evaluate rt r action).1 = .ok d) :
    summaryVerdict d.explanation.summary = d.verdict := by
  obtain ⟨outcome, ms, -, -, rfl⟩ := evaluate_eq_ok.mp h
  have hreconcile := summaryVerdict_reconcile ms (deps.collectFactors r action outcome)
    outcome.identity
  simp only [decision, trustGate]
  split_ifs
  · rfl
  · exact hreconcile
  · exact hreconcile

theorem PipelineDeps.summaryVerdict_summary_payment : ∃ d,
    ((Detectors.plain.wire (quietDeps [] default)).evaluate default .zero
      (Detectors.payment Detectors.accessKey .empty)).1 = .ok d ∧
    summaryVerdict d.explanation.summary = d.verdict := by
  obtain ⟨d, hd⟩ := Detectors.evaluate_payment_returns Detectors.accessKey .empty
  exact ⟨d, hd, summaryVerdict_summary hd⟩

end AgentSentinel
