import AgentSentinel.Core.Pipeline

/-!
# AgentSentinel.Core.AllowSoundness

What an `allow` stands for. Each of the ways an evaluation can go wrong leaves a
mark that keeps the verdict from being `allow`: a missing identity and a matched
restrictive rule do so by themselves, an unknown DID, a classifier that raised and
a failed tool check by a factor no weaker than 0.6, and a collapsed trust score by
the gate.
-/

namespace AgentSentinel

open Lib

/-- What must hold of an action for it to be allowed as `identity`'s. -/
structure Justified (deps : PipelineDeps) (rt : PyRuntime) (r : Readings) (action : Action)
    (identity : Identity) (d : Decision) : Prop where
  registered : deps.identityResolver.store action.agentDid = .ok (some identity)
  live : identity.revoked = false
  classifiersReturned :
    ∀ run ∈ deps.classifierRuns r action (some identity), ¬ Raised run.2
  collected : d.explanation.riskFactors =
    (deps.classifierRuns r action (some identity)).flatMap fun run => safeRun run.1 run.2
  unrestricted : ∀ rule ∈ deps.policyEngine.bundle.rules, rule.enabled = true →
    rule.effect ≠ .allow →
      PolicyEngine.ruleMatches rt action (some identity) d.explanation.riskFactors rule ≠ .ok true
  lowRisk : d.explanation.riskScore.val < 7 / 20
  toolCleared : deps.toolValidator.Clears r.now action identity
  trusted :
    (deps.trustScorer.adjust (some identity) d.explanation.riskFactors .allow).map Identity.tier =
      some .observe →
    action.type = .fileRead ∨ action.type = .memoryRead ∨ action.type = .llmPrompt

theorem readOnly_iff {type : ActionType} :
    type.readOnly = true ↔ type = .fileRead ∨ type = .memoryRead ∨ type = .llmPrompt := by
  cases type <;> decide

namespace PipelineDeps

variable {deps : PipelineDeps} {rt : PyRuntime} {r : Readings} {action : Action}

/-- The factors of an evaluation for the resolved identity `i`. -/
abbrev factorsWith (deps : PipelineDeps) (r : Readings) (action : Action) (i : Identity) :
    List RiskFactor :=
  deps.collectFactors r action ⟨some i, false, false⟩

/-- A call that raised leaves a factor of severity 0.6. -/
theorem exists_factor_of_raised {run : PyStr × Result (List RiskFactor)} (h : Raised run.2) :
    ∃ f ∈ safeRun run.1 run.2, f.severity.val = 3 / 5 := by
  obtain ⟨qualname, call⟩ := run
  obtain ⟨e, he⟩ := h
  obtain rfl : call = .error e := he
  exact ⟨classifierError qualname e, List.mem_singleton_self _, rfl⟩

/-- A factor of any of the five classifiers is collected. -/
theorem mem_collectFactors {outcome : IdentityOutcome} {run : PyStr × Result (List RiskFactor)}
    (hrun : run ∈ deps.classifierRuns r action outcome.identity) {f : RiskFactor}
    (hf : f ∈ safeRun run.1 run.2) : f ∈ deps.collectFactors r action outcome :=
  List.mem_append_right _ (List.mem_flatMap.mpr ⟨run, hrun, hf⟩)

/-- An `allow` leaves no factor of severity 0.6 or more. -/
theorem severity_lt_of_lowRisk {factors : List RiskFactor}
    (h : aggregateRisk factors < throttleThreshold) {f : RiskFactor} (hf : f ∈ factors) :
    f.severity.val < 3 / 5 := by
  by_contra hge
  refine absurd (throttleThreshold_le_aggregateRisk hf ?_) (not_le.mpr h)
  exact le_trans (by norm_num [throttleThreshold]) (not_lt.mp hge)

/-- Below the throttle band no classifier has raised. -/
theorem not_raised_of_lowRisk {outcome : IdentityOutcome}
    (h : aggregateRisk (deps.collectFactors r action outcome) < throttleThreshold) :
    ∀ run ∈ deps.classifierRuns r action outcome.identity, ¬ Raised run.2 := by
  intro run hrun hraised
  obtain ⟨f, hf, hsev⟩ := exists_factor_of_raised hraised
  exact absurd hsev (severity_lt_of_lowRisk h (mem_collectFactors hrun hf)).ne

/-- Below the throttle band the tool validator has nothing to report. -/
theorem validate_eq_nil_of_lowRisk {outcome : IdentityOutcome}
    (h : aggregateRisk (deps.collectFactors r action outcome) < throttleThreshold) :
    deps.toolValidator.validate r.now action outcome.identity = .ok [] := by
  have hrun : (py "ToolValidator.validate",
      deps.toolValidator.validate r.now action outcome.identity) ∈
        deps.classifierRuns r action outcome.identity := by
    simp [classifierRuns]
  obtain ⟨fs, hfs⟩ : ∃ fs, deps.toolValidator.validate r.now action outcome.identity = .ok fs :=
    not_raised_iff.mp (not_raised_of_lowRisk h _ hrun)
  rcases ToolValidator.validate_eq_ok hfs with ⟨rfl, -⟩ | ⟨f, hf, hsev⟩
  · exact hfs
  · have hmem : f ∈ deps.collectFactors r action outcome := by
      refine mem_collectFactors hrun ?_
      simpa only [hfs, safeRun] using hf
    exact absurd hsev (not_le.mpr (severity_lt_of_lowRisk h hmem))

/-- What an evaluation that allows has computed: an identity, no restrictive
match, a score below the bands and an open gate. -/
theorem evaluate_allow_inv {d : Decision} (h : (deps.evaluate rt r action).1 = .ok d)
    (hallow : d.verdict = .allow) :
    ∃ i ms, (deps.resolveIdentity r action).1 = .ok ⟨some i, false, false⟩ ∧
      deps.policyEngine.evaluate rt action (some i) (deps.factorsWith r action i) = .ok ms ∧
      d = deps.decision r action ⟨some i, false, false⟩ (deps.factorsWith r action i) ms ∧
      deps.policyEngine.Unrestricted rt action (some i) (deps.factorsWith r action i) ∧
      aggregateRisk (deps.factorsWith r action i) < throttleThreshold ∧
      ¬ deps.GateCloses action (some i) (deps.factorsWith r action i) := by
  obtain ⟨outcome, ms, houtcome, hms, rfl⟩ := evaluate_eq_ok.mp h
  rw [decision_verdict] at hallow
  split at hallow
  · cases hallow
  · next hgate =>
      obtain ⟨hfree, hscore, hsome⟩ := (reconcile_eq_allow_iff hms).mp hallow
      obtain ⟨identity, hidentity⟩ := Option.ne_none_iff_exists'.mp hsome
      obtain ⟨rfl, -⟩ := resolveIdentity_eq_some houtcome hidentity
      exact ⟨identity, ms, houtcome, hms, rfl, hfree, hscore,
        fun hcloses => hgate ⟨hallow, hcloses⟩⟩

/-- **Allow soundness**: an evaluation allows only what is justified. -/
theorem justified_of_allow {d : Decision} (h : (deps.evaluate rt r action).1 = .ok d)
    (hallow : d.verdict = .allow) : ∃ identity, Justified deps rt r action identity d := by
  obtain ⟨identity, ms, houtcome, hms, rfl, hfree, hscore, hgate⟩ :=
    evaluate_allow_inv h hallow
  obtain ⟨-, -, hstore, hlive⟩ := resolveIdentity_eq_some houtcome rfl
  -- The low score alone excludes a raising classifier and a failed tool check.
  refine ⟨identity, hstore, hlive, not_raised_of_lowRisk hscore, rfl, ?_, hscore,
    ToolValidator.clears_of_nil (validate_eq_nil_of_lowRisk hscore), ?_⟩
  · intro rule hrule henabled heffect hmatch
    exact heffect (hfree _ ⟨rule, hrule, henabled, rfl, hmatch⟩)
  · intro hobserve
    rw [← readOnly_iff]
    by_contra hwrites
    exact hgate ⟨hobserve, Bool.not_eq_true _ ▸ hwrites⟩

/-- An agent that may search, and a registry that knows the tool. -/
def searchAgent : Identity := { (default : Identity) with
  capabilities := [{ name := py "search" }] }

def searchDeps : PipelineDeps := { quietDeps [] searchAgent with
  toolValidator := {
    registry := ⟨[(py "search", { name := py "search", capability := py "search" })], by decide⟩
    schemaValidate := fun _ _ => .valid } }

def searchAction : Action := { (default : Action) with
  agentDid := searchAgent.did, agentDid_length := searchAgent.did_length
  tool := some (py "search") }

theorem justified_of_allow_search : ∃ d identity, d.verdict = .allow ∧
    Justified searchDeps default .zero searchAction identity d := by
  have hrun : (searchDeps.evaluate default .zero searchAction).1.map (·.verdict) = .ok .allow := by
    decide +kernel
  obtain ⟨d, hd, hallow⟩ := map_eq_ok.mp hrun
  obtain ⟨identity, hjustified⟩ := justified_of_allow hd hallow
  exact ⟨d, identity, hallow, hjustified⟩

end PipelineDeps

end AgentSentinel
