import AgentSentinel.Core.AllowSoundness
import AgentSentinel.Core.VerdictOrder

/-!
# AgentSentinel.Core.Outage

Losing the identity. While the identity breaker refuses calls, an action is
evaluated without its identity: rules keyed on the tier stop matching, the
capability is not checked, the trust gate is not applied, and the escalation of
unresolved identities applies only where neither a rule nor the score decides.

The verdict of such an evaluation is compared with the one the same action gets
once the identity is resolved. It is never `allow`, so what can be lost is a
denial, and an escalation that turns into throttling.
-/

namespace AgentSentinel

open Lib PolicyEngine

theorem DecisionVerdict.le_iff_of_ne_allow {v w : DecisionVerdict} (h : w ≠ .allow) :
    v ≤ w ↔ (v = .deny → w = .deny) ∧ (v = .escalate → w ≠ .throttle) := by
  revert h
  cases v <;> cases w <;> decide

namespace PipelineDeps

variable {deps : PipelineDeps} {rt : PyRuntime} {r r' : Readings} {action : Action}
  {i : Identity}

/-- The factors of an evaluation during an outage. -/
abbrev factorsWithout (deps : PipelineDeps) (r : Readings) (action : Action) :
    List RiskFactor :=
  deps.collectFactors r action ⟨none, true, false⟩

/-- What an outage gives away: the denial by the trust gate, a denial by a rule or
the score that the outage does not give, or an escalation that the outage turns
into throttling. -/
def FailsOpen (deps : PipelineDeps) (rt : PyRuntime) (r r' : Readings) (action : Action)
    (i : Identity) : Prop :=
  (deps.policyEngine.Unrestricted rt action (some i) (deps.factorsWith r action i) ∧
    aggregateRisk (deps.factorsWith r action i) < throttleThreshold ∧
    deps.GateCloses action (some i) (deps.factorsWith r action i)) ∨
  (Denies rt deps.policyEngine action (some i) (deps.factorsWith r action i) ∧
    ¬ Denies rt deps.policyEngine action none (deps.factorsWithout r' action)) ∨
  (Escalates rt deps.policyEngine action (some i) (deps.factorsWith r action i) ∧
    Throttles rt deps.policyEngine action none (deps.factorsWithout r' action))

/-- Where nothing is found on an agent, the outage finds nothing else. -/
theorem factorsWithout_eq_of_lowRisk
    (h : aggregateRisk (deps.factorsWith r action i) < throttleThreshold) :
    deps.factorsWithout r' action = deps.factorsWith r action i := by
  have hwith := validate_eq_nil_of_lowRisk h
  have hwithout := ToolValidator.validate_none_of_nil hwith r'.now
  simp [factorsWithout, factorsWith, collectFactors, classifierRuns, hwith, hwithout]

/-- The verdict of an evaluation that resolved the identity. -/
theorem verdict_resolved {d : Decision} (h : (deps.evaluate rt r action).1 = .ok d)
    (hadmits : deps.identityBreaker.Admits r.start)
    (hstore : deps.identityResolver.store action.agentDid = .ok (some i))
    (hlive : i.revoked = false) :
    ∃ ms, deps.policyEngine.evaluate rt action (some i) (deps.factorsWith r action i) = .ok ms ∧
      d.verdict =
        if (reconcile ms (deps.factorsWith r action i) (some i)).1 = .allow ∧
            deps.GateCloses action (some i) (deps.factorsWith r action i) then .deny
        else (reconcile ms (deps.factorsWith r action i) (some i)).1 := by
  obtain ⟨outcome, ms, houtcome, hms, rfl⟩ := evaluate_eq_ok.mp h
  have hresolve := IdentityResolver.resolve_eq_ok.mpr ⟨hstore, hlive⟩
  rw [resolveIdentity_fst, CircuitBreaker.call_of_admits hadmits, hresolve] at houtcome
  obtain rfl := Except.ok.inj houtcome
  exact ⟨ms, hms, decision_verdict⟩

/-- The verdict of an evaluation during an outage: the gate is not applied. -/
theorem verdict_refused {d : Decision} (h : (deps.evaluate rt r action).1 = .ok d)
    (hrefused : ¬ deps.identityBreaker.Admits r.start) :
    ∃ ms, deps.policyEngine.evaluate rt action none (deps.factorsWithout r action) = .ok ms ∧
      d.verdict = (reconcile ms (deps.factorsWithout r action) none).1 := by
  obtain ⟨outcome, ms, houtcome, hms, rfl⟩ := evaluate_eq_ok.mp h
  obtain ⟨e, he, hkind⟩ := CircuitBreaker.call_of_refused hrefused r.finish
    (deps.identityResolver.resolve action.agentDid)
  rw [resolveIdentity_fst, he] at houtcome
  have hdegraded : identityOutcome (.error e) = .ok ⟨none, true, false⟩ := by
    simp [identityOutcome, hkind]
  obtain rfl := Except.ok.inj (hdegraded.symm.trans houtcome)
  refine ⟨ms, hms, ?_⟩
  -- Trust is adjusted for an identity only, so the gate has nobody to demote.
  rw [decision_verdict, if_neg]
  intro hcollapses
  obtain ⟨-, hgate, -⟩ := hcollapses
  exact TrustScorer.not_collapsesToObserve_none hgate

/-- **An outage is fail-closed** exactly when it gives none of this away. -/
theorem outage_le_iff {d d' : Decision} {outage : CircuitBreaker}
    (hadmits : deps.identityBreaker.Admits r.start)
    (hstore : deps.identityResolver.store action.agentDid = .ok (some i))
    (hlive : i.revoked = false) (hrefused : ¬ outage.Admits r'.start)
    (h : (deps.evaluate rt r action).1 = .ok d)
    (h' : ((deps.withBreaker outage).evaluate rt r' action).1 = .ok d') :
    d.verdict ≤ d'.verdict ↔ ¬ deps.FailsOpen rt r r' action i := by
  obtain ⟨ms, hms, hv⟩ := verdict_resolved h hadmits hstore hlive
  obtain ⟨ns, hns, hv'⟩ := verdict_refused h' hrefused
  have hnotAllow : d'.verdict ≠ .allow := by
    rw [hv', Ne, reconcile_eq_allow_iff hns]
    exact fun hallow => hallow.2.2 rfl
  -- Without the identity the gate is never a reason to deny.
  have hgateLost (hfree : deps.policyEngine.Unrestricted rt action (some i)
      (deps.factorsWith r action i))
      (hlow : aggregateRisk (deps.factorsWith r action i) < throttleThreshold) :
      ¬ Denies rt deps.policyEngine action none (deps.factorsWithout r' action) := by
    rw [factorsWithout_eq_of_lowRisk hlow]
    intro hdenies
    rcases hdenies with ⟨rule, hrule, henabled, heffect, hmatch⟩ | ⟨-, hhigh⟩
    · cases hfree _ ⟨rule, hrule, henabled, heffect, ruleMatches_of_none hmatch⟩
    · norm_num [denyThreshold, throttleThreshold] at hhigh hlow
      linarith
  have hdenies' : d'.verdict = .deny ↔
      Denies rt deps.policyEngine action none (deps.factorsWithout r' action) := by
    rw [hv']
    exact reconcile_eq_deny_iff hns
  have hthrottles' : d'.verdict = .throttle ↔
      Throttles rt deps.policyEngine action none (deps.factorsWithout r' action) := by
    rw [hv']
    exact reconcile_eq_throttle_iff hns
  have hallow := reconcile_eq_allow_iff hms
  rw [DecisionVerdict.le_iff_of_ne_allow hnotAllow, hdenies', Ne, hthrottles', FailsOpen, hv,
    ← reconcile_eq_deny_iff hms, ← reconcile_eq_escalate_iff hms]
  -- Where the gate closes the outage always loses, and elsewhere the gate plays no part.
  by_cases hcloses : (reconcile ms (deps.factorsWith r action i) (some i)).1 = .allow ∧
      deps.GateCloses action (some i) (deps.factorsWith r action i)
  · obtain ⟨hfree, hlow, -⟩ := hallow.mp hcloses.1
    rw [if_pos hcloses]
    exact iff_of_false (fun hle => hgateLost hfree hlow (hle.1 rfl))
      (fun hno => hno (Or.inl ⟨hfree, hlow, hcloses.2⟩))
  · have hopen : ¬ (deps.policyEngine.Unrestricted rt action (some i)
        (deps.factorsWith r action i) ∧
          aggregateRisk (deps.factorsWith r action i) < throttleThreshold ∧
          deps.GateCloses action (some i) (deps.factorsWith r action i)) :=
      fun h => hcloses ⟨hallow.mpr ⟨h.1, h.2.1, by simp⟩, h.2.2⟩
    rw [if_neg hcloses, not_or, not_or, and_iff_right hopen, not_and_not_right, not_and]

/-- A breaker that has just tripped. -/
def tripped : CircuitBreaker := { name := py "identity", state := .open, failures := 5 }

theorem outage_le_iff_search : ∃ d d' : Decision, d.verdict = .allow ∧ d'.verdict = .escalate ∧
    (d.verdict ≤ d'.verdict ↔
      ¬ searchDeps.FailsOpen default .zero .zero searchAction searchAgent) := by
  have hrun : (searchDeps.evaluate default .zero searchAction).1.map (·.verdict) = .ok .allow := by
    decide +kernel
  have hrun' : ((searchDeps.withBreaker tripped).evaluate default .zero searchAction).1.map
      (·.verdict) = .ok .escalate := by
    decide +kernel
  obtain ⟨d, hd, hv⟩ := map_eq_ok.mp hrun
  obtain ⟨d', hd', hv'⟩ := map_eq_ok.mp hrun'
  exact ⟨d, d', hv, hv', outage_le_iff (by decide) rfl rfl (by decide +kernel) hd hd'⟩

/-- The rule of the default bundle against tools an agent has no capability for. -/
def toolNoCapability : PolicyRule where
  id := py "tool-no-capability"
  effect := .deny
  matchOn := ⟨[(py "risk.factor_code_any", .list [.str (py "tool.no_capability"),
    .str (py "tool.disabled"), .str (py "tool.schema_violation")])], by decide⟩

/-- The same agent without its capability, under that rule. -/
def searcher : Identity := { searchAgent with capabilities := [] }

def searcherDeps : PipelineDeps := { searchDeps with
  policyEngine := ⟨⟨[toolNoCapability]⟩⟩
  identityResolver := ⟨fun did => .ok (if did = searcher.did then some searcher else none)⟩ }

/-- The search is denied as long as the agent is known, and only escalated while the
breaker is open. -/
theorem outage_loosens : ¬ ∀ (deps : PipelineDeps) (rt : PyRuntime) (r r' : Readings)
    (action : Action) (i : Identity) (outage : CircuitBreaker) (d d' : Decision),
    deps.identityBreaker.Admits r.start →
    deps.identityResolver.store action.agentDid = .ok (some i) → i.revoked = false →
    ¬ outage.Admits r'.start →
    (deps.evaluate rt r action).1 = .ok d →
    ((deps.withBreaker outage).evaluate rt r' action).1 = .ok d' →
    d.verdict ≤ d'.verdict := by
  intro h
  have hrun : (searcherDeps.evaluate default .zero searchAction).1.map (·.verdict) =
      .ok .deny := by
    decide +kernel
  have hrun' : ((searcherDeps.withBreaker tripped).evaluate default .zero searchAction).1.map
      (·.verdict) = .ok .escalate := by
    decide +kernel
  obtain ⟨d, hd, hv⟩ := map_eq_ok.mp hrun
  obtain ⟨d', hd', hv'⟩ := map_eq_ok.mp hrun'
  have hle := h _ _ _ _ _ searcher tripped d d' (by decide) rfl rfl (by decide +kernel) hd hd'
  rw [hv, hv'] at hle
  exact absurd hle (by decide)

end PipelineDeps

end AgentSentinel
