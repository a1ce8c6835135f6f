import AgentSentinel.PolicyPac.DefaultBundle
import AgentSentinel.Redteam.Harness

/-!
# AgentSentinel.Redteam.DefaultDeployment

The red-team harness runs on the interceptor that a deployment starts with, under the bundle
that the repository ships. It denies whatever it can take a digest of, in every state. So no
scenario is ever missed, `python -m sentinel.redteam` exits with 0 whatever is tested, and every
scenario of an action that should be allowed is blocked.
-/

namespace AgentSentinel

namespace SharedInterceptor

variable {shared : SharedInterceptor} {rt : PyRuntime} {action : Action}

/-- The interceptor decides by the bundle that the repository ships. -/
def Ships (shared : SharedInterceptor) : Prop :=
  shared.pipeline.deps.policyEngine = ⟨defaultBundle⟩

/-- The digest of the action can be taken, or the action comes with one. What is stamped is no
matter of the stores. -/
def Stamps (shared : SharedInterceptor) (rt : PyRuntime) (action : Action) : Prop :=
  ∃ stamped, (⟨shared.pipeline.deps, shared.lib⟩ : Interceptor).stamp rt action = .ok stamped

/-- **Everything is denied**, in every state of the stores. -/
theorem evaluate_ships (hships : shared.Ships) (hstamps : shared.Stamps rt action)
    (s : PipelineState) (clock : EvaluationClock) (elapsedMs : ℚ) :
    ∃ d, (shared.evaluate rt s action clock elapsedMs).1 = .ok d ∧ d.verdict = .deny := by
  obtain ⟨stamped, hstamped⟩ := hstamps
  -- The in-memory store answers every question.
  obtain ⟨outcome, hanswer⟩ := s.identityOutcome_call clock.start clock.finish stamped.agentDid
  have houtcome : ((shared.pipeline.depsAt s clock).resolveIdentity clock.toReadings stamped).1 =
      .ok outcome := hanswer
  obtain ⟨d, hd, hdeny⟩ := PipelineDeps.evaluate_default rt houtcome
  have hbundle : (shared.pipeline.depsAt s clock).withBundle defaultBundle =
      shared.pipeline.depsAt s clock := by
    rw [PipelineDeps.withBundle, ← hships]
    rfl
  rw [hbundle] at hd
  rw [evaluate_of_stamp hstamped, hd]
  refine ⟨_, rfl, ?_⟩
  dsimp only
  split
  · exact hdeny
  · exact hdeny

end SharedInterceptor

namespace RedTeamHarness

variable {shared : SharedInterceptor} {rt : PyRuntime} {clocks : ℕ → EvaluationClock × ℚ}
  {s : ℕ × PipelineState} {scenarios : List RedTeamScenario}

/-- Every scenario is run and gets a denial. -/
theorem trials_of_ships (hships : shared.Ships)
    (hstamps : ∀ scenario ∈ scenarios, shared.Stamps rt scenario.action)
    (clocks : ℕ → EvaluationClock × ℚ) (s : ℕ × PipelineState) :
    ∃ ts, (⟨shared.live rt clocks⟩ : RedTeamHarness _).trials s scenarios = .ok ts ∧
      ts.map (·.scenario) = scenarios ∧ ∀ t ∈ ts, t.verdict = .deny := by
  induction scenarios generalizing s with
  | nil => exact ⟨[], rfl, rfl, fun _ h => nomatch h⟩
  | cons scenario scenarios ih =>
      rw [List.forall_mem_cons] at hstamps
      obtain ⟨d, hd, hdeny⟩ := SharedInterceptor.evaluate_ships hships hstamps.1 s.2
        (clocks s.1).1 (clocks s.1).2
      obtain ⟨ts, hts, hscenarios, hdenied⟩ := ih hstamps.2
        (s.1 + 1, (shared.evaluate rt s.2 scenario.action (clocks s.1).1 (clocks s.1).2).2)
      refine ⟨⟨scenario, d.verdict⟩ :: ts, trials_cons_eq_ok.mpr ⟨d, _, ts, ?_, hts, rfl⟩, ?_, ?_⟩
      · exact Prod.ext hd rfl
      · rw [List.map_cons, hscenarios]
      · exact List.forall_mem_cons.mpr ⟨hdeny, hdenied⟩

/-- **The red-team harness never fails on the default deployment.** Whatever the scenarios are,
nothing is missed, everything that should be restricted passes, and everything that should be
allowed is blocked. -/
theorem run_of_ships (hships : shared.Ships)
    (hstamps : ∀ scenario ∈ scenarios, shared.Stamps rt scenario.action) :
    ∃ report, ((⟨shared.live rt clocks⟩ : RedTeamHarness _).run s scenarios).1 = .ok report ∧
      report.total = scenarios.length ∧ report.falseNegatives = [] ∧
      report.passed = scenarios.countP (·.expectedVerdict ≠ .allow) ∧
      report.falsePositives =
        (scenarios.filter (·.expectedVerdict = .allow)).map (·.name) ∧
      ∀ failOnAllow, report.exitStatus failOnAllow = 0 := by
  obtain ⟨ts, hts, rfl, hdenied⟩ := trials_of_ships hships hstamps clocks s
  obtain ⟨report, hreport, htallies⟩ := run_tallies hts
  -- What a denial comes to is decided by what was expected.
  have hkinds : ∀ t ∈ ts, (t.Met ↔ t.scenario.expectedVerdict ≠ .allow) ∧ ¬ t.Weakened ∧
      ¬ t.Missed ∧ (t.Blocked ↔ t.scenario.expectedVerdict = .allow) := by
    intro t ht
    simp only [Trial.Met, Trial.Weakened, Trial.Missed, Trial.Blocked, hdenied t ht]
    cases t.scenario.expectedVerdict <;> decide
  have hnegatives : report.falseNegatives = [] := by
    rw [htallies.falseNegatives, List.map_eq_nil_iff, List.filter_eq_nil_iff]
    exact fun t ht h => (hkinds t ht).2.2.1 (of_decide_eq_true h)
  refine ⟨report, hreport, ?_, hnegatives, ?_, ?_, fun failOnAllow => ?_⟩
  · rw [htallies.total, List.length_map]
  · have hweakened : ts.countP Trial.Weakened = 0 :=
      List.countP_eq_zero.mpr fun t ht h => (hkinds t ht).2.1 (of_decide_eq_true h)
    rw [htallies.passed, hweakened, Nat.add_zero, List.countP_map]
    exact List.countP_congr fun t ht => by simpa using (hkinds t ht).1
  · have hblocked : ts.filter Trial.Blocked =
        ts.filter fun t => t.scenario.expectedVerdict = .allow :=
      List.filter_congr fun t ht => by simpa using (hkinds t ht).2.2.2
    rw [htallies.falsePositives, hblocked, List.filter_map, List.map_map]
    rfl
  · rw [RedTeamReport.exitStatus, hnegatives]
    simp

/-- An interceptor with the shipped bundle, before anybody has registered. -/
def shipped : SharedInterceptor :=
  ⟨⟨{ quietDeps [] default with policyEngine := ⟨defaultBundle⟩ }, AnomalyDetector.standard⟩,
    Interceptor.storeDown.lib⟩

theorem run_of_ships_corpus : ∃ report,
    ((⟨shipped.live default fun _ => (⟨.zero, 0⟩, 0)⟩ : RedTeamHarness _).run untouched corpus).1 =
      .ok report ∧ report.passed = 11 ∧ report.falseNegatives = [] := by
  have hstamps : ∀ scenario ∈ corpus, ((⟨shipped.pipeline.deps, shipped.lib⟩ :
      Interceptor).stamp default scenario.action).isOk = true := by
    decide +kernel
  have hships : shipped.Ships := rfl
  obtain ⟨report, hreport, -, hnegatives, hpassed, -, -⟩ := run_of_ships hships
    (fun scenario hscenario => exists_of_isOk (hstamps scenario hscenario))
  exact ⟨report, hreport, hpassed.trans (by decide), hnegatives⟩

end RedTeamHarness

end AgentSentinel
