import AgentSentinel.Gateway.McpGateway
import AgentSentinel.PolicyPac.DefaultBundle

/-!
# AgentSentinel.Gateway.ShippedPolicy

The gateway in front of an interceptor under the bundle that the repository ships. Whatever the
gateway does with an answer, it can only have got a denial: no tool is ever run, and every call
of `invoke` raises.
-/

namespace AgentSentinel

/-- The interceptor decides by the bundle that the repository ships. -/
def Interceptor.Ships (interceptor : Interceptor) : Prop :=
  interceptor.pipeline.policyEngine = ⟨defaultBundle⟩

/-- It has no other answer than a denial. -/
theorem Interceptor.Ships.deny {interceptor : Interceptor} (hships : interceptor.Ships)
    {rt : PyRuntime} {action : Action} {d : Decision}
    (h : interceptor.Answers rt action (.ok d)) : d.verdict = .deny := by
  obtain ⟨r, elapsedMs, hanswer⟩ := h
  obtain ⟨stamped, d', -, hd', hverdict⟩ := evaluate_eq_ok hanswer.symm
  obtain ⟨outcome, ms, houtcome, -, -⟩ := PipelineDeps.evaluate_eq_ok.mp hd'
  obtain ⟨denied, hdenied, hdeny⟩ := PipelineDeps.evaluate_default rt houtcome
  have hbundle : interceptor.pipeline.withBundle defaultBundle = interceptor.pipeline := by
    rw [PipelineDeps.withBundle, ← hships]
  rw [hbundle, hd'] at hdenied
  rw [hverdict, Except.ok.inj hdenied, hdeny]

namespace GatewayWorld

variable {answers : Action → Result Decision → Prop} {interceptor : Interceptor}
  {rt : PyRuntime} {call : GatewayCall} {w w' : GatewayWorld} {e : GatewayEvent}

/-- The answer on record is one that the interceptor gives to what it decided on. -/
def Answered (answers : Action → Result Decision → Prop) (w : GatewayWorld) : Prop :=
  ∀ a, w.answer = some a → answers a.decidedOn a.result

theorem Answered.step (h : w.Answered answers) (hstep : (runs answers call).step w e w') :
    w'.Answered answers := by
  obtain ⟨hstep, hanswers⟩ := hstep
  rcases step_cases hstep with ⟨_, _, -, -, rfl⟩ | ⟨_, _, -, -, -, rfl⟩ | ⟨_, _, -, rfl⟩ |
    ⟨result, pending, rfl, hphase, rfl⟩ | ⟨_, _, _, -, -, -, rfl⟩ | ⟨_, _, -, -, -, rfl⟩ |
    ⟨_, _, -, -, rfl⟩
  · exact h
  · exact h
  · exact h
  · intro a ha
    obtain rfl := Option.some.inj ha
    exact hanswers result pending rfl hphase
  · exact h
  · exact h
  · exact h

theorem answered_of_reachable (h : (runs answers call).Reachable w) : w.Answered answers := by
  refine h.invariant (fun w hinit a ha => ?_) fun _ _ _ _ hI hstep => hI.step hstep
  rw [hinit.2.1] at ha
  cases ha

/-- **No tool runs under the shipped bundle**, whatever the call is and whatever other
coroutines do meanwhile, and `invoke` never returns. -/
theorem nothing_runs_of_ships (hships : interceptor.Ships)
    (h : (runs (interceptor.Answers rt) call).Reachable w) :
    w.executed = [] ∧ ∀ result output, w.phase = .finished result → invoke rt result ≠ .ok output := by
  have hnever : ¬ w.ExecutedOnce := by
    intro hexecuted
    obtain ⟨a, d, run, ha, hresult, hallow, -⟩ := hexecuted
    have hanswer := answered_of_reachable h a ha
    rw [hresult] at hanswer
    cases hallow.symm.trans (hships.deny hanswer)
  refine ⟨?_, fun result output hfinished hinvoke => ?_⟩
  · by_contra hexecuted
    exact hnever (executedOnce_of_executed h hexecuted)
  · exact hnever (executedOnce_of_invoke h hfinished hinvoke)

/-- The interceptor that lets an agent search, under the shipped bundle. -/
def shippedSearch : Interceptor :=
  ⟨PipelineDeps.searchDeps.withBundle defaultBundle, Interceptor.storeDown.lib⟩

/-- The search is answered, and the call ends without it. -/
theorem nothing_runs_of_ships_search : ∃ (w : GatewayWorld) (d : Decision),
    w.phase = .finished (.ok { decision := d, blocked := true }) ∧ w.executed = [] ∧
      ∀ result output, w.phase = .finished result → invoke default result ≠ .ok output := by
  have hships : shippedSearch.Ships := rfl
  obtain ⟨d, hd, hdeny⟩ : ∃ d, (shippedSearch.evaluate default .zero searchAction 0).1 = .ok d ∧
      d.verdict = .deny := by
    have hrun : (shippedSearch.evaluate default .zero searchAction 0).1.map (·.verdict) =
        .ok .deny := by decide +kernel
    exact map_eq_ok.mp hrun
  have hsubmitted : (runs (shippedSearch.Answers default) searchCall).Reachable
      (submitted searchAction 0) := by
    refine .step (.init (s := ⟨query 0, twoStrings, .idle, none, []⟩) ⟨rfl, rfl, rfl⟩)
      (e := .start ⟨0, { sessionId := 0 }, .aware 0 0⟩) ⟨?_, by simp⟩
    rfl
  have hanswered : (runs (shippedSearch.Answers default) searchCall).Reachable
      { submitted searchAction 0 with
        phase := .answered ⟨searchAction, argsOrEmpty (query 0)⟩ (.ok d)
        answer := some ⟨searchAction, searchAction, .ok d⟩ } := by
    refine hsubmitted.step (e := .answer (.ok d)) ⟨rfl, ?_⟩
    intro result pending hresult hphase
    obtain rfl := GatewayPhase.waiting.inj hphase
    obtain rfl := GatewayEvent.answer.inj hresult
    exact ⟨.zero, 0, hd.symm⟩
  have hfinished : (runs (shippedSearch.Answers default) searchCall).Reachable
      { submitted searchAction 0 with
        phase := .finished (.ok { decision := d, blocked := true })
        answer := some ⟨searchAction, searchAction, .ok d⟩ } := by
    refine hanswered.step (e := .resume) ⟨?_, by simp⟩
    simp [step, hdeny]
  exact ⟨_, d, rfl, nothing_runs_of_ships hships hfinished⟩

end GatewayWorld

end AgentSentinel
