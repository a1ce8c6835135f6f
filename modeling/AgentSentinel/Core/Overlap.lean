import AgentSentinel.Core.Tenancy
import AgentSentinel.Lib.Stages
import AgentSentinel.Lib.Transition

/-!
# AgentSentinel.Core.Overlap

Evaluations that overlap on one pipeline. With the in-memory stores an evaluation is suspended
only while `gather` has the classifiers run: before, it goes through its identity call without
a break, and after, it asks the policy engine as it is then. The classifiers run as tasks of
their own, and the event loop runs tasks in the order in which they are made. The anomaly
detector's is the only one that looks at what others leave behind. An evaluation that is
cancelled on the way is left out.

Whatever the order of steps, the evaluations are those of a pipeline that does one after the
other, in the order in which they began, each under the policy in force at its end.
-/

namespace AgentSentinel

open Lib

/-- What is asked of a pipeline and its identity store. -/
inductive PipelineOperation
  | evaluate (action : Action) (clock : EvaluationClock)
  | upsertIdentity (identity : Identity)

/-- An evaluation that is past its identity call. -/
structure Ticket where
  action : Action
  clock : EvaluationClock
  outcome : IdentityOutcome

/-- A decision, or an exception, and the policy under which it was made. The evaluation is named
by its place among the others. -/
structure Landing where
  index : ℕ
  engine : PolicyEngine
  result : Result Decision

/-- The stores, the policy engine and the evaluations under way. -/
structure LoopState where
  stores : PipelineState
  engine : PolicyEngine
  /-- Their tasks are waiting for the event loop. -/
  queued : List Ticket := []
  /-- Their anomaly detection is done. -/
  scored : List (Ticket × Result (List RiskFactor)) := []
  landed : List Landing := []

inductive LoopEvent
  /-- An evaluation begins and runs until its classifiers are started. -/
  | begin (action : Action) (clock : EvaluationClock)
  /-- An identity is registered. -/
  | upsert (identity : Identity)
  /-- The next task of the anomaly detector runs. -/
  | score
  /-- `replace_bundle`. -/
  | replaceBundle (bundle : PolicyBundle)
  /-- The evaluation goes on after its classifiers. -/
  | land (i : ℕ)

def LoopEvent.operation : LoopEvent → Option PipelineOperation
  | begin action clock => some (.evaluate action clock)
  | upsert identity => some (.upsertIdentity identity)
  | score | replaceBundle _ | land _ => none

/-- The operations of a run, in the order in which they begin. -/
def operationsOf (events : List LoopEvent) : List PipelineOperation :=
  events.filterMap LoopEvent.operation

namespace SharedPipeline

variable (pipeline : SharedPipeline) (rt : PyRuntime)

/-- The pipeline with another policy engine. -/
def withEngine (engine : PolicyEngine) : SharedPipeline :=
  { pipeline with deps := { pipeline.deps with policyEngine := engine } }

/-- One operation after the other. -/
def serve : Server PipelineState PipelineOperation (Option (Result Decision))
  | s, .evaluate action clock =>
    let (result, s) := pipeline.evaluate rt s clock action
    (some result, s)
  | s, .upsertIdentity identity => (none, (SharedInterceptor.upsertIdentity s identity).2)

/-- What the evaluations among the operations return or raise. -/
def decisions (s : PipelineState) (operations : List PipelineOperation) : List (Result Decision) :=
  ((pipeline.serve rt).answers s operations).filterMap Prod.snd

/-- An evaluation up to `gather`. An exception of its identity call would end it. -/
def depart (s : PipelineState) (action : Action) (clock : EvaluationClock) :
    Option Ticket × PipelineState :=
  let (answer, breaker) := s.breaker.call clock.start clock.finish
    (s.resolver.resolve action.agentDid)
  match identityOutcome answer with
  | .ok outcome => (some ⟨action, clock, outcome⟩, { s with breaker })
  | .error _ => (none, { s with breaker })

/-- An evaluation from the results of its classifiers on. -/
def arrive (engine : PolicyEngine) (ticket : Ticket) (found : Result (List RiskFactor)) :
    Result Decision := do
  let deps := { pipeline.deps with policyEngine := engine, anomalyDetector := fun _ => found }
  let factors := deps.collectFactors ticket.clock.toReadings ticket.action ticket.outcome
  let ms ← engine.evaluate rt ticket.action ticket.outcome.identity factors
  return deps.decision ticket.clock.toReadings ticket.action ticket.outcome factors ms

end SharedPipeline

namespace LoopState

/-- One step; `none` where the event cannot happen. -/
def step (pipeline : SharedPipeline) (rt : PyRuntime) (s : LoopState) :
    LoopEvent → Option LoopState
  | .begin action clock =>
    let (ticket, stores) := SharedPipeline.depart s.stores action clock
    some { s with stores, queued := s.queued ++ ticket.toList }
  | .upsert identity =>
    some { s with stores := (SharedInterceptor.upsertIdentity s.stores identity).2 }
  | .score =>
    match s.queued with
    | [] => none
    | ticket :: queued =>
      let (found, baseline) :=
        pipeline.detector.score s.stores.baseline ticket.clock.recordedAt ticket.action
      some { s with
        stores := { s.stores with baseline }, queued, scored := s.scored ++ [(ticket, found)] }
  | .replaceBundle bundle => some { s with engine := ⟨bundle⟩ }
  | .land i =>
    if i ∈ s.landed.map Landing.index then none
    else
      match s.scored[i]? with
      | none => none
      | some (ticket, found) => some { s with
          landed := s.landed ++ [⟨i, s.engine, pipeline.arrive rt s.engine ticket found⟩] }

end LoopState

namespace SharedPipeline

/-- All runs of evaluations on the pipeline, from given stores. -/
def loop (pipeline : SharedPipeline) (rt : PyRuntime) (stores : PipelineState)
    (engine : PolicyEngine) : TransitionSystem LoopState LoopEvent where
  init s := s = ⟨stores, engine, [], [], []⟩
  step s e s' := s.step pipeline rt e = some s'

/-! ### One evaluation in its two stages -/

/-- What identity calls work on. -/
structure Directory where
  identities : PyDict Identity
  breaker : CircuitBreaker

/-- All stores. -/
def Directory.on (d : Directory) (baseline : BaselineStore) : PipelineState :=
  ⟨d.identities, baseline, d.breaker⟩

def directory (s : PipelineState) : Directory := ⟨s.identities, s.breaker⟩

/-- Operations up to the classifiers. -/
def departures : Server Directory PipelineOperation (Option Ticket)
  | d, .evaluate action clock =>
    let (ticket, s) := depart (d.on {}) action clock
    (ticket, directory s)
  | d, .upsertIdentity identity =>
    (none, directory (SharedInterceptor.upsertIdentity (d.on {}) identity).2)

/-- The tasks of the anomaly detector. -/
def scoring (pipeline : SharedPipeline) : Server BaselineStore Ticket (Result (List RiskFactor)) :=
  fun baseline ticket => pipeline.detector.score baseline ticket.clock.recordedAt ticket.action

variable {pipeline : SharedPipeline} {rt : PyRuntime} {stores : PipelineState}
  {engine : PolicyEngine} {es : List LoopEvent} {s s' : LoopState} {e : LoopEvent}

theorem depart_eq {s : PipelineState} {action : Action} {clock : EvaluationClock}
    {outcome : IdentityOutcome} (h : identityOutcome (s.breaker.call clock.start clock.finish
      (s.resolver.resolve action.agentDid)).1 = .ok outcome) :
    depart s action clock = (some ⟨action, clock, outcome⟩, { s with
      breaker := (s.breaker.call clock.start clock.finish
        (s.resolver.resolve action.agentDid)).2 }) := by
  simp only [depart, h]

/-- An evaluation is made of its departure, its scoring and its arrival. -/
theorem evaluate_eq_arrive {s : PipelineState} {action : Action} {clock : EvaluationClock}
    {outcome : IdentityOutcome} (h : identityOutcome (s.breaker.call clock.start clock.finish
      (s.resolver.resolve action.agentDid)).1 = .ok outcome) :
    ((pipeline.withEngine engine).evaluate rt s clock action).1 =
      pipeline.arrive rt engine ⟨action, clock, outcome⟩
        (pipeline.detector.score s.baseline clock.recordedAt action).1 := by
  have hresolved : (((pipeline.withEngine engine).depsAt s clock).resolveIdentity
      clock.toReadings action).1 = .ok outcome := h
  simp only [evaluate, PipelineDeps.evaluate, hresolved]
  rfl

/-- An operation is its two stages in turn. -/
theorem serve_eq_inTurn (s : Directory × BaselineStore) (operation : PipelineOperation) :
    (pipeline.withEngine engine).serve rt (s.1.on s.2) operation =
      ((departures.inTurn pipeline.scoring s operation).1.map fun x =>
          pipeline.arrive rt engine x.1 x.2,
        (departures.inTurn pipeline.scoring s operation).2.1.on
          (departures.inTurn pipeline.scoring s operation).2.2) := by
  obtain ⟨d, baseline⟩ := s
  cases operation with
  | upsertIdentity identity => rfl
  | evaluate action clock =>
      obtain ⟨outcome, houtcome⟩ :=
        (d.on baseline).identityOutcome_call clock.start clock.finish action.agentDid
      simp only [Server.inTurn, departures, @depart_eq (d.on {}) _ _ _ houtcome, serve,
        Option.map_some, evaluate_eq_arrive houtcome]
      rfl

/-- The decisions and the stores of a serial run, stage by stage. -/
theorem decisions_eq (pipeline : SharedPipeline) (rt : PyRuntime) (engine : PolicyEngine)
    (stores : PipelineState) (operations : List PipelineOperation) :
    (pipeline.withEngine engine).decisions rt stores operations =
        (((departures.inTurn pipeline.scoring).answers (directory stores, stores.baseline)
          operations).filterMap Prod.snd).map (fun x => pipeline.arrive rt engine x.1 x.2) ∧
      ((pipeline.withEngine engine).serve rt).after stores operations =
        ((departures.inTurn pipeline.scoring).after (directory stores, stores.baseline)
          operations).1.on ((departures.inTurn pipeline.scoring).after
            (directory stores, stores.baseline) operations).2 := by
  obtain ⟨hanswers, hafter⟩ := Server.answers_of_image
    (fun s : Directory × BaselineStore => s.1.on s.2)
    (Option.map fun x : Ticket × Result (List RiskFactor) => pipeline.arrive rt engine x.1 x.2)
    serve_eq_inTurn
    (directory stores, stores.baseline) operations
  refine ⟨?_, hafter⟩
  have hstores : (directory stores).on stores.baseline = stores := rfl
  rw [decisions, ← hstores, hanswers, List.filterMap_map, List.map_filterMap]
  rfl

/-! ### Runs -/

end SharedPipeline

namespace LoopState

variable {pipeline : SharedPipeline} {rt : PyRuntime} {stores : PipelineState}
  {engine : PolicyEngine} {es : List LoopEvent} {s s' : LoopState} {e : LoopEvent}

/-- The evaluations of the loop between their two stages. -/
def staged (s : LoopState) :
    Staged SharedPipeline.Directory BaselineStore Ticket (Result (List RiskFactor)) :=
  ⟨SharedPipeline.directory s.stores, s.stores.baseline, s.queued, s.scored⟩

/-- What has landed was scored, and is decided once. -/
structure Landed (pipeline : SharedPipeline) (rt : PyRuntime) (s : LoopState) : Prop where
  scored : ∀ l ∈ s.landed, ∃ x, s.scored[l.index]? = some x ∧
    l.result = pipeline.arrive rt l.engine x.1 x.2
  once : (s.landed.map Landing.index).Nodup

theorem step_score_inv (h : s.step pipeline rt .score = some s') :
    ∃ ticket queued, s.queued = ticket :: queued ∧ s' = { s with
      stores := { s.stores with baseline := (pipeline.scoring s.stores.baseline ticket).2 }
      queued
      scored := s.scored ++ [(ticket, (pipeline.scoring s.stores.baseline ticket).1)] } := by
  cases hqueued : s.queued with
  | nil => simp [step, hqueued] at h
  | cons ticket queued =>
      simp only [step, hqueued, Option.some.injEq] at h
      exact ⟨ticket, queued, rfl, h.symm⟩

theorem step_land_inv {i : ℕ} (h : s.step pipeline rt (.land i) = some s') :
    i ∉ s.landed.map Landing.index ∧ ∃ x, s.scored[i]? = some x ∧ s' = { s with
      landed := s.landed ++ [⟨i, s.engine, pipeline.arrive rt s.engine x.1 x.2⟩] } := by
  simp only [step] at h
  obtain ⟨hnew, h⟩ := Option.ite_none_left_eq_some.mp h
  cases hscored : s.scored[i]? with
  | none => simp [hscored] at h
  | some x =>
      simp only [hscored, Option.some.injEq] at h
      exact ⟨hnew, x, rfl, h.symm⟩

/-- A step begins an operation, takes one through its second stage, or does neither. -/
theorem staged_step (h : s.step pipeline rt e = some s') :
    (∃ operation, e.operation = some operation ∧
      s'.staged = s.staged.enter SharedPipeline.departures operation) ∨
    (e.operation = none ∧ (s.staged.advance pipeline.scoring = some s'.staged ∨
      s'.staged = s.staged)) := by
  cases e with
  | begin action clock =>
      obtain ⟨outcome, houtcome⟩ :=
        s.stores.identityOutcome_call clock.start clock.finish action.agentDid
      simp only [step, SharedPipeline.depart_eq houtcome, Option.some.injEq] at h
      subst h
      refine Or.inl ⟨_, rfl, ?_⟩
      simp only [staged, Staged.enter, SharedPipeline.departures, @SharedPipeline.depart_eq
        ((SharedPipeline.directory s.stores).on {}) _ _ _ houtcome]
      rfl
  | upsert identity =>
      obtain rfl := Option.some.inj h
      refine Or.inl ⟨_, rfl, ?_⟩
      simp only [staged, Staged.enter, SharedPipeline.departures, Option.toList_none,
        List.append_nil]
      rfl
  | score =>
      obtain ⟨ticket, queued, hqueued, rfl⟩ := step_score_inv h
      refine Or.inr ⟨rfl, Or.inl ?_⟩
      simp only [staged, Staged.advance, hqueued]
      rfl
  | replaceBundle bundle =>
      obtain rfl := Option.some.inj h
      exact Or.inr ⟨rfl, Or.inr rfl⟩
  | land i =>
      obtain ⟨-, x, -, rfl⟩ := step_land_inv h
      exact Or.inr ⟨rfl, Or.inr rfl⟩

/-- Scoring one more evaluation leaves those that are scored where they are. -/
theorem Landed.of_append {extra : List (Ticket × Result (List RiskFactor))}
    (h : s.Landed pipeline rt) (hscored : s'.scored = s.scored ++ extra)
    (hlanded : s'.landed = s.landed) : s'.Landed pipeline rt where
  scored l hl := by
    rw [hlanded] at hl
    obtain ⟨x, hx, hresult⟩ := h.scored l hl
    refine ⟨x, ?_, hresult⟩
    rw [hscored, List.getElem?_append_left (List.getElem?_eq_some_iff.mp hx).1]
    exact hx
  once := hlanded ▸ h.once

theorem Landed.step (hl : s.Landed pipeline rt) (h : s.step pipeline rt e = some s') :
    s'.Landed pipeline rt := by
  cases e with
  | begin action clock =>
      obtain rfl := Option.some.inj h
      exact hl.of_append (List.append_nil _).symm rfl
  | upsert identity =>
      obtain rfl := Option.some.inj h
      exact hl.of_append (List.append_nil _).symm rfl
  | score =>
      obtain ⟨ticket, queued, -, rfl⟩ := step_score_inv h
      exact hl.of_append rfl rfl
  | replaceBundle bundle =>
      obtain rfl := Option.some.inj h
      exact hl.of_append (List.append_nil _).symm rfl
  | land i =>
      obtain ⟨hnew, x, hx, rfl⟩ := step_land_inv h
      constructor
      · intro l hmem
        rcases List.mem_append.mp hmem with hbefore | hlast
        · exact hl.scored l hbefore
        · obtain rfl := List.mem_singleton.mp hlast
          exact ⟨x, hx, rfl⟩
      · simp only [List.map_append, List.map_cons, List.map_nil]
        exact List.nodup_append.mpr ⟨hl.once, List.nodup_singleton i, by
          rintro j hj k hk rfl
          exact hnew (List.mem_singleton.mp hk ▸ hj)⟩

theorem operationsOf_append_singleton (es : List LoopEvent) (e : LoopEvent) :
    operationsOf (es ++ [e]) = operationsOf es ++ e.operation.toList := by
  cases he : e.operation <;> simp [operationsOf, he]

theorem follows_of_run (h : (pipeline.loop rt stores engine).Run es s) :
    Staged.Follows SharedPipeline.departures pipeline.scoring (SharedPipeline.directory stores)
      stores.baseline (operationsOf es) s.staged ∧ s.Landed pipeline rt := by
  induction h with
  | init hs =>
      subst hs
      exact ⟨Staged.follows_start, by simp, by simp⟩
  | step hrun hstep ih =>
      obtain ⟨hfollows, hlanded⟩ := ih
      refine ⟨?_, hlanded.step hstep⟩
      rw [operationsOf_append_singleton]
      rcases staged_step hstep with ⟨operation, hoperation, hnext⟩ | ⟨hoperation, hnext | hsame⟩
      · rw [hoperation, hnext]
        exact hfollows.enter operation
      · rw [hoperation, Option.toList_none, List.append_nil]
        exact hfollows.advance hnext
      · rw [hoperation, Option.toList_none, List.append_nil, hsame]
        exact hfollows

section Serial

variable {operations : List PipelineOperation}
  (h : Staged.Follows SharedPipeline.departures pipeline.scoring (SharedPipeline.directory stores)
    stores.baseline operations s.staged)

include h

theorem Landed.serial (hlanded : s.Landed pipeline rt) {l : Landing} (hl : l ∈ s.landed) :
    ((pipeline.withEngine l.engine).decisions rt stores operations)[l.index]? = some l.result := by
  obtain ⟨x, hx, hresult⟩ := hlanded.scored l hl
  have hfinished : s.staged.finished[l.index]? = some x := hx
  obtain ⟨later, hserial⟩ := h.finished_isPrefix
  rw [(pipeline.decisions_eq rt l.engine stores operations).1, List.getElem?_map, hresult,
    ← hserial, List.getElem?_append_left (List.getElem?_eq_some_iff.mp hfinished).1, hfinished]
  rfl

theorem begun_of_follows (engine : PolicyEngine) :
    ((pipeline.withEngine engine).decisions rt stores operations).length =
      s.scored.length + s.queued.length := by
  rw [(pipeline.decisions_eq rt engine stores operations).1, List.length_map,
    (Server.inTurn_eq operations).1, Server.length_answers, h.queue, List.length_append,
    List.length_map]
  rfl

/-- Identities and breaker are never behind those of the serial run. -/
theorem directory_of_follows (rt : PyRuntime) (engine : PolicyEngine) :
    SharedPipeline.directory s.stores =
      SharedPipeline.directory
        (((pipeline.withEngine engine).serve rt).after stores operations) := by
  rw [(pipeline.decisions_eq rt engine stores operations).2, (Server.inTurn_eq operations).2]
  exact h.front

theorem settled_of_follows (engine : PolicyEngine) (hempty : s.queued = []) :
    s.stores = ((pipeline.withEngine engine).serve rt).after stores operations := by
  rw [(pipeline.decisions_eq rt engine stores operations).2, ← (h.settled hempty).2]
  rfl

end Serial

/-- The evaluations of a state are those of a pipeline that serves the operations one after the
other. -/
structure Serial (pipeline : SharedPipeline) (rt : PyRuntime) (stores : PipelineState)
    (operations : List PipelineOperation) (s : LoopState) : Prop where
  landed : ∀ l ∈ s.landed,
    ((pipeline.withEngine l.engine).decisions rt stores operations)[l.index]? = some l.result
  once : (s.landed.map Landing.index).Nodup
  /-- None is lost. -/
  begun : (pipeline.decisions rt stores operations).length = s.scored.length + s.queued.length
  settled : s.queued = [] → s.stores = (pipeline.serve rt).after stores operations

/-- **Overlapping evaluations are serializable**: however they overlap, and whatever identities
are registered and policies are put in force meanwhile, each decision is the one of a pipeline
that takes the operations one after the other, in the order in which they begin, under the
policy in force when the decision is made. -/
theorem serial_of_run (h : (pipeline.loop rt stores engine).Run es s) :
    s.Serial pipeline rt stores (operationsOf es) := by
  obtain ⟨hfollows, hlanded⟩ := follows_of_run h
  exact ⟨fun _ hl => hlanded.serial hfollows hl, hlanded.once,
    begun_of_follows hfollows pipeline.deps.policyEngine,
    settled_of_follows hfollows pipeline.deps.policyEngine⟩

/-- The agent's action is evaluated twice, and in between the agent is revoked. The first
evaluation is the last one to land. -/
def revokedMeanwhile : List LoopEvent :=
  let action := (PipelineWorld.visit default).action
  [.begin action ⟨.zero, 0⟩, .upsert SharedInterceptor.revokedAgent, .begin action ⟨.zero, 0⟩,
    .score, .score, .land 1, .replaceBundle ⟨[]⟩, .land 0]

theorem run_revokedMeanwhile : ∃ s : LoopState, (SharedInterceptor.quiet.pipeline.loop default
      SharedInterceptor.oneAgent ⟨⟨[]⟩⟩).Run revokedMeanwhile s ∧
    s.landed.map (fun l => (l.index, l.result.toOption.map Decision.verdict)) =
      [(1, some .escalate), (0, some .allow)] := by
  have hrun : (revokedMeanwhile.foldlM (step SharedInterceptor.quiet.pipeline default)
      ⟨SharedInterceptor.oneAgent, ⟨⟨[]⟩⟩, [], [], []⟩).map (fun s => s.landed.map fun l =>
        (l.index, l.result.toOption.map Decision.verdict)) =
      some [(1, some .escalate), (0, some .allow)] := by
    decide +kernel
  obtain ⟨s, hs, hlanded⟩ := Option.map_eq_some_iff.mp hrun
  exact ⟨s, .replay (fun _ _ _ h => h) (.init rfl) revokedMeanwhile hs, hlanded⟩

theorem serial_of_run_revoked : ∃ s : LoopState,
    s.landed.map (fun l => (l.index, l.result.toOption.map Decision.verdict)) =
        [(1, some .escalate), (0, some .allow)] ∧
      s.Serial SharedInterceptor.quiet.pipeline default SharedInterceptor.oneAgent
        (operationsOf revokedMeanwhile) := by
  obtain ⟨s, hrun, hlanded⟩ := run_revokedMeanwhile
  exact ⟨s, hlanded, serial_of_run hrun⟩

/-! ### What is allowed -/

end LoopState

namespace SharedPipeline

variable {pipeline : SharedPipeline} {rt : PyRuntime} {stores : PipelineState}
  {engine : PolicyEngine} {operations : List PipelineOperation}

/-- A decision of a serial run is that of one of its evaluations. -/
theorem exists_evaluate_of_decisions {k : ℕ} {result : Result Decision}
    (h : (pipeline.decisions rt stores operations)[k]? = some result) :
    ∃ before action clock after, operations = before ++ .evaluate action clock :: after ∧
      (pipeline.decisions rt stores before).length = k ∧
      (pipeline.evaluate rt ((pipeline.serve rt).after stores before) clock action).1 = result := by
  induction operations generalizing stores k with
  | nil => simp [decisions, Server.answers] at h
  | cons operation operations ih =>
      cases operation with
      | upsertIdentity identity =>
          obtain ⟨before, action, clock, after, rfl, hlength, hresult⟩ := ih h
          exact ⟨.upsertIdentity identity :: before, action, clock, after, rfl, hlength, hresult⟩
      | evaluate action clock =>
          cases k with
          | zero => exact ⟨[], action, clock, operations, rfl, rfl, Option.some.inj h⟩
          | succ k =>
              obtain ⟨before, action', clock', after, rfl, hlength, hresult⟩ := ih h
              exact ⟨.evaluate action clock :: before, action', clock', after, rfl,
                congrArg (· + 1) hlength, hresult⟩

end SharedPipeline

namespace LoopState

variable {pipeline : SharedPipeline} {rt : PyRuntime} {stores : PipelineState}
  {engine : PolicyEngine} {es : List LoopEvent} {s : LoopState}

/-- An evaluation among the operations has begun in the run. -/
theorem exists_begin_of_operationsOf {before after : List PipelineOperation} {action : Action}
    {clock : EvaluationClock}
    (h : operationsOf es = before ++ .evaluate action clock :: after) :
    ∃ es₁ es₂, es = es₁ ++ .begin action clock :: es₂ ∧ operationsOf es₁ = before := by
  obtain ⟨es₁, rest, rfl, hbefore, hrest⟩ := List.filterMap_eq_append_iff.mp h
  obtain ⟨skipped, e, es₂, rfl, hskipped, he, -⟩ := List.filterMap_eq_cons_iff.mp hrest
  have hbegin : e = .begin action clock := by
    cases e <;> simp_all [LoopEvent.operation]
  subst hbegin
  refine ⟨es₁ ++ skipped, es₂, by rw [List.append_assoc], ?_⟩
  rw [operationsOf, List.filterMap_append, hbefore, List.filterMap_eq_nil_iff.mpr hskipped,
    List.append_nil]

/-- What is behind a decision that allows the action of an evaluation which began in `s₀`. -/
structure AllowedSince (rt : PyRuntime) (s₀ : LoopState) (action : Action)
    (clock : EvaluationClock) (l : Landing) (d : Decision) (identity : Identity) : Prop where
  known : s₀.stores.known action.agentDid = some identity
  admitted : s₀.stores.breaker.Admits clock.start
  /-- No restrictive rule of the policy at the end matches. -/
  unrestricted : l.engine.Unrestricted rt action (some identity) d.explanation.riskFactors

/-- **An overlapping evaluation allows nothing on its own**: the agent was registered and not
revoked when the evaluation began, the breaker let the identity call through, and no restrictive
rule of the policy in force at its end matches. -/
theorem allowedSince_of_landed (h : (pipeline.loop rt stores engine).Run es s) {l : Landing}
    (hl : l ∈ s.landed) {d : Decision} (hd : l.result = .ok d) (hallow : d.verdict = .allow) :
    ∃ es₁ action clock es₂ s₀ identity, es = es₁ ++ .begin action clock :: es₂ ∧
      (pipeline.loop rt stores engine).Run es₁ s₀ ∧
      s₀.scored.length + s₀.queued.length = l.index ∧
      AllowedSince rt s₀ action clock l d identity := by
  obtain ⟨hall, hlanded⟩ := follows_of_run h
  obtain ⟨before, action, clock, after, hsplit, hlength, hevaluated⟩ :=
    SharedPipeline.exists_evaluate_of_decisions ((hlanded.serial hall hl).trans (by rw [hd]))
  obtain ⟨es₁, es₂, rfl, rfl⟩ := exists_begin_of_operationsOf hsplit
  obtain ⟨s₀, hrun⟩ := h.of_append
  obtain ⟨hfollows, -⟩ := follows_of_run hrun
  obtain ⟨identity, ms, houtcome, -, rfl, hunrestricted, -⟩ :=
    PipelineDeps.evaluate_allow_inv hevaluated hallow
  obtain ⟨-, hadmits, hstore, hlive⟩ := PipelineDeps.resolveIdentity_eq_some houtcome rfl
  obtain ⟨hidentities, hbreaker⟩ := SharedPipeline.Directory.mk.inj
    (directory_of_follows hfollows rt l.engine)
  refine ⟨es₁, action, clock, es₂, s₀, identity, rfl, hrun, ?_, ?_, ?_, hunrestricted⟩
  · rw [← hlength, begun_of_follows hfollows]
  · rw [← PipelineState.resolver_resolve_eq_ok, IdentityResolver.resolve_eq_ok]
    refine ⟨?_, hlive⟩
    rw [← hstore]
    exact congrArg (fun identities => Except.ok (identities.get action.agentDid)) hidentities
  · rw [hbreaker]
    exact hadmits

/-- The first evaluation is allowed, though its agent is revoked before it lands. -/
theorem allowedSince_of_landed_revoked :
    ∃ (l : Landing) (d : Decision), l.index = 0 ∧ d.verdict = .allow ∧
      ∃ es₁ action clock es₂ s₀ identity, revokedMeanwhile = es₁ ++ .begin action clock :: es₂ ∧
        (SharedInterceptor.quiet.pipeline.loop default SharedInterceptor.oneAgent
          ⟨⟨[]⟩⟩).Run es₁ s₀ ∧
        s₀.scored.length + s₀.queued.length = l.index ∧
        AllowedSince default s₀ action clock l d identity := by
  obtain ⟨s, hrun, hlanded⟩ := run_revokedMeanwhile
  have hmem : ((0, some .allow) : ℕ × Option DecisionVerdict) ∈
      s.landed.map fun l => (l.index, l.result.toOption.map Decision.verdict) := by
    rw [hlanded]
    decide
  obtain ⟨l, hl, hsame⟩ := List.mem_map.mp hmem
  obtain ⟨hindex, hverdict⟩ := Prod.mk.inj hsame
  obtain ⟨d, hd, hallow⟩ := Option.map_eq_some_iff.mp hverdict
  have hresult : l.result = .ok d := by
    cases hcase : l.result with
    | error e => simp [hcase, Except.toOption] at hd
    | ok made => simpa [hcase, Except.toOption] using hd
  exact ⟨l, d, hindex, hallow, allowedSince_of_landed hrun hl hresult hallow⟩

end LoopState

end AgentSentinel
