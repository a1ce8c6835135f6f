import AgentSentinel.Core.Interceptor
import AgentSentinel.Lib.Transition

/-!
# AgentSentinel.Gateway.McpGateway

One call of the gateway beside the caller's other coroutines, as a transition system.
Between two suspension points the gateway runs alone. It is suspended twice: while the
interceptor evaluates the action, and while the executor runs.

The action is built before the first suspension. Validating it copies the arguments
dictionary, but not the objects in it. The executor is called after the suspension, and
it is handed the caller's dictionary itself. So the values are kept behind references
here, and other coroutines may change the dictionary and the objects.
-/

namespace AgentSentinel

open Lib

/-- A reference to an object. -/
abbrev ObjRef := ℕ

/-- `args or {}`. -/
def argsOrEmpty (args : Option (PyDict ObjRef)) : PyDict ObjRef := args.getD .empty

/-- The parameters of `MCPGateway.evaluate` but for `args`, and whether there is an
`executor or self._handler`. -/
structure GatewayCall where
  tool : PyStr
  principalDid : Option PyStr := none
  agentDid : Option PyStr := none
  tenantId : PyStr := py "default"
  intent : Option PyStr := none
  hasRunner : Bool := true

namespace GatewayCall

/-- `principal_did or agent_did or "did:anon:unknown"`. -/
def agent (call : GatewayCall) : PyStr :=
  let given (did : Option PyStr) := did.filter fun d => !d.isEmpty
  ((given call.principalDid).or (given call.agentDid)).getD (py "did:anon:unknown")

/-- The action of the call. A DID that is too short fails the model's validation. -/
def action (call : GatewayCall) (defaults : ActionDefaults) (arguments : PyDict Value) :
    Result Action :=
  if h : 8 ≤ call.agent.length then
    .ok {
      id := defaults.id
      type := .toolCall
      agentDid := call.agent
      agentDid_length := h
      tenantId := call.tenantId
      tool := some call.tool
      arguments
      intent := call.intent
      context := defaults.context
      createdAt := defaults.createdAt }
  else .error ⟨.validationError, py "1 validation error for Action"⟩

end GatewayCall

theorem GatewayCall.action_eq_ok {call : GatewayCall} {defaults : ActionDefaults}
    {arguments : PyDict Value} {action : Action}
    (h : call.action defaults arguments = .ok action) :
    action.tool = some call.tool ∧ action.arguments = arguments := by
  unfold GatewayCall.action at h
  split at h
  · obtain rfl := Except.ok.inj h
    exact ⟨rfl, rfl⟩
  · cases h

/-- An action under evaluation: as it was built, and the references that its arguments
share with the caller's dictionary. -/
structure PendingAction where
  built : Action
  arguments : PyDict ObjRef

/-- The action with what its arguments hold now. -/
def PendingAction.current (pending : PendingAction) (heap : ObjRef → Value) : Action :=
  { pending.built with arguments := pending.arguments.map heap }

structure GatewayResult where
  decision : Decision
  output : Option Value := none
  blocked : Bool := false

/-- `ToolDeniedError`. -/
def toolDenied (rt : PyRuntime) (d : Decision) : PyExc where
  kind := .other (py "ToolDeniedError")
  msg := py "tool denied: verdict=" ++ d.verdict.value ++ py " reasons=" ++
    rt.strOf (.list (d.explanation.riskFactors.map fun f => .str f.code))

/-- `invoke`, from what `evaluate` returns or raises. -/
def invoke (rt : PyRuntime) (result : Result GatewayResult) : Result (Option Value) := do
  let result ← result
  if result.blocked then .error (toolDenied rt result.decision) else return result.output

/-- How far the call has come. -/
inductive GatewayPhase
  | idle
  /-- Suspended in the interceptor. -/
  | waiting (pending : PendingAction)
  /-- The interceptor is done, and the gateway has not run since. -/
  | answered (pending : PendingAction) (answer : Result Decision)
  /-- Suspended in the executor. -/
  | running (decision : Decision)
  | finished (result : Result GatewayResult)

/-- An invocation of the executor: the tool, and what the dictionary held. -/
structure ToolRun where
  tool : PyStr
  args : PyDict Value

/-- The invocation is of the tool and with the arguments of the action. -/
def ToolRun.Matches (run : ToolRun) (action : Action) : Prop :=
  action.tool = some run.tool ∧ ∀ k, run.args.get k = action.arguments.get k

/-- An answer of the interceptor, with the action as it was submitted and as it was when
the answer was given. -/
structure GatewayAnswer where
  submitted : Action
  decidedOn : Action
  result : Result Decision

/-- The call, what it shares with other coroutines, and the history the properties speak
of: the answer and the invocations of the executor. -/
structure GatewayWorld where
  args : Option (PyDict ObjRef)
  heap : ObjRef → Value
  phase : GatewayPhase := .idle
  answer : Option GatewayAnswer := none
  executed : List ToolRun := []

inductive GatewayEvent
  /-- The gateway builds the action and awaits the interceptor. -/
  | start (defaults : ActionDefaults)
  /-- Another coroutine runs. -/
  | mutate (args : Option (PyDict ObjRef)) (heap : ObjRef → Value)
  /-- The interceptor returns or raises. -/
  | answer (result : Result Decision)
  /-- The gateway runs on with the decision. -/
  | resume
  /-- The executor returns or raises. -/
  | finish (output : Result Value)

/-- The answers of an interceptor to an action. -/
def Interceptor.Answers (interceptor : Interceptor) (rt : PyRuntime) (action : Action)
    (result : Result Decision) : Prop :=
  ∃ r elapsedMs, result = (interceptor.evaluate rt r action elapsedMs).1

namespace GatewayWorld

/-- One step; `none` where the event cannot happen. -/
def step (call : GatewayCall) (w : GatewayWorld) : GatewayEvent → Option GatewayWorld
  | .start defaults =>
    match w.phase with
    | .idle =>
      match call.action defaults ((argsOrEmpty w.args).map w.heap) with
      | .error e => some { w with phase := .finished (.error e) }
      | .ok action => some { w with phase := .waiting ⟨action, argsOrEmpty w.args⟩ }
    | _ => none
  | .mutate args heap =>
    -- A call without a dictionary has none to share.
    if args.isSome = w.args.isSome then some { w with args, heap } else none
  | .answer result =>
    match w.phase with
    | .waiting pending => some { w with
        phase := .answered pending result
        answer := some ⟨pending.built, pending.current w.heap, result⟩ }
    | _ => none
  | .resume =>
    match w.phase with
    | .answered _ (.error e) => some { w with phase := .finished (.error e) }
    | .answered _ (.ok decision) =>
      if decision.verdict ≠ .allow then
        some { w with phase := .finished (.ok { decision, blocked := true }) }
      else if call.hasRunner then
        some { w with
          phase := .running decision
          executed := w.executed ++ [⟨call.tool, (argsOrEmpty w.args).map w.heap⟩] }
      else
        let e : PyExc := ⟨.other (py "RuntimeError"),
          py "MCPGateway.invoke called without an executor and no default " ++
            py "handler was bound at construction time."⟩
        some { w with phase := .finished (.error e) }
    | _ => none
  | .finish output =>
    match w.phase with
    | .running decision => some { w with
        phase := .finished (output.map fun out => { decision, output := some out }) }
    | _ => none

/-- The runs of one call, with an interceptor that gives the answers `answers`. -/
def runs (answers : Action → Result Decision → Prop) (call : GatewayCall) :
    TransitionSystem GatewayWorld GatewayEvent where
  init w := w.phase = .idle ∧ w.answer = none ∧ w.executed = []
  step w e w' := w.step call e = some w' ∧
    ∀ result pending, e = .answer result → w.phase = .waiting pending →
      answers (pending.current w.heap) result

/-! ### What is promised -/

/-- The executor is invoked at most once, after an `allow`, and with what was submitted
and decided on. -/
def OnlyEvaluated (w : GatewayWorld) : Prop :=
  w.executed.length ≤ 1 ∧ ∀ run ∈ w.executed, ∃ a d, w.answer = some a ∧ a.result = .ok d ∧
    d.verdict = .allow ∧ run.Matches a.submitted ∧ run.Matches a.decidedOn

/-- While the interceptor has the action, other coroutines leave the entries of the
dictionary and the objects in it as they are. -/
def KeepsArguments (w : GatewayWorld) : GatewayEvent → Prop
  | .mutate args heap =>
    match w.phase with
    | .waiting pending | .answered pending _ =>
      (∀ k, (argsOrEmpty args).get k = (argsOrEmpty w.args).get k) ∧
        ∀ k o, pending.arguments.get k = some o → heap o = w.heap o
    | _ => True
  | _ => True

variable {answers : Action → Result Decision → Prop} {call : GatewayCall}
  {w w' : GatewayWorld} {e : GatewayEvent}

/-- What a step can do. -/
theorem step_cases (h : w.step call e = some w') :
    (∃ defaults exc, e = .start defaults ∧ w.phase = .idle ∧
      w' = { w with phase := .finished (.error exc) }) ∨
    (∃ defaults action, e = .start defaults ∧ w.phase = .idle ∧
      call.action defaults ((argsOrEmpty w.args).map w.heap) = .ok action ∧
      w' = { w with phase := .waiting ⟨action, argsOrEmpty w.args⟩ }) ∨
    (∃ args heap, e = .mutate args heap ∧ w' = { w with args, heap }) ∨
    (∃ result pending, e = .answer result ∧ w.phase = .waiting pending ∧
      w' = { w with
        phase := .answered pending result
        answer := some ⟨pending.built, pending.current w.heap, result⟩ }) ∨
    (∃ pending answer result, e = .resume ∧ w.phase = .answered pending answer ∧
      (∀ r, result = .ok r → r.blocked = true) ∧ w' = { w with phase := .finished result }) ∨
    (∃ pending decision, e = .resume ∧ w.phase = .answered pending (.ok decision) ∧
      decision.verdict = .allow ∧
      w' = { w with
        phase := .running decision
        executed := w.executed ++ [⟨call.tool, (argsOrEmpty w.args).map w.heap⟩] }) ∨
    (∃ output decision, e = .finish output ∧ w.phase = .running decision ∧
      w' = { w with
        phase := .finished (output.map fun out => { decision, output := some out }) }) := by
  cases e with
  | start defaults =>
      cases hphase : w.phase with
      | idle =>
          cases haction : call.action defaults ((argsOrEmpty w.args).map w.heap) with
          | error exc =>
              simp only [step, hphase, haction, Option.some.injEq] at h
              exact Or.inl ⟨defaults, exc, rfl, rfl, h.symm⟩
          | ok action =>
              simp only [step, hphase, haction, Option.some.injEq] at h
              exact Or.inr (Or.inl ⟨defaults, action, rfl, rfl, haction, h.symm⟩)
      | _ => simp [step, hphase] at h
  | mutate args heap =>
      obtain ⟨-, h⟩ := Option.ite_none_right_eq_some.mp h
      exact Or.inr (Or.inr (Or.inl ⟨args, heap, rfl, (Option.some.inj h).symm⟩))
  | answer result =>
      cases hphase : w.phase with
      | waiting pending =>
          simp only [step, hphase, Option.some.injEq] at h
          exact Or.inr (Or.inr (Or.inr (Or.inl ⟨result, pending, rfl, rfl, h.symm⟩)))
      | _ => simp [step, hphase] at h
  | resume =>
      refine Or.inr (Or.inr (Or.inr (Or.inr ?_)))
      cases hphase : w.phase with
      | answered pending answer =>
          -- The tool runs for an ALLOW with a runner; anything else ends the call.
          cases answer with
          | error exc =>
              simp only [step, hphase, Option.some.injEq] at h
              exact Or.inl ⟨pending, .error exc, .error exc, rfl, rfl, by simp, h.symm⟩
          | ok decision =>
              by_cases hallow : decision.verdict = .allow
              · cases hrunner : call.hasRunner with
                | true =>
                    simp only [step, hphase, hallow, hrunner, ne_eq, not_true_eq_false, if_false,
                      if_true, Option.some.injEq] at h
                    exact Or.inr (Or.inl ⟨pending, decision, rfl, rfl, hallow, h.symm⟩)
                | false =>
                    simp only [step, hphase, hallow, hrunner, ne_eq, not_true_eq_false, if_false,
                      Bool.false_eq_true, Option.some.injEq] at h
                    refine Or.inl ⟨pending, _, .error _, rfl, rfl, ?_, h.symm⟩
                    simp
              · simp only [step, hphase, hallow, ne_eq, not_false_eq_true, if_true,
                  Option.some.injEq] at h
                refine Or.inl ⟨pending, _, .ok _, rfl, rfl, ?_, h.symm⟩
                simp
      | _ => simp [step, hphase] at h
  | finish output =>
      cases hphase : w.phase with
      | running decision =>
          simp only [step, hphase, Option.some.injEq] at h
          exact Or.inr (Or.inr (Or.inr (Or.inr (Or.inr (Or.inr
            ⟨output, decision, rfl, rfl, h.symm⟩)))))
      | _ => simp [step, hphase] at h

/-! ### At most once, and only when allowed -/

/-- The executor has been invoked once, after an `allow`. -/
def ExecutedOnce (w : GatewayWorld) : Prop :=
  ∃ a d run, w.answer = some a ∧ a.result = .ok d ∧ d.verdict = .allow ∧ w.executed = [run]

/-- What each phase says about the history. -/
def PhaseInv (w : GatewayWorld) : Prop :=
  match w.phase with
  | .idle | .waiting _ => w.executed = []
  | .answered _ result => w.executed = [] ∧ ∃ a, w.answer = some a ∧ a.result = result
  | .running _ => w.ExecutedOnce
  | .finished result =>
    (w.executed = [] ∧ ∀ r, result = .ok r → r.blocked = true) ∨ w.ExecutedOnce

theorem PhaseInv.step (h : w.PhaseInv) (hstep : w.step call e = some w') : w'.PhaseInv := by
  unfold PhaseInv at h
  rcases step_cases hstep with ⟨_, exc, -, hphase, rfl⟩ | ⟨_, action, -, hphase, -, rfl⟩ |
    ⟨_, _, -, rfl⟩ | ⟨result, pending, -, hphase, rfl⟩ |
    ⟨pending, answer, result, -, hphase, hblocked, rfl⟩ |
    ⟨pending, decision, -, hphase, hallow, rfl⟩ | ⟨output, decision, -, hphase, rfl⟩
  · rw [hphase] at h
    exact Or.inl ⟨h, by simp⟩
  · rw [hphase] at h
    exact h
  · exact h
  · rw [hphase] at h
    exact ⟨h, _, rfl, rfl⟩
  · rw [hphase] at h
    exact Or.inl ⟨h.1, hblocked⟩
  · rw [hphase] at h
    obtain ⟨hnone, a, ha, hresult⟩ := h
    exact ⟨a, decision, _, ha, hresult, hallow, by rw [hnone]; rfl⟩
  · rw [hphase] at h
    exact Or.inr h

theorem phaseInv_of_reachable (h : (runs answers call).Reachable w) : w.PhaseInv := by
  refine h.invariant ?_ fun _ _ _ _ hI hstep => hI.step hstep.1
  intro w hinit
  obtain ⟨hphase, -, hnone⟩ := hinit
  unfold PhaseInv
  rw [hphase]
  exact hnone

/-- **Never twice and never without an `allow`**, whatever other coroutines do. -/
theorem executedOnce_of_executed (h : (runs answers call).Reachable w)
    (hexecuted : w.executed ≠ []) : w.ExecutedOnce := by
  have hinv := phaseInv_of_reachable h
  unfold PhaseInv at hinv
  split at hinv
  · exact absurd hinv hexecuted
  · exact absurd hinv hexecuted
  · exact absurd hinv.1 hexecuted
  · exact hinv
  · exact hinv.resolve_left fun h => hexecuted h.1

/-- `invoke` returns only after the executor has run. -/
theorem executedOnce_of_invoke {rt : PyRuntime} {result : Result GatewayResult}
    {output : Option Value} (h : (runs answers call).Reachable w)
    (hfinished : w.phase = .finished result) (hinvoke : invoke rt result = .ok output) :
    w.ExecutedOnce := by
  have hinv := phaseInv_of_reachable h
  unfold PhaseInv at hinv
  rw [hfinished] at hinv
  refine hinv.resolve_left fun hblocked => ?_
  obtain ⟨r, hr, houtput⟩ := bind_eq_ok.mp hinvoke
  rw [if_pos (hblocked.2 r hr)] at houtput
  cases houtput

/-! ### The arguments -/

/-- The dictionary and the objects in it are as when the action was built. -/
structure Unchanged (call : GatewayCall) (w : GatewayWorld) (pending : PendingAction) : Prop where
  tool : pending.built.tool = some call.tool
  entries : ∀ k, (argsOrEmpty w.args).get k = pending.arguments.get k
  objects : ∀ k, (pending.current w.heap).arguments.get k = pending.built.arguments.get k

/-- From the submission on, what the executor would be handed is what was submitted. -/
structure ArgumentsInv (call : GatewayCall) (w : GatewayWorld) : Prop where
  waiting : ∀ pending, w.phase = .waiting pending → w.Unchanged call pending
  answered : ∀ pending result, w.phase = .answered pending result → w.Unchanged call pending ∧
    ∀ a, w.answer = some a → a.submitted = pending.built ∧
      a.decidedOn.tool = pending.built.tool ∧
      ∀ k, a.decidedOn.arguments.get k = pending.built.arguments.get k
  executed : ∀ run ∈ w.executed, ∀ a, w.answer = some a →
    run.Matches a.submitted ∧ run.Matches a.decidedOn

/-- Other coroutines that keep the arguments change nothing that matters. -/
theorem Unchanged.mutate {pending : PendingAction} {args : Option (PyDict ObjRef)}
    {heap : ObjRef → Value} (h : w.Unchanged call pending)
    (hentries : ∀ k, (argsOrEmpty args).get k = (argsOrEmpty w.args).get k)
    (hobjects : ∀ k o, pending.arguments.get k = some o → heap o = w.heap o) :
    ({ w with args, heap } : GatewayWorld).Unchanged call pending := by
  refine ⟨h.tool, fun k => (hentries k).trans (h.entries k), fun k => ?_⟩
  rw [← h.objects k]
  simp only [PendingAction.current, PyDict.get_map]
  cases hk : pending.arguments.get k with
  | none => rfl
  | some o => rw [Option.map_some, Option.map_some, hobjects k o hk]

/-- The executor would be handed what was submitted. -/
theorem Unchanged.matches {pending : PendingAction} (h : w.Unchanged call pending) :
    (⟨call.tool, (argsOrEmpty w.args).map w.heap⟩ : ToolRun).Matches pending.built := by
  refine ⟨h.tool, fun k => ?_⟩
  rw [← h.objects k]
  simp only [PendingAction.current, PyDict.get_map, h.entries k]

theorem ArgumentsInv.step (h : w.ArgumentsInv call) (hphases : w.PhaseInv)
    (hstep : w.step call e = some w') (hkeeps : w.KeepsArguments e) : w'.ArgumentsInv call := by
  unfold PhaseInv at hphases
  rcases step_cases hstep with ⟨_, exc, -, hphase, rfl⟩ | ⟨_, action, -, hphase, haction, rfl⟩ |
    ⟨args, heap, rfl, rfl⟩ | ⟨result, pending, -, hphase, rfl⟩ |
    ⟨pending, answer, result, -, hphase, -, rfl⟩ |
    ⟨pending, decision, -, hphase, -, rfl⟩ | ⟨output, decision, -, hphase, rfl⟩
  · exact ⟨by simp, by simp, h.executed⟩
  -- The action is built: its arguments are a copy of the dictionary as it is.
  · obtain ⟨htool, harguments⟩ := GatewayCall.action_eq_ok haction
    refine ⟨fun pending hpending => ?_, by simp, h.executed⟩
    obtain rfl := GatewayPhase.waiting.inj hpending
    refine ⟨htool, fun k => rfl, fun k => ?_⟩
    rw [harguments]
    rfl
  · refine ⟨fun pending hpending => ?_, fun pending result hanswered => ?_, h.executed⟩
    · simp only [KeepsArguments, show w.phase = .waiting pending from hpending] at hkeeps
      exact (h.waiting pending hpending).mutate hkeeps.1 hkeeps.2
    · simp only [KeepsArguments, show w.phase = .answered pending result from hanswered] at hkeeps
      obtain ⟨hunchanged, hanswer⟩ := h.answered pending result hanswered
      exact ⟨hunchanged.mutate hkeeps.1 hkeeps.2, hanswer⟩
  · rw [hphase] at hphases
    refine ⟨by simp, fun pending' result' hanswered => ?_, ?_⟩
    · obtain ⟨rfl, rfl⟩ := GatewayPhase.answered.inj hanswered
      have hunchanged := h.waiting pending hphase
      refine ⟨⟨hunchanged.tool, hunchanged.entries, hunchanged.objects⟩, fun a ha => ?_⟩
      obtain rfl := Option.some.inj ha
      exact ⟨rfl, rfl, hunchanged.objects⟩
    · intro run hrun
      rw [show w.executed = [] from hphases] at hrun
      cases hrun
  · exact ⟨by simp, by simp, h.executed⟩
  -- The executor is handed the caller's dictionary, which still holds what was submitted.
  · rw [hphase] at hphases
    obtain ⟨hunchanged, hanswer⟩ := h.answered pending _ hphase
    refine ⟨by simp, by simp, fun run hrun a ha => ?_⟩
    obtain ⟨hsubmitted, htool, harguments⟩ := hanswer a ha
    rw [hphases.1, List.nil_append, List.mem_singleton] at hrun
    obtain ⟨hmatchTool, hmatchArgs⟩ := hunchanged.matches
    rw [hrun, hsubmitted]
    exact ⟨⟨hmatchTool, hmatchArgs⟩, htool.trans hmatchTool,
      fun k => (hmatchArgs k).trans (harguments k).symm⟩
  · exact ⟨by simp, by simp, h.executed⟩

/-- **The gateway executes only what was evaluated**, where nobody changes the arguments
while the interceptor has the action. -/
theorem onlyEvaluated_of_keepsArguments
    (h : ((runs answers call).restrict KeepsArguments).Reachable w) : w.OnlyEvaluated := by
  have hinv : w.ArgumentsInv call := by
    refine h.invariant (I := ArgumentsInv call) ?_ ?_
    · intro w hinit
      obtain ⟨hphase, -, hnone⟩ := hinit
      constructor <;> simp [hphase, hnone]
    · intro w e w' hr hI hstep
      exact hI.step (phaseInv_of_reachable hr.of_restrict) hstep.1.1 hstep.2
  by_cases hexecuted : w.executed = []
  · simp [OnlyEvaluated, hexecuted]
  · obtain ⟨a, d, run, ha, hresult, hallow, hrun⟩ :=
      executedOnce_of_executed h.of_restrict hexecuted
    refine ⟨by simp [hrun], fun run' hrun' => ?_⟩
    exact ⟨a, d, ha, hresult, hallow, hinv.executed run' hrun' a ha⟩

/-! ### One call with a file name that changes -/

theorem step_resume_of_allow {pending : PendingAction} {d : Decision}
    (hphase : w.phase = .answered pending (.ok d)) (hallow : d.verdict = .allow)
    (hrunner : call.hasRunner = true) :
    w.step call .resume = some { w with
      phase := .running d
      executed := w.executed ++ [⟨call.tool, (argsOrEmpty w.args).map w.heap⟩] } := by
  simp [GatewayWorld.step, hphase, hallow, hrunner]

/-- An agent that may search does so. -/
def searchCall : GatewayCall where
  tool := py "search"
  agentDid := some PipelineDeps.searchAgent.did

/-- An interceptor that lets it. -/
def searchInterceptor : Interceptor := ⟨PipelineDeps.searchDeps, Interceptor.storeDown.lib⟩

/-- A dictionary that holds one object as the query. -/
def query (o : ObjRef) : Option (PyDict ObjRef) := some (PyDict.empty.set (py "query") o)

/-- Two strings. -/
def twoStrings (o : ObjRef) : Value := .str (if o = 0 then py "a" else py "b")

/-- The world when the gateway has built the action with the first string, and the
caller's dictionary holds object `o`. -/
def submitted (action : Action) (o : ObjRef) : GatewayWorld where
  args := query o
  heap := twoStrings
  phase := .waiting ⟨action, argsOrEmpty (query 0)⟩

/-- The submitted action. -/
def searchAction : Action := { (default : Action) with
  agentDid := PipelineDeps.searchAgent.did
  agentDid_length := PipelineDeps.searchAgent.did_length
  tool := some (py "search")
  arguments := (argsOrEmpty (query 0)).map twoStrings }

/-- The world when the executor has been invoked. -/
def invoked (d : Decision) (o : ObjRef) : GatewayWorld where
  args := query o
  heap := twoStrings
  phase := .running d
  answer := some ⟨searchAction, searchAction, .ok d⟩
  executed := [⟨py "search", (argsOrEmpty (query o)).map twoStrings⟩]

/-- Whatever other coroutines put into the dictionary meanwhile is what the executor
gets. -/
theorem exists_invoked {G : GatewayWorld → GatewayEvent → Prop} (o : ObjRef)
    (hG : ∀ w e, (∀ args heap, e ≠ .mutate args heap) → G w e)
    (hmutate : G (submitted searchAction 0) (.mutate (query o) twoStrings)) :
    ∃ d, ((runs (searchInterceptor.Answers default) searchCall).restrict G).Reachable
      (invoked d o) := by
  have hrun : (searchInterceptor.evaluate default .zero searchAction 0).1.map (·.verdict) =
      .ok .allow := by decide +kernel
  obtain ⟨d, hd, hallow⟩ := map_eq_ok.mp hrun
  have hsubmitted : ((runs (searchInterceptor.Answers default) searchCall).restrict G).Reachable
      (submitted searchAction 0) := by
    refine .step (.init (s := ⟨query 0, twoStrings, .idle, none, []⟩) ⟨rfl, rfl, rfl⟩)
      (e := .start ⟨0, { sessionId := 0 }, .aware 0 0⟩) ⟨⟨?_, by simp⟩, hG _ _ (by simp)⟩
    rfl
  have hmutated : ((runs (searchInterceptor.Answers default) searchCall).restrict G).Reachable
      (submitted searchAction o) := hsubmitted.step ⟨⟨rfl, by simp⟩, hmutate⟩
  have hanswered : ((runs (searchInterceptor.Answers default) searchCall).restrict G).Reachable
      { submitted searchAction o with
        phase := .answered ⟨searchAction, argsOrEmpty (query 0)⟩ (.ok d)
        answer := some ⟨searchAction, searchAction, .ok d⟩ } := by
    refine hmutated.step (e := .answer (.ok d)) ⟨⟨rfl, ?_⟩, hG _ _ (by simp)⟩
    intro result pending hresult hphase
    obtain rfl := GatewayPhase.waiting.inj hphase
    obtain rfl := GatewayEvent.answer.inj hresult
    exact ⟨.zero, 0, hd.symm⟩
  exact ⟨d, hanswered.step ⟨⟨step_resume_of_allow rfl hallow rfl, by simp⟩, hG _ _ (by simp)⟩⟩

/-- Another coroutine writes the same query again. -/
theorem onlyEvaluated_of_keepsArguments_search : ∃ d, (invoked d 0).OnlyEvaluated := by
  have hG (w : GatewayWorld) (e : GatewayEvent) (he : ∀ args heap, e ≠ .mutate args heap) :
      w.KeepsArguments e := by
    cases e with
    | mutate args heap => exact absurd rfl (he args heap)
    | _ => trivial
  obtain ⟨d, hrun⟩ := exists_invoked 0 hG ⟨fun _ => rfl, fun _ _ _ => rfl⟩
  exact ⟨d, onlyEvaluated_of_keepsArguments hrun⟩

/-- Another coroutine replaces the query while the interceptor evaluates the first one,
and the executor runs the second one. -/
theorem mutated_arguments_executed : ¬ ∀ (interceptor : Interceptor) (rt : PyRuntime)
    (call : GatewayCall) (w : GatewayWorld),
    (runs (interceptor.Answers rt) call).Reachable w → w.OnlyEvaluated := by
  intro h
  obtain ⟨d, hrun⟩ := exists_invoked (G := fun _ _ => True) 1 (fun _ _ _ => trivial) trivial
  obtain ⟨-, hexecuted⟩ := h _ _ _ _ hrun.of_restrict
  obtain ⟨a, -, ha, -, -, ⟨-, hmatch⟩, -⟩ := hexecuted _ (List.mem_singleton_self _)
  obtain rfl := Option.some.inj ha
  have hquery : some (Value.str (py "b")) = some (Value.str (py "a")) := hmatch (py "query")
  exact absurd (Value.str.inj (Option.some.inj hquery)) (by decide)

end GatewayWorld

end AgentSentinel
