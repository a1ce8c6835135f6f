import AgentSentinel.Core.Approval
import AgentSentinel.Core.Interceptor
import AgentSentinel.Lib.Transition
import AgentSentinel.Python.Calls

/-!
# AgentSentinel.Core.Escalation

Escalated actions and the interceptor's two approval helpers, over runs.

An action the pipeline escalates should be parked with the approval workflow, be
listed as pending, and be resolved by its identifier. Three layers take part and no
two of them fit together: the pipeline holds the workflow but never submits to it,
`list_pending_approvals` calls a method the workflow does not have, and
`resolve_approval` passes keywords its `resolve` does not take. So the workflow stays
as empty as it was wired, and both helpers raise in every state of every run.
-/

namespace AgentSentinel

open Lib

namespace ApprovalWorkflow

/-- What a method of the workflow returns. -/
inductive Answer
  | nothing
  | item (item : PendingApproval)
  | items (items : List PendingApproval)

/-- `def resolve(self, item_id, verdict, resolver, notes=None)`. -/
def resolveMethod : PyMethod where
  qualname := py "ApprovalWorkflow.resolve"
  params := [⟨py "item_id", false⟩, ⟨py "verdict", false⟩, ⟨py "resolver", false⟩,
    ⟨py "notes", true⟩]

/-- The methods the class defines. -/
def methods : List (PyStr × PyMethod) :=
  [(py "submit", ⟨py "ApprovalWorkflow.submit", [⟨py "action", false⟩, ⟨py "decision", false⟩]⟩),
    (py "resolve", resolveMethod),
    (py "get", ⟨py "ApprovalWorkflow.get", [⟨py "item_id", false⟩]⟩)]

/-- What the methods do with the arguments bound to their parameters, of whatever
types these are. On arguments of the annotated types it is `submit`, `resolve` and
`get`. -/
abbrev Bodies := PyStr → List (Option Value) → ApprovalWorkflow → Result Answer × ApprovalWorkflow

/-- `workflow.name(*args, **keywords)`. -/
def invoke (bodies : Bodies) (workflow : ApprovalWorkflow) (name : PyStr) (args : List Value)
    (keywords : List (PyStr × Value)) : Result Answer × ApprovalWorkflow :=
  match findMethod (py "ApprovalWorkflow") methods name with
  | .error e => (.error e, workflow)
  | .ok m =>
    match m.bind args keywords with
    | .error e => (.error e, workflow)
    | .ok bound => bodies name bound workflow

end ApprovalWorkflow

/-- One call from outside. An evaluation comes with the interceptor's collaborators as
they stand, and with its clocks. -/
inductive ApprovalEvent
  | evaluate (interceptor : Interceptor) (rt : PyRuntime) (r : Readings) (action : Action)
      (elapsedMs : ℚ)
  | resolveApproval (token : PyStr) (approve : Bool) (approver : PyStr)

/-- What the calls have in common: the pipeline's identity breaker and its approval
workflow. `outstanding` records, for stating properties only, the actions that were
decided `ESCALATE` and are not resolved. -/
structure ApprovalWorld where
  breaker : CircuitBreaker
  approvalWorkflow : Option ApprovalWorkflow
  outstanding : List UUID

namespace ApprovalWorld

variable (bodies : ApprovalWorkflow.Bodies) (w : ApprovalWorld)

/-- `Interceptor.list_pending_approvals`. -/
def listPendingApprovals : Result ApprovalWorkflow.Answer × Option ApprovalWorkflow :=
  match w.approvalWorkflow with
  | none => (.ok (.items []), none)
  | some workflow =>
    let (answer, workflow) := workflow.invoke bodies (py "list_pending") [] []
    (answer, some workflow)

/-- `Interceptor.resolve_approval`. -/
def resolveApproval (token : PyStr) (approve : Bool) (approver : PyStr) :
    Result ApprovalWorkflow.Answer × Option ApprovalWorkflow :=
  match w.approvalWorkflow with
  | none => (.error ⟨.other (py "RuntimeError"), py "no approval workflow is wired"⟩, none)
  | some workflow =>
    let (answer, workflow) := workflow.invoke bodies (py "resolve") [.str token]
      [(py "approve", .bool approve), (py "approver", .str approver)]
    (answer, some workflow)

/-- The actions still outstanding once `Interceptor.evaluate` has returned or raised. -/
def afterEvaluate : Result Decision → List UUID
  | .ok d => if d.verdict = .escalate then w.outstanding ++ [d.actionId] else w.outstanding
  | .error _ => w.outstanding

/-- The actions still outstanding once `Interceptor.resolve_approval` has. -/
def afterResolve : Result ApprovalWorkflow.Answer → List UUID
  | .ok (.item item) => w.outstanding.erase item.action.id
  | _ => w.outstanding

/-- One call. The pipeline consults the collaborators it is composed of; the workflow
is among the ones it only hands out. -/
def step : ApprovalEvent → ApprovalWorld
  | .evaluate interceptor rt r action elapsedMs =>
    let interceptor := { interceptor with
      pipeline := interceptor.pipeline.withBreaker w.breaker }
    let (result, breaker) := interceptor.evaluate rt r action elapsedMs
    { w with breaker, outstanding := w.afterEvaluate result }
  | .resolveApproval token approve approver =>
    let (answer, workflow) := w.resolveApproval bodies token approve approver
    { w with approvalWorkflow := workflow, outstanding := w.afterResolve answer }

/-- All runs of an interceptor into which an empty approval workflow is wired. -/
def runs : TransitionSystem ApprovalWorld ApprovalEvent where
  init w := w.approvalWorkflow = some {} ∧ w.outstanding = []
  step w e w' := w.step bodies e = w'

/-- The ruling `resolve_approval` should put on an item, and on no other. -/
def Records (item : PendingApproval) (approve : Bool) (approver : PyStr) : Prop :=
  ∃ answer before after ruling, w.approvalWorkflow = some before ∧
    w.resolveApproval bodies (uuidText item.id) approve approver = (.ok answer, some after) ∧
    after.backend.ruling item.id = some ruling ∧
    ruling.resolution = (if approve then .allow else .deny) ∧ ruling.resolver = some approver ∧
    ∀ other, other ≠ item.id → after.backend.items other = before.backend.items other

/-- Each outstanding action is pending exactly once, nothing else is pending, and what
is pending can be resolved. -/
def ParkedAndResolvable : Prop :=
  ∃ items, (w.listPendingApprovals bodies).1 = .ok (.items items) ∧
    (∀ actionId, (items.filter fun item => item.action.id = actionId).length =
      if actionId ∈ w.outstanding then 1 else 0) ∧
    ∀ item ∈ items, ∀ approve approver, w.Records bodies item approve approver

variable {bodies w} {workflow : ApprovalWorkflow}

/-- There is no `list_pending`. -/
theorem listPendingApprovals_wired (h : w.approvalWorkflow = some workflow) :
    w.listPendingApprovals bodies = (.error ⟨.other (py "AttributeError"),
      py "'ApprovalWorkflow' object has no attribute 'list_pending'"⟩, some workflow) := by
  simp only [listPendingApprovals, h]
  rfl

/-- There is no keyword `approve`. -/
theorem resolveApproval_wired (h : w.approvalWorkflow = some workflow) (token : PyStr)
    (approve : Bool) (approver : PyStr) :
    w.resolveApproval bodies token approve approver = (.error ⟨.typeError,
      py "ApprovalWorkflow.resolve() got an unexpected keyword argument 'approve'"⟩,
      some workflow) := by
  have hfound : findMethod (py "ApprovalWorkflow") ApprovalWorkflow.methods (py "resolve") =
      .ok ApprovalWorkflow.resolveMethod := rfl
  have hbind : ApprovalWorkflow.resolveMethod.bind [Value.str token]
      [(py "approve", Value.bool approve), (py "approver", Value.str approver)] =
      .error (ApprovalWorkflow.resolveMethod.typeError
        (py "got an unexpected keyword argument '" ++ py "approve" ++ py "'")) :=
    PyMethod.bind_unexpected (by decide)
  simp only [resolveApproval, h, ApprovalWorkflow.invoke, hfound, hbind]
  rfl

/-- No call reaches the workflow. -/
theorem step_approvalWorkflow (h : w.approvalWorkflow = some workflow) (e : ApprovalEvent) :
    (w.step bodies e).approvalWorkflow = some workflow := by
  cases e with
  | evaluate interceptor rt r action elapsedMs => exact h
  | resolveApproval token approve approver =>
      simp only [step, resolveApproval_wired h]

theorem reachable_approvalWorkflow (h : (runs bodies).Reachable w) :
    w.approvalWorkflow = some {} := by
  refine h.invariant (I := fun w => w.approvalWorkflow = some {}) ?_ ?_
  · rintro w ⟨hwired, -⟩
    exact hwired
  · rintro w e _ - hw rfl
    exact step_approvalWorkflow hw e

/-- **Approvals do not work.** In every state of every run the pending approvals cannot
be listed, nothing is parked, and resolving raises. -/
theorem never_parked_and_resolvable (h : (runs bodies).Reachable w) :
    ¬ w.ParkedAndResolvable bodies ∧ w.approvalWorkflow = some {} ∧
      ∀ token approve approver, Raised (w.resolveApproval bodies token approve approver).1 := by
  have hworkflow := reachable_approvalWorkflow h
  refine ⟨?_, hworkflow, fun token approve approver => ?_⟩
  · rintro ⟨items, hitems, -⟩
    rw [listPendingApprovals_wired hworkflow] at hitems
    cases hitems
  · rw [resolveApproval_wired hworkflow]
    exact ⟨_, rfl⟩

/-- Methods that return at once. -/
def idle : ApprovalWorkflow.Bodies := fun _ _ workflow => (.ok .nothing, workflow)

/-- An action of an agent nobody has registered is escalated. -/
def unregistered : ApprovalEvent :=
  .evaluate { Interceptor.storeDown with pipeline := quietDeps [] default } default .zero default 0

/-- An interceptor that has evaluated nothing yet. -/
def wired : ApprovalWorld := ⟨{ name := py "identity" }, some {}, []⟩

theorem wired_reachable : (runs idle).Reachable wired := .init ⟨rfl, rfl⟩

theorem never_parked_and_resolvable_wired :
    ¬ wired.ParkedAndResolvable idle ∧ wired.approvalWorkflow = some {} ∧
      ∀ token approve approver, Raised (wired.resolveApproval idle token approve approver).1 :=
  never_parked_and_resolvable wired_reachable

/-- The action is escalated and outstanding, and nobody can see it. -/
theorem escalated_not_parked : ∃ w, (runs idle).Reachable w ∧ w.outstanding = [0] ∧
    ¬ w.ParkedAndResolvable idle := by
  refine ⟨wired.step idle unregistered, .step wired_reachable rfl, by decide +kernel, ?_⟩
  rintro ⟨items, hitems, -⟩
  rw [listPendingApprovals_wired (step_approvalWorkflow rfl unregistered)] at hitems
  cases hitems

end ApprovalWorld

end AgentSentinel
