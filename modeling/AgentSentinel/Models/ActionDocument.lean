import AgentSentinel.Models.PolicyDocument

/-!
# AgentSentinel.Models.ActionDocument

How an action is validated, from the values of its fields or from a JSON document.
-/

namespace AgentSentinel

/-! ### Fields -/

namespace LaxValidators

variable (lax : LaxValidators)

/-- `agent_did`: text with `min_length=8`. For a constrained field the text has to be
Unicode. -/
def agentDid (v : Value) : Result { did : PyStr // 8 ≤ did.length } := do
  let did ← lax.str v
  if did.any isSurrogate then
    .error ⟨.validationError, py "Input should be a valid string, unable to parse raw data " ++
      py "as a unicode string"⟩
  else if h : 8 ≤ did.length then return ⟨did, h⟩
  else .error ⟨.validationError, py "String should have at least 8 characters"⟩

/-- The value names an agent. -/
def AcceptsDid (v : Value) : Prop :=
  ∃ did, lax.str v = .ok did ∧ did.any isSurrogate = false ∧ 8 ≤ did.length

/-- The value is an intent, or there is none. -/
def AcceptsIntent (v : Value) : Prop := v = .none ∨ ∃ intent, lax.str v = .ok intent

variable {lax} {v : Value}

theorem agentDid_eq_ok : (∃ did, lax.agentDid v = .ok did) ↔ lax.AcceptsDid v := by
  unfold agentDid
  constructor
  · intro h
    obtain ⟨did, h⟩ := h
    obtain ⟨text, htext, h⟩ := bind_eq_ok.mp h
    split at h
    · cases h
    · next hunicode =>
        split at h
        · next hlong => exact ⟨text, htext, by simpa using hunicode, hlong⟩
        · cases h
  · intro h
    obtain ⟨text, htext, hunicode, hlong⟩ := h
    refine ⟨⟨text, hlong⟩, bind_eq_ok.mpr ⟨text, htext, ?_⟩⟩
    rw [if_neg (by simp [hunicode]), dif_pos hlong]
    rfl

theorem nullable_eq_ok : (∃ intent, nullable lax.str v = .ok intent) ↔ lax.AcceptsIntent v := by
  cases v with
  | none => exact iff_of_true ⟨none, rfl⟩ (Or.inl rfl)
  | _ => simp [nullable, AcceptsIntent, map_eq_ok]

end LaxValidators

/-! ### Documents -/

/-- What the model library makes of a value for the fields of an action. -/
structure ActionValidators extends LaxValidators where
  uuid : Value → Result UUID
  actionType : Value → Result ActionType

namespace ActionValidators

open LaxValidators

variable (validators : ActionValidators)

/-- A field that goes by several names, of which the first that is there is read. -/
def aliased {α : Type} (es : List (Value × Value)) (names : List PyStr) (default : α)
    (validate : Value → Result α) : Result α :=
  match names.findSome? (Value.lookupStr es) with
  | none => .ok default
  | some v => validate v

/-- `dict[str, str]`. -/
def tags : Value → Result (PyDict PyStr)
  | .dict es => es.foldlM (fun d e => do
      let key ← validators.str e.1
      let v ← validators.str e.2
      return d.set key v) .empty
  | _ => .error ⟨.validationError, py "Input should be a valid dictionary"⟩

/-- The names of the fields of a context. -/
def contextFields : List PyStr :=
  [py "session_id", py "parent_action_id", py "correlation_id", py "tenant_id",
    py "environment", py "invoked_by", py "plan_id", py "step_index", py "tags"]

/-- The key is a field of a context. -/
def isContextField : Value → Bool
  | .str key => contextFields.contains key
  | _ => false

/-- `ActionContext`, which takes no other fields. -/
def context (sessionId : UUID) : Value → Result ActionContext
  | .dict es => do
    let sessionId ← defaulted es (py "session_id") sessionId validators.uuid
    let parentActionId ←
      defaulted es (py "parent_action_id") none (nullable validators.uuid)
    let correlationId ← defaulted es (py "correlation_id") none (nullable validators.str)
    let tenantId ← defaulted es (py "tenant_id") (py "default") validators.str
    let environment ← defaulted es (py "environment") (py "production") validators.str
    let invokedBy ← defaulted es (py "invoked_by") none (nullable validators.str)
    let planId ← defaulted es (py "plan_id") none (nullable validators.uuid)
    let stepIndex ← defaulted es (py "step_index") none (nullable validators.int)
    let tags ← defaulted es (py "tags") .empty validators.tags
    if es.all fun e => isContextField e.1 then
      return ⟨sessionId, parentActionId, correlationId, tenantId, environment, invokedBy, planId,
        stepIndex, tags⟩
    else .error ⟨.validationError, py "Extra inputs are not permitted"⟩
  | _ => .error ⟨.validationError, py "Input should be a valid dictionary"⟩

theorem anonDid_length : 8 ≤ (py "did:anon:unknown").length := by decide

/-- `did:anon:unknown`, the default of `agent_did`. -/
def anonDid : { did : PyStr // 8 ≤ did.length } := ⟨py "did:anon:unknown", anonDid_length⟩

/-- `Action.model_validate`. -/
def modelValidate (defaults : ActionDefaults) : Value → Result Action
  | .dict es => do
    let id ← defaulted es (py "id") defaults.id validators.uuid
    let type ← required es (py "type") validators.actionType
    let did ← aliased es [py "agent_did", py "principal_did"] anonDid validators.agentDid
    let tenantId ← defaulted es (py "tenant_id") (py "default") validators.str
    let tool ← defaulted es (py "tool") none (nullable validators.str)
    let arguments ← aliased es [py "arguments", py "args"] .empty validators.dict
    let payloadDigest ← defaulted es (py "payload_digest") none (nullable validators.str)
    let intent ← defaulted es (py "intent") none (nullable validators.str)
    let context ←
      defaulted es (py "context") defaults.context (validators.context defaults.context.sessionId)
    let createdAt ← defaulted es (py "created_at") defaults.createdAt validators.datetime
    return ⟨id, type, did.val, did.property, tenantId, tool, arguments, payloadDigest, intent,
      context, createdAt⟩
  | _ => .error ⟨.validationError, py "Input should be a valid dictionary"⟩

end ActionValidators

end AgentSentinel
