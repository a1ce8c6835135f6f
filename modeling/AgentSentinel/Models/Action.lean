import AgentSentinel.Python.Value

/-!
# AgentSentinel.Models.Action

The unit of work an agent proposes. A value of `Action` has passed the model's
validation: the length bound on the DID is a field of the structure.
-/

namespace AgentSentinel

/-- A UUID, as the 128-bit number it is. -/
abbrev UUID := Fin (2 ^ 128)

instance UUID.instNeZero : NeZero (2 ^ 128) := ⟨by decide⟩

/-- The kinds of actions sentinel governs. -/
inductive ActionType
  | toolCall
  | fileWrite
  | fileRead
  | httpRequest
  | codeExecution
  | shellCommand
  | agentMessage
  | memoryWrite
  | memoryRead
  | llmPrompt
  | payment
  | notification
  | databaseQuery
  | agentHandoff
  | other
  deriving DecidableEq

/-- `action.type.value`. -/
def ActionType.value : ActionType → PyStr
  | toolCall => py "tool_call"
  | fileWrite => py "file_write"
  | fileRead => py "file_read"
  | httpRequest => py "http_request"
  | codeExecution => py "code_execution"
  | shellCommand => py "shell_command"
  | agentMessage => py "agent_message"
  | memoryWrite => py "memory_write"
  | memoryRead => py "memory_read"
  | llmPrompt => py "llm_prompt"
  | payment => py "payment"
  | notification => py "notification"
  | databaseQuery => py "database_query"
  | agentHandoff => py "agent_handoff"
  | other => py "other"

/-- Operational context attached to every action. -/
structure ActionContext where
  sessionId : UUID
  parentActionId : Option UUID := none
  correlationId : Option PyStr := none
  tenantId : PyStr := py "default"
  environment : PyStr := py "production"
  invokedBy : Option PyStr := none
  planId : Option UUID := none
  stepIndex : Option ℤ := none
  tags : PyDict PyStr := .empty

/-- A proposed agent action awaiting evaluation. -/
structure Action where
  id : UUID
  type : ActionType
  agentDid : PyStr := py "did:anon:unknown"
  agentDid_length : 8 ≤ agentDid.length := by decide
  tenantId : PyStr := py "default"
  tool : Option PyStr := none
  arguments : PyDict Value := .empty
  payloadDigest : Option PyStr := none
  intent : Option PyStr := none
  context : ActionContext
  createdAt : PyDatetime

instance : Inhabited Action :=
  ⟨{ id := 0, type := .toolCall, context := { sessionId := 0 }, createdAt := .aware 0 0 }⟩

/-- What the default factories of a new action give. -/
structure ActionDefaults where
  id : UUID
  context : ActionContext
  createdAt : PyDatetime

/-- `if action.tool:`, the name of the tool the action calls. An empty name names
no tool. -/
def Action.toolName (action : Action) : Option PyStr := action.tool.filter fun t => !t.isEmpty

/-- The string a value is, if it is one. -/
def Value.str? : Value → Option PyStr
  | .str s => some s
  | _ => .none

/-- The strings an argument holds: itself, or the members of a list or a tuple. -/
def Value.texts : Value → List PyStr
  | .str s => [s]
  | .list items => items.filterMap str?
  | .tuple items => items.filterMap str?
  | _ => []

/-- The `_iter_text` of the detectors that read text: the intent, unless it is empty,
and the strings of the arguments. -/
def Action.texts (action : Action) : List PyStr :=
  (action.intent.filter fun intent => !intent.isEmpty).toList ++
    action.arguments.entries.flatMap fun e => e.2.texts

end AgentSentinel
