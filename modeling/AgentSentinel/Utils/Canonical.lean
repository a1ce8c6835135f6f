import AgentSentinel.Models.Action
import AgentSentinel.Python.Json

/-!
# AgentSentinel.Utils.Canonical

Canonical JSON for hashing. The fast encoder is a library's; where it refuses a
value that holds an integer outside 64 bits, the standard library's encoder takes
over, and its text is encoded as UTF-8, which has no form for surrogates. Every
other refusal of the fast encoder is passed on.
-/

namespace AgentSentinel

/-- What canonical hashing takes from libraries: `orjson.dumps` with the module's
options, the dump of the arguments by the model library in JSON mode, and the
hexadecimal SHA-256. -/
structure HashLibrary where
  orjsonDumps : Value → Result PyBytes
  dumpArguments : PyDict Value → Result Value
  sha256Hex : PyBytes → PyStr

/-! ### UTF-8 -/

def isSurrogate (c : CodePoint) : Bool := decide (0xD800 ≤ c.val ∧ c.val ≤ 0xDFFF)

/-- The bytes of one character that is no surrogate. -/
def utf8Char (c : CodePoint) : PyBytes :=
  let tail (shift : ℕ) : Fin 256 := Fin.ofNat 256 (0x80 + c.val / shift % 64)
  if c.val < 0x80 then [Fin.ofNat 256 c.val]
  else if c.val < 0x800 then [Fin.ofNat 256 (0xC0 + c.val / 64), tail 1]
  else if c.val < 0x10000 then [Fin.ofNat 256 (0xE0 + c.val / 4096), tail 64, tail 1]
  else [Fin.ofNat 256 (0xF0 + c.val / 262144), tail 4096, tail 64, tail 1]

/-- `s.encode("utf-8")`. -/
def encodeUtf8 (s : PyStr) : Result PyBytes :=
  if s.any isSurrogate then
    .error ⟨.valueError, py "'utf-8' codec can't encode characters: surrogates not allowed"⟩
  else .ok (s.flatMap utf8Char)

/-! ### The encoder -/

def int64Min : ℤ := -(2 ^ 63)

def int64Max : ℤ := 2 ^ 63 - 1

mutual

/-- `_has_oversized_int`. -/
def hasOversizedInt : Value → Bool
  | .int n => decide (n < int64Min ∨ int64Max < n)
  | .dict es => hasOversizedIntEntries es
  | .list xs => hasOversizedIntList xs
  | .tuple xs => hasOversizedIntList xs
  | _ => false

def hasOversizedIntList : List Value → Bool
  | [] => false
  | v :: vs => hasOversizedInt v || hasOversizedIntList vs

def hasOversizedIntEntries : List (Value × Value) → Bool
  | [] => false
  | (k, v) :: es => hasOversizedInt k || hasOversizedInt v || hasOversizedIntEntries es

end

/-- The settings of the fallback encoder. -/
def canonicalOptions : JsonOptions := ⟨py ",", py ":", false⟩

/-- `canonical_bytes`. -/
def canonicalBytes (lib : HashLibrary) (rt : PyRuntime) (value : Value) : Result PyBytes :=
  match lib.orjsonDumps value with
  | .ok bytes => .ok bytes
  | .error e =>
    -- `JSONEncodeError` is a `TypeError`.
    if e.kind = .typeError ∧ hasOversizedInt value = true then do
      encodeUtf8 (← Json.dumps rt canonicalOptions value)
    else .error e

/-- `sha256_hex`. -/
def sha256Hex (lib : HashLibrary) (rt : PyRuntime) (value : Value) : Result PyStr :=
  (canonicalBytes lib rt value).map lib.sha256Hex

/-! ### Actions as dictionaries -/

/-- The canonical text of a UUID: 32 hexadecimal digits in five groups. -/
def uuidText (u : UUID) : PyStr :=
  let digits (start count : ℕ) : PyStr :=
    (List.range count).map fun i => Json.hexDigit (u.val / 16 ^ (31 - (start + i)) % 16)
  PyStr.join (py "-") [digits 0 8, digits 8 4, digits 12 4, digits 16 4, digits 20 12]

/-- An optional field in a dump. -/
def dumpOption {α : Type} (dump : α → Value) : Option α → Value
  | none => .none
  | some a => dump a

def ActionContext.dump (context : ActionContext) : Value :=
  .dict [(.str (py "session_id"), .str (uuidText context.sessionId)),
    (.str (py "parent_action_id"), dumpOption (.str ∘ uuidText) context.parentActionId),
    (.str (py "correlation_id"), dumpOption .str context.correlationId),
    (.str (py "tenant_id"), .str context.tenantId),
    (.str (py "environment"), .str context.environment),
    (.str (py "invoked_by"), dumpOption .str context.invokedBy),
    (.str (py "plan_id"), dumpOption (.str ∘ uuidText) context.planId),
    (.str (py "step_index"), dumpOption .int context.stepIndex),
    (.str (py "tags"), .dict (context.tags.entries.map fun e => (.str e.1, .str e.2)))]

/-- `canonical_dict`: every field but the digest and the time of creation. -/
def Action.canonicalDict (lib : HashLibrary) (action : Action) : Result Value := do
  let arguments ← lib.dumpArguments action.arguments
  return .dict [(.str (py "id"), .str (uuidText action.id)),
    (.str (py "type"), .str action.type.value),
    (.str (py "agent_did"), .str action.agentDid),
    (.str (py "tenant_id"), .str action.tenantId),
    (.str (py "tool"), dumpOption .str action.tool),
    (.str (py "arguments"), arguments),
    (.str (py "intent"), dumpOption .str action.intent),
    (.str (py "context"), action.context.dump)]

/-- The digest the interceptor stamps an action with. -/
def Action.digest (lib : HashLibrary) (rt : PyRuntime) (action : Action) : Result PyStr := do
  sha256Hex lib rt (← action.canonicalDict lib)

end AgentSentinel
