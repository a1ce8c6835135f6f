import AgentSentinel.Models.Decision
import AgentSentinel.Python.Re

/-!
# AgentSentinel.Classifiers.IntentClassifier

The goal-hijacking detector compares what an action declares to intend with its type
and its tool, by shared words and, where an embedding provider is configured, by the
provider's score.
-/

namespace AgentSentinel

/-- `EmbeddingProvider.similarity`. -/
abbrev EmbeddingProvider := PyStr → PyStr → Result ℚ

structure IntentClassifierConfig where
  minSimilarityForMatch : ℚ := 9 / 20
  hardDriftThreshold : ℚ := 1 / 5

/-- Detect goal-hijacking by comparing declared intent vs. observed action. -/
structure IntentClassifier where
  embeddings : Option EmbeddingProvider := none
  config : IntentClassifierConfig := {}

/-- `_INTENT_HINTS`: words that should accompany the stated intent of each type. -/
def intentHints : ActionType → List PyStr
  | .fileWrite =>
    [py "write", py "save", py "create", py "update", py "edit", py "modify"]
  | .fileRead => [py "read", py "load", py "open", py "fetch", py "review"]
  | .httpRequest =>
    [py "request", py "fetch", py "post", py "get", py "call", py "api"]
  | .shellCommand => [py "run", py "execute", py "shell", py "command"]
  | .codeExecution => [py "execute", py "run", py "evaluate", py "compute"]
  | .payment => [py "pay", py "charge", py "refund", py "transfer", py "purchase"]
  | .databaseQuery => [py "query", py "select", py "insert", py "update", py "delete"]
  | _ => []

/-- `_tokenize`. -/
def tokenize (db : CharacterData) (s : PyStr) : List PyStr :=
  (runsOf (fun c => isLetter c || c == 0x5F) s).map db.lower

/-- `_split_tool_tokens`: break a tool name like `payments.transfer` at its
punctuation. -/
def splitToolTokens (tool : PyStr) : List PyStr := runsOf (fun c => !oneOfChars "._-/" c) tool

/-- Some token contains some hint or is contained in one, both of four characters or
more. -/
def sharesSubstring (tokens hints : List PyStr) : Bool :=
  tokens.any fun a => hints.any fun b =>
    decide (4 ≤ a.length) && decide (4 ≤ b.length) && (PyStr.contains b a || PyStr.contains a b)

/-- What `classify` makes of an action before it builds a factor. -/
inductive IntentAssessment
  | missing
  | aligned
  | drift (intent : PyStr) (lexicalOverlap semanticOverlap : ℚ)

theorem driftEvidence_nodup : [py "intent", py "action_type", py "tool", py "lexical_overlap",
    py "semantic_overlap", py "references"].Nodup := by decide

namespace IntentClassifier

variable (classifier : IntentClassifier) (db : CharacterData) (action : Action)

/-- The curated hints of the type and the longer words of the tool's name. -/
def hints : List PyStr :=
  let toolTokens := match action.toolName with
    | none => []
    | some tool => ((splitToolTokens tool).filter fun t => 2 < t.length).map db.lower
  (intentHints action.type ++ toolTokens).dedup

/-- The comparison in `classify`. -/
def assess : Result IntentAssessment :=
  let intent := (action.intent.getD []).strip
  if intent.isEmpty then .ok .missing
  else do
    let hints := hints db action
    let tokens := (tokenize db intent).dedup
    let lexicalOverlap : ℚ :=
      if hints.isEmpty then 1 / 2
      else (tokens.countP hints.contains : ℕ) / (max hints.length 1 : ℕ)
    let semanticOverlap ← match classifier.embeddings, action.toolName with
      | some similarity, some tool => similarity intent tool
      | _, _ => .ok lexicalOverlap
    let combined := (lexicalOverlap + semanticOverlap) / 2
    if classifier.config.minSimilarityForMatch ≤ combined then return .aligned
    -- A short intent that shares nothing with the tool's name alone is no drift.
    if (intentHints action.type).isEmpty && classifier.embeddings.isNone &&
        decide (tokens.length ≤ 4) && !sharesSubstring tokens hints then
      return .aligned
    return .drift intent lexicalOverlap semanticOverlap

/-- The factor for an action without a declared intent. -/
def missingIntent : Result RiskFactor :=
  RiskFactor.make (py "intent.missing") (1 / 4) (py "intent_classifier")
    (py "Action submitted without declared intent.")
    ⟨[(py "references", py "OWASP-AGENT-01")], List.nodup_singleton _⟩

/-- The factor for an intent that does not go with the action. -/
def intentDrift (intent : PyStr) (lexicalOverlap semanticOverlap : ℚ) : Result RiskFactor :=
  let combined := (lexicalOverlap + semanticOverlap) / 2
  RiskFactor.make
    (if combined ≤ classifier.config.hardDriftThreshold then py "intent.hard_drift"
      else py "intent.soft_drift")
    (Lib.roundTo 3 (min 1 (1 - combined))) (py "intent_classifier")
    (py "Declared intent does not align with the action being taken. " ++
      py "Possible goal hijacking or prompt-driven redirection.")
    ⟨[(py "intent", intent.take 200), (py "action_type", action.type.value),
        (py "tool", action.tool.getD []), (py "lexical_overlap", fixed3 lexicalOverlap),
        (py "semantic_overlap", fixed3 semanticOverlap), (py "references", py "OWASP-AGENT-01")],
      driftEvidence_nodup⟩

def classify : Result (List RiskFactor) := do
  match ← classifier.assess db action with
  | .missing => return [← missingIntent]
  | .aligned => return []
  | .drift intent lexicalOverlap semanticOverlap =>
    return [← classifier.intentDrift action intent lexicalOverlap semanticOverlap]

end IntentClassifier

end AgentSentinel
