import AgentSentinel.Models.Decision
import AgentSentinel.Python.Re

/-!
# AgentSentinel.Classifiers.InjectionDetector

The prompt-injection detector counts the patterns of instruction override that the
text fields of an action match and reports one factor. Of the matches only their
number reaches the factor.
-/

namespace AgentSentinel

open Lib

/-- `InjectionModel.score`. -/
abbrev InjectionModel := PyStr → Result ℚ

structure InjectionDetectorConfig where
  threshold : ℚ := 3 / 4
  maxCharsPerField : ℕ := 16000

/-! ### The patterns -/

namespace Injection

/-- `\s+` -/
def gap : Pattern CodePoint := .plus Re.space

/-- Words with white space between them. -/
def words : List String → Pattern CodePoint
  | [] => Re.text ""
  | [w] => Re.textCI w
  | w :: ws => .chain [Re.textCI w, gap, words ws]

/-- `s?` after a word. -/
def plural (w : String) : Pattern CodePoint := .chain [Re.textCI w, .opt (Re.textCI "s")]

/-- `(?:w\s+)?` -/
def optWord (w : String) : Pattern CodePoint := .opt (.chain [Re.textCI w, gap])

variable (db : CharacterData)

/-- A pattern between two word boundaries. -/
def bounded (ps : List (Pattern CodePoint)) : Pattern CodePoint :=
  .chain [Re.boundary db, .chain ps, Re.boundary db]

/-- `_PATTERNS`. -/
def patterns : List (Pattern CodePoint) :=
  [bounded db [Re.textCI "ignore", gap, optWord "all",
      .oneOf (Re.textCI "previous") [Re.textCI "prior", Re.textCI "earlier"], gap,
      .oneOf (plural "instruction") [plural "rule"]],
    bounded db [Re.textCI "disregard", gap, optWord "all",
      .oneOf (Re.textCI "previous") [Re.textCI "prior", Re.textCI "system"], gap,
      .oneOf (plural "instruction") [plural "prompt"]],
    .chain [Re.boundary db,
      .oneOf (words ["from", "now", "on"])
        [.chain [Re.textCI "new", gap, plural "instruction"]],
      .star Re.space, .char (oneOfChars ":-")],
    bounded db [words ["you", "are", "now"], gap, optWord "a",
      .oneOf (Re.textCI "different") [Re.textCI "new"]],
    bounded db [.oneOf (Re.textCI "reveal") [Re.textCI "show", Re.textCI "print",
        Re.textCI "output"], gap, optWord "the",
      .oneOf (words ["system", "prompt"])
        [words ["hidden", "prompt"], words ["developer", "prompt"]]],
    .oneOf (bounded db [Re.textCI "jailbreak"])
      [bounded db [Re.textCI "dan"], bounded db [words ["do", "anything", "now"]]],
    bounded db [Re.textCI "override", gap, optWord "the", Re.textCI "safety"],
    .chain [Re.boundary db, .oneOf (Re.textCI "exfiltrate") [Re.textCI "leak"], gap,
      .star Re.any, Re.boundary db,
      .oneOf (.chain [Re.textCI "api",
          .opt (.char fun c => c == 0x5F || PyStr.isSpace c || c == 0x2D), Re.textCI "key"])
        [Re.textCI "password", Re.textCI "token", Re.textCI "secret"],
      .opt (Re.textCI "s"), Re.boundary db],
    .chain [Re.boundary db, Re.textCI "curl", gap, .star Re.any, Re.text "|", .star Re.space,
      .oneOf (Re.textCI "sh") [Re.textCI "bash", Re.textCI "python"], Re.boundary db],
    .chain [Re.boundary db, .oneOf (Re.textCI "base64") [Re.textCI "hex"], .star Re.space,
      Re.textCI "decode", .opt (Re.textCI "d"), Re.boundary db, .star Re.any, Re.boundary db,
      .oneOf (Re.textCI "execute") [Re.textCI "run"], Re.boundary db]]

end Injection

/-! ### The detector -/

/-- Detect prompt-injection and instruction-override attempts. -/
structure PromptInjectionDetector where
  model : Option InjectionModel := none
  config : InjectionDetectorConfig := {}

theorem injectionEvidence_nodup :
    [py "pattern_hits", py "model_score", py "references"].Nodup := by decide

namespace PromptInjectionDetector

variable (detector : PromptInjectionDetector) (db : CharacterData) (action : Action)

/-- `_iter_text`. -/
def iterText (action : Action) : List PyStr := action.texts

/-- The number of `pattern_hits`. -/
def patternHits : ℕ :=
  ((iterText action).map fun text => (Injection.patterns db).countP fun p =>
    (p.search (text.take detector.config.maxCharsPerField)).isSome).sum

/-- The highest score the model gives to a field. A model that raises counts as none. -/
def modelScore : ℚ :=
  match detector.model with
  | none => 0
  | some score =>
    match (iterText action).mapM fun t => score (t.take detector.config.maxCharsPerField) with
    | .ok (s :: ss) => ss.foldl max s
    | _ => 0

/-- The severity of what was found, before it is rounded. -/
def severity : ℚ :=
  let hits := detector.patternHits db action
  let modelScore := detector.modelScore action
  let severity : ℚ := if 0 < hits then max 0 (min 1 (11 / 20 + 1 / 10 * hits)) else 0
  if detector.config.threshold < modelScore then max severity modelScore else severity

/-- There is text to inspect and something was found in it. -/
def suspects : Bool :=
  !(iterText action).isEmpty && decide (0 < detector.severity db action)

def scan : Result (List RiskFactor) :=
  if detector.suspects db action then do
    let f ← RiskFactor.make
      (if action.type = .memoryWrite ∨ action.type = .memoryRead then
        py "injection.memory_poisoning" else py "injection.prompt_injection")
      (roundTo 3 (detector.severity db action)) (py "prompt_injection_detector")
      (py "Suspected prompt-injection or instruction-override pattern in agent input. " ++
        py "Review the offending fields and consider quarantine.")
      ⟨[(py "pattern_hits", natText (detector.patternHits db action)),
          (py "model_score", fixed3 (detector.modelScore action)),
          (py "references", py "OWASP-AGENT-01,OWASP-AGENT-02")],
        injectionEvidence_nodup⟩
    return [f]
  else .ok []

end PromptInjectionDetector

end AgentSentinel
