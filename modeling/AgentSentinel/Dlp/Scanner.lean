import AgentSentinel.Lib.Occurrence
import AgentSentinel.Models.Decision
import AgentSentinel.Python.Re

/-!
# AgentSentinel.Dlp.Scanner

The DLP scanner searches the text fields of an action for credentials and personal
data. Every rule reports its first match in every field, and the factor shows the
match redacted.
-/

namespace AgentSentinel

open Lib

/-- A single regex-driven DLP rule. -/
structure DLPRule where
  code : PyStr
  pattern : Pattern CodePoint
  severity : ℚ
  message : PyStr
  references : PyStr := []

/-! ### The default rules -/

namespace DLPRule

variable (db : CharacterData)

/-- `\bAKIA[0-9A-Z]{16}\b` -/
def awsAccessKeyPattern : Pattern CodePoint :=
  .chain [Re.boundary db, Re.text "AKIA",
    .rep false 16 (some 16) (.char fun c => isDecimal c || (0x41 ≤ c && c ≤ 0x5A)),
    Re.boundary db]

/-- `-----BEGIN (?:RSA |EC |OPENSSH |DSA |)PRIVATE KEY-----` -/
def privateKeyPattern : Pattern CodePoint :=
  .chain [Re.text "-----BEGIN ",
    .oneOf (Re.text "RSA ") [Re.text "EC ", Re.text "OPENSSH ", Re.text "DSA ", Re.text ""],
    Re.text "PRIVATE KEY-----"]

/-- `[A-Za-z0-9_\-\.=]` under `(?i)` -/
def tokenChar (c : CodePoint) : Bool :=
  isLetter (foldCase c) || isDecimal c || oneOfChars "_-.=" c

/-- `(?i)\bbearer\s+[A-Za-z0-9_\-\.=]{20,}\b` -/
def bearerTokenPattern : Pattern CodePoint :=
  .chain [Re.boundary db, Re.textCI "bearer", .plus Re.space,
    .rep false 20 none (.char tokenChar), Re.boundary db]

/-- `[A-Za-z0-9._%+\-]+@[A-Za-z0-9.\-]+\.[A-Za-z]{2,}` -/
def emailPattern : Pattern CodePoint :=
  .chain [.plus (.char fun c => isLetter c || isDecimal c || oneOfChars "._%+-" c),
    Re.text "@", .plus (.char fun c => isLetter c || isDecimal c || oneOfChars ".-" c),
    Re.text ".", .rep false 2 none (.char isLetter)]

/-- `\d[ -]*?` -/
def cardDigit : Pattern CodePoint :=
  .seq (.char isDigit) (.rep true 0 none (.char (oneOfChars " -")))

/-- `\b(?:\d[ -]*?){13,19}\b` -/
def creditCardPattern : Pattern CodePoint :=
  .seq (Re.boundary db) (.seq (.rep false 13 (some 19) cardDigit) (Re.boundary db))

/-- `\b\d{3}-\d{2}-\d{4}\b` -/
def usSsnPattern : Pattern CodePoint :=
  .chain [Re.boundary db, Re.digits 3, Re.text "-", Re.digits 2, Re.text "-", Re.digits 4,
    Re.boundary db]

def awsAccessKey : DLPRule where
  code := py "dlp.aws_access_key"
  pattern := awsAccessKeyPattern db
  severity := 19 / 20
  message := py "AWS access key identifier detected in payload."
  references := py "OWASP-AGENT-04"

def privateKeyBlock : DLPRule where
  code := py "dlp.private_key_block"
  pattern := privateKeyPattern
  severity := 1
  message := py "Private-key block detected in payload."
  references := py "OWASP-AGENT-04"

def bearerToken : DLPRule where
  code := py "dlp.bearer_token"
  pattern := bearerTokenPattern db
  severity := 7 / 10
  message := py "Bearer token detected in payload."
  references := py "OWASP-AGENT-04"

def email : DLPRule where
  code := py "dlp.email"
  pattern := emailPattern
  severity := 3 / 20
  message := py "Email address detected in payload."
  references := py "OWASP-AGENT-04"

def creditCard : DLPRule where
  code := py "dlp.credit_card"
  pattern := creditCardPattern db
  severity := 3 / 5
  message := py "Numeric sequence matching a payment-card length detected."
  references := py "OWASP-AGENT-04"

def usSsn : DLPRule where
  code := py "dlp.us_ssn"
  pattern := usSsnPattern db
  severity := 7 / 10
  message := py "US-style SSN pattern detected."
  references := py "OWASP-AGENT-04"

end DLPRule

/-- `default_rules`. -/
def defaultRules (db : CharacterData) : List DLPRule :=
  [.awsAccessKey db, .privateKeyBlock, .bearerToken db, .email, .creditCard db, .usSsn db]

/-! ### The scanner -/

/-- `_redact`. -/
def redact (s : PyStr) : PyStr :=
  if s.length ≤ 8 then List.replicate s.length 0x2A
  else s.take 2 ++ List.replicate (s.length - 4) 0x2A ++ s.drop (s.length - 2)

theorem dlpEvidence_nodup : [py "snippet", py "references"].Nodup := by decide

/-- The factor for the first match of a rule. -/
def DLPRule.report (rule : DLPRule) (found : PyStr) : Result RiskFactor :=
  RiskFactor.make rule.code rule.severity (py "dlp_scanner") rule.message
    ⟨[(py "snippet", (redact found).take 64), (py "references", rule.references)],
      dlpEvidence_nodup⟩

/-- Run the configured rule set across every text field in the action. -/
structure DLPScanner where
  rules : List DLPRule
  enabled : Bool := true

namespace DLPScanner

/-- A scanner with the default rules. -/
def default (db : CharacterData) : DLPScanner := { rules := defaultRules db }

/-- `_iter_text`. -/
def iterText (action : Action) : List PyStr := action.texts

/-- The matches: for every text and every rule the first one. -/
def found (scanner : DLPScanner) (action : Action) : List (DLPRule × PyStr) :=
  (iterText action).flatMap fun text =>
    scanner.rules.filterMap fun rule => (rule.pattern.search text).map fun m => (rule, m)

def scan (scanner : DLPScanner) (action : Action) : Result (List RiskFactor) :=
  if !scanner.enabled then .ok []
  else (scanner.found action).mapM fun hit => hit.1.report hit.2

end DLPScanner

/-! ### Redaction -/

/-- A redacted text shows at most two characters in a row. -/
theorem length_le_of_infix_redact {s t : PyStr} (hstar : 0x2A ∉ s)
    (h : s <:+: (redact t).take 64) : s.length ≤ 2 := by
  replace h := h.trans (List.take_prefix 64 (redact t)).isInfix
  unfold redact at h
  split at h
  case isTrue =>
      cases s with
      | nil => exact Nat.zero_le 2
      | cons c s =>
          have hmem := h.subset List.mem_cons_self
          rw [List.eq_of_mem_replicate hmem] at hstar
          exact absurd List.mem_cons_self hstar
  case isFalse hlong =>
      rw [List.append_assoc] at h
      have hstars : ∀ c ∈ List.replicate (t.length - 4) (0x2A : CodePoint), c ∉ s := by
        intro c hc
        rwa [List.eq_of_mem_replicate hc]
      have hne : List.replicate (t.length - 4) (0x2A : CodePoint) ≠ [] := by
        rw [ne_eq, List.replicate_eq_nil_iff]
        omega
      rcases infix_append_of_disjoint hne hstars h with hhead | htail
      · exact hhead.length_le.trans (List.length_take_le 2 t)
      · refine htail.length_le.trans ?_
        rw [List.length_drop]
        omega

end AgentSentinel
