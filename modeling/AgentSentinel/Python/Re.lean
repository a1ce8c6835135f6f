import AgentSentinel.Lib.Regex
import AgentSentinel.Python.Float

/-!
# AgentSentinel.Python.Re

The character classes of Python's `re` on `str` patterns. Decimal digits and white
space are tables of this development; which characters outside ASCII are word
characters, and their lower case, is the interpreter's character database.
-/

namespace AgentSentinel

open Lib

/-- `\d` -/
def isDigit (c : CodePoint) : Bool := (digitValue c).isSome

/-- `[A-Za-z]` -/
def isLetter (c : CodePoint) : Bool := (0x41 ≤ c && c ≤ 0x5A) || (0x61 ≤ c && c ≤ 0x7A)

/-- `[0-9]` -/
def isDecimal (c : CodePoint) : Bool := 0x30 ≤ c && c ≤ 0x39

/-- A character class written out, such as `[._-]`. -/
def oneOfChars (s : String) (c : CodePoint) : Bool := (py s).any (· == c)

theorem isDigit_of_ascii {c : CodePoint} (hc : c < 0x80) : isDigit c = isDecimal c := by
  have hall : ∀ n < 128, isDigit (Fin.ofNat 0x110000 n) = isDecimal (Fin.ofNat 0x110000 n) := by
    decide +kernel
  have hval := hall c.val hc
  rwa [Fin.ofNat_val_eq_self] at hval

/-- What the interpreter's character database says. -/
structure CharacterData where
  /-- `\w` -/
  word : CodePoint → Bool
  /-- `str.lower` -/
  lower : PyStr → PyStr
  word_ascii : ∀ c, c < 0x80 → word c = (isLetter c || isDecimal c || c == 0x5F)
  word_of_isDigit : ∀ c, isDigit c = true → word c = true
  lower_ascii : ∀ s : PyStr, (∀ c ∈ s, c < 0x80) → lower s = lowerAscii s

/-- A database without letters outside ASCII. -/
def CharacterData.ascii : CharacterData where
  word c := isLetter c || isDigit c || c == 0x5F
  lower := lowerAscii
  word_ascii := by
    intro c hc
    rw [isDigit_of_ascii hc]
  word_of_isDigit := by
    intro c hc
    simp [hc]
  lower_ascii _ _ := rfl

/-- What `(?i)` compares in place of the characters of an ASCII pattern: lower case,
with the four characters outside ASCII that match an ASCII letter. -/
def foldCase (c : CodePoint) : CodePoint :=
  if 0x41 ≤ c ∧ c ≤ 0x5A then Fin.ofNat 0x110000 (c.val + 32)
  else if c = 0x130 ∨ c = 0x131 then 0x69
  else if c = 0x17F then 0x73
  else if c = 0x212A then 0x6B
  else c

/-- `re.findall` of a class repeated: the longest runs of its characters. -/
def runsOf (p : CodePoint → Bool) (s : PyStr) : List PyStr :=
  (s.splitOnP fun c => !p c).filter fun run => !run.isEmpty

namespace Re

/-- `\b` -/
def boundary (db : CharacterData) : Pattern CodePoint :=
  .assert fun before after => before.any db.word != after.any db.word

/-- A literal. -/
def text (s : String) : Pattern CodePoint := .lit (fun c d => c == d) (py s)

/-- A literal in lower case, under `(?i)`. -/
def textCI (s : String) : Pattern CodePoint := .lit (fun c d => c == foldCase d) (py s)

/-- `\s` -/
def space : Pattern CodePoint := .char PyStr.isSpace

/-- `\d{n}` -/
def digits (n : ℕ) : Pattern CodePoint := .rep false n (some n) (.char isDigit)

/-- `.` -/
def any : Pattern CodePoint := .char fun c => c != 0x0A

theorem mem_text {s : String} {w : PyStr} (hw : w ∈ (text s).language) : w = py s := by
  have hsame := Pattern.mem_lit.mp hw
  simp only [beq_iff_eq, List.forall₂_eq_eq_eq] at hsame
  exact hsame.symm

/-- What matches a literal without regard to case folds to the literal. -/
theorem map_foldCase_of_mem_textCI {s : String} {w : PyStr} (hw : w ∈ (textCI s).language) :
    w.map foldCase = py s := by
  have hsame := Pattern.mem_lit.mp hw
  simp only [beq_iff_eq] at hsame
  exact (List.forall₂_eq_eq_eq ▸ List.forall₂_map_right_iff.mpr hsame).symm

end Re

end AgentSentinel
