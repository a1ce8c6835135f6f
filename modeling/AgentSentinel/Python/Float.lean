import AgentSentinel.Lib.BinaryRounding
import AgentSentinel.Lib.Trim
import AgentSentinel.Python.Exceptions

/-!
# AgentSentinel.Python.Float

Python's `float`, with exact rationals for the finite values. Arithmetic does not round
where the model does not say so by `toDouble`, and a literal denotes the decimal it spells
unless it is too large or too small for a double. What sets the special values apart is kept:
a NaN compares false with everything and is told from other NaNs by the object it is, and
`-0.0` equals `0.0` without being the same float.
-/

namespace AgentSentinel

/-- A Python `float`. -/
inductive PyFloat
  | finite (q : ℚ)
  | negZero
  | inf (negative : Bool)
  | nan (object : ℕ)
  deriving DecidableEq

namespace PyFloat

/-- The float without the identity of a NaN, which is all that comparisons see. -/
def anonymous : PyFloat → PyFloat
  | nan _ => nan 0
  | x => x

/-- The value of a finite float. -/
def rat : PyFloat → ℚ
  | finite q => q
  | _ => 0

/-- `math.isfinite(x)`. -/
def isFinite : PyFloat → Bool
  | finite _ => true
  | negZero => true
  | _ => false

/-- `x == y`. -/
def eq : PyFloat → PyFloat → Bool
  | nan _, _ => false
  | _, nan _ => false
  | inf s, inf t => s == t
  | inf _, _ => false
  | _, inf _ => false
  | x, y => x.rat == y.rat

/-- `x < y`. -/
def lt : PyFloat → PyFloat → Bool
  | nan _, _ => false
  | _, nan _ => false
  | inf s, inf t => s && !t
  | inf s, _ => s
  | _, inf t => !t
  | x, y => decide (x.rat < y.rat)

/-- `x <= y`. -/
def le (x y : PyFloat) : Bool := x.lt y || x.eq y

@[simp] theorem lt_finite (p q : ℚ) : (finite p).lt (finite q) = decide (p < q) := rfl

@[simp] theorem lt_negZero (p : ℚ) : (finite p).lt negZero = decide (p < 0) := rfl

@[simp] theorem negZero_lt (q : ℚ) : negZero.lt (finite q) = decide (0 < q) := rfl

@[simp] theorem eq_finite (p q : ℚ) : (finite p).eq (finite q) = (p == q) := rfl

@[simp] theorem negZero_eq (q : ℚ) : negZero.eq (finite q) = (0 == q) := rfl

/-- Against a finite float, `<=` is the negation of the reverse `<` on
everything but a NaN. -/
theorem le_finite_eq {x : PyFloat} (hx : ∀ i, x ≠ nan i) (q : ℚ) :
    x.le (finite q) = !(finite q).lt x := by
  rw [Bool.eq_iff_iff]
  cases x with
  | finite p => simp [le, le_iff_lt_or_eq]
  | negZero => simp [le, le_iff_lt_or_eq]
  | inf negative => simp [le, lt, eq]
  | nan i => exact absurd rfl (hx i)

@[simp] theorem le_nan_left (i : ℕ) (y : PyFloat) : (nan i).le y = false := by
  cases y <;> rfl

@[simp] theorem lt_nan_right (x : PyFloat) (i : ℕ) : x.lt (nan i) = false := by
  cases x <;> rfl

@[simp] theorem lt_anonymous (x y : PyFloat) : x.lt y.anonymous = x.lt y := by
  cases y with
  | nan i => rw [anonymous, lt_nan_right, lt_nan_right]
  | _ => rfl

/-- What a number is below, every smaller number is below. -/
theorem lt_of_finite_le {p q : ℚ} (hpq : p ≤ q) {x : PyFloat}
    (h : (finite q).lt x = true) : (finite p).lt x = true := by
  cases x with
  | finite r =>
      simp only [lt_finite, decide_eq_true_eq] at h ⊢
      exact lt_of_le_of_lt hpq h
  | negZero =>
      simp only [lt_negZero, decide_eq_true_eq] at h ⊢
      exact lt_of_le_of_lt hpq h
  | inf negative => exact h
  | nan i => exact h

end PyFloat

/-- The double nearest to a number in their range. -/
def toDouble (q : ℚ) : ℚ := Lib.roundBinary 53 (-1074) q

theorem toDouble_mono {p q : ℚ} (hp : 0 ≤ p) (hpq : p ≤ q) : toDouble p ≤ toDouble q :=
  Lib.roundBinary_mono (by decide) hp hpq

@[simp] theorem toDouble_zero : toDouble 0 = 0 := Lib.roundBinary_zero

@[simp] theorem toDouble_one : toDouble 1 = 1 := Lib.roundBinary_one (by decide) (by decide)

/-- The floats that are numbers. -/
abbrev FiniteFloat := {x : PyFloat // x.isFinite = true}

/-- The values of a `float` field declared with `ge=0.0, le=1.0`. -/
abbrev UnitRat := Set.Icc (0 : ℚ) 1

/-! ### `float()` on text -/

/-- The zeros of the Unicode decimal-digit blocks; each block is ten consecutive
code points. -/
def decimalZeros : List CodePoint :=
  [0x30, 0x660, 0x6F0, 0x7C0, 0x966, 0x9E6, 0xA66, 0xAE6, 0xB66, 0xBE6, 0xC66, 0xCE6, 0xD66,
   0xDE6, 0xE50, 0xED0, 0xF20, 0x1040, 0x1090, 0x17E0, 0x1810, 0x1946, 0x19D0, 0x1A80, 0x1A90,
   0x1B50, 0x1BB0, 0x1C40, 0x1C50, 0xA620, 0xA8D0, 0xA900, 0xA9D0, 0xA9F0, 0xAA50, 0xABF0,
   0xFF10, 0x104A0, 0x10D30, 0x11066, 0x110F0, 0x11136, 0x111D0, 0x112F0, 0x11450, 0x114D0,
   0x11650, 0x116C0, 0x11730, 0x118E0, 0x11950, 0x11C50, 0x11D50, 0x11DA0, 0x11F50, 0x16A60,
   0x16AC0, 0x16B50, 0x1D7CE, 0x1D7D8, 0x1D7E2, 0x1D7EC, 0x1D7F6, 0x1E140, 0x1E2F0, 0x1E4F0,
   0x1E950, 0x1FBF0]

/-- The value of a decimal digit of any script. -/
def digitValue (c : CodePoint) : Option ℕ :=
  (decimalZeros.find? fun z => z ≤ c && c.val < z.val + 10).map fun z => c.val - z.val

/-- Underscores may stand between two digits and nowhere else; `prev` is the
character before. `none` on a misplaced one. -/
def dropUnderscores (prev : CodePoint) : PyStr → Option PyStr
  | [] => if prev = 0x5F then none else some []
  | c :: s =>
    if c = 0x5F then
      if (digitValue prev).isSome then dropUnderscores c s else none
    else if prev = 0x5F ∧ (digitValue c).isNone then none
    else (dropUnderscores c s).map (c :: ·)

/-- The value of the longest prefix of digits read onto `acc`, the number of
digits read, and the rest. -/
def readDigits (acc count : ℕ) : PyStr → ℕ × ℕ × PyStr
  | [] => (acc, count, [])
  | c :: s =>
    match digitValue c with
    | some d => readDigits (10 * acc + d) (count + 1) s
    | none => (acc, count, c :: s)

/-- An optional sign: whether it is a minus, and the rest. -/
def readSign : PyStr → Bool × PyStr
  | [] => (false, [])
  | c :: s => if c = 0x2D then (true, s) else if c = 0x2B then (false, s) else (false, c :: s)

/-- ASCII lower case. -/
def lowerAscii (s : PyStr) : PyStr :=
  s.map fun c => if 0x41 ≤ c ∧ c ≤ 0x5A then Fin.ofNat 0x110000 (c.val + 32) else c

/-- `[e [sign] digits]` up to the end: the exponent. -/
def readExponent : PyStr → Option ℤ
  | [] => some 0
  | c :: s =>
    if c = 0x65 ∨ c = 0x45 then
      let (negative, s) := readSign s
      let (e, count, rest) := readDigits 0 0 s
      if count = 0 ∨ rest ≠ [] then none else some (if negative then -e else e)
    else none

/-- `digits [. digits] [exponent]`, with a digit on some side of the point. -/
def readDecimal (s : PyStr) : Option ℚ :=
  let (whole, wholeCount, s) := readDigits 0 0 s
  let (mantissa, count, s) := match s with
    | c :: t => if c = 0x2E then readDigits whole wholeCount t else (whole, wholeCount, s)
    | [] => (whole, wholeCount, s)
  if count = 0 then none
  else (readExponent s).map fun e => (mantissa : ℚ) * (10 : ℚ) ^ (e - ((count : ℤ) - wholeCount))

/-- The least magnitude that no finite double rounds from. -/
def floatOverflow : ℚ := 2 ^ 1024 - 2 ^ 970

/-- The greatest magnitude that rounds to zero. -/
def floatUnderflow : ℚ := 1 / 2 ^ 1075

/-- A magnitude with a sign, as a float. -/
def signedFloat (negative : Bool) (q : ℚ) : PyFloat :=
  if floatOverflow ≤ q then .inf negative
  else if q ≤ floatUnderflow then (if negative then .negZero else .finite 0)
  else .finite (if negative then -q else q)

/-- The white space of the C locale, which is what `float` strips from bytes. -/
def asciiSpace (c : CodePoint) : Bool := (0x09 ≤ c && c ≤ 0x0D) || c == 0x20

/-- What `float` strips from a string: Unicode spaces are read as blanks, the ASCII
separators are not. -/
def floatSpace (c : CodePoint) : Bool := asciiSpace c || (0x7F ≤ c && PyStr.isSpace c)

/-- `float(s)` for text with this white space; `none` where Python raises `ValueError`. -/
def floatOfText (space : CodePoint → Bool) (s : PyStr) : Option PyFloat := do
  let s ← dropUnderscores 0x20 (Lib.trim space s)
  let (negative, s) := readSign s
  if lowerAscii s = py "inf" ∨ lowerAscii s = py "infinity" then return .inf negative
  if lowerAscii s = py "nan" then return .nan 0
  let q ← readDecimal s
  return signedFloat negative q

example : floatOfText floatSpace (py " 6_0e-2 ") = some (.finite (3 / 5)) := by decide +kernel

end AgentSentinel
