import Mathlib.Data.List.Infix
import AgentSentinel.Lib.Rounding

/-!
# AgentSentinel.Python.Str

Python's `str` as the language has it: a sequence of code points, lone surrogates
included. A Lean `String` cannot hold a surrogate, and the encoders treat exactly
those strings differently from the others, so the model keeps its own type. Being
a list, it inherits prefixes, infixes and splitting from the library.
-/

namespace AgentSentinel

/-- A Unicode code point, surrogates included. -/
abbrev CodePoint := Fin 0x110000

-- The literals of `isSpace` and of the parsers are elements of this `Fin`.
instance codePoint_neZero : NeZero (0x110000 : ℕ) := ⟨by decide⟩

instance byte_neZero : NeZero (256 : ℕ) := ⟨by decide⟩

/-- A Python `str`. -/
abbrev PyStr := List CodePoint

/-- A Python `bytes`. -/
abbrev PyBytes := List (Fin 256)

/-- The `str` a source literal denotes. -/
def py (s : String) : PyStr := s.toList.map fun c => Fin.ofNat 0x110000 c.toNat

/-- A literal by its characters, which spares the evaluation of the string. -/
theorem py_ofList (cs : List Char) :
    py (String.ofList cs) = cs.map fun c => Fin.ofNat 0x110000 c.toNat := by
  simp [py]

namespace PyStr

/-- `s.startswith(p)`. -/
def startsWith (s p : PyStr) : Bool := p.isPrefixOf s

@[simp] theorem startsWith_iff {s p : PyStr} : s.startsWith p = true ↔ p <+: s := by
  simp [startsWith]

/-- `needle in s`. -/
def contains (s needle : PyStr) : Bool := decide (needle <:+: s)

@[simp] theorem contains_iff {s needle : PyStr} :
    s.contains needle = true ↔ needle <:+: s := by
  simp [contains]

/-- `sep.join(parts)`. -/
def join (sep : PyStr) (parts : List PyStr) : PyStr := List.intercalate sep parts

/-- `s.split(c)` for a one-character separator. -/
def split (s : PyStr) (c : Char) : List PyStr := s.splitOn (Fin.ofNat 0x110000 c.toNat)

/-- Code-point order, which is what `<` compares two strings by. -/
def le : PyStr → PyStr → Bool
  | [], _ => true
  | _ :: _, [] => false
  | a :: s, b :: t => decide (a < b) || (decide (a = b) && le s t)

theorem le_total (s t : PyStr) : s.le t = true ∨ t.le s = true := by
  induction s generalizing t with
  | nil => exact Or.inl rfl
  | cons a s ih =>
      cases t with
      | nil => exact Or.inr rfl
      | cons b t =>
          rcases lt_trichotomy a b with h | h | h
          · simp [le, h]
          · subst h
            simpa [le] using ih t
          · simp [le, h]

theorem le_trans {s t u : PyStr} (hst : s.le t = true) (htu : t.le u = true) :
    s.le u = true := by
  induction s generalizing t u with
  | nil => rfl
  | cons a s ih =>
      cases t with
      | nil => cases hst
      | cons b t =>
          cases u with
          | nil => cases htu
          | cons c u =>
              simp only [le, Bool.or_eq_true, decide_eq_true_eq, Bool.and_eq_true] at *
              rcases hst with h | ⟨rfl, h⟩
              · rcases htu with h' | ⟨rfl, -⟩
                · exact Or.inl (h.trans h')
                · exact Or.inl h
              · rcases htu with h' | ⟨rfl, h'⟩
                · exact Or.inl h'
                · exact Or.inr ⟨rfl, ih h h'⟩

theorem le_antisymm {s t : PyStr} (hst : s.le t = true) (hts : t.le s = true) : s = t := by
  induction s generalizing t with
  | nil =>
      cases t with
      | nil => rfl
      | cons b t => cases hts
  | cons a s ih =>
      cases t with
      | nil => cases hst
      | cons b t =>
          simp only [le, Bool.or_eq_true, decide_eq_true_eq, Bool.and_eq_true] at *
          rcases hst with h | ⟨rfl, h⟩
          · rcases hts with h' | ⟨rfl, -⟩
            · exact absurd (h.trans h') (lt_irrefl a)
            · exact absurd h (lt_irrefl _)
          · rcases hts with h' | ⟨-, h'⟩
            · exact absurd h' (lt_irrefl a)
            · rw [ih h h']

/-- `str.isspace` on one code point. -/
def isSpace (c : CodePoint) : Bool :=
  (0x09 ≤ c && c ≤ 0x0D) || (0x1C ≤ c && c ≤ 0x20) || c == 0x85 || c == 0xA0 || c == 0x1680 ||
    (0x2000 ≤ c && c ≤ 0x200A) || c == 0x2028 || c == 0x2029 || c == 0x202F || c == 0x205F ||
    c == 0x3000

/-- `s.strip()`. -/
def strip (s : PyStr) : PyStr := ((s.dropWhile isSpace).reverse.dropWhile isSpace).reverse

end PyStr

/-- The decimal digits of a natural number. -/
def natText (n : ℕ) : PyStr := (Nat.toDigits 10 n).map fun c => Fin.ofNat 0x110000 c.toNat

/-- A character and its code point. -/
theorem val_ofNat_toNat (c : Char) : (Fin.ofNat 0x110000 c.toNat).val = c.toNat := by
  have hvalid := c.valid
  apply Nat.mod_eq_of_lt
  show c.val.toNat < 0x110000
  rcases hvalid with h | h <;> omega

/-- The digits of a natural number. -/
theorem natText_digits {n : ℕ} {c : CodePoint} (hc : c ∈ natText n) : 0x30 ≤ c ∧ c ≤ 0x39 := by
  obtain ⟨d, hd, rfl⟩ := List.mem_map.mp hc
  have hdigit := Nat.isDigit_of_mem_toDigits (by decide) (by decide) hd
  simp only [Char.isDigit, ge_iff_le, Bool.and_eq_true, decide_eq_true_eq] at hdigit
  simp only [Fin.le_def, val_ofNat_toNat]
  exact hdigit

theorem natText_injective : Function.Injective natText := by
  intro m n heq
  have hchar : Function.Injective fun c : Char => Fin.ofNat 0x110000 c.toNat := by
    intro c d hcd
    have hval := congrArg Fin.val hcd
    simp only [val_ofNat_toNat] at hval
    exact Char.toNat_inj.mp hval
  have hdigits := List.map_injective_iff.mpr hchar heq
  have hnat := congrArg (fun cs => Nat.ofDigitChars 10 cs 0) hdigits
  simpa only [Nat.ofDigitChars_ten_toDigits] using hnat

theorem natText_ne_nil (n : ℕ) : natText n ≠ [] := by
  simp [natText]

/-- The decimal digits of an integer, a minus sign before the negative ones. -/
def intText (n : ℤ) : PyStr :=
  if n < 0 then py "-" ++ natText n.natAbs else natText n.natAbs

theorem intText_injective : Function.Injective intText := by
  intro m n heq
  have hminus : ∀ k l : ℕ, py "-" ++ natText k ≠ natText l := by
    intro k l h
    have hmem : (0x2D : CodePoint) ∈ natText l := by
      rw [← h]
      exact List.mem_append_left _ (by decide)
    exact absurd (natText_digits hmem).1 (by decide)
  unfold intText at heq
  split_ifs at heq with hm hn hn
  · have habs := natText_injective (List.append_cancel_left heq)
    omega
  · exact absurd heq (hminus _ _)
  · exact absurd heq.symm (hminus _ _)
  · have habs := natText_injective heq
    omega
theorem intText_ne_nil (n : ℤ) : intText n ≠ [] := by
  unfold intText
  split
  · simp [natText_ne_nil]
  · exact natText_ne_nil _

/-- `format(q, ".2f")`. -/
def fixed2 (q : ℚ) : PyStr :=
  let n := Lib.roundHalfEven (q * 100)
  let cents := n.natAbs % 100
  (if n < 0 then py "-" else []) ++ natText (n.natAbs / 100) ++ py "." ++
    (if cents < 10 then py "0" else []) ++ natText cents

example : fixed2 (9 / 10) = py "0.90" := by decide +kernel

/-- `format(q, ".3f")`. -/
def fixed3 (q : ℚ) : PyStr :=
  let n := Lib.roundHalfEven (q * 1000)
  let thousandths := n.natAbs % 1000
  (if n < 0 then py "-" else []) ++ natText (n.natAbs / 1000) ++ py "." ++
    (if thousandths < 100 then py "0" else []) ++ (if thousandths < 10 then py "0" else []) ++
      natText thousandths

end AgentSentinel
