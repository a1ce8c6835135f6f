import Mathlib.Data.List.Basic

/-!
# AgentSentinel.Lib.PercentCoding

Texts in which a character can stand for itself or be written as an escape: a sign and two
digits. Decoding reads off one character after the other; keeping the text of each beside it
says how every part of the decoded text is spelled.

The alphabet, the sign and the meaning of two digits are parameters.
-/

namespace AgentSentinel.Lib

variable {α : Type*}

/-- A character with the text that stands for it. -/
structure Spelling (α : Type*) where
  char : α
  text : List α

/-- The character stands for itself. -/
def Spelling.Plain (u : Spelling α) : Prop := u.text = [u.char]

/-- The character is written as an escape. -/
def Spelling.Escaped (sign : α) (pair : α → α → Option α) (u : Spelling α) : Prop :=
  ∃ a b, u.text = [sign, a, b] ∧ pair a b = some u.char

variable [DecidableEq α] (sign : α) (pair : α → α → Option α)

/-- The characters of a text from left to right. A sign that no two digits follow stands for
itself. -/
def spellings : List α → List (Spelling α)
  | [] => []
  | [c] => [⟨c, [c]⟩]
  | [c, d] => [⟨c, [c]⟩, ⟨d, [d]⟩]
  | c :: a :: b :: s =>
    if c = sign then
      match pair a b with
      | some d => ⟨d, [c, a, b]⟩ :: spellings s
      | none => ⟨c, [c]⟩ :: spellings (a :: b :: s)
    else ⟨c, [c]⟩ :: spellings (a :: b :: s)

/-- One round of decoding. -/
def percentDecode (s : List α) : List α := (spellings sign pair s).map Spelling.char

variable {sign pair} {s : List α} {u : Spelling α}

/-- The texts of the characters make up the text. -/
theorem flatMap_text_spellings (s : List α) :
    (spellings sign pair s).flatMap Spelling.text = s := by
  fun_induction spellings sign pair s with
  | case1 => rfl
  | case2 => rfl
  | case3 => rfl
  | case4 a b s d hpair ih => rw [List.flatMap_cons, ih]; rfl
  | case5 a b s hpair ih => rw [List.flatMap_cons, ih]; rfl
  | case6 c a b s hc ih => rw [List.flatMap_cons, ih]; rfl

/-- There are these two ways to write a character. -/
theorem plain_or_escaped (h : u ∈ spellings sign pair s) : u.Plain ∨ u.Escaped sign pair := by
  fun_induction spellings sign pair s with
  | case1 => cases h
  | case2 c =>
      obtain rfl := List.mem_singleton.mp h
      exact Or.inl rfl
  | case3 c d =>
      left
      rcases List.mem_cons.mp h with rfl | h
      · rfl
      · obtain rfl := List.mem_singleton.mp h
        rfl
  | case4 a b s d hpair ih =>
      rcases List.mem_cons.mp h with rfl | h
      · exact Or.inr ⟨a, b, rfl, hpair⟩
      · exact ih h
  | case5 a b s hpair ih =>
      rcases List.mem_cons.mp h with rfl | h
      · exact Or.inl rfl
      · exact ih h
  | case6 c a b s hc ih =>
      rcases List.mem_cons.mp h with rfl | h
      · exact Or.inl rfl
      · exact ih h

end AgentSentinel.Lib
