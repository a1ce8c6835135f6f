import Mathlib.Data.List.DropRight

/-!
# AgentSentinel.Lib.Trim

A text without the padding around it. The padding is a class of characters; what is left
neither begins nor ends with one of them, and is the only such text that the padding can be
put around to give the text back.
-/

namespace AgentSentinel.Lib

variable {α : Type*} {p : α → Bool} {s t : List α}

/-- Take the characters of a class off both ends. -/
def trim (p : α → Bool) (s : List α) : List α := (s.dropWhile p).rdropWhile p

/-- There is nothing to take off. -/
structure Trimmed (p : α → Bool) (t : List α) : Prop where
  head : ∀ c ∈ t.head?, p c = false
  last : ∀ c ∈ t.getLast?, p c = false

/-- `s` is `t` with characters of the class around it. -/
def PaddedTo (p : α → Bool) (t s : List α) : Prop :=
  ∃ before after, s = before ++ t ++ after ∧ (∀ c ∈ before, p c = true) ∧ ∀ c ∈ after, p c = true

theorem dropWhile_of_head (h : ∀ c ∈ s.head?, p c = false) : s.dropWhile p = s := by
  cases s with
  | nil => rfl
  | cons c s => exact List.dropWhile_cons_of_neg (by simp [h c rfl])

theorem head_dropWhile {c : α} (hc : c ∈ (s.dropWhile p).head?) : p c = false := by
  have hhead := List.head?_dropWhile_not p s
  rw [Option.mem_def.mp hc] at hhead
  exact hhead

theorem paddedTo_trim (p : α → Bool) (s : List α) : PaddedTo p (trim p s) s := by
  refine ⟨s.takeWhile p, (s.dropWhile p).rtakeWhile p, ?_, ?_, ?_⟩
  · rw [trim, List.append_assoc, List.rdropWhile_append_rtakeWhile, List.takeWhile_append_dropWhile]
  · exact fun c hc => List.all_eq_true.mp List.all_takeWhile c hc
  · exact fun c hc => List.mem_rtakeWhile_imp hc

theorem trimmed_trim (p : α → Bool) (s : List α) : Trimmed p (trim p s) := by
  constructor
  · intro c hc
    -- What is taken off at the end leaves the beginning as it is.
    obtain ⟨rest, hrest⟩ : trim p s <+: s.dropWhile p := List.rdropWhile_prefix p _
    have hne : trim p s ≠ [] := List.ne_nil_of_mem (List.mem_of_mem_head? hc)
    refine head_dropWhile (s := s) ?_
    rw [← hrest, List.head?_append_of_ne_nil _ hne]
    exact hc
  · intro c hc
    rw [trim, List.rdropWhile, List.getLast?_reverse] at hc
    exact head_dropWhile hc

/-- **What the padding is around** is the trimmed text. -/
theorem trim_eq_iff : trim p s = t ↔ Trimmed p t ∧ PaddedTo p t s := by
  constructor
  · rintro rfl
    exact ⟨trimmed_trim p s, paddedTo_trim p s⟩
  · intro h
    obtain ⟨ht, before, after, rfl, hbefore, hafter⟩ := h
    rw [List.append_assoc, trim, List.dropWhile_append_of_pos hbefore]
    cases t with
    | nil => rw [List.nil_append, List.dropWhile_eq_nil_iff.mpr hafter, List.rdropWhile_nil]
    | cons c t =>
        have hhead : ((c :: t) ++ after).dropWhile p = (c :: t) ++ after :=
          dropWhile_of_head ht.head
        have hlast : (c :: t).reverse.dropWhile p = (c :: t).reverse :=
          dropWhile_of_head (by rw [List.head?_reverse]; exact ht.last)
        rw [hhead, List.rdropWhile, List.reverse_append,
          List.dropWhile_append_of_pos (by simpa using hafter), hlast, List.reverse_reverse]

end AgentSentinel.Lib
