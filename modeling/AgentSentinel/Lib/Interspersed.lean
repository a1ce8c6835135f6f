import Mathlib.Data.List.Basic

/-!
# AgentSentinel.Lib.Interspersed

Texts with characters of a class put in, at any places. Taking all characters of the class
out again need not give the text back, which may have had some of its own; but a filter that
drops the class does not tell the two texts apart.
-/

namespace AgentSentinel.Lib

variable {α : Type*}

/-- `t` is `s` with characters of the class put in. -/
inductive Interspersed (p : α → Prop) : List α → List α → Prop
  | nil : Interspersed p [] []
  | keep (c : α) {s t : List α} : Interspersed p s t → Interspersed p (c :: s) (c :: t)
  | put {c : α} {s t : List α} : p c → Interspersed p s t → Interspersed p s (c :: t)

namespace Interspersed

variable {p : α → Prop} {s t u : List α}

/-- Characters put in at the end. -/
theorem append (s : List α) (h : ∀ c ∈ u, p c) : Interspersed p s (s ++ u) := by
  induction s with
  | cons c s ih => exact .keep c ih
  | nil =>
      induction u with
      | nil => exact .nil
      | cons c u ih =>
          rw [List.forall_mem_cons] at h
          exact .put h.1 (ih h.2)

/-- Nothing gets lost. -/
theorem subset (h : Interspersed p s t) : s ⊆ t := by
  induction h with
  | nil => exact List.Subset.refl []
  | keep c _ ih => exact List.cons_subset_cons c ih
  | put _ _ ih => exact List.subset_cons_of_subset _ ih

/-- What is put in does not show where the class is dropped. -/
theorem filter_eq {f : α → Bool} (h : Interspersed p s t) (hdrops : ∀ c, p c → f c = false) :
    t.filter f = s.filter f := by
  induction h with
  | nil => rfl
  | keep c _ ih => rw [List.filter_cons, List.filter_cons, ih]
  | put hc _ ih => rw [List.filter_cons, hdrops _ hc, if_neg Bool.false_ne_true, ih]

theorem eq_nil_of_nil (h : Interspersed p s []) : s = [] := by
  cases h
  rfl

end Interspersed

end AgentSentinel.Lib
