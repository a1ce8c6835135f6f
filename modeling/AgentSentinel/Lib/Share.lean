import Mathlib.Algebra.Order.Field.Basic
import Mathlib.Data.Finset.Card

/-!
# AgentSentinel.Lib.Share

The share of a finite set that another set names.
-/

namespace AgentSentinel.Lib

variable {α : Type*} [DecidableEq α] {whole named named' : Finset α}

/-- The part of `whole` that lies in `named`, as a fraction. -/
def share (K : Type*) [Field K] (whole named : Finset α) : K :=
  ((named ∩ whole).card : K) / (whole.card : K)

theorem share_of_disjoint {K : Type*} [Field K] (h : named ∩ whole = ∅) :
    share K whole named = 0 := by
  simp [share, h]

variable {K : Type*} [Field K] [LinearOrder K] [IsStrictOrderedRing K]

theorem share_nonneg : 0 ≤ share K whole named :=
  div_nonneg (Nat.cast_nonneg _) (Nat.cast_nonneg _)

theorem share_le_one : share K whole named ≤ 1 := by
  have hcard : (named ∩ whole).card ≤ whole.card := Finset.card_le_card Finset.inter_subset_right
  exact div_le_one_of_le₀ (Nat.cast_le.mpr hcard) (Nat.cast_nonneg _)

/-- Only what is named of the set counts, and more of it is a larger share. -/
theorem share_mono (h : named ∩ whole ⊆ named' ∩ whole) :
    share K whole named ≤ share K whole named' := by
  have hcard := Finset.card_le_card h
  exact div_le_div_of_nonneg_right (Nat.cast_le.mpr hcard) (Nat.cast_nonneg _)

end AgentSentinel.Lib
