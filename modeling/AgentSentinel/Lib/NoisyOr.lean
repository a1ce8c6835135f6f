import Mathlib.Algebra.Order.BigOperators.Group.List
import Mathlib.Algebra.Order.Interval.Set.Instances

/-!
# AgentSentinel.Lib.NoisyOr

The noisy-or of a list of probabilities: the probability that at least one of
independent events happens, `1 - ∏ (1 - p)`. It stays in the unit interval, grows
with the list and dominates each of its members. Nothing but an ordered ring is
asked of the probabilities.
-/

namespace AgentSentinel.Lib

variable {K : Type*} [CommRing K] [PartialOrder K]

/-- The probability that none of the independent events of `ps` happens. -/
def noneOf (ps : List (Set.Icc (0 : K) 1)) : K := (ps.map fun p => 1 - p.val).prod

/-- The probability that at least one of the independent events of `ps` happens. -/
def noisyOr (ps : List (Set.Icc (0 : K) 1)) : K := 1 - noneOf ps

variable {p : Set.Icc (0 : K) 1} {ps qs : List (Set.Icc (0 : K) 1)}

@[simp] theorem noneOf_nil : noneOf ([] : List (Set.Icc (0 : K) 1)) = 1 := rfl

@[simp] theorem noneOf_cons : noneOf (p :: ps) = (1 - p.val) * noneOf ps := by
  simp [noneOf]

/-- The order the events come in does not matter. -/
theorem noisyOr_perm (h : ps.Perm qs) : noisyOr ps = noisyOr qs := by
  rw [noisyOr, noisyOr, noneOf, noneOf, (h.map _).prod_eq]

variable [IsOrderedRing K]

theorem noneOf_nonneg : 0 ≤ noneOf ps := by
  induction ps with
  | nil => exact zero_le_one
  | cons p ps ih =>
      rw [noneOf_cons]
      exact mul_nonneg (Set.Icc.one_sub_nonneg p) ih

theorem noneOf_le_one : noneOf ps ≤ 1 := by
  induction ps with
  | nil => exact le_refl _
  | cons p ps ih =>
      rw [noneOf_cons]
      exact mul_le_one₀ (Set.Icc.one_sub_le_one p) noneOf_nonneg ih

/-- More events leave less room for none of them to happen. -/
theorem noneOf_sublist (h : ps.Sublist qs) : noneOf qs ≤ noneOf ps := by
  induction h with
  | slnil => exact le_refl _
  | cons q _ ih =>
      rw [noneOf_cons]
      calc (1 - q.val) * noneOf _ ≤ 1 * noneOf _ :=
            mul_le_mul_of_nonneg_right (Set.Icc.one_sub_le_one q) noneOf_nonneg
        _ = noneOf _ := one_mul _
        _ ≤ noneOf _ := ih
  | cons_cons q _ ih =>
      rw [noneOf_cons, noneOf_cons]
      exact mul_le_mul_of_nonneg_left ih (Set.Icc.one_sub_nonneg q)

theorem noisyOr_mem_unit : noisyOr ps ∈ Set.Icc (0 : K) 1 :=
  ⟨sub_nonneg.mpr noneOf_le_one, sub_le_self 1 noneOf_nonneg⟩

theorem noisyOr_sublist (h : ps.Sublist qs) : noisyOr ps ≤ noisyOr qs :=
  sub_le_sub_left (noneOf_sublist h) 1

/-- More events, in whatever order. -/
theorem noisyOr_subperm (h : ps.Subperm qs) : noisyOr ps ≤ noisyOr qs := by
  obtain ⟨rs, hperm, hsub⟩ := h
  rw [noisyOr_perm hperm.symm]
  exact noisyOr_sublist hsub

/-- No member outweighs the whole. -/
theorem le_noisyOr (h : p ∈ ps) : p.val ≤ noisyOr ps := by
  have hsub := noisyOr_sublist (List.singleton_sublist.mpr h)
  simpa [noisyOr] using hsub

end AgentSentinel.Lib
