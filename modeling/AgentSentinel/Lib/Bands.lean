import Mathlib.Data.List.Pairwise
import Mathlib.Order.Lattice

/-!
# AgentSentinel.Lib.Bands

Bands over an ordered scale, listed from the highest threshold to the lowest. A number has
the label of the first band whose threshold it reaches, and the bottom label below them all.
-/

namespace AgentSentinel.Lib

variable {K τ : Type*} [LinearOrder K]

/-- The label of the first band whose threshold is reached. -/
def reach (bands : List (K × τ)) (bottom : τ) (x : K) : τ :=
  ((bands.find? fun band => band.1 ≤ x).map Prod.snd).getD bottom

variable {bands : List (K × τ)} {bottom : τ} {x y : K}

theorem reach_nil (bottom : τ) (x : K) : reach [] bottom x = bottom := rfl

theorem reach_cons (band : K × τ) (bands : List (K × τ)) (bottom : τ) (x : K) :
    reach (band :: bands) bottom x = if band.1 ≤ x then band.2 else reach bands bottom x := by
  unfold reach
  by_cases h : band.1 ≤ x
  · rw [if_pos h, List.find?_cons_of_pos (by simpa using h)]
    rfl
  · rw [if_neg h, List.find?_cons_of_neg (by simpa using h)]

/-- A last band with the bottom label changes nothing. -/
theorem reach_concat_bottom (bands : List (K × τ)) (bottom : τ) (threshold x : K) :
    reach (bands ++ [(threshold, bottom)]) bottom x = reach bands bottom x := by
  induction bands with
  | nil => rw [List.nil_append, reach_cons, reach_nil, ite_self]
  | cons band bands ih => rw [List.cons_append, reach_cons, reach_cons, ih]

theorem reach_eq_bottom_or_mem (bands : List (K × τ)) (bottom : τ) (x : K) :
    reach bands bottom x = bottom ∨ ∃ band ∈ bands, reach bands bottom x = band.2 := by
  induction bands with
  | nil => exact Or.inl rfl
  | cons band bands ih =>
      rw [reach_cons]
      split
      · exact Or.inr ⟨band, List.mem_cons_self, rfl⟩
      · exact ih.imp_right fun ⟨b, hb, h⟩ => ⟨b, List.mem_cons_of_mem _ hb, h⟩

/-- A higher number is in no lower band. -/
theorem reach_mono [Preorder τ] (hlabels : bands.Pairwise fun a b => b.2 ≤ a.2)
    (hbottom : ∀ band ∈ bands, bottom ≤ band.2) : Monotone (reach bands bottom) := by
  intro x y hxy
  induction bands with
  | nil => exact le_rfl
  | cons band bands ih =>
      rw [List.pairwise_cons] at hlabels
      rw [List.forall_mem_cons] at hbottom
      rw [reach_cons, reach_cons]
      by_cases hx : band.1 ≤ x
      · rw [if_pos hx, if_pos (hx.trans hxy)]
      · rw [if_neg hx]
        split
        -- The higher number reaches the band, and every other label is below its own.
        · rcases reach_eq_bottom_or_mem bands bottom x with h | ⟨b, hb, h⟩
          · rw [h]
            exact hbottom.1
          · rw [h]
            exact hlabels.1 b hb
        · exact ih hlabels.2 hbottom.2

/-- Two numbers are in one band exactly if they reach the same thresholds. -/
theorem reach_eq_iff (hdescending : bands.Pairwise fun a b => b.1 ≤ a.1)
    (hdistinct : (bottom :: bands.map Prod.snd).Nodup) :
    reach bands bottom x = reach bands bottom y ↔
      ∀ band ∈ bands, (band.1 ≤ x ↔ band.1 ≤ y) := by
  induction bands with
  | nil => simp [reach_nil]
  | cons band bands ih =>
      rw [List.pairwise_cons] at hdescending
      rw [List.map_cons, List.nodup_cons, List.mem_cons, not_or, List.nodup_cons] at hdistinct
      obtain ⟨⟨hne, hbottom⟩, hband, hrest⟩ := hdistinct
      have hother (z : K) : reach bands bottom z ≠ band.2 := by
        intro hz
        rcases reach_eq_bottom_or_mem bands bottom z with h | ⟨b, hb, h⟩
        · exact hne (h.symm.trans hz)
        · exact hband (List.mem_map.mpr ⟨b, hb, h.symm.trans hz⟩)
      rw [reach_cons, reach_cons, List.forall_mem_cons]
      by_cases hx : band.1 ≤ x <;> by_cases hy : band.1 ≤ y
      · rw [if_pos hx, if_pos hy]
        refine iff_of_true rfl ⟨iff_of_true hx hy, fun b hb => ?_⟩
        have hbelow := hdescending.1 b hb
        exact iff_of_true (hbelow.trans hx) (hbelow.trans hy)
      · rw [if_pos hx, if_neg hy]
        exact iff_of_false (hother y).symm fun h => hy (h.1.mp hx)
      · rw [if_neg hx, if_pos hy]
        exact iff_of_false (hother x) fun h => hx (h.1.mpr hy)
      · rw [if_neg hx, if_neg hy, ih hdescending.2 (List.nodup_cons.mpr ⟨hbottom, hrest⟩)]
        simp only [hx, hy, true_and]

end AgentSentinel.Lib
