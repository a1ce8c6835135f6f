import Mathlib.Data.Int.Log
import AgentSentinel.Lib.Rounding

/-!
# AgentSentinel.Lib.BinaryRounding

Round-half-even to a binary floating-point number: the last place that is kept moves with the
magnitude of what is rounded, down to a least place, below which the format has no numbers.
Between two numbers that are rounded at different places there is a power of two that both
places keep, which keeps the results apart, too.
-/

namespace AgentSentinel.Lib

variable {K : Type*} [Field K] [LinearOrder K] [FloorRing K]

/-- The last place that is kept of a number with so many significant ones. -/
def lastPlace (precision : ℕ) (least : ℤ) (q : K) : ℤ :=
  max (Int.log 2 |q| + 1 - precision) least

/-- `q` rounded to the format. -/
def roundBinary (precision : ℕ) (least : ℤ) (q : K) : K := roundAt (lastPlace precision least q) q

variable [IsStrictOrderedRing K] {precision : ℕ} {least : ℤ} {p q : K}

@[simp] theorem roundBinary_zero : roundBinary precision least (0 : K) = 0 := roundAt_zero _

theorem lastPlace_mono (hp : 0 < p) (hpq : p ≤ q) :
    lastPlace precision least p ≤ lastPlace precision least q := by
  have hlog : Int.log 2 |p| ≤ Int.log 2 |q| := by
    rw [abs_of_pos hp, abs_of_pos (hp.trans_le hpq)]
    exact Int.log_mono_right hp hpq
  exact max_le_max (by omega) le_rfl

/-- Rounding does not turn numbers that are not negative around. -/
theorem roundBinary_mono (hprecision : 0 < precision) (hp : 0 ≤ p) (hpq : p ≤ q) :
    roundBinary precision least p ≤ roundBinary precision least q := by
  have hnonneg (place : ℤ) : 0 ≤ roundAt place q := by
    simpa using roundAt_mono place (hp.trans hpq)
  rcases hp.eq_or_lt with rfl | hpos
  · rw [roundBinary_zero]
    exact hnonneg _
  have hqpos := hpos.trans_le hpq
  rcases (lastPlace_mono hpos hpq).eq_or_lt with hsame | hlower
  · rw [roundBinary, roundBinary, hsame]
    exact roundAt_mono _ hpq
  -- The leading place of `q` is on both grids, and `p` is below it.
  have hplace : lastPlace precision least q = Int.log 2 q + 1 - precision := by
    have hleast : least ≤ lastPlace precision least p := le_max_right _ _
    have hq : lastPlace precision least q = max (Int.log 2 q + 1 - precision) least := by
      rw [lastPlace, abs_of_pos hqpos]
    omega
  have hlog : Int.log 2 p < Int.log 2 q := by
    have hbound : Int.log 2 p + 1 - precision ≤ lastPlace precision least p := by
      rw [lastPlace, abs_of_pos hpos]
      exact le_max_left _ _
    omega
  have hbelow : p ≤ 2 ^ Int.log 2 q := by
    have hlt := Int.lt_zpow_succ_log_self (b := 2) (by norm_num) p
    refine hlt.le.trans ?_
    push_cast
    exact zpow_le_zpow_right₀ one_le_two (by omega)
  have habove : 2 ^ Int.log 2 q ≤ q := by
    exact_mod_cast Int.zpow_log_le_self (b := 2) (by norm_num) hqpos
  calc roundBinary precision least p
      ≤ roundAt (lastPlace precision least p) (2 ^ Int.log 2 q) := roundAt_mono _ hbelow
    _ = roundAt (lastPlace precision least q) (2 ^ Int.log 2 q) := by
        rw [roundAt_zpow (by omega), roundAt_zpow (by omega)]
    _ ≤ roundBinary precision least q := roundAt_mono _ habove

theorem roundBinary_one (hprecision : 0 < precision) (hleast : least ≤ 0) :
    roundBinary precision least (1 : K) = 1 := by
  have hplace : lastPlace precision least (1 : K) ≤ 0 := by
    rw [lastPlace, abs_one, Int.log_one_right]
    omega
  have hround := roundAt_zpow (K := K) hplace
  rwa [zpow_zero] at hround

end AgentSentinel.Lib
