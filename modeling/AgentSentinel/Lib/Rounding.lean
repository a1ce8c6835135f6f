import Mathlib.Algebra.Order.Floor.Ring
import Mathlib.Algebra.Order.Archimedean.Basic
import Mathlib.Data.Rat.Floor
import Mathlib.Tactic.Linarith
import Mathlib.Tactic.Positivity
import Mathlib.Tactic.FieldSimp
import Mathlib.Tactic.Ring

/-!
# AgentSentinel.Lib.Rounding

Round-half-even in a floor field, to an integer, to a fixed number of decimals and to a fixed
binary place. The facts a caller needs are that rounding is monotone and leaves the
numbers of the grid alone; together they move a bound that lies on the grid
across a rounding in either direction.
-/

namespace AgentSentinel.Lib

variable {K : Type*} [Field K] [LinearOrder K] [FloorRing K]

/-- The integer nearest to `q`, a tie going to the even neighbour. -/
def roundHalfEven (q : K) : ℤ :=
  if q - ⌊q⌋ < 1 / 2 then ⌊q⌋
  else if 1 / 2 < q - ⌊q⌋ then ⌊q⌋ + 1
  else if ⌊q⌋ % 2 = 0 then ⌊q⌋
  else ⌊q⌋ + 1

/-- `q` rounded half-even to `d` decimals. -/
def roundTo (d : ℕ) (q : K) : K := roundHalfEven (q * 10 ^ d) / 10 ^ d

/-- `q` rounded to a multiple of `2 ^ place`. -/
def roundAt (place : ℤ) (q : K) : K := roundHalfEven (q / 2 ^ place) * 2 ^ place

/-! ### Rounding to an integer -/

theorem floor_le_roundHalfEven (q : K) : ⌊q⌋ ≤ roundHalfEven q := by
  unfold roundHalfEven
  split
  · exact le_refl _
  · split
    · omega
    · split <;> omega

theorem roundHalfEven_le_floor_add_one (q : K) : roundHalfEven q ≤ ⌊q⌋ + 1 := by
  unfold roundHalfEven
  split
  · omega
  · split
    · exact le_refl _
    · split <;> omega

variable [IsStrictOrderedRing K]

@[simp] theorem roundHalfEven_intCast (n : ℤ) : roundHalfEven (n : K) = n := by
  unfold roundHalfEven
  rw [Int.floor_intCast, if_pos (by norm_num)]

/-- Within one unit the result is decided by which side of the half `q` lies on,
and it does not decrease as `q` moves right. -/
theorem roundHalfEven_mono_of_floor_eq {p q : K} (hpq : p ≤ q) (hf : ⌊p⌋ = ⌊q⌋) :
    roundHalfEven p ≤ roundHalfEven q := by
  unfold roundHalfEven
  rw [hf]
  by_cases hp : p - ⌊q⌋ < 1 / 2
  · rw [if_pos hp]
    split
    · exact le_refl _
    · split
      · omega
      · split <;> omega
  · have hq : ¬ q - ⌊q⌋ < 1 / 2 := by linarith
    rw [if_neg hp, if_neg hq]
    by_cases hp' : 1 / 2 < p - ⌊q⌋
    · have hq' : 1 / 2 < q - ⌊q⌋ := by linarith
      rw [if_pos hp', if_pos hq']
    · rw [if_neg hp']
      by_cases hq' : 1 / 2 < q - ⌊q⌋
      · rw [if_pos hq']
        split <;> omega
      · rw [if_neg hq']

theorem roundHalfEven_mono {p q : K} (hpq : p ≤ q) : roundHalfEven p ≤ roundHalfEven q := by
  have hfloor : ⌊p⌋ ≤ ⌊q⌋ := Int.floor_mono hpq
  -- Across a unit the integer between the two numbers separates the results.
  rcases hfloor.eq_or_lt with hf | hf
  · exact roundHalfEven_mono_of_floor_eq hpq hf
  · calc roundHalfEven p ≤ ⌊p⌋ + 1 := roundHalfEven_le_floor_add_one p
      _ ≤ ⌊q⌋ := hf
      _ ≤ roundHalfEven q := floor_le_roundHalfEven q

/-- A tie below an even number goes up to it. -/
theorem le_roundHalfEven_iff_of_even {n : ℤ} (hn : n % 2 = 0) {q : K} :
    n ≤ roundHalfEven q ↔ (n : K) - 1 / 2 ≤ q := by
  constructor
  · intro h
    by_contra hq
    rw [not_le] at hq
    have hfloor : ⌊q⌋ ≤ n - 1 := by
      have hlt : ⌊q⌋ < n := Int.floor_lt.mpr (by linarith)
      omega
    rcases hfloor.eq_or_lt with hlast | hbelow
    -- In the unit before `n`, the number is on the near side of the half.
    · have hcast : ((⌊q⌋ : ℤ) : K) = n - 1 := by
        rw [hlast]
        push_cast
        ring
      have hdown : roundHalfEven q = ⌊q⌋ := by
        unfold roundHalfEven
        exact if_pos (by linarith)
      omega
    · have hup := roundHalfEven_le_floor_add_one q
      omega
  · intro h
    have hhalf : roundHalfEven ((n : K) - 1 / 2) = n := by
      have hfloor : ⌊(n : K) - 1 / 2⌋ = n - 1 := by
        rw [Int.floor_eq_iff]
        push_cast
        constructor <;> linarith
      have hrest : (n : K) - 1 / 2 - ((n - 1 : ℤ) : K) = 1 / 2 := by
        push_cast
        ring
      unfold roundHalfEven
      rw [hfloor, hrest, if_neg (lt_irrefl _), if_neg (lt_irrefl _), if_neg (by omega)]
      omega
    exact hhalf.symm.le.trans (roundHalfEven_mono h)

/-- Rounding half to even treats both directions alike. -/
theorem roundHalfEven_neg (q : K) : roundHalfEven (-q) = -roundHalfEven q := by
  by_cases hq : (⌊q⌋ : K) = q
  · rw [← hq, ← Int.cast_neg, roundHalfEven_intCast, roundHalfEven_intCast]
  · have hlt : (⌊q⌋ : K) < q := lt_of_le_of_ne (Int.floor_le q) hq
    have hfloor : ⌊-q⌋ = -(⌊q⌋ + 1) := by
      have hupper := Int.lt_floor_add_one q
      rw [Int.floor_eq_iff]
      push_cast
      constructor <;> linarith
    have hrest : -q - ((-(⌊q⌋ + 1) : ℤ) : K) = 1 - (q - ⌊q⌋) := by
      push_cast
      ring
    unfold roundHalfEven
    rw [hfloor, hrest]
    rcases lt_trichotomy (q - ⌊q⌋) (1 / 2) with hlow | htie | hhigh
    · rw [if_neg (by linarith), if_pos (by linarith), if_pos hlow]
      omega
    · rw [htie, if_neg (by norm_num), if_neg (by norm_num), if_neg (lt_irrefl _),
        if_neg (lt_irrefl _)]
      split <;> split <;> omega
    · rw [if_pos (by linarith), if_neg (not_lt.mpr hhigh.le), if_pos hhigh]

/-- A tie above an even number goes down to it. -/
theorem roundHalfEven_le_iff_of_even {n : ℤ} (hn : n % 2 = 0) {q : K} :
    roundHalfEven q ≤ n ↔ q ≤ (n : K) + 1 / 2 := by
  have hneg : -n ≤ roundHalfEven (-q) ↔ ((-n : ℤ) : K) - 1 / 2 ≤ -q :=
    le_roundHalfEven_iff_of_even (by omega)
  rw [roundHalfEven_neg, neg_le_neg_iff, Int.cast_neg] at hneg
  rw [hneg]
  constructor <;> intro h <;> linarith

/-! ### Rounding to a number of decimals -/

theorem roundTo_mono (d : ℕ) : Monotone (roundTo d : K → K) := by
  intro p q hpq
  have hscale : p * 10 ^ d ≤ q * 10 ^ d := by gcongr
  have hround : ((roundHalfEven (p * 10 ^ d) : ℤ) : K) ≤ roundHalfEven (q * 10 ^ d) :=
    Int.cast_le.mpr (roundHalfEven_mono hscale)
  unfold roundTo
  gcongr

/-- A number with at most `d` decimals is not changed. -/
theorem roundTo_grid (d : ℕ) (n : ℤ) : roundTo d (n / 10 ^ d : K) = n / 10 ^ d := by
  have h : (n / 10 ^ d : K) * 10 ^ d = n := by field_simp
  rw [roundTo, h, roundHalfEven_intCast]

@[simp] theorem roundTo_zero (d : ℕ) : roundTo d (0 : K) = 0 := by
  simpa using roundTo_grid (K := K) d 0

@[simp] theorem roundTo_one (d : ℕ) : roundTo d (1 : K) = 1 := by
  have h := roundTo_grid (K := K) d (10 ^ d)
  have hone : (((10 ^ d : ℤ) : K) / 10 ^ d) = 1 := by
    push_cast
    field_simp
  rwa [hone] at h

/-- A lower bound on the grid survives rounding. -/
theorem le_roundTo_of_grid {d : ℕ} {n : ℤ} {q : K} (h : (n / 10 ^ d : K) ≤ q) :
    (n / 10 ^ d : K) ≤ roundTo d q :=
  (roundTo_grid d n).symm.le.trans (roundTo_mono d h)

/-- The numbers that are rounded to an even grid point or above it. -/
theorem le_roundTo_iff_of_even {d : ℕ} {n : ℤ} (hn : n % 2 = 0) {q : K} :
    (n / 10 ^ d : K) ≤ roundTo d q ↔ (n / 10 ^ d : K) - 1 / (2 * 10 ^ d) ≤ q := by
  have hpos : (0 : K) < 10 ^ d := by positivity
  have hscale : (n / 10 ^ d : K) - 1 / (2 * 10 ^ d) = (n - 1 / 2) / 10 ^ d := by
    field_simp
  rw [roundTo, div_le_div_iff_of_pos_right hpos, Int.cast_le, le_roundHalfEven_iff_of_even hn,
    hscale, div_le_iff₀ hpos]

/-- The numbers that are rounded to an even grid point or below it. -/
theorem roundTo_le_iff_of_even {d : ℕ} {n : ℤ} (hn : n % 2 = 0) {q : K} :
    roundTo d q ≤ (n / 10 ^ d : K) ↔ q ≤ (n / 10 ^ d : K) + 1 / (2 * 10 ^ d) := by
  have hpos : (0 : K) < 10 ^ d := by positivity
  have hscale : (n / 10 ^ d : K) + 1 / (2 * 10 ^ d) = (n + 1 / 2) / 10 ^ d := by
    field_simp
  rw [roundTo, div_le_div_iff_of_pos_right hpos, Int.cast_le, roundHalfEven_le_iff_of_even hn,
    hscale, le_div_iff₀ hpos]

theorem roundTo_mem_unit {d : ℕ} {q : K} (h : q ∈ Set.Icc (0 : K) 1) :
    roundTo d q ∈ Set.Icc (0 : K) 1 := by
  constructor
  · simpa using roundTo_mono d h.1
  · simpa using roundTo_mono d h.2

/-! ### Rounding to a binary place -/

theorem roundAt_mono (place : ℤ) : Monotone (roundAt place : K → K) := by
  intro p q hpq
  have hpos : (0 : K) < 2 ^ place := zpow_pos two_pos place
  have hround : ((roundHalfEven (p / 2 ^ place) : ℤ) : K) ≤ roundHalfEven (q / 2 ^ place) :=
    Int.cast_le.mpr (roundHalfEven_mono (div_le_div_of_nonneg_right hpq hpos.le))
  unfold roundAt
  gcongr

/-- A power of two on the grid is not changed. -/
theorem roundAt_zpow {place e : ℤ} (h : place ≤ e) : roundAt place ((2 : K) ^ e) = 2 ^ e := by
  obtain ⟨k, rfl⟩ := Int.le.dest h
  have hquotient : (2 : K) ^ (place + k) / 2 ^ place = ((2 ^ k : ℤ) : K) := by
    rw [zpow_add₀ two_ne_zero, mul_div_cancel_left₀ _ (zpow_ne_zero _ two_ne_zero)]
    push_cast
    exact zpow_natCast 2 k
  rw [roundAt, hquotient, roundHalfEven_intCast, ← hquotient,
    div_mul_cancel₀ _ (zpow_ne_zero _ two_ne_zero)]

@[simp] theorem roundAt_zero (place : ℤ) : roundAt place (0 : K) = 0 := by
  have hzero : roundHalfEven (0 : K) = 0 := by exact_mod_cast roundHalfEven_intCast (K := K) 0
  rw [roundAt, zero_div, hzero, Int.cast_zero, zero_mul]

end AgentSentinel.Lib
