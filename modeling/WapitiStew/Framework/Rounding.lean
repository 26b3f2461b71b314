import Mathlib.Algebra.Order.Round
import Mathlib.Data.Rat.Floor

/-!
# Rounding to whole numbers

`roundAway` rounds to the nearest whole number, halves away from zero; `truncate` drops the
fraction. A quotient that is not negative is rounded up exactly if twice its remainder is at least
the divisor (`roundAway_div`).
-/

namespace WSE.Framework

variable {K : Type*} [Field K] [LinearOrder K] [IsStrictOrderedRing K] [FloorRing K] {x y : K}

def roundAway (x : K) : ℤ := if 0 ≤ x then round x else -round (-x)

def truncate (x : K) : ℤ := if 0 ≤ x then ⌊x⌋ else ⌈x⌉

theorem roundAway_of_nonneg (h : 0 ≤ x) : roundAway x = ⌊x + 1 / 2⌋ := by
  rw [roundAway, if_pos h, round_eq]

theorem roundAway_nonneg (h : 0 ≤ x) : 0 ≤ roundAway x := by
  rw [roundAway_of_nonneg h]
  exact Int.floor_nonneg.mpr (add_nonneg h one_half_pos.le)

theorem roundAway_le_roundAway (h : 0 ≤ x) (hxy : x ≤ y) : roundAway x ≤ roundAway y := by
  rw [roundAway_of_nonneg h, roundAway_of_nonneg (h.trans hxy)]
  exact Int.floor_mono (by linarith)

@[simp] theorem roundAway_intCast (n : ℤ) : roundAway (n : K) = n := by
  rw [roundAway]
  split
  · exact round_intCast n
  · rw [← Int.cast_neg, round_intCast, neg_neg]

@[simp] theorem truncate_intCast (n : ℤ) : truncate (n : K) = n := by
  rw [truncate]
  split
  · exact Int.floor_intCast n
  · exact Int.ceil_intCast n

theorem floor_div (a : ℤ) {s : ℤ} (hs : 0 < s) : ⌊(a / s : K)⌋ = a / s := by
  have hs' : (0 : K) < s := Int.cast_pos.mpr hs
  rw [Int.floor_eq_iff, le_div_iff₀ hs', div_lt_iff₀ hs']
  constructor
  · exact_mod_cast Int.ediv_mul_le a hs.ne'
  · exact_mod_cast Int.lt_ediv_add_one_mul_self a hs

/-- A quotient is rounded down or up by its remainder. -/
theorem roundAway_div {a s : ℤ} (ha : 0 ≤ a) (hs : 0 < s) :
    roundAway (a / s : K) = if 2 * (a % s) < s then a / s else a / s + 1 := by
  have hs' : (0 : K) < s := Int.cast_pos.mpr hs
  have hdiv : (a / s + 1 / 2 : K) = (2 * a + s : ℤ) / (2 * s : ℤ) := by
    push_cast
    field_simp
  have hsplit : 2 * a + s = 2 * (a % s) + s + 2 * s * (a / s) := by
    linarith [Int.mul_ediv_add_emod a s]
  have h0 := Int.emod_nonneg a hs.ne'
  have h1 := Int.emod_lt_of_pos a hs
  rw [roundAway_of_nonneg (div_nonneg (Int.cast_nonneg ha) hs'.le), hdiv, floor_div _ (by omega),
    hsplit, Int.add_mul_ediv_left _ _ (by omega)]
  split
  · rw [Int.ediv_eq_zero_of_lt (by omega) (by omega), zero_add]
  · rw [show 2 * (a % s) + s = 2 * (a % s) - s + 2 * s * 1 by omega,
      Int.add_mul_ediv_left _ _ (by omega), Int.ediv_eq_zero_of_lt (by omega) (by omega)]
    omega

end WSE.Framework
