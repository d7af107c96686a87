import Mathlib.Algebra.Order.Field.Basic
import Mathlib.Data.Int.Cast.Lemmas
import Mathlib.Tactic

set_option autoImplicit false

-- The nearest integer to a quotient, an exact tie going away from zero.
namespace Ubb.Library

variable {K : Type} [Field K] [LinearOrder K] [IsStrictOrderedRing K]

structure NearestAway (exact : K) (rounded : Int) : Prop where
  within : |exact - rounded| ≤ 1 / 2
  tie : |exact - rounded| = 1 / 2 → |exact| < |(rounded : K)|

omit [IsStrictOrderedRing K] in
theorem NearestAway.neg {exact : K} {rounded : Int} (nearest : NearestAway exact rounded) :
    NearestAway (-exact) (-rounded) := by
  have distance : |-exact - ((-rounded : Int) : K)| = |exact - rounded| := by
    rw [Int.cast_neg, ← abs_neg]
    congr 1
    ring
  constructor
  · rw [distance]
    exact nearest.within
  · rw [distance, Int.cast_neg, abs_neg, abs_neg]
    exact nearest.tie

theorem NearestAway.not_next {exact : K} {rounded : Int} (low : NearestAway exact rounded)
    (high : NearestAway exact (rounded + 1)) : False := by
  have below := abs_le.mp low.within
  have above := abs_le.mp high.within
  push_cast at above
  have middle : exact = rounded + 1 / 2 := by linarith [below.2, above.1]
  have lowTie := low.tie (by rw [middle, add_sub_cancel_left]; norm_num)
  have highTie := high.tie (by
    push_cast
    rw [middle, add_sub_add_left_eq_sub]
    norm_num [abs_of_neg])
  push_cast at highTie
  rw [middle] at lowTie highTie
  rcases le_or_gt 0 rounded with nonneg | negative
  · have floor : (0 : K) ≤ rounded := by exact_mod_cast nonneg
    rw [abs_of_nonneg (by linarith), abs_of_nonneg floor] at lowTie
    linarith
  · have ceiling : (rounded : K) + 1 ≤ 0 := by exact_mod_cast negative
    rw [abs_of_neg (by linarith), abs_of_nonpos ceiling] at highTie
    linarith

theorem NearestAway.le {exact : K} {left right : Int} (one : NearestAway exact left)
    (other : NearestAway exact right) : left ≤ right := by
  by_contra apart
  have oneWithin := abs_le.mp one.within
  have otherWithin := abs_le.mp other.within
  have near : (left : K) ≤ right + 1 := by linarith [oneWithin.1, otherWithin.2]
  have next : left = right + 1 := by
    have close : left ≤ right + 1 := by exact_mod_cast near
    omega
  subst next
  exact other.not_next one

theorem NearestAway.unique {exact : K} {left right : Int} (one : NearestAway exact left)
    (other : NearestAway exact right) : left = right :=
  le_antisymm (one.le other) (other.le one)

-- Half the denominator is added before the one division.
theorem nearest_quotient (numerator denominator : Int) (nonneg : 0 ≤ numerator) (positive : 0 < denominator) :
    NearestAway ((numerator : K) / denominator) ((numerator + denominator / 2) / denominator) := by
  have dividend := Int.mul_ediv_add_emod (numerator + denominator / 2) denominator
  have small := Int.emod_lt_of_pos (numerator + denominator / 2) positive
  have least := Int.emod_nonneg (numerator + denominator / 2) (ne_of_gt positive)
  generalize (numerator + denominator / 2) / denominator = rounded at dividend ⊢
  have half : 2 * (denominator / 2) ≤ denominator ∧ denominator ≤ 2 * (denominator / 2) + 1 := by omega
  have above : 2 * (denominator * rounded - numerator) ≤ denominator := by linarith
  have below : 2 * (numerator - denominator * rounded) < denominator := by omega
  have positiveK : (0 : K) < denominator := by exact_mod_cast positive
  have aboveK : 2 * ((denominator : K) * rounded - numerator) ≤ denominator := by exact_mod_cast above
  have belowK : 2 * ((numerator : K) - denominator * rounded) < denominator := by exact_mod_cast below
  have distance : (numerator : K) / denominator - rounded = (numerator - denominator * rounded) / denominator := by
    field_simp
  have upper : (numerator : K) / denominator - rounded < 1 / 2 := by
    rw [distance, div_lt_iff₀ positiveK]
    linarith
  have lower : -(1 / 2) ≤ (numerator : K) / denominator - rounded := by
    rw [distance, le_div_iff₀ positiveK]
    linarith
  refine ⟨abs_le.mpr ⟨lower, upper.le⟩, ?_⟩
  intro tie
  have exactNonneg : (0 : K) ≤ numerator / denominator := div_nonneg (by exact_mod_cast nonneg) positiveK.le
  have short : (numerator : K) / denominator - rounded = -(1 / 2) := by
    rcases (abs_eq (by norm_num)).mp tie with up | down
    · exact absurd up (ne_of_lt upper)
    · exact down
  have bigger : (numerator : K) / denominator < rounded := by linarith
  rw [abs_of_nonneg exactNonneg, abs_of_nonneg (exactNonneg.trans bigger.le)]
  exact bigger

end Ubb.Library
