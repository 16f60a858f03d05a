import HelperKit.Double
import Mathlib.Algebra.Order.Field.Power
import Mathlib.Data.Nat.Log
import Mathlib.Data.Rat.Cast.Order
import Mathlib.Tactic.FieldSimp
import Mathlib.Tactic.Linarith
import Mathlib.Tactic.NormNum
import Mathlib.Tactic.Positivity
import Mathlib.Tactic.Ring

/-!
# Fractions as rational numbers

The fractions that numbers of 64 bits are computed with stand for rational
numbers.  Comparison, quotient, rounding and the two orders of magnitude are
described by these values, so that a fraction may be replaced by any other one of
the same value.
-/

namespace HelperKit

namespace Ratio

/-- The rational number that a fraction stands for. -/
def value (ratio : Ratio) : ℚ :=
  ratio.numerator / ratio.denominator

/-! ## Arithmetic -/

theorem scaled_value (number base : Nat) (exponent : Int) :
    (scaled number base exponent).value = number * (base : ℚ) ^ exponent := by
  unfold scaled
  split
  · rename_i nonnegative
    obtain ⟨power, rfl⟩ := Int.eq_ofNat_of_zero_le nonnegative
    simp [value]
  · rename_i negative
    obtain ⟨power, same⟩ := Int.eq_ofNat_of_zero_le (show 0 ≤ -exponent by omega)
    have exponentEq : exponent = -(power : Int) := by omega
    subst exponentEq
    simp [value, zpow_neg, div_eq_mul_inv]

theorem scaled_denominator_pos {base : Nat} (positive : 0 < base) (number : Nat)
    (exponent : Int) : 0 < (scaled number base exponent).denominator := by
  unfold scaled
  split
  · exact Nat.one_pos
  · exact Nat.pow_pos positive

theorem scaled_numerator_pos {number base : Nat} (positive : 0 < number) (basePositive : 0 < base)
    (exponent : Int) : 0 < (scaled number base exponent).numerator := by
  unfold scaled
  split
  · exact Nat.mul_pos positive (Nat.pow_pos basePositive)
  · exact positive

theorem le_eq_true_iff {left right : Ratio} (leftPositive : 0 < left.denominator)
    (rightPositive : 0 < right.denominator) : left.le right = true ↔ left.value ≤ right.value := by
  have leftCast : (0 : ℚ) < left.denominator := by exact_mod_cast leftPositive
  have rightCast : (0 : ℚ) < right.denominator := by exact_mod_cast rightPositive
  rw [le, decide_eq_true_iff, value, value, div_le_div_iff₀ leftCast rightCast]
  exact_mod_cast Iff.rfl

theorem lt_eq_true_iff {left right : Ratio} (leftPositive : 0 < left.denominator)
    (rightPositive : 0 < right.denominator) : left.lt right = true ↔ left.value < right.value := by
  have leftCast : (0 : ℚ) < left.denominator := by exact_mod_cast leftPositive
  have rightCast : (0 : ℚ) < right.denominator := by exact_mod_cast rightPositive
  rw [lt, decide_eq_true_iff, value, value, div_lt_div_iff₀ leftCast rightCast]
  exact_mod_cast Iff.rfl

theorem quotient_value (left right : Ratio) :
    (left.quotient right).value = left.value / right.value := by
  simp only [quotient, value, Nat.cast_mul]
  rw [div_div_div_eq]

theorem quotient_denominator_pos {left right : Ratio} (leftPositive : 0 < left.denominator)
    (rightPositive : 0 < right.numerator) : 0 < (left.quotient right).denominator :=
  Nat.mul_pos leftPositive rightPositive

/-! ## Rounding -/

theorem floor_le_value {ratio : Ratio} (positive : 0 < ratio.denominator) :
    (ratio.floor : ℚ) ≤ ratio.value := by
  have cast : (0 : ℚ) < ratio.denominator := by exact_mod_cast positive
  rw [value, le_div_iff₀ cast]
  exact_mod_cast Nat.div_mul_le_self ratio.numerator ratio.denominator

theorem value_lt_floor_add_one {ratio : Ratio} (positive : 0 < ratio.denominator) :
    ratio.value < ratio.floor + 1 := by
  have cast : (0 : ℚ) < ratio.denominator := by exact_mod_cast positive
  rw [value, div_lt_iff₀ cast]
  exact_mod_cast Nat.lt_succ_mul_of_div_lt_succ positive
where
  Nat.lt_succ_mul_of_div_lt_succ {number divisor : Nat} (positive : 0 < divisor) :
      number < (number / divisor + 1) * divisor := by
    rw [Nat.mul_comm]
    exact Nat.lt_mul_div_succ number positive

/-- A fraction is rounded to one of the integers next to it. -/
theorem floor_le_round (ratio : Ratio) :
    ratio.floor ≤ ratio.round ∧ ratio.round ≤ ratio.floor + 1 := by
  unfold round
  simp only
  split
  · omega
  · split
    · omega
    · split <;> omega

theorem value_eq_floor_add {ratio : Ratio} (positive : 0 < ratio.denominator) :
    ratio.value = ratio.floor +
      ((ratio.numerator % ratio.denominator : Nat) : ℚ) / ratio.denominator := by
  have cast : (ratio.denominator : ℚ) ≠ 0 := by exact_mod_cast positive.ne'
  have split : (ratio.denominator : ℚ) * (ratio.numerator / ratio.denominator : Nat) +
      (ratio.numerator % ratio.denominator : Nat) = ratio.numerator := by
    exact_mod_cast Nat.div_add_mod ratio.numerator ratio.denominator
  rw [value, floor, ← split, add_div, mul_div_cancel_left₀ _ cast]

theorem two_mul_lt_iff {remainder denominator : Nat} (positive : 0 < denominator) :
    2 * remainder < denominator ↔ (remainder : ℚ) / denominator < 1 / 2 := by
  have cast : (0 : ℚ) < denominator := by exact_mod_cast positive
  have same : 2 * remainder < denominator ↔ (remainder : ℚ) * 2 < 1 * denominator := by
    rw [one_mul, mul_comm]
    exact_mod_cast Iff.rfl
  rw [same, div_lt_div_iff₀ cast two_pos]

theorem lt_two_mul_iff {remainder denominator : Nat} (positive : 0 < denominator) :
    denominator < 2 * remainder ↔ 1 / 2 < (remainder : ℚ) / denominator := by
  have cast : (0 : ℚ) < denominator := by exact_mod_cast positive
  have same : denominator < 2 * remainder ↔ 1 * (denominator : ℚ) < (remainder : ℚ) * 2 := by
    rw [one_mul, mul_comm (remainder : ℚ)]
    exact_mod_cast Iff.rfl
  rw [same, div_lt_div_iff₀ two_pos cast]

/-- The nearest integer is the one within a half; at a half it is the even one. -/
theorem round_eq {ratio : Ratio} {integer : Nat} (positive : 0 < ratio.denominator)
    (above : (integer : ℚ) - 1 / 2 ≤ ratio.value) (below : ratio.value ≤ integer + 1 / 2)
    (ties : integer % 2 = 0 ∨
      (integer : ℚ) - 1 / 2 < ratio.value ∧ ratio.value < integer + 1 / 2) :
    ratio.round = integer := by
  have exact := value_eq_floor_add positive
  have lower : integer ≤ ratio.floor + 1 := by
    have : (integer : ℚ) < ratio.floor + 2 := by linarith [value_lt_floor_add_one positive]
    have : integer < ratio.floor + 2 := by exact_mod_cast this
    omega
  have upper : ratio.floor ≤ integer := by
    have : (ratio.floor : ℚ) < integer + 1 := by linarith [floor_le_value positive]
    have : ratio.floor < integer + 1 := by exact_mod_cast this
    omega
  unfold round
  simp only [two_mul_lt_iff positive, lt_two_mul_iff positive]
  set quotient := ratio.floor
  set part : ℚ := ((ratio.numerator % ratio.denominator : Nat) : ℚ) / ratio.denominator
  -- The integer is the quotient or the next one, depending on the half that the rest is in.
  by_cases same : quotient = integer
  · have castSame : (quotient : ℚ) = integer := by exact_mod_cast same
    rw [exact, castSame] at below ties
    split
    · exact same
    · split
      · rename_i greater
        exact absurd greater (by linarith)
      · rename_i notLess notGreater
        rcases ties with even | ⟨_, strict⟩
        · rw [← same] at even
          rw [if_pos even]
          exact same
        · exact absurd strict (by linarith)
  · have next : quotient + 1 = integer := by omega
    have castNext : (quotient : ℚ) = integer - 1 := by
      have : (quotient : ℚ) + 1 = integer := by exact_mod_cast next
      linarith
    rw [exact, castNext] at above ties
    split
    · rename_i less
      exact absurd less (by linarith)
    · split
      · exact next
      · rename_i notLess notGreater
        rcases ties with even | ⟨strict, _⟩
        · rw [if_neg (by omega)]
          exact next
        · exact absurd strict (by linarith)

/-! ## Orders of magnitude -/

private theorem log2_value_bounds {number : Nat} (positive : 0 < number) :
    (2 : ℚ) ^ (number.log2 : Int) ≤ number ∧ (number : ℚ) < 2 ^ ((number.log2 : Int) + 1) := by
  constructor
  · rw [zpow_natCast]
    exact_mod_cast Nat.log2_self_le (by omega)
  · have below : number < 2 ^ (number.log2 + 1) := Nat.lt_log2_self
    have cast : ((number.log2 : Int) + 1) = ((number.log2 + 1 : Nat) : Int) := by push_cast; rfl
    rw [cast, zpow_natCast]
    exact_mod_cast below

/-- A positive fraction lies between its binary order and the next one. -/
theorem binaryOrder_bounds {ratio : Ratio} (numerator : 0 < ratio.numerator)
    (denominator : 0 < ratio.denominator) :
    (2 : ℚ) ^ ratio.binaryOrder ≤ ratio.value ∧
      ratio.value < 2 ^ (ratio.binaryOrder + 1) := by
  obtain ⟨numeratorLower, numeratorUpper⟩ := log2_value_bounds numerator
  obtain ⟨denominatorLower, denominatorUpper⟩ := log2_value_bounds denominator
  have cast : (0 : ℚ) < ratio.denominator := by exact_mod_cast denominator
  set guess : Int := (ratio.numerator.log2 : Int) - ratio.denominator.log2 with guessEq
  -- The guess from the lengths of both numbers is right, or too large by one.
  have upper : ratio.value < 2 ^ (guess + 1) := by
    rw [value, div_lt_iff₀ cast]
    calc
      (ratio.numerator : ℚ) < 2 ^ ((ratio.numerator.log2 : Int) + 1) := numeratorUpper
      _ = 2 ^ (guess + 1) * 2 ^ (ratio.denominator.log2 : Int) := by
        rw [← zpow_add₀ two_ne_zero, guessEq]
        congr 1
        omega
      _ ≤ 2 ^ (guess + 1) * ratio.denominator := by gcongr
  have lower : 2 ^ (guess - 1) ≤ ratio.value := by
    rw [value, le_div_iff₀ cast]
    calc
      (2 : ℚ) ^ (guess - 1) * ratio.denominator ≤
          2 ^ (guess - 1) * 2 ^ ((ratio.denominator.log2 : Int) + 1) := by gcongr
      _ = 2 ^ (ratio.numerator.log2 : Int) := by
        rw [← zpow_add₀ two_ne_zero, guessEq]
        congr 1
        omega
      _ ≤ ratio.numerator := numeratorLower
  have fits : (scaled 1 2 guess).le ratio = true ↔ (2 : ℚ) ^ guess ≤ ratio.value := by
    rw [le_eq_true_iff (scaled_denominator_pos two_pos 1 guess) denominator, scaled_value]
    simp
  unfold binaryOrder
  simp only [← guessEq]
  split
  · rename_i fit
    exact ⟨fits.mp fit, upper⟩
  · rename_i unfit
    refine ⟨lower, ?_⟩
    rw [sub_add_cancel]
    exact lt_of_not_ge fun fit => unfit (fits.mpr fit)

/-- The binary order is the only exponent with these bounds. -/
theorem binaryOrder_eq {ratio : Ratio} {order : Int} (numerator : 0 < ratio.numerator)
    (denominator : 0 < ratio.denominator) (lower : (2 : ℚ) ^ order ≤ ratio.value)
    (upper : ratio.value < 2 ^ (order + 1)) : ratio.binaryOrder = order := by
  obtain ⟨orderLower, orderUpper⟩ := binaryOrder_bounds numerator denominator
  have atMost : ratio.binaryOrder < order + 1 :=
    (zpow_lt_zpow_iff_right₀ one_lt_two).mp (lt_of_le_of_lt orderLower upper)
  have atLeast : order < ratio.binaryOrder + 1 :=
    (zpow_lt_zpow_iff_right₀ one_lt_two).mp (lt_of_le_of_lt lower orderUpper)
  omega

/-- Five digits of the logarithm of two are enough to guess a decimal order, to
within one, from a binary order of moderate size. -/
private theorem ten_zpow_le_two_zpow {binary decimal : Int} (large : -1100 ≤ binary)
    (small : binary ≤ 1100) (guessed : 100000 * (decimal + 1) ≤ binary * 30103) :
    (10 : ℚ) ^ decimal ≤ 2 ^ binary := by
  rcases lt_or_ge decimal 0 with negative | nonnegative
  · -- `2 ^ 93 ≤ 10 ^ 28`, and both exponents are turned round.
    obtain ⟨down, downEq⟩ := Int.eq_ofNat_of_zero_le (show 0 ≤ -decimal by omega)
    have decimalEq : decimal = -(down : Int) := by omega
    rcases le_or_gt 0 binary with positive | below
    · calc
        (10 : ℚ) ^ decimal ≤ 1 := zpow_le_one_of_nonpos₀ (by norm_num) negative.le
        _ ≤ 2 ^ binary := one_le_zpow₀ one_le_two positive
    · obtain ⟨halvings, halvingsEq⟩ := Int.eq_ofNat_of_zero_le (show 0 ≤ -binary by omega)
      have binaryEq : binary = -(halvings : Int) := by omega
      have enough : 28 * halvings ≤ 93 * down := by omega
      have natural : (2 : ℕ) ^ halvings ≤ 10 ^ down := by
        refine le_of_pow_le_pow_left₀ (n := 93) (by norm_num) (by positivity) ?_
        calc
          (2 ^ halvings) ^ 93 = ((2 : ℕ) ^ 93) ^ halvings := by rw [← pow_mul, ← pow_mul, mul_comm]
          _ ≤ (10 ^ 28) ^ halvings := Nat.pow_le_pow_left (by norm_num) _
          _ = 10 ^ (28 * halvings) := by rw [← pow_mul]
          _ ≤ 10 ^ (93 * down) := Nat.pow_le_pow_right (by norm_num) enough
          _ = (10 ^ down) ^ 93 := by rw [← pow_mul, mul_comm]
      rw [decimalEq, binaryEq, zpow_neg, zpow_neg, zpow_natCast, zpow_natCast]
      exact inv_anti₀ (by positivity) (by exact_mod_cast natural)
  · -- `10 ^ 59 ≤ 2 ^ 196`.
    obtain ⟨tens, rfl⟩ := Int.eq_ofNat_of_zero_le nonnegative
    obtain ⟨doublings, rfl⟩ := Int.eq_ofNat_of_zero_le (show 0 ≤ binary by omega)
    have enough : 196 * tens ≤ 59 * doublings := by omega
    have natural : (10 : ℕ) ^ tens ≤ 2 ^ doublings := by
      refine le_of_pow_le_pow_left₀ (n := 59) (by norm_num) (by positivity) ?_
      calc
        (10 ^ tens) ^ 59 = ((10 : ℕ) ^ 59) ^ tens := by rw [← pow_mul, ← pow_mul, mul_comm]
        _ ≤ (2 ^ 196) ^ tens := Nat.pow_le_pow_left (by norm_num) _
        _ = 2 ^ (196 * tens) := by rw [← pow_mul]
        _ ≤ 2 ^ (59 * doublings) := Nat.pow_le_pow_right (by norm_num) enough
        _ = (2 ^ doublings) ^ 59 := by rw [← pow_mul, mul_comm]
    rw [zpow_natCast, zpow_natCast]
    exact_mod_cast natural

/-- The decimal order of a fraction of moderate size is not too large. -/
theorem decimalOrder_le {ratio : Ratio} (numerator : 0 < ratio.numerator)
    (denominator : 0 < ratio.denominator) (large : -1100 ≤ ratio.binaryOrder)
    (small : ratio.binaryOrder ≤ 1100) :
    (10 : ℚ) ^ ratio.decimalOrder ≤ ratio.value := by
  have fits : ∀ order : Int,
      (scaled 1 10 order).le ratio = true ↔ (10 : ℚ) ^ order ≤ ratio.value := by
    intro order
    rw [le_eq_true_iff (scaled_denominator_pos (by norm_num) 1 order) denominator, scaled_value]
    simp
  unfold decimalOrder
  simp only
  split
  · rename_i fit
    exact (fits _).mp fit
  · split
    · rename_i fit
      exact (fits _).mp fit
    · refine le_trans (ten_zpow_le_two_zpow large small ?_) (binaryOrder_bounds numerator denominator).1
      omega

end Ratio

end HelperKit
