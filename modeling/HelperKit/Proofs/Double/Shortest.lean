import HelperKit.Proofs.Double.Rounding

/-!
# The shortest decimal

Seventeen digits are enough to tell every number of 64 bits from its neighbours:
the points of the decimal grid are then closer together than the interval of the
number is wide.  The search for the shortest decimal therefore always ends inside
the interval, and what it finds is rounded back to the number.
-/

namespace HelperKit

namespace Decimal

/-- The rational number that a decimal stands for. -/
def value (decimal : Decimal) : ℚ :=
  decimal.digits * 10 ^ decimal.exponent

theorem ratio_value (decimal : Decimal) : decimal.ratio.value = decimal.value := by
  rw [ratio, Ratio.scaled_value, value]
  norm_num

theorem ratio_denominator_pos (decimal : Decimal) : 0 < decimal.ratio.denominator :=
  Ratio.scaled_denominator_pos (by norm_num) _ _

theorem ratio_numerator_pos {decimal : Decimal} (positive : 0 < decimal.digits) :
    0 < decimal.ratio.numerator :=
  Ratio.scaled_numerator_pos positive (by norm_num) _

theorem digits_pos_of_value_pos {decimal : Decimal} (positive : 0 < decimal.value) :
    0 < decimal.digits := by
  rcases Nat.eq_zero_or_pos decimal.digits with zero | digits
  · simp [value, zero] at positive
  · exact digits

theorem dropZeros_value (decimal : Decimal) (limit : Nat) :
    (decimal.dropZeros limit).value = decimal.value := by
  induction limit generalizing decimal with
  | zero => rfl
  | succ limit induction =>
      rw [dropZeros]
      split
      · rename_i zero
        have digits : 10 * (decimal.digits / 10) = decimal.digits := by omega
        have cast : (10 : ℚ) * (decimal.digits / 10 : Nat) = decimal.digits := by
          exact_mod_cast digits
        rw [induction, value, value, ← cast, zpow_add_one₀ (by norm_num)]
        ring
      · rfl

end Decimal

namespace Double

/-- A decimal that is found at a place is covered by the number. -/
theorem decimalAt?_covers {significand : Nat} {exponent place : Int} {found : Decimal}
    (positive : 0 < significand) (success : decimalAt? significand exponent place = some found) :
    Covers significand exponent found.value := by
  have covered : ∀ decimal : Decimal, roundsTo significand exponent decimal.ratio = true →
      Covers significand exponent decimal.value := by
    intro decimal rounds
    rw [← decimal.ratio_value]
    exact (roundsTo_iff positive decimal.ratio_denominator_pos).mp rounds
  unfold decimalAt? at success
  simp only at success
  split at success
  · cases success
  · rename_i rounds _
    cases success
    exact covered _ rounds
  · rename_i _ rounds
    cases success
    exact covered _ rounds
  · rename_i below above
    split at success
    · cases success
      exact covered _ below
    · split at success
      · cases success
        exact covered _ above
      · split at success
        · cases success
          exact covered _ below
        · cases success
          exact covered _ above

theorem decimalAt?_eq_none {significand : Nat} {exponent place : Int} (positive : 0 < significand)
    (failure : decimalAt? significand exponent place = none) :
    ∃ digits : Nat, (digits : ℚ) ≤ significand * 2 ^ exponent / 10 ^ place ∧
      significand * 2 ^ exponent / 10 ^ place < (digits : ℚ) + 1 ∧
      ¬ Covers significand exponent (digits * 10 ^ place) ∧
      ¬ Covers significand exponent ((digits + 1) * 10 ^ place) := by
  set units := (Ratio.scaled significand 2 exponent).quotient (.scaled 1 10 place) with unitsEq
  have unitsPositive : 0 < units.denominator :=
    Ratio.quotient_denominator_pos (Ratio.scaled_denominator_pos two_pos _ _)
      (Ratio.scaled_numerator_pos one_pos (by norm_num) _)
  have unitsValue : units.value = significand * 2 ^ exponent / 10 ^ place := by
    rw [unitsEq, Ratio.quotient_value, Ratio.scaled_value, Ratio.scaled_value]
    norm_num
  have uncovered : ∀ decimal : Decimal, roundsTo significand exponent decimal.ratio = false →
      ¬ Covers significand exponent decimal.value := by
    intro decimal rounds covers
    rw [← decimal.ratio_value] at covers
    rw [(roundsTo_iff positive decimal.ratio_denominator_pos).mpr covers] at rounds
    cases rounds
  refine ⟨units.floor, ?_, ?_, ?_⟩
  · rw [← unitsValue]
    exact Ratio.floor_le_value unitsPositive
  · rw [← unitsValue]
    exact Ratio.value_lt_floor_add_one unitsPositive
  · unfold decimalAt? at failure
    simp only [← unitsEq] at failure
    split at failure
    · rename_i below above
      have belowFree := uncovered _ below
      have aboveFree := uncovered _ above
      simp only [Decimal.value] at belowFree aboveFree
      push_cast at aboveFree
      exact ⟨belowFree, aboveFree⟩
    · cases failure
    · cases failure
    · split at failure
      · cases failure
      · split at failure
        · cases failure
        · split at failure <;> cases failure

/-- On a grid of sixteen places below the leading one, a decimal is always found. -/
theorem decimalAt?_ne_none {significand : Nat} {exponent place : Int}
    (representable : Representable significand exponent) (positive : 0 < significand)
    (fine : (10 : ℚ) ^ (place + 16) ≤ significand * 2 ^ exponent) :
    decimalAt? significand exponent place ≠ none := by
  intro failure
  obtain ⟨digits, below, above, belowFree, aboveFree⟩ := decimalAt?_eq_none positive failure
  have unitPositive : (0 : ℚ) < 2 ^ exponent := zpow_pos two_pos exponent
  have gridPositive : (0 : ℚ) < 10 ^ place := zpow_pos (by norm_num) place
  set spacing : ℚ := 10 ^ place / 2 ^ exponent with spacingEq
  have belowUnits : (digits : ℚ) * 10 ^ place / 2 ^ exponent = digits * spacing := by
    rw [spacingEq, mul_div_assoc]
  have aboveUnits : ((digits : ℚ) + 1) * 10 ^ place / 2 ^ exponent = digits * spacing + spacing := by
    rw [spacingEq, mul_div_assoc]
    ring
  have lower : digits * spacing ≤ significand := by
    rw [le_div_iff₀ gridPositive] at below
    rw [← belowUnits, div_le_iff₀ unitPositive]
    exact below
  have upper : significand < digits * spacing + spacing := by
    rw [div_lt_iff₀ gridPositive] at above
    rw [← aboveUnits, lt_div_iff₀ unitPositive]
    exact above
  have narrow : spacing * 10 ^ 16 ≤ significand := by
    rw [zpow_add₀ (by norm_num)] at fine
    rw [spacingEq, div_mul_eq_mul_div, div_le_iff₀ unitPositive]
    exact_mod_cast fine
  have reach := reachDown_pos significand exponent
  have belowFar : digits * spacing ≤ significand - reachDown significand exponent := by
    by_contra near
    refine belowFree (covers_of_lt ?_ ?_)
    · rw [belowUnits]
      exact lt_of_not_ge near
    · rw [belowUnits]
      linarith
  have aboveFar : significand + 1 / 2 ≤ digits * spacing + spacing := by
    by_contra near
    refine aboveFree (covers_of_lt ?_ ?_)
    · rw [aboveUnits]
      linarith
    · rw [aboveUnits]
      exact lt_of_not_ge near
  -- Between two neighbours that are both free the interval fits, which the grid is too fine for.
  have wide : reachDown significand exponent + 1 / 2 ≤ spacing := by linarith
  unfold reachDown at wide
  split at wide
  · rename_i boundary
    have cast : (significand : ℚ) = 2 ^ 52 := by exact_mod_cast boundary.1
    rw [cast] at narrow
    norm_num at narrow wide
    linarith
  · have cast : (significand : ℚ) < 2 ^ 53 := by exact_mod_cast representable.bounded
    have enough : (2 : ℚ) ^ 53 < 10 ^ 16 := by norm_num
    have wideEnough : (10 : ℚ) ^ 16 ≤ spacing * 10 ^ 16 := le_mul_of_one_le_left (by norm_num)
      (by linarith)
    linarith

theorem binaryOrder_scaled {significand : Nat} {exponent : Int}
    (representable : Representable significand exponent) (positive : 0 < significand) :
    -1074 ≤ (Ratio.scaled significand 2 exponent).binaryOrder ∧
      (Ratio.scaled significand 2 exponent).binaryOrder < 1024 := by
  have numerator := Ratio.scaled_numerator_pos positive two_pos exponent
  have denominator := Ratio.scaled_denominator_pos two_pos significand exponent
  obtain ⟨lower, upper⟩ := Ratio.binaryOrder_bounds numerator denominator
  rw [Ratio.scaled_value] at lower upper
  have unitPositive : (0 : ℚ) < 2 ^ exponent := zpow_pos two_pos exponent
  have one : (1 : ℚ) ≤ significand := by exact_mod_cast positive
  have bounded : (significand : ℚ) < 2 ^ 53 := by exact_mod_cast representable.bounded
  have least := representable.least
  have greatest := representable.greatest
  push_cast at lower upper
  have atLeast : exponent < (Ratio.scaled significand 2 exponent).binaryOrder + 1 := by
    refine (zpow_lt_zpow_iff_right₀ (one_lt_two (α := ℚ))).mp (lt_of_le_of_lt ?_ upper)
    exact le_mul_of_one_le_left unitPositive.le one
  have atMost : (Ratio.scaled significand 2 exponent).binaryOrder < exponent + 53 := by
    refine (zpow_lt_zpow_iff_right₀ (one_lt_two (α := ℚ))).mp (lt_of_le_of_lt lower ?_)
    rw [zpow_add₀ two_ne_zero, mul_comm]
    gcongr
    exact_mod_cast bounded
  omega

/-- The shortest decimal is covered by its number. -/
theorem shortest_covers {significand : Nat} {exponent : Int}
    (representable : Representable significand exponent) (positive : 0 < significand) :
    Covers significand exponent (shortest significand exponent).value := by
  obtain ⟨large, small⟩ := binaryOrder_scaled representable positive
  have order : (10 : ℚ) ^ (Ratio.scaled significand 2 exponent).decimalOrder ≤
      significand * 2 ^ exponent := by
    have below := Ratio.decimalOrder_le (Ratio.scaled_numerator_pos positive two_pos exponent)
      (Ratio.scaled_denominator_pos two_pos significand exponent) (by omega) (by omega)
    rw [Ratio.scaled_value] at below
    exact_mod_cast below
  have last : decimalAt? significand exponent
      ((Ratio.scaled significand 2 exponent).decimalOrder - ((16 : Nat) : Int)) ≠ none := by
    apply decimalAt?_ne_none representable positive
    rw [Nat.cast_ofNat, sub_add_cancel]
    exact order
  unfold shortest
  simp only
  rw [Decimal.dropZeros_value]
  cases search : (List.range 17).findSome? fun further : Nat =>
      decimalAt? significand exponent
        ((Ratio.scaled significand 2 exponent).decimalOrder - (further : Int)) with
  | none =>
      rw [List.findSome?_eq_none_iff] at search
      exact absurd (search 16 (by simp)) last
  | some found =>
      obtain ⟨further, _, success⟩ := List.exists_of_findSome?_eq_some search
      exact decimalAt?_covers positive success

end Double

end HelperKit
