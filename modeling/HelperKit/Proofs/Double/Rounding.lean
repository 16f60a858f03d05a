import HelperKit.Proofs.Double.Ratio

/-!
# Rounding to 64 bits

A pair of a significand and an exponent is representable when a number of 64 bits
can hold it.  Around every representable pair lies the interval of the rational
numbers that are nearest to it.  Rounding takes each number of such an interval to
its pair, and its result is always representable.
-/

namespace HelperKit

namespace Double

/-- The pairs that a finite number of 64 bits can hold, each number once. -/
structure Representable (significand : Nat) (exponent : Int) : Prop where
  bounded : significand < 2 ^ 53
  least : -1074 ≤ exponent
  greatest : exponent ≤ 971
  normal : 2 ^ 52 ≤ significand ∨ exponent = -1074

/-- A number in the form that rounding yields. -/
def IsCanonical : Double → Prop
  | .nan => True
  | .infinite _ => True
  | .finite _ significand exponent => Representable significand exponent

/-- How far the interval of a number reaches down, in units of its last place.  The
lower neighbour of a power of two is nearer than the upper one. -/
def reachDown (significand : Nat) (exponent : Int) : ℚ :=
  if significand = 2 ^ 52 ∧ -1074 < exponent then 1 / 4 else 1 / 2

/-- The rational numbers that are nearest to a number.  A point half way between two
numbers belongs to the even one. -/
def Covers (significand : Nat) (exponent : Int) (value : ℚ) : Prop :=
  let units := value / 2 ^ exponent
  if significand % 2 = 0 then
    significand - reachDown significand exponent ≤ units ∧ units ≤ significand + 1 / 2
  else significand - reachDown significand exponent < units ∧ units < significand + 1 / 2

theorem reachDown_pos (significand : Nat) (exponent : Int) :
    0 < reachDown significand exponent := by
  unfold reachDown
  split <;> norm_num

theorem reachDown_le_half (significand : Nat) (exponent : Int) :
    reachDown significand exponent ≤ 1 / 2 := by
  unfold reachDown
  split <;> norm_num

theorem Covers.lower {significand : Nat} {exponent : Int} {value : ℚ}
    (covers : Covers significand exponent value) :
    significand - reachDown significand exponent ≤ value / 2 ^ exponent := by
  unfold Covers at covers
  split at covers
  · exact covers.1
  · exact covers.1.le

theorem Covers.upper {significand : Nat} {exponent : Int} {value : ℚ}
    (covers : Covers significand exponent value) :
    value / 2 ^ exponent ≤ significand + 1 / 2 := by
  unfold Covers at covers
  split at covers
  · exact covers.2
  · exact covers.2.le

/-- A point strictly inside the interval belongs to it, whatever the parity. -/
theorem covers_of_lt {significand : Nat} {exponent : Int} {value : ℚ}
    (lower : significand - reachDown significand exponent < value / 2 ^ exponent)
    (upper : value / 2 ^ exponent < significand + 1 / 2) :
    Covers significand exponent value := by
  unfold Covers
  simp only
  split
  · exact ⟨lower.le, upper.le⟩
  · exact ⟨lower, upper⟩

theorem Covers.value_pos {significand : Nat} {exponent : Int} {value : ℚ}
    (covers : Covers significand exponent value) (positive : 0 < significand) : 0 < value := by
  have lower := covers.lower
  have half := reachDown_le_half significand exponent
  have one : (1 : ℚ) ≤ significand := by exact_mod_cast positive
  have unitPositive : (0 : ℚ) < 2 ^ exponent := zpow_pos two_pos exponent
  have scaled : 0 < value / 2 ^ exponent := by linarith
  exact (div_pos_iff_of_pos_right unitPositive).mp scaled

private theorem quarter_units (count : Nat) (exponent : Int) :
    (Ratio.scaled count 2 (exponent - 2)).value = count / 4 * 2 ^ exponent := by
  rw [Ratio.scaled_value, Nat.cast_ofNat, zpow_sub₀ two_ne_zero]
  norm_num
  ring

private theorem lowerQuarters_eq {significand : Nat} (positive : 0 < significand)
    (exponent : Int) :
    ((if significand = Nat.pow 2 (significandBits - 1) ∧ leastExponent < exponent then
      4 * significand - 1 else 4 * significand - 2 : Nat) : ℚ) / 4 =
        significand - reachDown significand exponent := by
  by_cases boundary : significand = Nat.pow 2 (significandBits - 1) ∧ leastExponent < exponent
  · have reached : reachDown significand exponent = 1 / 4 := if_pos boundary
    rw [if_pos boundary, reached, Nat.cast_sub (by omega)]
    push_cast
    ring
  · have reached : reachDown significand exponent = 1 / 2 := if_neg boundary
    rw [if_neg boundary, reached, Nat.cast_sub (by omega)]
    push_cast
    ring

/-- The test for the interval, read as a statement about values. -/
theorem roundsTo_iff {significand : Nat} {exponent : Int} {ratio : Ratio}
    (positive : 0 < significand) (denominator : 0 < ratio.denominator) :
    roundsTo significand exponent ratio = true ↔ Covers significand exponent ratio.value := by
  have unitPositive : (0 : ℚ) < 2 ^ exponent := zpow_pos two_pos exponent
  have lowerEq := lowerQuarters_eq positive exponent
  unfold roundsTo Covers
  simp only
  split
  · rw [Bool.and_eq_true, Ratio.le_eq_true_iff (Ratio.scaled_denominator_pos two_pos _ _) denominator,
      Ratio.le_eq_true_iff denominator (Ratio.scaled_denominator_pos two_pos _ _), quarter_units,
      quarter_units, lowerEq, ← le_div_iff₀ unitPositive, ← div_le_iff₀ unitPositive]
    push_cast
    ring_nf
  · rw [Bool.and_eq_true, Ratio.lt_eq_true_iff (Ratio.scaled_denominator_pos two_pos _ _) denominator,
      Ratio.lt_eq_true_iff denominator (Ratio.scaled_denominator_pos two_pos _ _), quarter_units,
      quarter_units, lowerEq, ← lt_div_iff₀ unitPositive, ← div_lt_iff₀ unitPositive]
    push_cast
    ring_nf

/-! ## Rounding fractions -/

/-- The exponent that a fraction is rounded with. -/
def workingExponent (ratio : Ratio) : Int :=
  max (ratio.binaryOrder - 52) (-1074)

/-- A fraction in units of the last place of its working exponent. -/
def workingUnits (ratio : Ratio) : Ratio :=
  ratio.quotient (.scaled 1 2 (workingExponent ratio))

theorem ofRatio_eq (negative : Bool) (ratio : Ratio) :
    ofRatio negative ratio =
      if (workingUnits ratio).round = 2 ^ 53 then
        if workingExponent ratio + 1 > 971 then .infinite negative
        else .finite negative (2 ^ 52) (workingExponent ratio + 1)
      else if workingExponent ratio > 971 then .infinite negative
      else .finite negative (workingUnits ratio).round (workingExponent ratio) := by
  have working : max (ratio.binaryOrder - ((significandBits : Int) - 1)) leastExponent =
      workingExponent ratio := by
    simp [workingExponent, significandBits, leastExponent]
  unfold ofRatio
  simp only [working]
  by_cases carried : (workingUnits ratio).round = 2 ^ 53
  · have carriedPow : (ratio.quotient (.scaled 1 2 (workingExponent ratio))).round =
        Nat.pow 2 significandBits := carried
    rw [if_pos carriedPow, if_pos carried]
    by_cases great : workingExponent ratio + 1 > 971
    · rw [if_pos great, if_pos]
      change workingExponent ratio + 1 + 53 > 1024
      omega
    · rw [if_neg great, if_neg]
      · rfl
      · change ¬ workingExponent ratio + 1 + 53 > 1024
        omega
  · have carriedPow : ¬ (ratio.quotient (.scaled 1 2 (workingExponent ratio))).round =
        Nat.pow 2 significandBits := carried
    rw [if_neg carriedPow, if_neg carried]
    by_cases great : workingExponent ratio > 971
    · rw [if_pos great, if_pos]
      change workingExponent ratio + 53 > 1024
      omega
    · rw [if_neg great, if_neg]
      · rfl
      · change ¬ workingExponent ratio + 53 > 1024
        omega

theorem workingUnits_value (ratio : Ratio) :
    (workingUnits ratio).value = ratio.value / 2 ^ workingExponent ratio := by
  rw [workingUnits, Ratio.quotient_value, Ratio.scaled_value]
  simp

theorem workingUnits_denominator_pos {ratio : Ratio} (denominator : 0 < ratio.denominator) :
    0 < (workingUnits ratio).denominator :=
  Ratio.quotient_denominator_pos denominator (Ratio.scaled_numerator_pos one_pos two_pos _)

theorem working_bounds {ratio : Ratio} (numerator : 0 < ratio.numerator)
    (denominator : 0 < ratio.denominator) :
    (workingUnits ratio).value < 2 ^ 53 ∧
      (-1074 < workingExponent ratio → 2 ^ 52 ≤ (workingUnits ratio).value) := by
  obtain ⟨lower, upper⟩ := Ratio.binaryOrder_bounds numerator denominator
  have unitPositive : (0 : ℚ) < 2 ^ workingExponent ratio := zpow_pos two_pos _
  rw [workingUnits_value]
  constructor
  · rw [div_lt_iff₀ unitPositive, ← zpow_natCast, ← zpow_add₀ two_ne_zero]
    refine lt_of_lt_of_le upper (zpow_le_zpow_right₀ one_le_two ?_)
    unfold workingExponent
    push_cast
    omega
  · intro normal
    rw [le_div_iff₀ unitPositive, ← zpow_natCast, ← zpow_add₀ two_ne_zero]
    refine le_trans (zpow_le_zpow_right₀ one_le_two ?_) lower
    unfold workingExponent at normal ⊢
    push_cast
    omega

/-- Rounding yields numbers that can be held. -/
theorem ofRatio_isCanonical (negative : Bool) {ratio : Ratio} (numerator : 0 < ratio.numerator)
    (denominator : 0 < ratio.denominator) : (ofRatio negative ratio).IsCanonical := by
  obtain ⟨upper, lower⟩ := working_bounds numerator denominator
  have unitsPositive := workingUnits_denominator_pos denominator
  have floorLower := Ratio.floor_le_value unitsPositive
  have floorUpper := Ratio.value_lt_floor_add_one unitsPositive
  have rounded := Ratio.floor_le_round (workingUnits ratio)
  have least : -1074 ≤ workingExponent ratio := le_max_right _ _
  have bounded : (workingUnits ratio).round ≤ 2 ^ 53 := by
    have below : ((workingUnits ratio).floor : ℚ) < 2 ^ 53 := lt_of_le_of_lt floorLower upper
    have : (workingUnits ratio).floor < 2 ^ 53 := by exact_mod_cast below
    omega
  have normal : -1074 < workingExponent ratio → 2 ^ 52 ≤ (workingUnits ratio).round := by
    intro above
    have reached : (2 : ℚ) ^ 52 < (workingUnits ratio).floor + 1 :=
      lt_of_le_of_lt (lower above) floorUpper
    have : 2 ^ 52 < (workingUnits ratio).floor + 1 := by exact_mod_cast reached
    omega
  rw [ofRatio_eq]
  split
  · split
    · trivial
    · exact ⟨by norm_num, by omega, by omega, .inl le_rfl⟩
  · split
    · trivial
    · refine ⟨by omega, least, by omega, ?_⟩
      by_cases above : -1074 < workingExponent ratio
      · exact .inl (normal above)
      · exact .inr (by omega)

/-- A fraction below a power of two that covers it is rounded in smaller units, and
the carry leads back. -/
private theorem ofRatio_of_carry (negative : Bool) {ratio : Ratio} {exponent : Int}
    (numerator : 0 < ratio.numerator) (denominator : 0 < ratio.denominator)
    (least : -1074 < exponent) (greatest : exponent ≤ 971)
    (lower : (2 : ℚ) ^ 52 - 1 / 4 ≤ ratio.value / 2 ^ exponent)
    (upper : ratio.value / 2 ^ exponent < 2 ^ 52) :
    ofRatio negative ratio = .finite negative (2 ^ 52) exponent := by
  have unitPositive : (0 : ℚ) < 2 ^ exponent := zpow_pos two_pos exponent
  have half : (2 : ℚ) ^ (exponent - 1) = 2 ^ exponent / 2 := by
    rw [zpow_sub₀ two_ne_zero, zpow_one]
  have order : ratio.binaryOrder = exponent + 51 := by
    apply Ratio.binaryOrder_eq numerator denominator
    · rw [le_div_iff₀ unitPositive] at lower
      rw [zpow_add₀ two_ne_zero]
      refine le_trans ?_ lower
      rw [mul_comm]
      gcongr
      norm_num
    · rw [div_lt_iff₀ unitPositive] at upper
      rw [add_assoc, zpow_add₀ two_ne_zero, mul_comm]
      exact_mod_cast upper
  have working : workingExponent ratio = exponent - 1 := by
    unfold workingExponent
    omega
  -- Below the power of two the units are half as large, and rounding carries to that power.
  have units : (workingUnits ratio).value = 2 * (ratio.value / 2 ^ exponent) := by
    rw [workingUnits_value, working, half]
    field_simp
  have rounded : (workingUnits ratio).round = 2 ^ 53 := by
    apply Ratio.round_eq (workingUnits_denominator_pos denominator)
    · rw [units]
      push_cast
      linarith
    · rw [units]
      push_cast
      linarith
    · left
      norm_num
  rw [ofRatio_eq, if_pos rounded, if_neg (by omega), working, sub_add_cancel]

/-- A fraction that is covered in its own units is rounded to the number there. -/
private theorem ofRatio_of_units (negative : Bool) {ratio : Ratio} {significand : Nat}
    {exponent : Int} (numerator : 0 < ratio.numerator) (denominator : 0 < ratio.denominator)
    (representable : Representable significand exponent)
    (covers : Covers significand exponent ratio.value)
    (normal : exponent = -1074 ∨ (2 : ℚ) ^ 52 ≤ ratio.value / 2 ^ exponent) :
    ofRatio negative ratio = .finite negative significand exponent := by
  have unitPositive : (0 : ℚ) < 2 ^ exponent := zpow_pos two_pos exponent
  have bounded := representable.bounded
  have least := representable.least
  have greatest := representable.greatest
  have boundedCast : (significand : ℚ) ≤ 2 ^ 53 - 1 := by
    have : (significand : ℚ) + 1 ≤ 2 ^ 53 := by exact_mod_cast bounded
    linarith
  have orderUpper : ratio.binaryOrder < exponent + 53 := by
    have below : ratio.value < 2 ^ (exponent + 53) := by
      have upper := covers.upper
      rw [div_le_iff₀ unitPositive] at upper
      refine lt_of_le_of_lt upper ?_
      rw [zpow_add₀ two_ne_zero, mul_comm]
      gcongr
      norm_cast
      push_cast
      linarith
    have lower := (Ratio.binaryOrder_bounds numerator denominator).1
    exact (zpow_lt_zpow_iff_right₀ one_lt_two).mp (lt_of_le_of_lt lower below)
  -- The fraction is worked on in its own units, since its order is theirs or the least one counts.
  have working : workingExponent ratio = exponent := by
    rcases normal with smallest | large
    · unfold workingExponent
      omega
    · have above : (2 : ℚ) ^ (exponent + 52) ≤ ratio.value := by
        rw [le_div_iff₀ unitPositive] at large
        rw [zpow_add₀ two_ne_zero, mul_comm]
        exact_mod_cast large
      have upper := (Ratio.binaryOrder_bounds numerator denominator).2
      have orderLower : exponent + 52 < ratio.binaryOrder + 1 :=
        (zpow_lt_zpow_iff_right₀ one_lt_two).mp (lt_of_le_of_lt above upper)
      unfold workingExponent
      omega
  have rounded : (workingUnits ratio).round = significand := by
    have reach := reachDown_le_half significand exponent
    have lower := covers.lower
    apply Ratio.round_eq (workingUnits_denominator_pos denominator)
    · rw [workingUnits_value, working]
      linarith
    · rw [workingUnits_value, working]
      exact covers.upper
    · rw [workingUnits_value, working]
      unfold Covers at covers
      split at covers
      · left
        assumption
      · right
        exact ⟨by linarith [covers.1], covers.2⟩
  rw [ofRatio_eq, working, rounded, if_neg (by omega), if_neg (by omega)]

/-- Every fraction that a number covers is rounded to it. -/
theorem ofRatio_of_covers (negative : Bool) {ratio : Ratio} {significand : Nat} {exponent : Int}
    (numerator : 0 < ratio.numerator) (denominator : 0 < ratio.denominator)
    (representable : Representable significand exponent)
    (covers : Covers significand exponent ratio.value) :
    ofRatio negative ratio = .finite negative significand exponent := by
  rcases eq_or_ne exponent (-1074) with smallest | larger
  · exact ofRatio_of_units negative numerator denominator representable covers (.inl smallest)
  have least : -1074 < exponent := lt_of_le_of_ne representable.least (Ne.symm larger)
  have normal : 2 ^ 52 ≤ significand := representable.normal.resolve_right larger
  rcases le_or_gt ((2 : ℚ) ^ 52) (ratio.value / 2 ^ exponent) with large | small
  · exact ofRatio_of_units negative numerator denominator representable covers (.inr large)
  · -- Only a power of two covers fractions of a smaller order.
    have lower := covers.lower
    have half := reachDown_le_half significand exponent
    have significandEq : significand = 2 ^ 52 := by
      have below : (significand : ℚ) < 2 ^ 52 + 1 := by linarith
      have : significand < 2 ^ 52 + 1 := by exact_mod_cast below
      omega
    subst significandEq
    have reached : reachDown (2 ^ 52) exponent = 1 / 4 := if_pos ⟨rfl, least⟩
    rw [reached] at lower
    push_cast at lower
    exact ofRatio_of_carry negative numerator denominator least representable.greatest lower small

end Double

end HelperKit
