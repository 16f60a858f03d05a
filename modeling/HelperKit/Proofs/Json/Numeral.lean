import HelperKit.Json.Printer
import HelperKit.Json.Reader
import HelperKit.Proofs.Double.Shortest

/-!
# Numbers in documents

A number that was printed is read back.  Whole numbers come back digit by digit.
The text of a finite number of 64 bits spells its shortest decimal, in one of four
layouts, and rounding takes that decimal to the number again.
-/

namespace HelperKit

namespace Json

/-! ## Digits -/

/-- The characters after a number do not carry it on. -/
def EndsNumber (rest : List Char) : Prop :=
  ∀ character ∈ rest.head?,
    isDigit character = false ∧ character ≠ '.' ∧ character ≠ 'e' ∧ character ≠ 'E'

/-- The characters do not begin with a digit. -/
def EndsDigits (rest : List Char) : Prop :=
  ∀ character ∈ rest.head?, isDigit character = false

theorem EndsNumber.endsDigits {rest : List Char} (ends : EndsNumber rest) : EndsDigits rest :=
  fun character head => (ends character head).1

/-- All characters are decimal digits. -/
def AreDigits (digits : List Char) : Prop :=
  ∀ digit ∈ digits, isDigit digit = true

theorem AreDigits.append {first second : List Char} (firstDigits : AreDigits first)
    (secondDigits : AreDigits second) : AreDigits (first ++ second) := by
  intro digit member
  rcases List.mem_append.mp member with left | right
  · exact firstDigits digit left
  · exact secondDigits digit right

theorem AreDigits.of_sublist {part digits : List Char} (areDigits : AreDigits digits)
    (sublist : part.Sublist digits) : AreDigits part :=
  fun digit member => areDigits digit (sublist.subset member)

theorem areDigits_toDigits (number : Nat) : AreDigits (Nat.toDigits 10 number) := by
  intro digit member
  have decimal := Nat.isDigit_of_mem_toDigits (by decide) (by decide) member
  simpa [isDigit, Char.isDigit, Char.le_def] using decimal

theorem areDigits_zeros (count : Nat) : AreDigits (List.replicate count '0') := by
  intro digit member
  rw [List.eq_of_mem_replicate member]
  rfl

theorem takeWhile_digits {digits rest : List Char} (areDigits : AreDigits digits)
    (ends : EndsDigits rest) : (digits ++ rest).takeWhile isDigit = digits := by
  rw [List.takeWhile_append_of_pos areDigits]
  cases rest with
  | nil => simp
  | cons character rest => simp [ends character rfl]

theorem dropWhile_digits {digits rest : List Char} (areDigits : AreDigits digits)
    (ends : EndsDigits rest) : (digits ++ rest).dropWhile isDigit = rest := by
  rw [List.dropWhile_append_of_pos areDigits]
  cases rest with
  | nil => simp
  | cons character rest => simp [ends character rfl]

theorem numberOf_eq (digits : List Char) : numberOf digits = Nat.ofDigitChars 10 digits 0 := by
  unfold numberOf Nat.ofDigitChars
  congr 1
  funext total digit
  rw [Nat.mul_comm]

theorem numberOf_append (first second : List Char) :
    numberOf (first ++ second) = numberOf first * 10 ^ second.length + numberOf second := by
  rw [numberOf_eq, numberOf_eq, numberOf_eq, Nat.ofDigitChars_append,
    Nat.ofDigitChars_eq_ofDigitChars_zero, Nat.mul_comm]

theorem numberOf_toDigits (number : Nat) : numberOf (Nat.toDigits 10 number) = number := by
  rw [numberOf_eq]
  exact Nat.ofDigitChars_ten_toDigits

theorem numberOf_zeros (count : Nat) : numberOf (List.replicate count '0') = 0 := by
  rw [numberOf_eq, Nat.ofDigitChars_replicate_zero, Nat.mul_zero]

theorem toDigits_head_ne_zero {number : Nat} (positive : 0 < number) :
    ∀ digit ∈ (Nat.toDigits 10 number).head?, digit ≠ '0' := by
  induction number using Nat.strongRecOn with
  | ind number induction =>
      intro digit head zero
      by_cases small : number < 10
      · rw [Nat.toDigits_of_lt_base small] at head
        simp only [List.head?_cons, Option.mem_def, Option.some.injEq] at head
        rw [← head, Nat.digitChar_eq_zero] at zero
        omega
      · rw [Nat.toDigits_of_base_le (by decide) (by omega),
          List.head?_append_of_ne_nil _ Nat.toDigits_ne_nil] at head
        exact induction (number / 10) (by omega) (by omega) digit head zero

/-! ## Fractions and exponents -/

theorem fraction_of_endsNumber {rest : List Char} (ends : EndsNumber rest) :
    fraction rest = ([], rest) := by
  cases rest with
  | nil => rfl
  | cons character rest =>
      have other : character ≠ '.' := (ends character rfl).2.1
      unfold fraction
      split
      · rename_i same
        exact absurd (List.cons.inj same).1 other
      · rfl

theorem fraction_digits {digits rest : List Char} (areDigits : AreDigits digits)
    (nonempty : digits ≠ []) (ends : EndsDigits rest) :
    fraction ('.' :: (digits ++ rest)) = (digits, rest) := by
  rw [fraction, takeWhile_digits areDigits ends, dropWhile_digits areDigits ends, if_neg]
  simpa using nonempty

theorem exponent_of_endsNumber {rest : List Char} (ends : EndsNumber rest) :
    exponent rest = (none, rest) := by
  cases rest with
  | nil => rfl
  | cons character rest =>
      obtain ⟨_, _, lower, upper⟩ := ends character rfl
      simp only [exponent, lower, upper, or_self, if_false]

/-- The power after the letter of an exponent, with its sign and its padding. -/
theorem exponent_digits (power : Int) (padding : Nat) {rest : List Char}
    (ends : EndsDigits rest) :
    exponent ('e' :: (if power < 0 then '-' else '+') ::
      (List.replicate padding '0' ++ Nat.toDigits 10 power.natAbs ++ rest)) =
        (some power, rest) := by
  have areDigits := (areDigits_zeros padding).append (areDigits_toDigits power.natAbs)
  have nonempty : (List.replicate padding '0' ++ Nat.toDigits 10 power.natAbs).isEmpty = false := by
    simp [Nat.toDigits_ne_nil]
  have spelled : numberOf (List.replicate padding '0' ++ Nat.toDigits 10 power.natAbs) =
      power.natAbs := by
    rw [numberOf_append, numberOf_zeros, numberOf_toDigits, Nat.zero_mul, Nat.zero_add]
  by_cases negative : power < 0
  · simp only [exponent, negative, if_true, true_or, exponentSign, takeWhile_digits areDigits ends,
      dropWhile_digits areDigits ends, nonempty, spelled, Bool.false_eq_true, if_false]
    congr 2
    omega
  · simp only [exponent, negative, true_or, if_true, exponentSign, takeWhile_digits areDigits ends,
      dropWhile_digits areDigits ends, nonempty, spelled, Bool.false_eq_true, if_false]
    congr 2
    omega

/-! ## Whole numbers and decimals -/

/-- The sign that is printed before a number. -/
def signOf (negative : Bool) : List Char :=
  if negative then ['-'] else []

/-- The whole digits of a number are zero alone, or they do not begin with a zero. -/
theorem readNumber_eq (negative : Bool) {whole rest : List Char} (areDigits : AreDigits whole)
    (nonempty : whole ≠ []) (leading : whole = ['0'] ∨ ∀ digit ∈ whole.head?, digit ≠ '0')
    (ends : EndsDigits rest) :
    readNumber (signOf negative ++ (whole ++ rest)) = numberAfter negative whole rest := by
  obtain ⟨digit, others, rfl⟩ := List.exists_cons_of_ne_nil nonempty
  have decimal : isDigit digit = true := areDigits digit (by simp)
  have unsigned : digit ≠ '-' := by
    rintro rfl
    exact absurd decimal (by decide)
  by_cases zero : digit = '0'
  · subst zero
    have alone : others = [] := by
      rcases leading with same | other
      · exact (List.cons.inj same).2
      · exact absurd rfl (other '0' rfl)
    subst alone
    cases negative <;> rfl
  · have taken := takeWhile_digits areDigits ends
    have dropped := dropWhile_digits areDigits ends
    rw [List.cons_append] at taken dropped
    cases negative with
    | true =>
        change readNumber ('-' :: digit :: (others ++ rest)) = _
        simp only [readNumber, decimal, taken, dropped, if_true]
    | false =>
        change readNumber (digit :: (others ++ rest)) = _
        unfold readNumber
        split
        rename_i sign text signed
        split at signed
        · rename_i same
          exact absurd (List.cons.inj same).1 unsigned
        · cases signed
          simp only [decimal, taken, dropped, if_true]

theorem numberAfter_integer (negative : Bool) {whole rest : List Char}
    (short : whole.length ≤ maximumDigits) (ends : EndsNumber rest) :
    numberAfter negative whole rest =
      .ok (.integer (if negative then -(numberOf whole : Int) else numberOf whole), rest) := by
  simp [numberAfter, fraction_of_endsNumber ends, exponent_of_endsNumber ends, short]

theorem numberAfter_fraction (negative : Bool) (whole : List Char) {digits rest : List Char}
    (areDigits : AreDigits digits) (nonempty : digits ≠ []) (ends : EndsNumber rest) :
    numberAfter negative whole ('.' :: (digits ++ rest)) =
      .ok (.double (.ofDecimal negative ⟨numberOf (whole ++ digits), -digits.length⟩), rest) := by
  simp [numberAfter, fraction_digits areDigits nonempty ends.endsDigits,
    exponent_of_endsNumber ends, nonempty]

/-- The letter of an exponent and the power after it. -/
def powerText (power : Int) (padding : Nat) : List Char :=
  'e' :: (if power < 0 then '-' else '+') ::
    (List.replicate padding '0' ++ Nat.toDigits 10 power.natAbs)

theorem numberAfter_power (negative : Bool) (whole : List Char) (power : Int) (padding : Nat)
    {digits rest : List Char} (areDigits : AreDigits digits) (ends : EndsNumber rest) :
    numberAfter negative whole
        ((if digits = [] then [] else '.' :: digits) ++ (powerText power padding ++ rest)) =
      .ok (.double (.ofDecimal negative ⟨numberOf (whole ++ digits), power - digits.length⟩),
        rest) := by
  have read : exponent (powerText power padding ++ rest) = (some power, rest) :=
    exponent_digits power padding ends.endsDigits
  have parted : fraction ((if digits = [] then [] else '.' :: digits) ++
      (powerText power padding ++ rest)) = (digits, powerText power padding ++ rest) := by
    by_cases empty : digits = []
    · subst empty
      rfl
    · rw [if_neg empty, List.cons_append]
      apply fraction_digits areDigits empty
      intro character head
      cases head
      rfl
  simp [numberAfter, parted, read]

/-- A whole number is read back from its digits. -/
theorem readNumber_integer (number : Int) {rest : List Char}
    (short : (Nat.toDigits 10 number.natAbs).length ≤ maximumDigits) (ends : EndsNumber rest) :
    readNumber (signOf (decide (number < 0)) ++ (Nat.toDigits 10 number.natAbs ++ rest)) =
      .ok (.integer number, rest) := by
  have leading : Nat.toDigits 10 number.natAbs = ['0'] ∨
      ∀ digit ∈ (Nat.toDigits 10 number.natAbs).head?, digit ≠ '0' := by
    rcases Nat.eq_zero_or_pos number.natAbs with zero | positive
    · left
      rw [zero]
      rfl
    · exact .inr (toDigits_head_ne_zero positive)
  rw [readNumber_eq _ (areDigits_toDigits _) Nat.toDigits_ne_nil leading ends.endsDigits,
    numberAfter_integer _ short ends, numberOf_toDigits]
  by_cases negative : number < 0
  · simp only [negative, decide_true, if_true]
    congr 3
    omega
  · simp only [negative, decide_false, Bool.false_eq_true, if_false]
    congr 3
    omega

/-! ## Layouts -/

/-- A text is read as a decimal of a given value, whatever sign stands before it and
whatever follows. -/
def ReadsAs (text : List Char) (value : ℚ) : Prop :=
  ∃ decimal : Decimal, decimal.value = value ∧ ∀ (negative : Bool) (rest : List Char),
    EndsNumber rest →
      readNumber (signOf negative ++ (text ++ rest)) =
        .ok (.double (.ofDecimal negative decimal), rest)

/-- A point between two groups of digits. -/
theorem readsAs_point (whole digits : List Char) (wholeDigits : AreDigits whole)
    (nonempty : whole ≠ []) (leading : whole = ['0'] ∨ ∀ digit ∈ whole.head?, digit ≠ '0')
    (areDigits : AreDigits digits) (digitsNonempty : digits ≠ []) :
    ReadsAs (whole ++ '.' :: digits)
      (numberOf (whole ++ digits) * 10 ^ (-(digits.length : Int))) := by
  refine ⟨⟨numberOf (whole ++ digits), -digits.length⟩, rfl, ?_⟩
  intro negative rest ends
  have point : EndsDigits ('.' :: (digits ++ rest)) := by
    intro character head
    cases head
    rfl
  rw [List.append_assoc, List.cons_append,
    readNumber_eq negative wholeDigits nonempty leading point,
    numberAfter_fraction negative whole areDigits digitsNonempty ends]

/-- A digit, further digits after a point, and a power of ten. -/
theorem readsAs_power {first : Char} {others : List Char} (areDigits : AreDigits (first :: others))
    (leading : first ≠ '0') (power : Int) (padding : Nat) :
    ReadsAs (first :: (if others = [] then [] else '.' :: others) ++ powerText power padding)
      (numberOf (first :: others) * 10 ^ (power - others.length)) := by
  refine ⟨⟨numberOf (first :: others), power - others.length⟩, rfl, ?_⟩
  intro negative rest ends
  have firstDigit : AreDigits [first] :=
    areDigits.of_sublist (List.singleton_sublist.mpr (by simp))
  have othersDigits : AreDigits others := areDigits.of_sublist (List.sublist_cons_self _ _)
  have after : EndsDigits ((if others = [] then [] else '.' :: others) ++
      (powerText power padding ++ rest)) := by
    intro character head
    by_cases empty : others = []
    · rw [if_pos empty] at head
      cases head
      rfl
    · rw [if_neg empty] at head
      cases head
      rfl
  have read := readNumber_eq negative firstDigit (by simp)
    (.inr fun digit head => by cases head; exact leading) after
  rw [numberAfter_power negative [first] power padding othersDigits ends] at read
  simpa using read

theorem readsAs_zeros_before (zeros : Nat) {digits : List Char} (areDigits : AreDigits digits)
    (nonempty : digits ≠ []) :
    ReadsAs ('0' :: '.' :: (List.replicate zeros '0' ++ digits))
      (numberOf digits * 10 ^ (-((zeros + digits.length : Nat) : Int))) := by
  have read := readsAs_point ['0'] (List.replicate zeros '0' ++ digits) (areDigits_zeros 1)
    (by simp) (.inl rfl) ((areDigits_zeros _).append areDigits) (by simp [nonempty])
  have number : numberOf (['0'] ++ (List.replicate zeros '0' ++ digits)) = numberOf digits := by
    rw [numberOf_append, numberOf_append, numberOf_zeros]
    simp [numberOf]
  rw [number, List.length_append, List.length_replicate] at read
  exact read

/-- Zeros behind the digits, and one more behind the point. -/
theorem readsAs_zeros_behind (zeros : Nat) {digits : List Char} (areDigits : AreDigits digits)
    (nonempty : digits ≠ []) (leading : ∀ digit ∈ digits.head?, digit ≠ '0') :
    ReadsAs (digits ++ List.replicate zeros '0' ++ ['.', '0'])
      (numberOf digits * 10 ^ (zeros : Int)) := by
  have read := readsAs_point (digits ++ List.replicate zeros '0') ['0']
    (areDigits.append (areDigits_zeros _)) (by simp [nonempty])
    (.inr (by rw [List.head?_append_of_ne_nil _ nonempty]; exact leading)) (areDigits_zeros 1)
    (by simp)
  have number : numberOf (digits ++ List.replicate zeros '0' ++ ['0']) =
      numberOf digits * 10 ^ zeros * 10 := by
    rw [numberOf_append, numberOf_append, numberOf_zeros]
    simp [numberOf]
  have value : ((numberOf digits * 10 ^ zeros * 10 : Nat) : ℚ) * 10 ^ (-(['0'].length : Int)) =
      numberOf digits * 10 ^ (zeros : Int) := by
    rw [zpow_natCast]
    push_cast
    simp
  rw [number, value] at read
  exact read

/-- The point between two of the digits. -/
theorem readsAs_point_inside (place : Nat) {digits : List Char} (areDigits : AreDigits digits)
    (leading : ∀ digit ∈ digits.head?, digit ≠ '0') (behind : 0 < place)
    (before : place < digits.length) :
    ReadsAs (digits.take place ++ '.' :: digits.drop place)
      (numberOf digits * 10 ^ (-((digits.length - place : Nat) : Int))) := by
  have nonempty : digits.take place ≠ [] := by
    rw [Ne, List.take_eq_nil_iff]
    rintro (zero | empty)
    · omega
    · simp [empty] at before
  have head : (digits.take place).head? = digits.head? := by
    rw [List.head?_take, if_neg (by omega)]
  have read := readsAs_point (digits.take place) (digits.drop place)
    (areDigits.of_sublist (List.take_sublist place digits)) nonempty
    (.inr (by rw [head]; exact leading))
    (areDigits.of_sublist (List.drop_sublist place digits))
    (by rw [Ne, List.drop_eq_nil_iff]; omega)
  rw [List.take_append_drop, List.length_drop] at read
  exact read

/-- The layout of a positive decimal is read as its value. -/
theorem readsAs_layout {decimal : Decimal} (positive : 0 < decimal.digits) :
    ReadsAs (Double.layout decimal) decimal.value := by
  have areDigits := areDigits_toDigits decimal.digits
  have spelled := numberOf_toDigits decimal.digits
  have leading := toDigits_head_ne_zero positive
  have nonempty := Nat.toDigits_ne_nil (n := decimal.digits) (b := 10)
  set digits := Nat.toDigits 10 decimal.digits with digitsEq
  set point : Int := decimal.exponent + digits.length with pointEq
  unfold Double.layout
  simp only [← digitsEq, ← pointEq]
  split
  · split
    · rename_i below
      have read := readsAs_zeros_before (-point).toNat areDigits nonempty
      have power : -(((-point).toNat + digits.length : Nat) : Int) = decimal.exponent := by omega
      rw [spelled, power] at read
      exact read
    · split
      · rename_i above inside
        have read := readsAs_point_inside point.toNat areDigits leading (by omega) (by omega)
        have power : -((digits.length - point.toNat : Nat) : Int) = decimal.exponent := by omega
        rw [spelled, power] at read
        rw [List.append_assoc]
        exact read
      · rename_i above outside
        have read := readsAs_zeros_behind (point.toNat - digits.length) areDigits nonempty leading
        have power : ((point.toNat - digits.length : Nat) : Int) = decimal.exponent := by omega
        rw [spelled, power] at read
        exact read
  · -- One digit before the point, and an exponent.
    obtain ⟨first, others, split⟩ := List.exists_cons_of_ne_nil nonempty
    rw [split] at areDigits spelled leading
    have read := readsAs_power areDigits (leading first rfl) (point - 1)
      (2 - (Nat.toDigits 10 (point - 1).natAbs).length)
    have length : digits.length = others.length + 1 := by rw [split, List.length_cons]
    have power : point - 1 - others.length = decimal.exponent := by omega
    rw [spelled, power] at read
    have text : first :: (if others = [] then [] else '.' :: others) ++
        powerText (point - 1) (2 - (Nat.toDigits 10 (point - 1).natAbs).length) =
        digits.take 1 ++ (if digits.length = 1 then [] else '.' :: digits.drop 1) ++
          ['e', if point - 1 < 0 then '-' else '+'] ++
          List.replicate (2 - (Nat.toDigits 10 (point - 1).natAbs).length) '0' ++
          Nat.toDigits 10 (point - 1).natAbs := by
      simp [powerText, split]
    rw [text] at read
    exact read

end Json

/-! ## Rounding what was read -/

theorem Decimal.width_bounds {digits : Nat} (positive : 0 < digits) :
    10 ^ (Decimal.width digits - 1) ≤ digits ∧ digits < 10 ^ Decimal.width digits := by
  have widthPositive : 0 < Decimal.width digits := Nat.length_toDigits_pos
  constructor
  · by_contra small
    rcases Nat.lt_or_ge 1 (Decimal.width digits) with several | single
    · have shorter := (Nat.length_toDigits_le_iff (n := digits)
        (k := Decimal.width digits - 1) (show 1 < 10 by decide) (by omega)).mpr (by omega)
      unfold Decimal.width at shorter several
      omega
    · have one : Decimal.width digits - 1 = 0 := by omega
      rw [one, pow_zero] at small
      omega
  · exact (Nat.length_toDigits_le_iff (by decide) widthPositive).mp le_rfl

/-- A decimal lies between two powers of ten that its width tells. -/
theorem Decimal.value_bounds {decimal : Decimal} (positive : 0 < decimal.digits) :
    (10 : ℚ) ^ (decimal.exponent + Decimal.width decimal.digits - 1) ≤ decimal.value ∧
      decimal.value < 10 ^ (decimal.exponent + Decimal.width decimal.digits) := by
  obtain ⟨lower, upper⟩ := Decimal.width_bounds positive
  have widthPositive : 0 < Decimal.width decimal.digits := Nat.length_toDigits_pos
  have unitPositive : (0 : ℚ) < 10 ^ decimal.exponent := zpow_pos (by norm_num) _
  constructor
  · have power : decimal.exponent + (Decimal.width decimal.digits : Int) - 1 =
        ((Decimal.width decimal.digits - 1 : Nat) : Int) + decimal.exponent := by omega
    rw [power, zpow_add₀ (by norm_num), zpow_natCast, Decimal.value]
    gcongr
    exact_mod_cast lower
  · rw [add_comm, zpow_add₀ (by norm_num), zpow_natCast, Decimal.value]
    gcongr
    exact_mod_cast upper

namespace Double

private theorem two_pow_lt_ten_pow : (2 : ℚ) ^ 1075 < 10 ^ 400 := by
  calc
    (2 : ℚ) ^ 1075 = (2 ^ 43) ^ 25 := by rw [← pow_mul]
    _ < (10 ^ 16) ^ 25 := by
      gcongr
      norm_num
    _ = 10 ^ 400 := by rw [← pow_mul]

/-- What a number covers lies in the range of all finite numbers. -/
theorem Covers.range {significand : Nat} {exponent : Int} {value : ℚ}
    (covers : Covers significand exponent value) (positive : 0 < significand)
    (representable : Representable significand exponent) :
    (10 : ℚ) ^ (-400 : Int) < value ∧ value < 10 ^ (400 : Int) := by
  have unitPositive : (0 : ℚ) < 2 ^ exponent := zpow_pos two_pos exponent
  have one : (1 : ℚ) ≤ significand := by exact_mod_cast positive
  have bounded : (significand : ℚ) ≤ 2 ^ 53 := by exact_mod_cast representable.bounded.le
  have half := reachDown_le_half significand exponent
  have lower : 1 / 2 ≤ value / 2 ^ exponent := by linarith [covers.lower]
  have upper : value / 2 ^ exponent ≤ 2 ^ 54 := by linarith [covers.upper]
  rw [le_div_iff₀ unitPositive] at lower
  rw [div_le_iff₀ unitPositive] at upper
  constructor
  · calc
      (10 : ℚ) ^ (-400 : Int) = (10 ^ 400)⁻¹ := by rw [zpow_neg]; rfl
      _ < (2 ^ 1075)⁻¹ := inv_strictAnti₀ (by positivity) two_pow_lt_ten_pow
      _ = 2 ^ (-1 + -1074 : Int) := by rw [← zpow_natCast, ← zpow_neg]; rfl
      _ = 1 / 2 * 2 ^ (-1074 : Int) := by rw [zpow_add₀ two_ne_zero, zpow_neg_one, one_div]
      _ ≤ 1 / 2 * 2 ^ exponent := by
        gcongr
        · exact one_le_two
        · exact representable.least
      _ ≤ value := lower
  · calc
      value ≤ 2 ^ 54 * 2 ^ exponent := upper
      _ ≤ 2 ^ 54 * 2 ^ (971 : Int) := by
        gcongr
        · exact one_le_two
        · exact representable.greatest
      _ = 2 ^ (54 + 971 : Int) := by rw [zpow_add₀ two_ne_zero]; rfl
      _ ≤ 2 ^ (1075 : Int) := zpow_le_zpow_right₀ one_le_two (by norm_num)
      _ < 10 ^ (400 : Int) := two_pow_lt_ten_pow

/-- A decimal that a positive number covers is rounded to the number. -/
theorem ofDecimal_of_covers (negative : Bool) {decimal : Decimal} {significand : Nat}
    {exponent : Int} (representable : Representable significand exponent)
    (positive : 0 < significand) (covers : Covers significand exponent decimal.value) :
    ofDecimal negative decimal = .finite negative significand exponent := by
  have digits := Decimal.digits_pos_of_value_pos (covers.value_pos positive)
  obtain ⟨lower, upper⟩ := Decimal.value_bounds digits
  obtain ⟨least, greatest⟩ := covers.range positive representable
  have atLeast : -400 < decimal.exponent + Decimal.width decimal.digits :=
    (zpow_lt_zpow_iff_right₀ (by norm_num)).mp (least.trans upper)
  have atMost : decimal.exponent + Decimal.width decimal.digits - 1 < 400 :=
    (zpow_lt_zpow_iff_right₀ (by norm_num : (1 : ℚ) < 10)).mp (lt_of_le_of_lt lower greatest)
  have expanded : ofDecimal negative decimal = ofRatio negative decimal.ratio := by
    unfold ofDecimal
    simp only
    rw [if_neg (by omega), if_neg (by omega)]
  rw [expanded]
  rw [← decimal.ratio_value] at covers
  exact ofRatio_of_covers negative (Decimal.ratio_numerator_pos digits)
    decimal.ratio_denominator_pos representable covers

theorem representable_zero : Representable 0 (-1074) where
  bounded := by norm_num
  least := le_rfl
  greatest := by norm_num
  normal := .inr rfl

theorem ofDecimal_isCanonical (negative : Bool) (decimal : Decimal) :
    (ofDecimal negative decimal).IsCanonical := by
  unfold ofDecimal
  simp only
  split
  · exact representable_zero
  · rename_i sizeable
    split
    · trivial
    · exact ofRatio_isCanonical negative (Decimal.ratio_numerator_pos (by omega))
        decimal.ratio_denominator_pos

end Double

namespace Json

/-- A finite number of 64 bits is read back from its text. -/
theorem readNumber_finite (negative : Bool) {significand : Nat} {exponent : Int}
    {rest : List Char} (representable : Double.Representable significand exponent)
    (ends : EndsNumber rest) :
    readNumber ((Double.finite negative significand exponent).toChars ++ rest) =
      .ok (.double (.finite negative significand exponent), rest) := by
  rw [Double.toChars, List.append_assoc]
  rcases Nat.eq_zero_or_pos significand with zero | positive
  · subst zero
    have least : exponent = -1074 := by
      rcases representable.normal with large | least
      · omega
      · exact least
    subst least
    obtain ⟨decimal, value, read⟩ := readsAs_point ['0'] ['0']
      (areDigits_zeros 1) (by simp) (.inl rfl) (areDigits_zeros 1) (by simp)
    have digits : decimal.digits = 0 := by
      by_contra positive
      have valuePositive : decimal.value ≠ 0 := by
        unfold Decimal.value
        positivity
      apply valuePositive
      rw [value]
      simp [numberOf]
    have rounded : Double.ofDecimal negative decimal = .finite negative 0 (-1074) := by
      unfold Double.ofDecimal
      simp only
      rw [if_pos (.inl digits)]
      rfl
    rw [← rounded]
    exact read negative rest ends
  · have covers := Double.shortest_covers representable positive
    obtain ⟨decimal, value, read⟩ := readsAs_layout
      (Decimal.digits_pos_of_value_pos (covers.value_pos positive))
    rw [← value] at covers
    rw [if_neg (show ¬ significand = 0 by omega),
      ← Double.ofDecimal_of_covers negative representable positive covers]
    exact read negative rest ends

end Json

end HelperKit
