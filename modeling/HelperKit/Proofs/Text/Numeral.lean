import HelperKit.Text.Lowercase
import HelperKit.Text.Numeral

/-!
# Numbers as they are typed

A whole number is spelled by an optional sign and digits of any script, between which single
underscores may stand.  What is read is exactly what is spelled, unless it has too many digits.
Digits have no case: a text that spells a number begins in lower case as it is.
-/

namespace HelperKit

namespace CodePoint

variable {point : CodePoint} {digit : Nat}

theorem exists_zeroDigit (decimal : point.digit? = some digit) :
    ∃ first ∈ zeroDigits, first ≤ point.value ∧ point.value < first + 10 := by
  obtain ⟨first, found, -⟩ := Option.map_eq_some_iff.mp decimal
  have near := List.find?_some found
  rw [Bool.and_eq_true, decide_eq_true_eq, decide_eq_true_eq] at near
  exact ⟨first, List.mem_of_find?_eq_some found, near⟩

theorem digit?_of_isDigit {character : Char} (isDigit : character.isDigit = true) :
    digit? (.char character) = some (character.toNat - '0'.toNat) := by
  have near : 0x30 ≤ character.toNat ∧ character.toNat < 0x30 + 10 := by
    simp only [Char.isDigit, Bool.and_eq_true, decide_eq_true_eq, ge_iff_le,
      UInt32.le_iff_toNat_le] at isDigit
    exact ⟨isDigit.1, Nat.lt_succ_of_le isDigit.2⟩
  have found : zeroDigits.find? (fun first => first ≤ character.toNat &&
      character.toNat < first + 10) = some 0x30 :=
    List.find?_cons_of_pos (by simpa using near)
  unfold digit? value
  rw [found]
  rfl

theorem runs_apart_digits : ∀ run ∈ lowercaseRuns, ∀ first ∈ zeroDigits,
    run.last < first ∨ first + 10 ≤ run.first := by decide +kernel

theorem zeroDigit_ascii : ∀ first ∈ zeroDigits, first = 0x30 ∨ 128 ≤ first := by decide +kernel

theorem digit?_eq_none (ascii : point.value < 128) (other : point.value < 48 ∨ 58 ≤ point.value) :
    point.digit? = none := by
  cases decimal : point.digit? with
  | none => rfl
  | some digit =>
      obtain ⟨first, member, least, most⟩ := exists_zeroDigit decimal
      rcases zeroDigit_ascii first member with rfl | beyond
      · omega
      · omega

theorem toLower_of_isDigit {character : Char} (isDigit : character.isDigit = true) :
    character.toLower = character := by
  refine dif_neg fun upper => ?_
  simp only [Char.isDigit, Bool.and_eq_true, decide_eq_true_eq] at isDigit
  exact absurd (UInt32.le_trans upper.1 isDigit.2) (by decide)

/-- A digit is its own form in lower case. -/
theorem lower_of_digit (decimal : point.digit? = some digit) : point.lower = [point] := by
  obtain ⟨first, member, least, most⟩ := exists_zeroDigit decimal
  cases point with
  | surrogate index => rfl
  | char character =>
      change first ≤ character.toNat at least
      change character.toNat < first + 10 at most
      simp only [lower]
      by_cases small : character.toNat < 128
      · have ascii : first = 0x30 := (zeroDigit_ascii first member).resolve_right (by omega)
        have isDigit : character.isDigit = true := by
          simp only [Char.isDigit, Bool.and_eq_true, decide_eq_true_eq, ge_iff_le,
            UInt32.le_iff_toNat_le]
          subst ascii
          exact ⟨least, Nat.le_of_lt_succ most⟩
        rw [if_pos small, toLower_of_isDigit isDigit]
      · have undotted : character ≠ 'İ' := by
          rintro rfl
          have undecimal : digit? (.char 'İ') = none := by decide +kernel
          cases undecimal.symm.trans decimal
        have uncovered : lowercaseRuns.find? (·.covers character.toNat) = none := by
          rw [List.find?_eq_none]
          intro run listed covers
          simp only [CaseRun.covers, Bool.and_eq_true, decide_eq_true_eq] at covers
          rcases runs_apart_digits run listed first member with before | behind
          · omega
          · omega
        rw [if_neg small, if_neg undotted, uncovered]

end CodePoint

namespace Text

variable {text rest : Text} {digits : List Nat} {number : Int}

/-- A text spells digits, between two of which a single underscore may stand. -/
inductive SpellsDigits : Text → List Nat → Prop where
  | last {point : CodePoint} {digit : Nat} (decimal : point.digit? = some digit) :
      SpellsDigits [point] [digit]
  | next {point : CodePoint} {digit : Nat} {rest : Text} {digits : List Nat}
      (decimal : point.digit? = some digit) (further : SpellsDigits rest digits) :
      SpellsDigits (point :: rest) (digit :: digits)
  | apart {point : CodePoint} {digit : Nat} {rest : Text} {digits : List Nat}
      (decimal : point.digit? = some digit) (further : SpellsDigits rest digits) :
      SpellsDigits (point :: .char '_' :: rest) (digit :: digits)

/-- The number that digits make up. -/
def magnitude (digits : List Nat) : Nat :=
  digits.foldl (fun total digit => total * 10 + digit) 0

/-- A text spells a whole number with some digits, however many there are. -/
inductive SpellsInteger : Text → List Nat → Int → Prop where
  | unsigned {text : Text} {digits : List Nat} (spells : SpellsDigits text digits) :
      SpellsInteger text digits (magnitude digits)
  | positive {text : Text} {digits : List Nat} (spells : SpellsDigits text digits) :
      SpellsInteger (.char '+' :: text) digits (magnitude digits)
  | negative {text : Text} {digits : List Nat} (spells : SpellsDigits text digits) :
      SpellsInteger (.char '-' :: text) digits (-(magnitude digits : Int))

theorem SpellsDigits.begins (spells : SpellsDigits text digits) :
    ∃ point rest digit, text = point :: rest ∧ point.digit? = some digit := by
  cases spells with
  | last decimal => exact ⟨_, _, _, rfl, decimal⟩
  | next decimal further => exact ⟨_, _, _, rfl, decimal⟩
  | apart decimal further => exact ⟨_, _, _, rfl, decimal⟩

theorem digit?_underscore : CodePoint.digit? (.char '_') = none :=
  CodePoint.digit?_eq_none (by decide) (by decide)

theorem digits?_cons_cons (point next : CodePoint) (rest : Text) :
    digits? (point :: next :: rest) = point.digit?.bind fun digit =>
      (if next = .char '_' then digits? rest else digits? (next :: rest)).map (digit :: ·) := by
  rw [digits?]
  cases point.digit? with
  | none => rfl
  | some digit =>
      by_cases spaced : next = .char '_'
      · simp only [if_pos spaced]
        cases digits? rest <;> rfl
      · simp only [if_neg spaced]
        cases digits? (next :: rest) <;> rfl

theorem spellsDigits_of_digits? (read : digits? text = some digits) : SpellsDigits text digits := by
  fun_induction digits? text generalizing digits with
  | case1 => cases read
  | case2 point =>
      obtain ⟨digit, decimal, rfl⟩ := Option.map_eq_some_iff.mp read
      exact .last decimal
  | case3 point next rest single spaced =>
      have whole : digits? (point :: next :: rest) = some digits := by
        rw [digits?]
        exact read
      rw [digits?_cons_cons] at whole
      obtain ⟨digit, decimal, further⟩ := Option.bind_eq_some_iff.mp whole
      obtain ⟨others, found, rfl⟩ := Option.map_eq_some_iff.mp further
      by_cases underscore : next = .char '_'
      · subst underscore
        rw [if_pos rfl] at found
        exact .apart decimal (single found)
      · rw [if_neg underscore] at found
        exact .next decimal (spaced found)

theorem SpellsDigits.digits?_eq (spells : SpellsDigits text digits) : digits? text = some digits := by
  induction spells with
  | last decimal => exact Option.map_eq_some_iff.mpr ⟨_, decimal, rfl⟩
  | @next point digit rest digits decimal further induction =>
      obtain ⟨next, others, _, rfl, decimalToo⟩ := further.begins
      have noUnderscore : next ≠ .char '_' := by
        rintro rfl
        cases digit?_underscore.symm.trans decimalToo
      rw [digits?_cons_cons, decimal, Option.bind_some, if_neg noUnderscore, induction]
      rfl
  | apart decimal further induction =>
      rw [digits?_cons_cons, decimal, Option.bind_some, if_pos rfl, induction]
      rfl

/-- The number with some digits and perhaps a minus, if these are not too many. -/
def signed? (negative : Bool) (digits : List Nat) : Option Int :=
  if digits.length ≤ maximumDigits then
    some (if negative then -(magnitude digits : Int) else magnitude digits)
  else none

theorem signed?_eq_some_iff {negative : Bool} : signed? negative digits = some number ↔
    digits.length ≤ maximumDigits ∧
      (if negative then -(magnitude digits : Int) else magnitude digits) = number := by
  unfold signed?
  split
  · rename_i short
    simp [short]
  · rename_i long
    simp [long]

theorem toInt?_minus (rest : Text) :
    toInt? (.char '-' :: rest) = (digits? rest).bind (signed? true) := rfl

theorem toInt?_plus (rest : Text) :
    toInt? (.char '+' :: rest) = (digits? rest).bind (signed? false) := rfl

theorem toInt?_unsigned {point : CodePoint} (minus : point ≠ .char '-') (plus : point ≠ .char '+') :
    toInt? (point :: rest) = (digits? (point :: rest)).bind (signed? false) := by
  unfold toInt?
  split
  rename_i negative read same
  split at same
  · rename_i begins
    exact absurd (List.cons.inj begins).1 minus
  · rename_i begins
    exact absurd (List.cons.inj begins).1 plus
  · cases same
    rfl

theorem digit?_signs : ∀ sign ∈ ['+', '-'], CodePoint.digit? (.char sign) = none := by
  intro sign listed
  simp only [List.mem_cons, List.not_mem_nil, or_false] at listed
  rcases listed with rfl | rfl
  · exact CodePoint.digit?_eq_none (by decide) (by decide)
  · exact CodePoint.digit?_eq_none (by decide) (by decide)

theorem spellsInteger_of_toInt? (read : text.toInt? = some number) :
    ∃ digits, SpellsInteger text digits number ∧ digits.length ≤ maximumDigits := by
  have spelled : ∀ {negative : Bool} {rest : Text},
      (digits? rest).bind (signed? negative) = some number →
      ∃ digits, SpellsDigits rest digits ∧ digits.length ≤ maximumDigits ∧
        (if negative then -(magnitude digits : Int) else magnitude digits) = number := by
    intro negative rest signed
    obtain ⟨digits, found, signed⟩ := Option.bind_eq_some_iff.mp signed
    exact ⟨digits, spellsDigits_of_digits? found, signed?_eq_some_iff.mp signed⟩
  cases text with
  | nil => cases read
  | cons point rest =>
      by_cases minus : point = .char '-'
      · subst minus
        obtain ⟨digits, spells, short, rfl⟩ := spelled (toInt?_minus rest ▸ read)
        exact ⟨digits, .negative spells, short⟩
      · by_cases plus : point = .char '+'
        · subst plus
          obtain ⟨digits, spells, short, rfl⟩ := spelled (toInt?_plus rest ▸ read)
          exact ⟨digits, .positive spells, short⟩
        · obtain ⟨digits, spells, short, rfl⟩ := spelled (toInt?_unsigned minus plus ▸ read)
          exact ⟨digits, .unsigned spells, short⟩

theorem SpellsInteger.toInt?_eq (spells : SpellsInteger text digits number) :
    text.toInt? = if digits.length ≤ maximumDigits then some number else none := by
  have signed : ∀ (negative : Bool) {rest : Text}, SpellsDigits rest digits →
      (digits? rest).bind (signed? negative) = signed? negative digits := by
    intro negative rest spells
    rw [spells.digits?_eq, Option.bind_some]
  cases spells with
  | unsigned spells =>
      obtain ⟨point, rest, digit, rfl, decimal⟩ := spells.begins
      have unsigned : ∀ sign ∈ ['+', '-'], point ≠ .char sign := by
        rintro sign listed rfl
        cases (digit?_signs sign listed).symm.trans decimal
      rw [toInt?_unsigned (unsigned '-' (by simp)) (unsigned '+' (by simp))]
      exact signed false spells
  | positive spells => exact (toInt?_plus _).trans (signed false spells)
  | negative spells => exact (toInt?_minus _).trans (signed true spells)

theorem toInt?_eq_some_iff : text.toInt? = some number ↔
    ∃ digits, SpellsInteger text digits number ∧ digits.length ≤ maximumDigits :=
  ⟨spellsInteger_of_toInt?, fun ⟨_, spells, short⟩ => spells.toInt?_eq.trans (if_pos short)⟩

/-! ## How numbers look -/

theorem head_lower {point : CodePoint} (same : point.lower = [point]) (other : point ≠ .char 'Σ')
    (rest : Text) : (lower (point :: rest)).head? = some point := by
  unfold lower lowerAfter
  rw [if_neg other, same]
  rfl

/-- What spells a number begins with a digit or a sign, in lower case as well. -/
theorem SpellsInteger.head_lower (spells : SpellsInteger text digits number) :
    ∃ point, text.lower.head? = some point ∧
      (point = .char '+' ∨ point = .char '-' ∨ point.digit?.isSome) := by
  cases spells with
  | unsigned spells =>
      obtain ⟨point, rest, digit, rfl, decimal⟩ := spells.begins
      have other : point ≠ .char 'Σ' := by
        rintro rfl
        have undecimal : CodePoint.digit? (.char 'Σ') = none := by decide +kernel
        cases undecimal.symm.trans decimal
      exact ⟨point, Text.head_lower (CodePoint.lower_of_digit decimal) other rest,
        .inr (.inr (by simp [decimal]))⟩
  | positive spells => exact ⟨_, Text.head_lower rfl (by decide) _, .inl rfl⟩
  | negative spells => exact ⟨_, Text.head_lower rfl (by decide) _, .inr (.inl rfl)⟩

theorem SpellsDigits.comma_notMem (spells : SpellsDigits text digits) : .char ',' ∉ text := by
  have undecimal : CodePoint.digit? (.char ',') = none :=
    CodePoint.digit?_eq_none (by decide) (by decide)
  have other : ∀ {point : CodePoint} {digit : Nat}, point.digit? = some digit →
      .char ',' ≠ point := by
    rintro point digit decimal rfl
    cases undecimal.symm.trans decimal
  induction spells with
  | last decimal => simpa using other decimal
  | next decimal further induction => simp [other decimal, induction]
  | apart decimal further induction => simp [other decimal, induction]

theorem SpellsInteger.comma_notMem (spells : SpellsInteger text digits number) :
    .char ',' ∉ text := by
  cases spells with
  | unsigned spells => exact spells.comma_notMem
  | positive spells => simp [spells.comma_notMem]
  | negative spells => simp [spells.comma_notMem]

theorem spellsDigits_ofChars {characters : List Char} (nonempty : characters ≠ [])
    (isDigit : ∀ character ∈ characters, character.isDigit = true) :
    SpellsDigits (ofChars characters)
      (characters.map fun character => character.toNat - '0'.toNat) := by
  induction characters with
  | nil => exact absurd rfl nonempty
  | cons character rest induction =>
      rw [List.forall_mem_cons] at isDigit
      have decimal := CodePoint.digit?_of_isDigit isDigit.1
      cases rest with
      | nil => exact .last decimal
      | cons next others => exact .next decimal (induction (by simp) isDigit.2)

theorem magnitude_toDigits (number : Nat) : magnitude ((Nat.toDigits 10 number).map
    fun character => character.toNat - '0'.toNat) = number := by
  have read : magnitude ((Nat.toDigits 10 number).map
      fun character => character.toNat - '0'.toNat) =
        Nat.ofDigitChars 10 (Nat.toDigits 10 number) 0 := by
    unfold magnitude Nat.ofDigitChars
    rw [List.foldl_map]
    congr 1
    funext total digit
    rw [Nat.mul_comm]
  rw [read, Nat.ofDigitChars_ten_toDigits]

theorem spellsInteger_ofNat (number : Nat) :
    ∃ digits, SpellsInteger (ofNat number) digits number ∧
      digits.length = (ofNat number).length := by
  have spells : SpellsDigits (ofNat number) ((Nat.toDigits 10 number).map
      fun character => character.toNat - '0'.toNat) :=
    spellsDigits_ofChars Nat.toDigits_ne_nil fun character member =>
      Nat.isDigit_of_mem_toDigits (by decide) (by decide) member
  have whole := SpellsInteger.unsigned spells
  rw [magnitude_toDigits] at whole
  exact ⟨_, whole, by simp [ofNat, ofChars]⟩

end Text

end HelperKit
