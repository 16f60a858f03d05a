import HelperKit.Proofs.Json.Shape

/-!
# Reading what is spelled

Blanks, strings and numbers are read exactly as the grammar spells them: what is read is
spelled, and what is spelled is read.  The one exception is a whole number with more digits than
are converted.
-/

namespace HelperKit

namespace Json

variable {text rest left : List Char}

/-! ## Blanks -/

theorem blanks_skipBlanks (text : List Char) : Blanks text (skipBlanks text) := by
  induction text with
  | nil => exact .none
  | cons character text induction =>
      by_cases blank : isBlank character = true
      · rw [skipBlanks, List.dropWhile_cons_of_pos blank]
        exact .more blank induction
      · rw [skipBlanks, List.dropWhile_cons_of_neg blank]
        exact .none

theorem Blanks.skipBlanks_eq {first : Char} (blanks : Blanks text (first :: rest))
    (solid : isBlank first = false) : skipBlanks text = first :: rest := by
  generalize same : first :: rest = behind at blanks
  induction blanks with
  | none =>
      subst same
      exact skipBlanks_solid solid
  | more blank others induction =>
      rw [skipBlanks, List.dropWhile_cons_of_pos blank]
      exact induction same

theorem Blanks.skipBlanks_eq_nil (blanks : Blanks text []) : skipBlanks text = [] := by
  generalize same : [] = behind at blanks
  induction blanks with
  | none =>
      subst same
      rfl
  | more blank others induction =>
      rw [skipBlanks, List.dropWhile_cons_of_pos blank]
      exact induction same

theorem endsNumber_nil : EndsNumber [] := by
  intro character head
  cases head

theorem Blanks.endsNumber (blanks : Blanks text rest) (ends : EndsNumber rest) :
    EndsNumber text := by
  cases blanks with
  | none => exact ends
  | @more character _ _ blank others =>
      simp only [isBlank, Bool.or_eq_true, decide_eq_true_eq] at blank
      rcases blank with ((rfl | rfl) | rfl) | rfl <;>
        exact endsNumber_cons rfl (by decide) (by decide) (by decide)

/-! ## Strings -/

theorem prepend_eq_ok_iff {point : CodePoint} {reading : Reading Text} {points : Text} :
    prepend point reading = .ok (points, rest) ↔
      ∃ others, reading = .ok (others, rest) ∧ points = point :: others := by
  rcases reading with stop | ⟨others, left⟩
  · simp [prepend]
  · simp only [prepend, Except.ok.injEq, Prod.mk.injEq]
    constructor
    · rintro ⟨rfl, rfl⟩
      exact ⟨others, ⟨rfl, rfl⟩, rfl⟩
    · rintro ⟨_, ⟨rfl, rfl⟩, rfl⟩
      exact ⟨rfl, rfl⟩

/-- What is read behind an opening quote is spelled there. -/
theorem spellsPoints_of_stringAfter {opening : List Char} {points : Text}
    (read : stringAfter opening text = .ok (points, rest)) : SpellsPoints text points rest := by
  fun_induction stringAfter opening text generalizing points with
  | case1 => cases read
  | case2 left =>
      cases read
      exact .close
  | case3 => cases read
  | case4 first second third fourth next left unit spelled induction =>
      obtain ⟨others, further, rfl⟩ := prepend_eq_ok_iff.mp read
      exact .unit spelled (induction further)
  | case5 => cases read
  | case6 => cases read
  | case7 letter left _ _ character escaped induction =>
      obtain ⟨others, further, rfl⟩ := prepend_eq_ok_iff.mp read
      exact .escape escaped (induction further)
  | case8 => cases read
  | case9 => cases read
  | case10 =>
      rename_i character left notQuote lone _ _ escape small induction
      have notSlash : character ≠ '\\' := by
        intro slash
        cases left with
        | nil => exact lone slash rfl
        | cons letter left => exact escape letter left slash rfl
      obtain ⟨others, further, rfl⟩ := prepend_eq_ok_iff.mp read
      exact .plain (Nat.le_of_not_lt small) notQuote notSlash (induction further)

theorem SpellsPoints.stringAfter_eq (opening : List Char) {points : Text}
    (spells : SpellsPoints text points rest) : stringAfter opening text = .ok (points, rest) := by
  induction spells with
  | close => rfl
  | plain printable notQuote notSlash others induction =>
      simp [stringAfter, notSlash, Nat.not_lt.mpr printable, induction, prepend]
  | @escape letter character text rest points escaped others induction =>
      have notUnit : letter ≠ 'u' := by
        rintro rfl
        cases escaped
      simp [stringAfter, notUnit, escaped, induction, prepend]
  | unit spelled others induction =>
      obtain ⟨next, left, rfl⟩ := List.exists_cons_of_length_pos (Nat.zero_lt_of_lt others.length_lt)
      simp [stringAfter, spelled, induction, prepend]

theorem spellsString_of_readString {string : Text}
    (read : readString ('"' :: text) = .ok (string, rest)) :
    SpellsString ('"' :: text) string rest := by
  unfold readString at read
  split at read
  · rename_i points left known
    cases read
    exact .quoted (spellsPoints_of_stringAfter known)
  · cases read

theorem SpellsString.readString_eq {string : Text} (spells : SpellsString text string rest) :
    readString text = .ok (string, rest) := by
  cases spells with
  | quoted body =>
      unfold readString
      rw [List.drop_one, List.tail_cons, body.stringAfter_eq]

/-! ## Numbers -/

theorem areDigits_takeWhile (text : List Char) : AreDigits (text.takeWhile isDigit) :=
  fun _ member => List.mem_takeWhile_imp member

theorem endsDigits_dropWhile (text : List Char) : EndsDigits (text.dropWhile isDigit) := by
  intro character head
  have stopped := List.head?_dropWhile_not isDigit text
  rw [Option.mem_def.mp head] at stopped
  simpa using stopped

theorem spellsFraction_fraction (text : List Char) :
    SpellsFraction text (fraction text).1 (fraction text).2 := by
  unfold fraction
  split
  · rename_i left
    split
    · exact .absent
    · rename_i nonempty
      have parted : left.takeWhile isDigit ++ left.dropWhile isDigit = left :=
        List.takeWhile_append_dropWhile
      nth_rewrite 1 [← parted]
      exact .digits (areDigits_takeWhile left) (by simpa using nonempty)
  · exact .absent

theorem spellsSign_exponentSign (text : List Char) :
    SpellsSign text (exponentSign text).1 (exponentSign text).2 := by
  unfold exponentSign
  split
  · exact .minus
  · exact .plus
  · exact .absent

theorem spellsPower_exponent (text : List Char) :
    SpellsPower text (exponent text).1 (exponent text).2 := by
  unfold exponent
  split
  · rename_i letter left
    split
    · rename_i begins
      simp only
      split
      · exact .absent
      · rename_i nonempty
        have sign := spellsSign_exponentSign left
        rw [← List.takeWhile_append_dropWhile (p := isDigit) (l := (exponentSign left).2)] at sign
        exact .digits begins sign (areDigits_takeWhile _) (by simpa using nonempty)
    · exact .absent
  · exact .absent

theorem SpellsFraction.eq_of_nil (spells : SpellsFraction text [] rest) : text = rest := by
  generalize same : [] = none at spells
  cases spells with
  | absent => rfl
  | digits areDigits nonempty => exact absurd same.symm nonempty

theorem SpellsPower.eq_of_none (spells : SpellsPower text none rest) : text = rest := by
  cases spells
  rfl

/-- What a number is read as once its whole digits are known is spelled. -/
theorem spellsNumber_of_numberAfter {negative : Bool} {whole : List Char} {value : Json}
    (isWhole : IsWhole whole) (read : numberAfter negative whole text = .ok (value, rest)) :
    SpellsNumber (signOf negative ++ (whole ++ text)) value rest := by
  have fractionSpelled := spellsFraction_fraction text
  have powerSpelled := spellsPower_exponent (fraction text).2
  unfold numberAfter at read
  simp only at read
  split at read
  · rename_i bare
    rw [List.isEmpty_iff] at bare
    rw [bare.1] at fractionSpelled
    rw [bare.2] at powerSpelled
    split at read
    · cases read
      have bareText := fractionSpelled.eq_of_nil.trans powerSpelled.eq_of_none
      rw [← bareText]
      exact .integer negative isWhole
    · cases read
  · rename_i broken
    rw [List.isEmpty_iff, not_and_or] at broken
    cases read
    exact .double negative isWhole fractionSpelled powerSpelled broken

theorem takeWhile_digits_ne_nil {digits : List Char} (areDigits : AreDigits digits)
    (nonempty : digits ≠ []) (rest : List Char) : (digits ++ rest).takeWhile isDigit ≠ [] := by
  obtain ⟨digit, others, rfl⟩ := List.exists_cons_of_ne_nil nonempty
  have decimal : isDigit digit = true := areDigits digit (by simp)
  simp [decimal]

theorem SpellsFraction.eq_nil_of_fraction {digits : List Char}
    (spells : SpellsFraction text digits rest) (nothing : (fraction text).1 = []) :
    digits = [] := by
  cases spells with
  | absent => rfl
  | digits areDigits nonempty =>
      have taken := takeWhile_digits_ne_nil areDigits nonempty rest
      rw [fraction, if_neg (by simpa using taken)] at nothing
      exact absurd nothing taken

theorem SpellsSign.exponentSign_eq {negative : Bool} {digits : List Char}
    (spells : SpellsSign text negative (digits ++ rest)) (areDigits : AreDigits digits)
    (nonempty : digits ≠ []) : exponentSign text = (negative, digits ++ rest) := by
  obtain ⟨digit, others, rfl⟩ := List.exists_cons_of_ne_nil nonempty
  have decimal : isDigit digit = true := areDigits digit (by simp)
  generalize same : digit :: others ++ rest = behind at spells
  cases spells with
  | absent =>
      subst same
      have plus : digit ≠ '+' := isDigit_ne decimal rfl
      have minus : digit ≠ '-' := isDigit_ne decimal rfl
      simp [exponentSign, plus, minus]
  | plus => rw [exponentSign]
  | minus => rw [exponentSign]

theorem SpellsPower.eq_none_of_exponent {power : Option Int}
    (spells : SpellsPower text power rest) (nothing : (exponent text).1 = none) :
    power = none := by
  cases spells with
  | absent => rfl
  | @digits letter negative text digits _ begins sign areDigits nonempty =>
      have taken := takeWhile_digits_ne_nil areDigits nonempty rest
      simp only [exponent, begins, if_true, sign.exponentSign_eq areDigits nonempty,
        List.isEmpty_iff, if_neg taken] at nothing
      cases nothing

/-! ## Numbers that are read -/

/-- Neither digits nor a fraction go on here. -/
def EndsFraction (rest : List Char) : Prop :=
  ∀ character ∈ rest.head?, isDigit character = false ∧ character ≠ '.'

theorem EndsFraction.endsDigits (ends : EndsFraction rest) : EndsDigits rest :=
  fun character head => (ends character head).1

theorem SpellsFraction.fraction_eq {digits : List Char} (spells : SpellsFraction text digits rest)
    (ends : EndsFraction rest) : fraction text = (digits, rest) := by
  cases spells with
  | absent =>
      unfold fraction
      split
      · exact absurd rfl (ends '.' rfl).2
      · rfl
  | digits areDigits nonempty => exact fraction_digits areDigits nonempty ends.endsDigits

theorem SpellsFraction.endsDigits {digits : List Char} (spells : SpellsFraction text digits rest)
    (ends : EndsFraction rest) : EndsDigits text := by
  cases spells with
  | absent => exact ends.endsDigits
  | digits areDigits nonempty =>
      intro character head
      cases head
      rfl

theorem SpellsPower.exponent_eq {power : Option Int} (spells : SpellsPower text power rest)
    (ends : EndsNumber rest) : exponent text = (power, rest) := by
  cases spells with
  | absent => exact exponent_of_endsNumber ends
  | digits begins sign areDigits nonempty =>
      simp only [exponent, begins, if_true, sign.exponentSign_eq areDigits nonempty,
        takeWhile_digits areDigits ends.endsDigits, dropWhile_digits areDigits ends.endsDigits,
        List.isEmpty_iff, if_neg nonempty]

theorem SpellsPower.endsFraction {power : Option Int} (spells : SpellsPower text power rest)
    (ends : EndsNumber rest) : EndsFraction text := by
  cases spells with
  | absent => exact fun character head => ⟨(ends character head).1, (ends character head).2.1⟩
  | digits begins sign areDigits nonempty =>
      intro character head
      cases head
      rcases begins with rfl | rfl <;> exact ⟨rfl, by decide⟩

/-- A number that is spelled is read, unless it is whole and too long. -/
theorem SpellsNumber.readNumber_eq {value : Json} (spells : SpellsNumber text value rest)
    (ends : EndsNumber rest) :
    readNumber text = .ok (value, rest) ∨ readNumber text = .error .longInteger := by
  cases spells with
  | @integer whole _ negative isWhole =>
      rw [Json.readNumber_eq negative isWhole.areDigits isWhole.nonempty isWhole.leading
        ends.endsDigits]
      by_cases short : whole.length ≤ maximumDigits
      · exact .inl (numberAfter_integer negative short ends)
      · right
        simp [numberAfter, fraction_of_endsNumber ends, exponent_of_endsNumber ends, short]
  | @double whole _ digits _ _ power negative isWhole fraction exponent broken =>
      have between := exponent.endsFraction ends
      rw [Json.readNumber_eq negative isWhole.areDigits isWhole.nonempty isWhole.leading
        (fraction.endsDigits between)]
      left
      have decimal : ¬ (digits.isEmpty = true ∧ power = none) := by
        rw [List.isEmpty_iff, not_and_or]
        exact broken
      simp only [numberAfter, fraction.fraction_eq between, exponent.exponent_eq ends, decimal,
        if_false]

theorem LongInteger.readNumber_eq (long : LongInteger text) :
    readNumber text = .error .longInteger := by
  cases long with
  | @spelled whole rest negative isWhole long ends =>
      have fractionSpelled := spellsFraction_fraction rest
      have noFraction := ends.noFraction _ _ fractionSpelled
      rw [noFraction] at fractionSpelled
      have powerSpelled := spellsPower_exponent rest
      have noPower := ends.noPower _ _ powerSpelled
      rw [Json.readNumber_eq negative isWhole.areDigits isWhole.nonempty isWhole.leading
        ends.noDigit]
      simp [numberAfter, noFraction, ← fractionSpelled.eq_of_nil, noPower, Nat.not_le.mpr long]

/-- Reading a number finds a flaw, or goes on behind whole digits. -/
theorem readNumber_cases (text : List Char) :
    (∃ flaw left, readNumber text = .error (.flaw flaw left)) ∨
      ∃ negative whole left, IsWhole whole ∧ (whole = ['0'] ∨ EndsDigits left) ∧
        text = signOf negative ++ (whole ++ left) ∧
        readNumber text = numberAfter negative whole left := by
  unfold readNumber
  split
  rename_i negative body signed
  have sign : text = signOf negative ++ body := by
    split at signed <;> cases signed <;> rfl
  split
  · rename_i left
    exact .inr ⟨negative, ['0'], left, ⟨areDigits_zeros 1, by simp, .inl rfl⟩, .inl rfl, sign, rfl⟩
  · rename_i digit others notZero
    split
    · rename_i decimal
      refine .inr ⟨negative, _, _, ⟨areDigits_takeWhile (digit :: others), ?_, .inr ?_⟩, .inr ?_,
        ?_, rfl⟩
      · simp [decimal]
      · intro first head
        rw [List.takeWhile_cons_of_pos decimal] at head
        cases head
        rintro rfl
        exact notZero rfl
      · exact endsDigits_dropWhile _
      · rw [List.takeWhile_append_dropWhile]
        exact sign
    · exact .inl ⟨_, _, rfl⟩
  · exact .inl ⟨_, _, rfl⟩

theorem spellsNumber_of_readNumber {value : Json} (read : readNumber text = .ok (value, rest)) :
    SpellsNumber text value rest := by
  rcases readNumber_cases text with
    ⟨flaw, left, stopped⟩ | ⟨negative, whole, left, isWhole, -, rfl, goesOn⟩
  · rw [stopped] at read
    cases read
  · rw [goesOn] at read
    exact spellsNumber_of_numberAfter isWhole read

/-- Reading a number stops without a flaw only at a whole number that is too long. -/
theorem longInteger_of_readNumber {stop : Stop} (read : readNumber text = .error stop) :
    (∃ flaw left, stop = .flaw flaw left) ∨ stop = .longInteger ∧ LongInteger text := by
  rcases readNumber_cases text with
    ⟨flaw, left, stopped⟩ | ⟨negative, whole, left, isWhole, ends, rfl, goesOn⟩
  · rw [stopped] at read
    cases read
    exact .inl ⟨flaw, left, rfl⟩
  · rw [goesOn] at read
    unfold numberAfter at read
    simp only at read
    split at read
    · rename_i bare
      rw [List.isEmpty_iff] at bare
      split at read
      · cases read
      · rename_i long
        cases read
        rw [Nat.not_le] at long
        refine .inr ⟨rfl, .spelled negative isWhole long ⟨?_, ?_, ?_⟩⟩
        · rcases ends with rfl | ends
          · exact absurd long (by decide)
          · exact ends
        · exact fun digits _ spelled => spelled.eq_nil_of_fraction bare.1
        · have same := (bare.1 ▸ spellsFraction_fraction left).eq_of_nil
          rw [← same] at bare
          exact fun power _ spelled => spelled.eq_none_of_exponent bare.2
    · cases read

end Json

end HelperKit
