import HelperKit.Json.Printer
import HelperKit.Json.Reader
import HelperKit.Proofs.Text.Characters
import Mathlib.Tactic.IntervalCases

/-!
# Strings in documents

A string without lone surrogates is read back from its printed form, code point by
code point.  The printed form holds no control character, whatever the string holds.
-/

namespace HelperKit

namespace Json

/-- A control character is written with two zeros and two more digits, which are read
as its number. -/
private theorem escapeUnit?_hexadecimal {number : Nat} (small : number < 32) :
    ∃ third fourth : Char,
      CodePoint.hexadecimal 4 number = Text.ofChars ['0', '0', third, fourth] ∧
        escapeUnit? '0' '0' third fourth = some number ∧
        0x20 ≤ third.toNat ∧ 0x20 ≤ fourth.toNat := by
  refine ⟨Nat.digitChar (number / 16), Nat.digitChar (number % 16), ?_, ?_, ?_, ?_⟩ <;>
    interval_cases number <;> first | rfl | decide

private theorem ofValue_toNat {character : Char} (small : character.toNat < 32) :
    CodePoint.ofValue character.toNat = .char character := by
  unfold CodePoint.ofValue
  rw [if_pos (by omega), Char.ofNat_toNat]

/-- A printed code point is read as itself. -/
theorem stringAfter_printPoint (opening : List Char) (character : Char) {left : List Char}
    (nonempty : left ≠ []) :
    stringAfter opening ((printPoint (.char character)).characters ++ left) =
      prepend (.char character) (stringAfter opening left) := by
  obtain ⟨next, others, rfl⟩ := List.exists_cons_of_ne_nil nonempty
  unfold printPoint
  iterate 7
    split
    · rename_i same
      cases same
      rfl
  split
  · rename_i small
    obtain ⟨third, fourth, digits, unit, -⟩ := escapeUnit?_hexadecimal small
    have escape : (("\\u" : Text) ++
        CodePoint.hexadecimal 4 (CodePoint.char character).value).characters =
          ['\\', 'u', '0', '0', third, fourth] := by
      rw [digits]
      rfl
    rw [escape]
    simp only [List.cons_append, List.nil_append, stringAfter, unit, CodePoint.value,
      ofValue_toNat small]
  · rename_i quote slash _ _ _ _ _ printable
    have notQuote : character ≠ '"' := fun same => quote (same ▸ rfl)
    have notSlash : character ≠ '\\' := fun same => slash (same ▸ rfl)
    have large : ¬ character.toNat < 0x20 := printable
    simp [stringAfter, notSlash, large]

theorem stringAfter_print (opening rest : List Char) (characters : List Char) :
    stringAfter opening
        (Text.characters ((Text.ofChars characters).flatMap printPoint) ++ '"' :: rest) =
      .ok (Text.ofChars characters, rest) := by
  induction characters with
  | nil => rfl
  | cons character others induction =>
      have further : Text.characters ((Text.ofChars (character :: others)).flatMap printPoint) =
          (printPoint (.char character)).characters ++
            Text.characters ((Text.ofChars others).flatMap printPoint) := by
        rw [← Text.characters_append]
        rfl
      rw [further, List.append_assoc, stringAfter_printPoint opening character (by simp), induction]
      rfl

theorem joinSurrogates_ofChars (characters : List Char) :
    joinSurrogates (Text.ofChars characters) = Text.ofChars characters := by
  induction characters with
  | nil => rfl
  | cons character others induction =>
      change joinSurrogates (.char character :: Text.ofChars others) = _
      rw [joinSurrogates, induction]
      · rfl
      · intros
        contradiction

/-- A string is printed with lone surrogates exactly when it holds some. -/
theorem isUnicode_printString (text : Text) : (printString text).isUnicode = text.isUnicode := by
  have point : ∀ point : CodePoint, (printPoint point).isUnicode = point.toChar?.isSome := by
    intro point
    unfold printPoint
    iterate 7
      split
      · rename_i same
        cases same
        rfl
    split
    · rename_i small
      cases point with
      | char character =>
          rw [Text.isUnicode_append, CodePoint.hexadecimal, Text.isUnicode_ofChars]
          rfl
      | surrogate index =>
          simp only [CodePoint.value] at small
          omega
    · simp
  have points : Text.isUnicode (text.flatMap printPoint) = text.isUnicode := by
    induction text with
    | nil => rfl
    | cons first rest induction => simp [point, induction]
  unfold printString
  rw [Text.isUnicode_append, Text.isUnicode_append, points]
  simp [Text.ofString]

/-- A string is read back from its printed form. -/
theorem readString_print {text : Text} (rest : List Char) (unicode : text.isUnicode = true) :
    readString ((printString text).characters ++ rest) = .ok (text, rest) := by
  have same := Text.isUnicode_iff.mp unicode
  have printed : (printString text).characters ++ rest =
      '"' :: (Text.characters (text.flatMap printPoint) ++ '"' :: rest) := by
    simp [printString, Text.ofString]
  rw [printed, readString, same]
  simp only [List.drop_succ_cons, List.drop_zero, stringAfter_print, joinSurrogates_ofChars]

/-- A printed string holds no control character. -/
theorem value_ge_of_mem_printString {text : Text} {point : CodePoint}
    (member : point ∈ printString text) : 0x20 ≤ point.value := by
  have escape : ∀ first : CodePoint, ∀ point ∈ printPoint first, 0x20 ≤ point.value := by
    intro first point member
    unfold printPoint at member
    iterate 7
      split at member
      · rename_i same
        cases same
        revert point
        decide
    split at member
    · rename_i small
      obtain ⟨third, fourth, digits, -, thirdLarge, fourthLarge⟩ := escapeUnit?_hexadecimal small
      rw [digits] at member
      simp only [Text.ofString, Text.ofChars, List.mem_append, List.mem_map,
        List.mem_cons, List.not_mem_nil, or_false] at member
      rcases member with ⟨character, inside, rfl⟩ | ⟨character, inside, rfl⟩
      · have large : ("\\u".toList.all fun character => Nat.ble 0x20 character.toNat) = true := rfl
        exact Nat.le_of_ble_eq_true (List.all_eq_true.mp large character inside)
      · rcases inside with rfl | rfl | rfl | rfl
        · decide
        · decide
        · exact thirdLarge
        · exact fourthLarge
    · rename_i printable
      rw [List.mem_singleton] at member
      rw [member]
      exact Nat.le_of_not_lt printable
  unfold printString at member
  rw [List.mem_append, List.mem_append, List.mem_flatMap] at member
  rcases member with (quote | ⟨first, -, inside⟩) | quote
  · revert point
    decide
  · exact escape first point inside
  · revert point
    decide

end Json

end HelperKit
