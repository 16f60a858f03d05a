import HelperKit.Proofs.Console.Fitting

/-!
# Numbered rows

A table of options has a row for each label, in their order, and the row of a label is drawn with
its number, counted from one.  What is drawn is the number as it is, followed by a point, as long
as that fits into the column of numbers.
-/

namespace HelperKit

namespace Text

theorem mem_ofNat {number : Nat} {point : CodePoint} (member : point ∈ ofNat number) :
    48 ≤ point.value ∧ point.value < 58 := by
  obtain ⟨character, listed, rfl⟩ := List.mem_map.mp member
  have isDigit := Nat.isDigit_of_mem_toDigits (by decide) (by decide) listed
  simp only [Char.isDigit, Bool.and_eq_true, decide_eq_true_eq, ge_iff_le,
    UInt32.le_iff_toNat_le] at isDigit
  exact ⟨isDigit.1, Nat.lt_succ_of_le isDigit.2⟩

theorem isBlank_of_visible {point : CodePoint} (visible : 33 ≤ point.value ∧ point.value < 127) :
    point.isBlank = false := by
  simp only [CodePoint.isBlank, CodePoint.isIn, blankRanges, List.any_cons, List.any_nil,
    Bool.or_false, Bool.or_eq_false_iff, Bool.and_eq_false_iff, decide_eq_false_iff_not]
  omega

end Text

namespace Cell

theorem sideBySide_cons (leftWidth rightWidth : Nat) (first : Text) (lefts rights : List Text) :
    ∃ right rest, sideBySide leftWidth rightWidth (first :: lefts) rights =
      (first, right) :: rest := by
  obtain ⟨count, counted⟩ : ∃ count, max 1 (max (first :: lefts).length rights.length) = count + 1 :=
    Nat.exists_eq_add_one.mpr (by omega)
  unfold sideBySide
  rw [counted, List.range_succ_eq_map, List.map_cons]
  exact ⟨_, _, rfl⟩

end Cell

namespace Screen

/-- A number as a table shows it. -/
def numbered (number : Nat) : Text :=
  Text.ofNat number ++ "."

theorem mem_numbered {number : Nat} {point : CodePoint} (member : point ∈ numbered number) :
    46 ≤ point.value ∧ point.value < 58 := by
  rcases List.mem_append.mp member with digit | last
  · have range := Text.mem_ofNat digit
    omega
  · rw [List.mem_singleton.mp last]
    decide

/-- A row begins with its number, if that fits into the column of numbers. -/
theorem IsRow.begins {width number : Nat} {label row : Text} (isRow : IsRow width number label row)
    (fits : (Text.ofNat number).length < numberWidth) :
    Text.spaces 3 ++ numbered number <+: row := by
  obtain ⟨shown, -, drawn⟩ := isRow
  have ascii : (numbered number).IsAscii := by
    intro point member
    have range := mem_numbered member
    omega
  have short : (numbered number).cells ≤ numberWidth := by
    rw [ascii.cells_eq, numbered, List.length_append]
    exact fits
  have cell := Cell.draw_of_fits true optionPadding ascii.isLegible
    (fun _ => Cell.keepsEnd_of_ascii ascii) (by decide) short
  rw [← Styled.ofText_of_legible ascii.isLegible] at cell
  unfold optionRow at drawn
  obtain ⟨numbers, first, drawn⟩ := exists_of_bind_eq_ok drawn
  obtain ⟨labels, -, drawn⟩ := exists_of_bind_eq_ok drawn
  cases cell.symm.trans first
  cases drawn
  obtain ⟨right, rest, beside⟩ := Cell.sideBySide_cons (numberWidth + 2 * optionPadding)
    (width + 2 * optionPadding) (Text.spaces optionPadding ++ numbered number ++
      Text.spaces (Cell.filling numberWidth (numbered number)) ++ Text.spaces optionPadding) [] labels
  rw [beside, List.map_cons, List.flatten_cons]
  simp only [List.append_assoc]
  exact ⟨_, rfl⟩

/-- A table numbers labels: it has a row for each of them, in their order and numbered from one,
between two blank rows.  The row begins with the number if that fits into its column. -/
def Numbers (labels : List Text) (table : Text) : Prop :=
  ∃ (width : Nat) (rows : List Text), table = blankRow width ++ rows.flatten ++ blankRow width ∧
    rows.length = labels.length ∧
    ∀ index label, labels[index]? = some label →
      ∃ row, rows[index]? = some row ∧ IsRow width (index + 1) label row ∧
        ((Text.ofNat (index + 1)).length < numberWidth →
          Text.spaces 3 ++ numbered (index + 1) <+: row)

/-- A table of options numbers their labels. -/
theorem optionTable_numbers (labels : List Text) :
    ∃ table, optionTable labels = .ok table ∧ Numbers labels table := by
  obtain ⟨width, rows, drawn, size, placed⟩ := optionTable_eq_rows labels
  refine ⟨_, drawn, width, rows, rfl, size, fun index label known => ?_⟩
  obtain ⟨row, found, isRow⟩ := placed index label known
  exact ⟨row, found, isRow, isRow.begins⟩

end Screen

end HelperKit
