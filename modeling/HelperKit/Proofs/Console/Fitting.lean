import HelperKit.Proofs.Console.Messages
import HelperKit.Proofs.Text.Lines
import Mathlib.Algebra.GroupWithZero.Nat
import Mathlib.Data.List.Fold
import Mathlib.Data.List.MinMax

/-!
# Texts that fit into their cells

A text that takes no more cells than its column has is drawn on one line, as it is, with spaces
behind it.  It does not matter which characters it holds: a text put behind another one takes no
fewer cells than alone, unless a joiner stands before it, so that the words of a text that fits
always fit one after the other.
-/

namespace HelperKit

/-- The controls, and the separators of lines and paragraphs. -/
def illegibleRanges : List (Nat × Nat) :=
  [(0x00, 0x1F), (0x7F, 0x9F), (0x2028, 0x2029)]

theorem CodePoint.isIn_of_covered {point : CodePoint} {narrow wide : List (Nat × Nat)}
    (covered : ∀ range ∈ narrow, ∃ other ∈ wide, other.1 ≤ range.1 ∧ range.2 ≤ other.2)
    (outside : point.isIn wide = false) : point.isIn narrow = false := by
  unfold isIn at outside ⊢
  rw [List.any_eq_false] at outside ⊢
  intro range listed inside
  obtain ⟨other, known, low, high⟩ := covered range listed
  apply outside other known
  simp only [Bool.and_eq_true, decide_eq_true_eq] at inside ⊢
  omega

namespace Text

variable {text before after : Text}

/-! ## Legible texts -/

/-- A text of plain characters, each of which takes one cell and is shown as it is. -/
def IsAscii (text : Text) : Prop :=
  ∀ point ∈ text, 32 ≤ point.value ∧ point.value < 127

theorem isAscii_spaces (count : Nat) : (spaces count).IsAscii := by
  intro point member
  rw [List.eq_of_mem_replicate member]
  decide

/-- A text on one line that holds no control. -/
def IsLegible (text : Text) : Prop :=
  ∀ point ∈ text, point.isIn illegibleRanges = false

instance (text : Text) : Decidable text.IsLegible :=
  inferInstanceAs (Decidable (∀ point ∈ text, _))

theorem IsLegible.notMem (legible : text.IsLegible) {point : CodePoint}
    (illegible : point.isIn illegibleRanges = true) : point ∉ text := by
  intro member
  cases illegible.symm.trans (legible point member)

theorem IsAscii.isLegible (ascii : text.IsAscii) : text.IsLegible := by
  intro point member
  have here := ascii point member
  simp only [CodePoint.isIn, illegibleRanges, List.any_cons, List.any_nil, Bool.or_false,
    Bool.or_eq_false_iff, Bool.and_eq_false_iff, decide_eq_false_iff_not]
  omega

theorem IsLegible.sanitise_eq (legible : text.IsLegible) : Styled.sanitise text = text := by
  refine List.filter_eq_self.mpr fun point member => ?_
  have kept : Styled.isDropped point = false :=
    CodePoint.isIn_of_covered (by decide) (legible point member)
  rw [kept]
  rfl

theorem IsLegible.endsLine_eq (legible : text.IsLegible) :
    ∀ point ∈ text, Cell.endsLine point = false :=
  fun point member => CodePoint.isIn_of_covered (by decide) (legible point member)

/-! ## Counting cells -/

theorem cells_of_ascii {point : CodePoint} (ascii : 32 ≤ point.value ∧ point.value < 127) :
    point.cells = 1 := by
  unfold CodePoint.cells
  rw [if_pos (by simpa using ascii)]

/-- A plain text takes as many cells as it is long. -/
theorem IsAscii.cells_eq (ascii : text.IsAscii) : text.cells = text.length := by
  have counted : ∀ last, cellsFrom false last text = text.length := by
    induction text with
    | nil => intro last; rfl
    | cons point rest induction =>
        intro last
        have here := ascii point List.mem_cons_self
        have joins : point ≠ CodePoint.joiner := by
          rintro rfl
          exact absurd here (by decide)
        have selects : point ≠ CodePoint.emojiSelector := by
          rintro rfl
          exact absurd here (by decide)
        have single := cells_of_ascii here
        have further := induction (fun other member => ascii other (List.mem_cons_of_mem _ member))
          (some point)
        simp only [cellsFrom, if_neg joins, if_neg selects, single, further, List.length_cons]
        simp [Nat.add_comm]
  exact counted none

/-- Counting the cells of a text goes on behind its first part.  What follows is joined only to a
joiner. -/
theorem cellsFrom_append (joined : Bool) (last : Option CodePoint) (before after : Text) :
    ∃ joined' last', cellsFrom joined last (before ++ after) =
        cellsFrom joined last before + cellsFrom joined' last' after ∧
      (joined' = true →
        before = [] ∧ joined = true ∨ before.getLast? = some CodePoint.joiner) := by
  induction before generalizing joined last with
  | nil => exact ⟨joined, last, (Nat.zero_add _).symm, fun holds => .inl ⟨rfl, holds⟩⟩
  | cons point before induction =>
      have later : ∀ {joined'' : Bool}, (joined'' = true →
          before = [] ∧ false = true ∨ before.getLast? = some CodePoint.joiner) →
          joined'' = true → point :: before = [] ∧ joined = true ∨
            (point :: before).getLast? = some CodePoint.joiner := by
        intro joined'' known holds
        rcases known holds with ⟨-, impossible⟩ | ends
        · cases impossible
        · exact .inr (by rw [List.getLast?_cons, ends]; rfl)
      -- One case for each branch of the count; only the second one leaves a join pending.
      by_cases swallowed : joined = true
      · obtain ⟨joined', last', counted, known⟩ := induction false last
        refine ⟨joined', last', ?_, later known⟩
        simpa only [List.cons_append, cellsFrom, if_pos swallowed] using counted
      · by_cases joins : point = CodePoint.joiner
        · obtain ⟨joined', last', counted, known⟩ := induction true last
          refine ⟨joined', last', ?_, fun holds => .inr ?_⟩
          · simpa only [List.cons_append, cellsFrom, if_neg swallowed, if_pos joins] using counted
          · rcases known holds with ⟨rfl, -⟩ | ends
            · exact congrArg some joins
            · rw [List.getLast?_cons, ends]
              rfl
        · by_cases selects : point = CodePoint.emojiSelector
          · obtain ⟨joined', last', counted, known⟩ := induction false none
            refine ⟨joined', last', ?_, later known⟩
            simp only [List.cons_append, cellsFrom, if_neg swallowed, if_neg joins,
              if_pos selects, counted, Nat.add_assoc]
          · by_cases thin : point.cells = 0
            · obtain ⟨joined', last', counted, known⟩ := induction false last
              refine ⟨joined', last', ?_, later known⟩
              simpa only [List.cons_append, cellsFrom, if_neg swallowed, if_neg joins,
                if_neg selects, if_pos thin] using counted
            · obtain ⟨joined', last', counted, known⟩ := induction false (some point)
              refine ⟨joined', last', ?_, later known⟩
              simp only [List.cons_append, cellsFrom, if_neg swallowed, if_neg joins,
                if_neg selects, if_neg thin, counted, Nat.add_assoc]

/-- A variation selector can only widen what it is about. -/
theorem cellsFrom_none_le (joined : Bool) (last : Option CodePoint) (text : Text) :
    cellsFrom joined none text ≤ cellsFrom joined last text := by
  induction text generalizing joined last with
  | nil => exact Nat.le_refl _
  | cons point rest induction =>
      unfold cellsFrom
      split
      · exact induction false last
      · split
        · exact induction true last
        · split
          · simp
          · split
            · exact induction false last
            · exact Nat.le_refl _

theorem cells_le_append (before after : Text) : before.cells ≤ (before ++ after).cells := by
  obtain ⟨joined, last, counted, -⟩ := cellsFrom_append false none before after
  exact (Nat.le_add_right _ _).trans_eq counted.symm

theorem stripEnd_prefix (text : Text) : text.stripEnd <+: text :=
  List.rdropWhile_prefix CodePoint.isBlank text

theorem cells_stripEnd_le (text : Text) : text.stripEnd.cells ≤ text.cells := by
  obtain ⟨behind, whole⟩ := text.stripEnd_prefix
  calc text.stripEnd.cells ≤ (text.stripEnd ++ behind).cells := cells_le_append _ _
    _ = text.cells := congrArg cells whole

theorem cells_spaces (count : Nat) : (spaces count).cells = count := by
  rw [(isAscii_spaces count).cells_eq]
  exact List.length_replicate

/-- What is not joined takes as many cells behind a text as alone, or one more. -/
theorem cells_add_le (loose : before.getLast? ≠ some CodePoint.joiner) :
    before.cells + after.cells ≤ (before ++ after).cells := by
  obtain ⟨joined, last, counted, known⟩ := cellsFrom_append false none before after
  have unjoined : joined = false := by
    cases joined with
    | false => rfl
    | true =>
        rcases known rfl with ⟨-, impossible⟩ | ends
        · cases impossible
        · exact absurd ends loose
  subst unjoined
  calc before.cells + after.cells
      ≤ before.cells + cellsFrom false last after :=
        Nat.add_le_add_left (cellsFrom_none_le false last after) _
    _ = (before ++ after).cells := counted.symm

/-- A space behind a text takes a cell, or none if it is joined. -/
theorem cells_append_spaces_le (text : Text) (count : Nat) :
    (text ++ spaces count).cells ≤ text.cells + count := by
  have few : ∀ count joined last, cellsFrom joined last (spaces count) ≤ count := by
    intro count
    induction count with
    | zero => exact fun _ _ => Nat.le_refl _
    | succ count induction =>
        intro joined last
        have first : spaces (count + 1) = .char ' ' :: spaces count := rfl
        have narrow : (CodePoint.char ' ').cells = 1 := by decide
        rw [first, cellsFrom]
        split
        · exact (induction false last).trans (Nat.le_succ _)
        · rw [if_neg (by decide), if_neg (by decide), narrow, if_neg (by decide), Nat.add_comm]
          exact Nat.succ_le_succ (induction false _)
  obtain ⟨joined, last, counted, -⟩ := cellsFrom_append false none text (spaces count)
  calc (text ++ spaces count).cells
      = text.cells + cellsFrom joined last (spaces count) := counted
    _ ≤ text.cells + count := Nat.add_le_add_left (few count joined last) _

end Text

namespace Wrap

variable {width : Nat}

theorem flatten_wordsFrom (current : Text) (spoken ended : Bool) (rest : Text) :
    (wordsFrom current spoken ended rest).flatten = current ++ rest := by
  induction rest generalizing current spoken ended with
  | nil => simp [wordsFrom]
  | cons point rest induction =>
      unfold wordsFrom
      split
      · rw [induction, List.append_assoc]
        rfl
      · split
        · rw [List.flatten_cons, induction]
          rfl
        · rw [induction, List.append_assoc]
          rfl

/-- A blank before a word is no joiner, so that the words of a text take no more cells one by one
than together. -/
theorem sum_cells_wordsFrom_le (current : Text) (spoken ended : Bool) (rest : Text)
    (loose : ended = true → current.getLast? ≠ some CodePoint.joiner) :
    ((wordsFrom current spoken ended rest).map Text.cells).sum ≤ (current ++ rest).cells := by
  induction rest generalizing current spoken ended with
  | nil => simp [wordsFrom]
  | cons point rest induction =>
      have grown : current ++ point :: rest = (current ++ [point]) ++ rest := by simp
      unfold wordsFrom
      split
      · rename_i blank
        rw [grown]
        refine induction (current ++ [point]) spoken spoken fun _ ends => ?_
        rw [List.getLast?_append_of_ne_nil _ (by simp)] at ends
        cases ends
        exact absurd blank (by decide)
      · split
        · rename_i behind
          have further := induction [point] true false (by simp)
          calc (current.cells + ((wordsFrom [point] true false rest).map Text.cells).sum)
              ≤ current.cells + Text.cells ([point] ++ rest) := Nat.add_le_add_left further _
            _ ≤ (current ++ point :: rest).cells := Text.cells_add_le (loose behind)
        · rw [grown]
          exact induction (current ++ [point]) true false (by simp)

theorem fill_of_fits {folding : Bool} {current : Text} {column : Nat} {words : List Text}
    (fits : column + (words.map Text.cells).sum ≤ width) :
    fill folding width current column words = [current ++ words.flatten] := by
  induction words generalizing current column with
  | nil => simp [fill]
  | cons word words induction =>
      rw [List.map_cons, List.sum_cons] at fits
      have size := word.cells_stripEnd_le
      rw [fill]
      simp only
      rw [if_pos (by omega), induction (by omega), List.flatten_cons, List.append_assoc]

theorem lines_of_fits {folding : Bool} {text : Text} (fits : text.cells ≤ width) :
    lines folding width text = [text] := by
  have words := sum_cells_wordsFrom_le [] false false text (by simp)
  unfold lines
  rw [fill_of_fits (by rw [Nat.zero_add]; exact words.trans fits), Wrap.words, flatten_wordsFrom]
  rfl

end Wrap

namespace Styled

variable {text : Text} {width : Nat} {pieces : List Text}

theorem ofText_of_legible (legible : text.IsLegible) : ofText text = ⟨text, []⟩ := by
  rw [ofText, legible.sanitise_eq]

theorem contains_of_notMem {point : CodePoint} (absent : point ∉ text) :
    text.contains [point] = false := by
  induction text with
  | nil => rfl
  | cons first rest induction =>
      obtain ⟨other, further⟩ := not_or.mp (mt List.mem_cons.mpr absent)
      have differs : (point == first) = false := by simpa using other
      rw [Text.contains, induction further, Text.startsWith, List.isPrefixOf_cons_cons, differs]
      rfl

theorem lines_of_notMem {styled : Styled} (whole : .char '\n' ∉ styled.text) :
    styled.lines = [styled] := by
  have single : styled.text.lines = [styled.text] := Text.splitOn_of_notMem whole
  unfold lines slices
  rw [single]
  exact if_pos rfl

theorem expandTabs_of_notMem {styled : Styled} (whole : .char '\t' ∉ styled.text) :
    styled.expandTabs = styled := by
  unfold expandTabs
  rw [contains_of_notMem whole]
  rfl

theorem fitPieces_of_eq (full : cellsOf pieces = width) :
    fitPieces width pieces = pieces := by
  unfold fitPieces
  rw [if_neg (by omega), if_neg (by omega)]

theorem pieces_of_bare (nonempty : text ≠ []) : Styled.pieces ⟨text, []⟩ = [text] := by
  have whole : ∀ (rest current : Text) (place : Nat), current ++ rest ≠ [] →
      cutAt [] place current rest = [current ++ rest] := by
    intro rest
    induction rest with
    | nil =>
        intro current place some
        rw [List.append_nil] at some ⊢
        simp [cutAt, some]
    | cons point rest induction =>
        intro current place _
        rw [cutAt, if_neg (by simp), induction _ _ (by simp), List.append_assoc]
        rfl
  exact whole text [] 0 nonempty

theorem cellsOf_eq_sum (pieces : List Text) : cellsOf pieces = (pieces.map Text.cells).sum := by
  rw [List.sum_eq_foldl_nat, List.foldl_map]
  rfl

theorem fitPieces_of_le (fits : cellsOf pieces ≤ width) :
    (fitPieces width pieces).flatten = pieces.flatten ++ Text.spaces (width - cellsOf pieces) ∧
      cellsOf (fitPieces width pieces) = width := by
  rcases Nat.lt_or_eq_of_le fits with less | full
  · have filled : fitPieces width pieces = pieces ++ [Text.spaces (width - cellsOf pieces)] := by
      unfold fitPieces
      rw [if_neg (Nat.not_lt_of_le fits), if_pos less]
    rw [filled]
    refine ⟨by simp, ?_⟩
    rw [cellsOf, List.foldl_append]
    change cellsOf pieces + _ = width
    rw [Text.cells_spaces, Nat.add_sub_cancel' fits]
  · rw [fitPieces_of_eq full, full, Nat.sub_self]
    exact ⟨(List.append_nil _).symm, rfl⟩

end Styled

namespace Cell

variable {text : Text} {width : Nat}

/-- The end of a text is kept when its lines may be broken: there are no blanks at it, or there are
no more code points than cells. -/
def KeepsEnd (text : Text) : Prop :=
  text.stripEnd = text ∨ text.length ≤ text.cells

instance (text : Text) : Decidable (KeepsEnd text) :=
  inferInstanceAs (Decidable (_ ∨ _))

theorem keepsEnd_of_ascii (ascii : text.IsAscii) : KeepsEnd text :=
  .inr ascii.cells_eq.ge

theorem trim_of_fits (kept : KeepsEnd text) (fits : text.cells ≤ width) :
    Styled.trim width ⟨text, []⟩ = ⟨text, []⟩ := by
  have whole : text.stripEnd ++ text.drop text.stripEnd.length = text :=
    List.prefix_iff_eq_append.mp text.stripEnd_prefix
  have all : (text.drop text.stripEnd.length).take (width - text.stripEnd.length) =
      text.drop text.stripEnd.length := by
    apply List.take_of_length_le
    rw [List.length_drop]
    rcases kept with stripped | short
    · rw [stripped]
      omega
    · omega
  simp [Styled.trim, all, whole, Styled.replace]

theorem shorten_of_fits (fits : text.cells ≤ width) :
    shorten width ⟨text, []⟩ = ⟨text.padTo width, []⟩ := by
  rw [shorten, if_neg (Nat.not_lt_of_le fits)]
  simp [Styled.replace, Text.padTo]

theorem drawLine_of_fits {wrapping : Bool} (untabbed : .char '\t' ∉ text)
    (kept : wrapping = true → KeepsEnd text) (fits : text.cells ≤ width) :
    drawLine wrapping width ⟨text, []⟩ = [⟨text.padTo width, []⟩] := by
  unfold drawLine
  rw [Styled.expandTabs_of_notMem untabbed]
  cases wrapping with
  | false => exact congrArg ([·]) (shorten_of_fits fits)
  | true =>
      have slices : (Styled.mk text []).slices 0 (Wrap.lines false width text) = [⟨text, []⟩] := by
        rw [Wrap.lines_of_fits fits]
        rfl
      simp only [if_true, slices, List.map_cons, List.map_nil, trim_of_fits (kept rfl) fits,
        shorten_of_fits fits]

/-- The number of spaces behind a text in a cell of a width that it fits into: one for each cell that
is left, and one for each of these that is joined to the text and takes no cell. -/
def filling (width : Nat) (text : Text) : Nat :=
  width - text.cells + (width - (text.padTo width).cells)

/-- A line gets its padding, and spaces in place of the cells that are still missing. -/
theorem pad_of_fits (padding : Nat) (wide : width ≠ 0) (fits : text.cells ≤ width) :
    pad padding width ⟨text.padTo width, []⟩ =
      Text.spaces padding ++ text ++ Text.spaces (filling width text) ++ Text.spaces padding := by
  have some : text.padTo width ≠ [] := by
    intro none
    obtain ⟨rfl, nothing⟩ := List.append_eq_nil_iff.mp none
    simp [Text.spaces, Text.cells, Text.cellsFrom] at nothing
    exact wide nothing
  have size : (text.padTo width).cells ≤ width := by
    calc (text.padTo width).cells
        ≤ text.cells + (width - text.cells) := text.cells_append_spaces_le _
      _ = width := Nat.add_sub_cancel' fits
  have single : Styled.cellsOf [text.padTo width] = (text.padTo width).cells := by
    simp [Styled.cellsOf_eq_sum]
  obtain ⟨together, full⟩ := Styled.fitPieces_of_le (single.trans_le size)
  have whole : Styled.cellsOf ([Text.spaces padding] ++
      Styled.fitPieces width [text.padTo width] ++ [Text.spaces padding]) =
        width + 2 * padding := by
    simp only [Styled.cellsOf_eq_sum, List.map_append, List.sum_append, List.map_cons, List.map_nil,
      List.sum_cons, List.sum_nil, Text.cells_spaces] at full ⊢
    omega
  unfold pad
  rw [Styled.pieces_of_bare some, Styled.fitPieces_of_eq whole, List.flatten_append,
    List.flatten_append, together, single]
  simp [Text.padTo, Text.spaces, filling, ← List.replicate_append_replicate]

theorem draw_of_fits (wrapping : Bool) (padding : Nat) (legible : text.IsLegible)
    (kept : wrapping = true → KeepsEnd text) (wide : width ≠ 0) (fits : text.cells ≤ width) :
    draw wrapping padding width ⟨text, []⟩ = .ok [Text.spaces padding ++ text ++
      Text.spaces (filling width text) ++ Text.spaces padding] := by
  have single : (Styled.mk text []).lines = [⟨text, []⟩] :=
    Styled.lines_of_notMem (legible.notMem (by decide))
  have untabbed : .char '\t' ∉ text := legible.notMem (by decide)
  unfold draw
  rw [if_neg wide, single]
  simp only [List.flatMap_cons, List.flatMap_nil, List.append_nil,
    drawLine_of_fits untabbed kept fits, List.map_cons, List.map_nil,
    pad_of_fits padding wide fits]
  rfl

/-! ## Columns -/

theorem widthOf_le_columnWidth {cells : List Styled} {cell : Styled} (listed : cell ∈ cells) :
    widthOf cell.text ≤ columnWidth cells := by
  unfold columnWidth
  rw [List.foldl_eq_foldr]
  exact List.le_max_of_le' 0 (List.mem_map.mpr ⟨cell, listed, rfl⟩) (Nat.le_refl _)

theorem widthOf_of_legible (legible : text.IsLegible) : widthOf text = text.cells := by
  have unified : (text.map fun point => if endsLine point then .char '\n' else point) = text := by
    refine (List.map_congr_left fun point member => ?_).trans (List.map_id text)
    rw [legible.endsLine_eq point member]
    rfl
  have one : Text.lines text = [text] := Text.splitOn_of_notMem (legible.notMem (by decide))
  unfold widthOf
  simp only [unified, one, List.map_cons, List.map_nil, List.foldl_cons, List.foldl_nil]
  exact Nat.zero_max _

theorem cells_le_columnWidth {cells : List Styled} (legible : text.IsLegible)
    (listed : ⟨text, []⟩ ∈ cells) : text.cells ≤ columnWidth cells :=
  (widthOf_of_legible legible).ge.trans (widthOf_le_columnWidth listed)

end Cell

end HelperKit
