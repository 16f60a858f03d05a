import HelperKit.Proofs.Console.Fitting
import HelperKit.Proofs.Console.Literal

/-!
# Tables that show what they sum up

A table of items and values marks them up.  It shows them as they are, each pair on a row of its
own, as long as they hold no markup and stay on one line.
-/

namespace HelperKit

theorem Markup.IsPlain.render_legible {text : Text} (plain : Markup.IsPlain text)
    (legible : text.IsLegible) : Markup.render text = .ok ⟨text, []⟩ := by
  rw [Markup.render_of_plain plain, Styled.ofText_of_legible legible]

namespace Styled

variable {line : Styled}

theorem IsBare.centre (bare : line.IsBare) (width : Nat) : (Cell.centre width line).IsBare := by
  have stripped : (line.replace line.text.stripEnd).IsBare := bare.replace _
  unfold Cell.centre
  simp only
  split
  · exact congrArg _ (stripped.replace _)
  · exact congrArg _ stripped

end Styled

namespace Cell

theorem drawTitle_eq_ok (width : Nat) {title : Styled} (bare : title.IsBare) :
    ∃ lines, drawTitle width title = .ok lines := by
  have showable : (title.lines.flatMap fun line =>
      (line.expandTabs.slices 0 (Wrap.lines true width line.expandTabs.text)).map fun line =>
        centre width (line.trim width)).all Styled.isShowable = true := by
    rw [List.all_eq_true]
    intro drawn member
    obtain ⟨line, part, member⟩ := List.mem_flatMap.mp member
    obtain ⟨piece, cut, rfl⟩ := List.mem_map.mp member
    have expanded : line.expandTabs.IsBare := (bare.slices _ _ line part).expandTabs
    exact (((expanded.slices _ _ piece cut).replace _).centre width).isShowable
  exact ⟨_, if_pos showable⟩

end Cell

namespace Screen

variable {rows : List (Text × Text)} {entry : Text × Text}

/-- The line of a table that shows an item and a value as they are: both stand behind a bar and a
space, and have only spaces behind them, the last one before the next bar. -/
def entryLine (bar : Char) (first second : Nat) (entry : Text × Text) : Text :=
  Text.ofChar bar ++ (Text.spaces 1 ++ entry.1 ++ Text.spaces (Cell.filling first entry.1) ++
    Text.spaces 1) ++
  Text.ofChar bar ++ (Text.spaces 1 ++ entry.2 ++ Text.spaces (Cell.filling second entry.2) ++
    Text.spaces 1) ++
  Text.ofChar bar ++ "\n"

/-- The names of the columns. -/
def columnNames : Text × Text :=
  ("Item", "Value")

/-- The width of a column that has room for its name and for a part of every entry. -/
def widthFor (part : Text × Text → Text) (entries : List (Text × Text)) : Nat :=
  Cell.columnWidth ((columnNames :: entries).map fun entry => ⟨part entry, []⟩)

/-- A table shows items and values: it has a line for each pair of them, in their order, inside a
frame and below a heading and the names of the columns. -/
def Shows (entries : List (Text × Text)) (table : Text) : Prop :=
  let first := widthFor Prod.fst entries
  let second := widthFor Prod.snd entries
  ∃ heading : Text, table =
    heading ++ Rule.draw ⟨'┏', '━', '┳', '┓'⟩ first second ++
      entryLine '┃' first second columnNames ++
      Rule.draw ⟨'┡', '━', '╇', '┩'⟩ first second ++
      (entries.map (entryLine '│' first second)).flatten ++
      Rule.draw ⟨'└', '─', '┴', '┘'⟩ first second ++ "\n"

/-- An item and a value that are shown as they are. -/
structure IsLiteral (entry : Text × Text) : Prop where
  item : entry.1.IsLegible ∧ Markup.IsPlain entry.1
  value : entry.2.IsLegible ∧ Markup.IsPlain entry.2
  keeps : Cell.KeepsEnd entry.2

theorem mapM_eq_map {α β : Type} {step : α → Except Failure β} {value : α → β} {items : List α}
    (returns : ∀ item ∈ items, step item = .ok (value item)) :
    items.mapM step = .ok (items.map value) := by
  obtain ⟨values, collected, same⟩ := mapM_eq_ok fun item member => ⟨_, returns item member⟩
  have expected : items.map step = (items.map value).map .ok :=
    (List.map_congr_left returns).trans List.map_map.symm
  have injective : Function.Injective (Except.ok : β → Except Failure β) :=
    fun _ _ => Except.ok.inj
  rw [collected, injective.list_map (same.symm.trans expected)]

theorem IsLiteral.render_item (literal : IsLiteral entry) :
    Markup.render entry.1 = .ok ⟨entry.1, []⟩ :=
  literal.item.2.render_legible literal.item.1

theorem IsLiteral.render_value (literal : IsLiteral entry) :
    Markup.render entry.2 = .ok ⟨entry.2, []⟩ :=
  literal.value.2.render_legible literal.value.1

theorem tableRow_of_fits (bar : Char) {first second : Nat} (literal : IsLiteral entry)
    (wide : first ≠ 0 ∧ second ≠ 0) (fits : entry.1.cells ≤ first ∧ entry.2.cells ≤ second) :
    tableRow bar first second ⟨entry.1, []⟩ ⟨entry.2, []⟩ =
      .ok (entryLine bar first second entry) := by
  have item := Cell.draw_of_fits false 1 literal.item.1 (fun wraps => absurd wraps (by decide))
    wide.1 fits.1
  have value := Cell.draw_of_fits true 1 literal.value.1 (fun _ => literal.keeps) wide.2 fits.2
  unfold tableRow
  rw [item, value]
  exact congrArg Except.ok (List.append_nil _)

theorem isLiteral_columnNames : IsLiteral columnNames where
  item := by decide
  value := by decide
  keeps := by decide

theorem IsLiteral.fits (literal : IsLiteral entry) (rows : List (Text × Text))
    (listed : entry ∈ columnNames :: rows) :
    entry.1.cells ≤ widthFor Prod.fst rows ∧ entry.2.cells ≤ widthFor Prod.snd rows :=
  ⟨Cell.cells_le_columnWidth literal.item.1 (List.mem_map_of_mem listed),
    Cell.cells_le_columnWidth literal.value.1 (List.mem_map_of_mem listed)⟩

theorem widthFor_ne_zero (rows : List (Text × Text)) :
    widthFor Prod.fst rows ≠ 0 ∧ widthFor Prod.snd rows ≠ 0 := by
  have named := isLiteral_columnNames.fits rows List.mem_cons_self
  have sizes : columnNames.1.cells = 4 ∧ columnNames.2.cells = 5 := by decide
  omega

/-- A table shows items and values that are legible and hold no markup. -/
theorem summaryTable_of_literal {title : Text} (untitled : Markup.IsPlain title)
    (literal : ∀ entry ∈ rows, IsLiteral entry) :
    ∃ table, summaryTable rows title = .ok table ∧ Shows rows table := by
  have items : rows.mapM (fun row => Markup.render row.1) =
      .ok (rows.map fun row => ⟨row.1, []⟩) :=
    mapM_eq_map fun row listed => (literal row listed).render_item
  have values : rows.mapM (fun row => Markup.render row.2) =
      .ok (rows.map fun row => ⟨row.2, []⟩) :=
    mapM_eq_map fun row listed => (literal row listed).render_value
  have first : Cell.columnWidth (.ofText "Item" :: rows.map fun row => ⟨row.1, []⟩) =
      widthFor Prod.fst rows := rfl
  have second : Cell.columnWidth (.ofText "Value" :: rows.map fun row => ⟨row.2, []⟩) =
      widthFor Prod.snd rows := rfl
  have header : tableRow '┃' (widthFor Prod.fst rows) (widthFor Prod.snd rows)
      (.ofText "Item") (.ofText "Value") = .ok (entryLine '┃' _ _ columnNames) :=
    tableRow_of_fits '┃' isLiteral_columnNames (widthFor_ne_zero rows)
      (isLiteral_columnNames.fits rows List.mem_cons_self)
  have body : (rows.map fun row => (Styled.mk row.1 [], Styled.mk row.2 [])).mapM (fun pair =>
      tableRow '│' (widthFor Prod.fst rows) (widthFor Prod.snd rows) pair.1 pair.2) =
      .ok ((rows.map fun row => (Styled.mk row.1 [], Styled.mk row.2 [])).map fun pair =>
        entryLine '│' (widthFor Prod.fst rows) (widthFor Prod.snd rows)
          (pair.1.text, pair.2.text)) := by
    refine mapM_eq_map fun pair member => ?_
    obtain ⟨row, listed, rfl⟩ := List.mem_map.mp member
    exact tableRow_of_fits '│' (literal row listed) (widthFor_ne_zero rows)
      ((literal row listed).fits rows (List.mem_cons_of_mem _ listed))
  -- All steps return what is known of them, so that the table is a closed expression.
  unfold summaryTable
  simp only [items, values, first, second, header, List.zip_map', body, List.map_map, bind,
    Except.bind]
  split
  · exact ⟨_, rfl, _, rfl⟩
  · obtain ⟨heading, titled⟩ := Cell.drawTitle_eq_ok
      (widthFor Prod.fst rows + widthFor Prod.snd rows + 7)
      (show (Styled.ofText title).IsBare from rfl)
    simp only [Markup.render_of_plain untitled, titled]
    exact ⟨_, rfl, _, rfl⟩

end Screen

end HelperKit
