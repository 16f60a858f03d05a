import HelperKit.Console.Cell

/-!
# What appears on the console

Texts on the console lose the controls that would move the cursor, and tabs
become spaces.  Tables align their columns by the cells that texts take.
-/

namespace HelperKit.Screen

/-- A styled text as it appears. -/
def appearance (styled : Styled) : Text :=
  Text.unlines (styled.lines.map fun line => line.expandTabs.text)

/-- A text as it appears. -/
def plain (text : Text) : Text :=
  appearance (.ofText text)

/-- A text on lines of its own. -/
def line (text : Text) : Text :=
  plain text ++ "\n"

/-- A message in a style.  The message itself is not marked up. -/
def message (style : String) (message : Text) : Except Failure Text :=
  (Markup.render
    ("[" ++ Text.ofString style ++ "]" ++ Markup.escape message ++
      "[/" ++ Text.ofString style ++ "]")).map fun shown => appearance shown ++ "\n"

/-- A message about a success. -/
def success (text : Text) : Except Failure Text :=
  message "bold green" text

/-- A message about an error. -/
def error (text : Text) : Except Failure Text :=
  message "bold red" text

/-- A warning. -/
def warning (text : Text) : Except Failure Text :=
  message "bold yellow" text

/-- A piece of information. -/
def info (text : Text) : Except Failure Text :=
  message "cyan" text

/-! ## Option tables -/

/-- The width of the column of numbers. -/
def numberWidth : Nat := 4

/-- The padding of the cells in a table of options. -/
def optionPadding : Nat := 2

/-- The lines of an option in a table whose labels take `width` cells. -/
def optionRow (width number : Nat) (label : Styled) : Except Failure Text := do
  let number ← Cell.draw true optionPadding numberWidth (.ofText (Text.ofNat number ++ "."))
  let label ← Cell.draw true optionPadding width label
  let rows := Cell.sideBySide (numberWidth + 2 * optionPadding) (width + 2 * optionPadding)
    number label
  let lines : List Text := rows.map fun (number, label) => " " ++ number ++ " " ++ label ++ " \n"
  pure lines.flatten

/-- A numbered table of labels between two blank rows. -/
def optionTable (labels : List Text) : Except Failure Text := do
  let shown ← labels.mapM fun label => Markup.render (Markup.escape label)
  let width := Cell.columnWidth shown
  let blank := Text.spaces (numberWidth + width + 4 * optionPadding + 3) ++ "\n"
  let rows ← shown.zipIdx.mapM fun (label, index) => optionRow width (index + 1) label
  pure (blank ++ rows.flatten ++ blank)

/-! ## Summary tables -/

/-- The characters that frame a table: at its left end, along its lines, between
its columns, and at its right end. -/
structure Rule where
  left : Char
  along : Char
  between : Char
  right : Char

/-- A line of a frame around two columns. -/
def Rule.draw (rule : Rule) (first second : Nat) : Text :=
  Text.ofChar rule.left ++ Text.times (first + 2) (.ofChar rule.along) ++
    Text.ofChar rule.between ++ Text.times (second + 2) (.ofChar rule.along) ++
    Text.ofChar rule.right ++ "\n"

/-- A row of a table; `bar` stands before, between and after the cells.  Only the
second column is broken between words. -/
def tableRow (bar : Char) (first second : Nat) (item value : Styled) : Except Failure Text := do
  let item ← Cell.draw false 1 first item
  let value ← Cell.draw true 1 second value
  let bar := Text.ofChar bar
  let rows := Cell.sideBySide (first + 2) (second + 2) item value
  let lines : List Text := rows.map fun (item, value) =>
    bar ++ item ++ bar ++ value ++ bar ++ "\n"
  pure lines.flatten

/-- The title of a table that is given none. -/
def standardTitle : Text := "Summary"

/-- A title over a table of items and values, followed by an empty line.  Items,
values and title are marked up.  What is wrong with them is found column by
column, then in the title, and then, as far as styles are concerned, in the
rows. -/
def summaryTable (rows : List (Text × Text)) (title : Text) : Except Failure Text := do
  let items ← rows.mapM fun row => Markup.render row.1
  let values ← rows.mapM fun row => Markup.render row.2
  let first := Cell.columnWidth (.ofText "Item" :: items)
  let second := Cell.columnWidth (.ofText "Value" :: values)
  let heading ←
    if title = [] then pure []
    else do
      let shown ← Markup.render title
      Cell.drawTitle (first + second + 7) shown
  let header ← tableRow '┃' first second (.ofText "Item") (.ofText "Value")
  let body ← (items.zip values).mapM fun (item, value) => tableRow '│' first second item value
  let heading : List Text := heading.map fun line => line ++ "\n"
  pure (heading.flatten ++
    Rule.draw ⟨'┏', '━', '┳', '┓'⟩ first second ++ header ++
    Rule.draw ⟨'┡', '━', '╇', '┩'⟩ first second ++ body.flatten ++
    Rule.draw ⟨'└', '─', '┴', '┘'⟩ first second ++ "\n")

end HelperKit.Screen
