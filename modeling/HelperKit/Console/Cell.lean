import HelperKit.Console.Markup
import HelperKit.Console.Wrap

/-!
# Cells of tables

A column is as wide as the widest line of its cells.  It is measured before tabs
are filled and breaks lines in more places than are broken when a cell is drawn,
so that a line may turn out too wide: then it is broken between words, if the
column allows it, and what is still too wide ends with an ellipsis.
-/

namespace HelperKit.Cell

/-- Whether a line ends at a code point when a cell is measured: besides the line
feed, at the separators of records, the next-line control, and the separators of
lines and paragraphs. -/
def endsLine (point : CodePoint) : Bool :=
  point.isIn [(0x0A, 0x0D), (0x1C, 0x1E), (0x85, 0x85), (0x2028, 0x2029)]

/-- The number of cells that the widest line of a text takes. -/
def widthOf (text : Text) : Nat :=
  let unified : Text := text.map fun point => if endsLine point then .char '\n' else point
  let lines := unified.lines
  (lines.map Text.cells).foldl max 0

/-- The width of a column. -/
def columnWidth (cells : List Styled) : Nat :=
  (cells.map fun cell => widthOf cell.text).foldl max 0

/-- A line of exactly the width of a column.  A line that is too wide ends with an
ellipsis. -/
def shorten (width : Nat) (line : Styled) : Styled :=
  if width < line.text.cells then line.replace (line.text.fitTo (width - 1) ++ Text.ofChar '…')
  else line.replace (line.text.padTo width)

/-- The lines that a line of a cell is drawn as.  Blanks at the end of a line give
way before an ellipsis is needed, but only where lines are broken. -/
def drawLine (wrapping : Bool) (width : Nat) (line : Styled) : List Styled :=
  let line := line.expandTabs
  if wrapping then
    (line.slices 0 (Wrap.lines false width line.text)).map fun line =>
      shorten width (line.trim width)
  else [shorten width line]

/-- A line of a cell with its padding. -/
def pad (padding width : Nat) (line : Styled) : Text :=
  (Styled.fitPieces (width + 2 * padding)
    ([Text.spaces padding] ++ Styled.fitPieces width line.pieces ++ [Text.spaces padding])).flatten

/-- The lines of a cell with their padding.  A column without width shows
nothing. -/
def draw (wrapping : Bool) (padding width : Nat) (cell : Styled) : Except Failure (List Text) :=
  if width = 0 then .ok []
  else
    let lines := cell.lines.flatMap (drawLine wrapping width)
    if lines.all Styled.isShowable then .ok (lines.map (pad padding width))
    else .error .brokenColour

/-- The lines of two cells side by side, at least one, with blank lines of the
given widths where a cell has fewer. -/
def sideBySide (leftWidth rightWidth : Nat) (left right : List Text) : List (Text × Text) :=
  (List.range (max 1 (max left.length right.length))).map fun index =>
    (left.getD index (Text.spaces leftWidth), right.getD index (Text.spaces rightWidth))

/-- A line in the middle of a width; the odd space is on the right. -/
def centre (width : Nat) (line : Styled) : Styled :=
  let line := line.replace line.text.stripEnd
  let line := if width < line.text.cells then line.replace (line.text.fitTo width) else line
  let before := (width - line.text.cells) / 2
  ⟨(Text.spaces before ++ line.text).padTo width, line.stretches.map (Stretch.move before)⟩

/-- The lines of a title in the middle of a width, which they do not exceed. -/
def drawTitle (width : Nat) (title : Styled) : Except Failure (List Text) :=
  let lines := title.lines.flatMap fun line =>
    let line := line.expandTabs
    (line.slices 0 (Wrap.lines true width line.text)).map fun line =>
      centre width (line.trim width)
  if lines.all Styled.isShowable then .ok (lines.map Styled.text) else .error .brokenColour

end HelperKit.Cell
