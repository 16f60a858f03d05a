import HelperKit.Console.Style
import HelperKit.Text.Width

/-!
# Styled text

A styled text is a text with stretches that have a style.  No style is shown, but
cutting the text cuts its stretches, a line is measured between the ends of its
stretches, and a stretch whose style has a broken colour cannot be shown.
-/

namespace HelperKit

/-- A stretch of a text, from one place to before another one, and the name of its
style.  A stretch that a handler is for has none. -/
structure Stretch where
  first : Nat
  last : Nat
  style : Option Text
  deriving DecidableEq

namespace Stretch

/-- The part of a stretch between two places, as a stretch of the text between
them; an empty part is none. -/
def slice? (first last : Nat) (stretch : Stretch) : Option Stretch :=
  let part : Stretch :=
    { stretch with first := max first stretch.first - first,
                   last := min last stretch.last - first }
  if part.first < part.last then some part else none

/-- A stretch of a text as a stretch of the same text behind `count` more code
points. -/
def move (count : Nat) (stretch : Stretch) : Stretch :=
  { stretch with first := count + stretch.first, last := count + stretch.last }

/-- A stretch of a text whose end is cut off at a place. -/
def crop? (length : Nat) (stretch : Stretch) : Option Stretch :=
  if stretch.first < length then some { stretch with last := min length stretch.last } else none

/-- Whether a stretch can be shown. -/
def isShowable (stretch : Stretch) : Bool :=
  stretch.style.all Style.isShowable

end Stretch

/-- A text with styled stretches. -/
structure Styled where
  text : Text
  stretches : List Stretch := []
  deriving DecidableEq

namespace Styled

/-- Whether a code point is a control that is left out: bell, backspace,
vertical tab, form feed or carriage return. -/
def isDropped (point : CodePoint) : Bool :=
  point.isIn [(7, 8), (11, 13)]

/-- A text without the controls that are left out. -/
def sanitise (text : Text) : Text :=
  text.filter fun point => !isDropped point

/-- A text without styles. -/
def ofText (text : Text) : Styled :=
  ⟨sanitise text, []⟩

/-- The part of a styled text between two places. -/
def slice (first last : Nat) (styled : Styled) : Styled :=
  ⟨(styled.text.take last).drop first, styled.stretches.filterMap (Stretch.slice? first last)⟩

/-- The parts of a styled text whose texts are given, from a place on; `gap` code
points are left out between them. -/
def slicesFrom (gap place : Nat) (styled : Styled) : List Text → List Styled
  | [] => []
  | piece :: rest =>
      styled.slice place (place + piece.length) ::
        slicesFrom gap (place + piece.length + gap) styled rest

/-- The parts of a styled text whose texts are given.  A single part is the whole
text, and keeps its empty stretches. -/
def slices (gap : Nat) (styled : Styled) (pieces : List Text) : List Styled :=
  if pieces.length = 1 then [styled] else slicesFrom gap 0 styled pieces

/-- The lines of a styled text. -/
def lines (styled : Styled) : List Styled :=
  styled.slices 1 styled.text.lines

/-- Two styled texts one behind the other. -/
def append (before after : Styled) : Styled :=
  ⟨before.text ++ after.text,
    before.stretches ++ after.stretches.map (Stretch.move before.text.length)⟩

/-- The distance of two tab stops. -/
def tabWidth : Nat := 8

/-- The first tab stop that is not before a column. -/
def tabStop (column : Nat) : Nat :=
  (column + (tabWidth - 1)) / tabWidth * tabWidth

/-- The column behind a part of a line that ends with a tab and begins after
`column` cells, before the tab reaches its stop. -/
def columnAfter (column : Nat) (part : Text) : Nat :=
  column + Text.cells (part.dropLast ++ Text.spaces 1)

/-- A part of a line that ends with a tab, with spaces that reach the next tab
stop.  What is styled up to the tab goes on over the spaces. -/
def fillTab (column : Nat) (part : Styled) : Styled :=
  let reached := columnAfter column part.text
  let width := tabStop reached - reached
  let extend (stretch : Stretch) : Stretch :=
    if part.text.length ≤ stretch.last then { stretch with last := stretch.last + width }
    else stretch
  ⟨part.text.dropLast ++ Text.spaces (width + 1), part.stretches.map extend⟩

/-- Parts of a line with all tabs filled, after `column` cells. -/
def fillTabs (column : Nat) : List Styled → Styled
  | [] => ⟨[], []⟩
  | part :: rest =>
      if part.text.getLast? = some (.char '\t') then
        (fillTab column part).append (fillTabs (tabStop (columnAfter column part.text)) rest)
      else part.append (fillTabs (column + part.text.cells) rest)

/-- The parts of a text up to its tabs, each with its tab. -/
def tabParts (text : Text) : List Text :=
  let parts := text.splitOn (.char '\t')
  parts.dropLast.map (· ++ [.char '\t']) ++ [parts.getLastD []]

/-- A line with spaces that reach the next tab stop for every tab. -/
def expandTabs (line : Styled) : Styled :=
  if line.text.contains [.char '\t'] then fillTabs 0 (line.slicesFrom 0 0 (tabParts line.text))
  else line

/-- A styled text with another text in place of its own.  If that is shorter,
stretches end where it ends. -/
def replace (text : Text) (styled : Styled) : Styled :=
  if text.length < styled.text.length then
    ⟨text, styled.stretches.filterMap (Stretch.crop? text.length)⟩
  else { styled with text }

/-- A line without those blanks at its end that are beyond a number of code
points. -/
def trim (width : Nat) (line : Styled) : Styled :=
  line.replace (line.text.stripEnd ++ (line.text.drop line.text.stripEnd.length).take
    (width - line.text.stripEnd.length))

/-- Whether all stretches can be shown. -/
def isShowable (styled : Styled) : Bool :=
  styled.stretches.all Stretch.isShowable

/-! ## Measured between the ends of stretches -/

/-- The places where stretches begin and end. -/
def ends (styled : Styled) : List Nat :=
  styled.stretches.flatMap fun stretch => [stretch.first, stretch.last]

/-- The pieces of a text that follow a place, cut where places say so; `current` is
the beginning of the first piece. -/
def cutAt (places : List Nat) (place : Nat) (current : Text) : Text → List Text
  | [] => if current = [] then [] else [current]
  | point :: rest =>
      if places.contains place && current ≠ [] then
        current :: cutAt places (place + 1) [point] rest
      else cutAt places (place + 1) (current ++ [point]) rest

/-- The pieces of a line between the ends of its stretches. -/
def pieces (line : Styled) : List Text :=
  cutAt line.ends 0 [] line.text

/-- The number of cells that pieces take. -/
def cellsOf (pieces : List Text) : Nat :=
  pieces.foldl (fun total piece => total + piece.cells) 0

/-- The first of some pieces, up to `width` cells; `column` cells are taken. -/
def cropPieces (width column : Nat) : List Text → List Text
  | [] => []
  | piece :: rest =>
      if column + piece.cells < width then
        piece :: cropPieces width (column + piece.cells) rest
      else [piece.fitTo (width - column)]

/-- Pieces cut or filled up with spaces to a number of cells. -/
def fitPieces (width : Nat) (pieces : List Text) : List Text :=
  if width < cellsOf pieces then cropPieces width 0 pieces
  else if cellsOf pieces < width then pieces ++ [Text.spaces (width - cellsOf pieces)]
  else pieces

end Styled

end HelperKit
