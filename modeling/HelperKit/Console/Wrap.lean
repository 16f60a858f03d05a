import HelperKit.Text.Blank
import HelperKit.Text.Width

/-!
# Filling lines

A line that is wider than its place is broken between words.  A word keeps the
blanks behind it, which do not count when it is asked whether the word fits.  A
word that is wider than the whole place starts on a line of its own, and is cut
if it may be folded.  The pieces of a line together are the line.
-/

namespace HelperKit.Wrap

/-- The words of a text with the blanks behind them, and the first one also with
the blanks before it.  `current` is the beginning of a word, `spoken` says whether
it holds more than blanks, and `ended` whether blanks follow that. -/
def wordsFrom (current : Text) (spoken ended : Bool) : Text → List Text
  | [] => [current]
  | point :: rest =>
      if point.isBlank then wordsFrom (current ++ [point]) spoken spoken rest
      else if ended then current :: wordsFrom [point] true false rest
      else wordsFrom (current ++ [point]) true false rest

/-- The words of a text.  A blank text is taken for a word. -/
def words (text : Text) : List Text :=
  wordsFrom [] false false text

/-- Ends a line, if it has begun. -/
def endLine (current : Text) (further : List Text) : List Text :=
  if current = [] then further else current :: further

/-- Lines of at most `width` cells, blanks at their ends aside, that hold words.
The first line begins with `current`, and its words take `column` cells. -/
def fill (folding : Bool) (width : Nat) (current : Text) (column : Nat) :
    List Text → List Text
  | [] => [current]
  | word :: words =>
      let size := word.stripEnd.cells
      if column + size ≤ width then
        fill folding width (current ++ word) (column + word.cells) words
      else if folding && width < size then
        let pieces := word.chop width
        let last := pieces.getLastD []
        endLine current (pieces.dropLast ++ fill folding width last last.cells words)
      else endLine current (fill folding width word word.cells words)

/-- The lines that a single line is broken into. -/
def lines (folding : Bool) (width : Nat) (line : Text) : List Text :=
  fill folding width [] 0 (words line)

end HelperKit.Wrap
