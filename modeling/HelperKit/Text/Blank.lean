import HelperKit.Text

/-!
# Blank characters

The characters that may surround an answer or a line without being part of it:
the Unicode spaces, the line and paragraph separators, and the ASCII controls
that move the cursor or separate records.  Characters that merely have no width,
such as U+200B or U+FEFF, are not blank.
-/

namespace HelperKit

/-- The ranges of blank code points. -/
def blankRanges : List (Nat × Nat) :=
  [(0x09, 0x0D), (0x1C, 0x20), (0x85, 0x85), (0xA0, 0xA0), (0x1680, 0x1680),
   (0x2000, 0x200A), (0x2028, 0x2029), (0x202F, 0x202F), (0x205F, 0x205F),
   (0x3000, 0x3000)]

/-- Whether a code point is blank. -/
def CodePoint.isBlank (point : CodePoint) : Bool :=
  point.isIn blankRanges

namespace Text

/-- A text without the blanks at its beginning. -/
def stripStart (text : Text) : Text :=
  text.dropWhile CodePoint.isBlank

/-- A text without the blanks at its end. -/
def stripEnd (text : Text) : Text :=
  (stripStart text.reverse).reverse

/-- A text without the blanks at its two ends. -/
def strip (text : Text) : Text :=
  stripEnd (stripStart text)

/-- Whether nothing but blanks is in a text. -/
def isBlank (text : Text) : Bool :=
  text.all CodePoint.isBlank

end Text

end HelperKit
