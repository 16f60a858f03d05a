import HelperKit.Text
import HelperKit.Text.UnprintableTable

/-!
# Quoted texts

Paths and arguments are quoted in error messages.  The quotes are single unless
the text holds a single quote and no double one; what cannot be printed is shown
by its number.
-/

namespace HelperKit

namespace CodePoint

/-- A hexadecimal number in lower case, padded with zeros to a width. -/
def hexadecimal (width number : Nat) : Text :=
  let digits := Nat.toDigits 16 number
  Text.ofChars (List.replicate (width - digits.length) '0' ++ digits)

/-- Whether a code point can be printed. -/
def isPrintable (point : CodePoint) : Bool :=
  if point.value < 128 then 32 ≤ point.value && point.value < 127
  else !point.isIn unprintableRanges

/-- A code point as it stands between quotes. -/
def quoted (quote : Char) (point : CodePoint) : Text :=
  if point = .char quote ∨ point = .char '\\' then [.char '\\', point]
  else if point = .char '\t' then "\\t"
  else if point = .char '\n' then "\\n"
  else if point = .char '\r' then "\\r"
  else if point.isPrintable then [point]
  else if point.value < 0x100 then "\\x" ++ hexadecimal 2 point.value
  else if point.value < 0x10000 then "\\u" ++ hexadecimal 4 point.value
  else "\\U" ++ hexadecimal 8 point.value

end CodePoint

namespace Text

/-- The quote that surrounds a text. -/
def quote (text : Text) : Char :=
  if .char '\'' ∈ text ∧ .char '"' ∉ text then '"' else '\''

/-- A text between quotes. -/
def quoted (text : Text) : Text :=
  [.char text.quote] ++ text.flatMap (CodePoint.quoted text.quote) ++ [.char text.quote]

end Text

end HelperKit
