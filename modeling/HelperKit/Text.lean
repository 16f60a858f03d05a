/-!
# Texts as lists of code points

Settings documents may hold strings with one half of a surrogate pair, written
as an escape, although such a string can never be written back as UTF-8.  A
text is therefore a list of code points in which a lone surrogate is a value of
its own: every document can be read, and the question whether a text can be
written is asked where it is written.
-/

namespace HelperKit

/-- A code point: a character, or a surrogate that stands alone. -/
inductive CodePoint where
  | char (character : Char)
  | surrogate (index : Fin 2048)
  deriving DecidableEq

/-- A text, from its first code point to its last. -/
abbrev Text := List CodePoint

namespace CodePoint

instance : Coe Char CodePoint := ⟨CodePoint.char⟩

/-- The number of a code point; surrogates lie from `0xD800` to `0xDFFF`. -/
def value : CodePoint → Nat
  | .char character => character.toNat
  | .surrogate index => 0xD800 + index.val

/-- The code point of a number below `0x110000`. -/
def ofValue (number : Nat) : CodePoint :=
  if number < 0xD800 then .char (Char.ofNat number)
  else if h : number - 0xD800 < 2048 then .surrogate ⟨number - 0xD800, h⟩
  else .char (Char.ofNat number)

/-- The character that a code point is, unless it is a lone surrogate. -/
def toChar? : CodePoint → Option Char
  | .char character => some character
  | .surrogate _ => none

/-- Whether the number of a code point lies in one of the ranges, which are
given by their first and last members. -/
def isIn (point : CodePoint) (ranges : List (Nat × Nat)) : Bool :=
  ranges.any fun (first, last) => first ≤ point.value && point.value ≤ last

end CodePoint

namespace Text

/-- The text of a list of characters. -/
def ofChars (characters : List Char) : Text :=
  characters.map .char

/-- The text of one character. -/
def ofChar (character : Char) : Text :=
  [.char character]

/-- The text of a string. -/
def ofString (string : String) : Text :=
  ofChars string.toList

instance : Coe String Text := ⟨ofString⟩

/-- The characters of a text that holds no lone surrogate. -/
def toChars? (text : Text) : Option (List Char) :=
  text.mapM CodePoint.toChar?

/-- Whether a text holds no lone surrogate. -/
def isUnicode (text : Text) : Bool :=
  text.toChars?.isSome

/-- A number in decimal digits. -/
def ofNat (number : Nat) : Text :=
  ofChars (Nat.toDigits 10 number)

/-- Cuts a text at every occurrence of a separator.  There is always one piece
more than there are separators. -/
def splitOn (separator : CodePoint) : Text → List Text
  | [] => [[]]
  | point :: rest =>
      if point = separator then [] :: splitOn separator rest
      else
        match splitOn separator rest with
        | [] => [[point]]
        | piece :: pieces => (point :: piece) :: pieces

/-- Puts a separator between consecutive pieces. -/
def join (separator : Text) (pieces : List Text) : Text :=
  separator.intercalate pieces

/-- The lines of a text, with the line feeds taken out. -/
def lines (text : Text) : List Text :=
  splitOn (.char '\n') text

/-- Lines put back into one text. -/
def unlines (lines : List Text) : Text :=
  join [.char '\n'] lines

/-- Whether a text begins with another one. -/
def startsWith (text start : Text) : Bool :=
  start.isPrefixOf text

/-- Whether a text holds another one at some place. -/
def contains (text part : Text) : Bool :=
  match text with
  | [] => part.isEmpty
  | point :: rest => startsWith (point :: rest) part || contains rest part

/-- A text repeated a number of times. -/
def times (count : Nat) (text : Text) : Text :=
  (List.replicate count text).flatten

/-- A run of spaces. -/
def spaces (count : Nat) : Text :=
  List.replicate count (.char ' ')

theorem splitOn_ne_nil (separator : CodePoint) (text : Text) :
    splitOn separator text ≠ [] := by
  cases text with
  | nil => simp [splitOn]
  | cons point rest =>
      rw [splitOn]
      split
      · simp
      · split <;> simp

end Text

end HelperKit
