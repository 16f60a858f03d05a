import HelperKit.Json
import HelperKit.Text.Quoted

/-!
# Writing documents

A document is written with one member or element on a line and two spaces for
every level.  Only quotes, backslashes and the controls below the space are
escaped; every other character stands for itself.
-/

namespace HelperKit.Json

/-- A code point inside a string. -/
def printPoint (point : CodePoint) : Text :=
  if point = .char '"' then "\\\""
  else if point = .char '\\' then "\\\\"
  else if point = .char '\n' then "\\n"
  else if point = .char '\r' then "\\r"
  else if point = .char '\t' then "\\t"
  else if point = .char '\x0c' then "\\f"
  else if point = .char '\x08' then "\\b"
  else if point.value < 0x20 then "\\u" ++ CodePoint.hexadecimal 4 point.value
  else [point]

/-- A string with its quotes. -/
def printString (text : Text) : Text :=
  "\"" ++ text.flatMap printPoint ++ "\""

/-- An integer in decimal digits. -/
def printInteger (number : Int) : Text :=
  (if number < 0 then "-" else "") ++ Text.ofNat number.natAbs

/-- A line feed and the indentation of a level. -/
def newLine (level : Nat) : Text :=
  .char '\n' :: Text.spaces (2 * level)

mutual

/-- A value whose first line is already indented to a level. -/
def print (level : Nat) : Json → Text
  | .null => "null"
  | .boolean true => "true"
  | .boolean false => "false"
  | .integer number => printInteger number
  | .double number => Text.ofChars number.toChars
  | .string text => printString text
  | .array [] => "[]"
  | .array (item :: items) =>
      "[" ++ newLine (level + 1) ++ (print (level + 1) item ++
        (printItems (level + 1) items ++ (newLine level ++ "]")))
  | .object [] => "\x7b\x7d"
  | .object ((name, value) :: members) =>
      "\x7b" ++ newLine (level + 1) ++ printString name ++ ": " ++ (print (level + 1) value ++
        (printMembers (level + 1) members ++ (newLine level ++ "\x7d")))

/-- Further elements, each after a comma and on a line of its own. -/
def printItems (level : Nat) : List Json → Text
  | [] => []
  | item :: items => "," ++ newLine level ++ (print level item ++ printItems level items)

/-- Further members, each after a comma and on a line of its own. -/
def printMembers (level : Nat) : List (Text × Json) → Text
  | [] => []
  | (name, value) :: members =>
      "," ++ newLine level ++ printString name ++ ": " ++ (print level value ++
        printMembers level members)

end

/-- The text of a document, which ends with a line feed. -/
def toDocument (json : Json) : Text :=
  print 0 json ++ "\n"

end HelperKit.Json
