import HelperKit.Text

/-!
# Whole numbers in answers

A number is typed with an optional sign and decimal digits of any script; a
single underscore may stand between two digits.  A number of more than 4300
digits is not read as one.
-/

namespace HelperKit

/-- The digits zero of all scripts; the other nine follow each of them. -/
def zeroDigits : List Nat :=
  [0x30, 0x660, 0x6F0, 0x7C0, 0x966, 0x9E6, 0xA66, 0xAE6, 0xB66, 0xBE6, 0xC66, 0xCE6,
   0xD66, 0xDE6, 0xE50, 0xED0, 0xF20, 0x1040, 0x1090, 0x17E0, 0x1810, 0x1946, 0x19D0,
   0x1A80, 0x1A90, 0x1B50, 0x1BB0, 0x1C40, 0x1C50, 0xA620, 0xA8D0, 0xA900, 0xA9D0,
   0xA9F0, 0xAA50, 0xABF0, 0xFF10, 0x104A0, 0x10D30, 0x11066, 0x110F0, 0x11136,
   0x111D0, 0x112F0, 0x11450, 0x114D0, 0x11650, 0x116C0, 0x11730, 0x118E0, 0x11950,
   0x11C50, 0x11D50, 0x11DA0, 0x16A60, 0x16AC0, 0x16B50, 0x1D7CE, 0x1D7D8, 0x1D7E2,
   0x1D7EC, 0x1D7F6, 0x1E140, 0x1E2F0, 0x1E950, 0x1FBF0]

/-- The most digits a number may be written with. -/
def maximumDigits : Nat := 4300

/-- The value of a decimal digit. -/
def CodePoint.digit? (point : CodePoint) : Option Nat :=
  (zeroDigits.find? fun first => first ≤ point.value && point.value < first + 10).map
    (point.value - ·)

namespace Text

/-- The digits that make up a whole text, where a single underscore may stand
between two of them. -/
def digits? : Text → Option (List Nat)
  | [] => none
  | [point] => point.digit?.map ([·])
  | point :: next :: rest => do
      let digit ← point.digit?
      let digits ← if next = .char '_' then digits? rest else digits? (next :: rest)
      some (digit :: digits)

/-- The number that a text without surrounding blanks spells. -/
def toInt? (text : Text) : Option Int := do
  let (negative, digits) :=
    match text with
    | .char '-' :: rest => (true, digits? rest)
    | .char '+' :: rest => (false, digits? rest)
    | _ => (false, digits? text)
  let digits ← digits
  if digits.length ≤ maximumDigits then
    let magnitude : Nat := digits.foldl (fun total digit => total * 10 + digit) 0
    some (if negative then -(magnitude : Int) else (magnitude : Int))
  else none

end Text

end HelperKit
