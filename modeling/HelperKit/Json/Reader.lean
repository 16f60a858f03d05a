import HelperKit.Json
import HelperKit.Text.Numeral

/-!
# Reading documents

The grammar is that of JSON with three more constants, `NaN`, `Infinity` and
`-Infinity`.  Every function reads a piece of a document from the front of the
characters that are left and returns what is left after it.  A reading that
stops names the flaw and the characters that were left there, from which the
place of the flaw follows.
-/

namespace HelperKit.Json

/-- What can be wrong with a document. -/
inductive Flaw where
  | expectingValue
  | expectingName
  | expectingColon
  | expectingComma
  | unterminatedString
  | controlCharacter
  | badEscape
  | badUnicodeEscape
  | extraData
  | byteOrderMark
  deriving DecidableEq

/-- The wording of a flaw. -/
def Flaw.wording : Flaw → String
  | .expectingValue => "Expecting value"
  | .expectingName => "Expecting property name enclosed in double quotes"
  | .expectingColon => "Expecting ':' delimiter"
  | .expectingComma => "Expecting ',' delimiter"
  | .unterminatedString => "Unterminated string starting at"
  | .controlCharacter => "Invalid control character at"
  | .badEscape => "Invalid \\escape"
  | .badUnicodeEscape => "Invalid \\uXXXX escape"
  | .extraData => "Extra data"
  | .byteOrderMark => "Unexpected UTF-8 BOM (decode using utf-8-sig)"

/-- Why a reading stops: a flaw at the characters left, an integer with more
digits than are converted, or a value inside more others than are followed. -/
inductive Stop where
  | flaw (flaw : Flaw) (left : List Char)
  | longInteger
  | tooDeep
  deriving DecidableEq

/-- A piece that was read and the characters left after it. -/
abbrev Reading (α : Type) := Except Stop (α × List Char)

/-- Whether a character may surround the pieces of a document. -/
def isBlank (character : Char) : Bool :=
  character = ' ' || character = '\t' || character = '\n' || character = '\r'

/-- The characters after leading blanks. -/
def skipBlanks (text : List Char) : List Char :=
  text.dropWhile isBlank

/-- The characters after a given beginning. -/
def after? : (start text : List Char) → Option (List Char)
  | [], text => some text
  | _ :: _, [] => none
  | expected :: start, character :: text =>
      if expected = character then after? start text else none

/-! ## Strings -/

/-- The character that a one-letter escape stands for. -/
def escaped? : Char → Option Char
  | '"' => some '"'
  | '\\' => some '\\'
  | '/' => some '/'
  | 'b' => some '\x08'
  | 'f' => some '\x0c'
  | 'n' => some '\n'
  | 'r' => some '\r'
  | 't' => some '\t'
  | _ => none

/-- The value of a hexadecimal digit. -/
def hexDigit? (character : Char) : Option Nat :=
  if '0' ≤ character ∧ character ≤ '9' then some (character.toNat - '0'.toNat)
  else if 'a' ≤ character ∧ character ≤ 'f' then some (character.toNat - 'a'.toNat + 10)
  else if 'A' ≤ character ∧ character ≤ 'F' then some (character.toNat - 'A'.toNat + 10)
  else none

/-- The number of a `\u` escape. -/
def escapeUnit? (first second third fourth : Char) : Option Nat := do
  let first ← hexDigit? first
  let second ← hexDigit? second
  let third ← hexDigit? third
  let fourth ← hexDigit? fourth
  some (((first * 16 + second) * 16 + third) * 16 + fourth)

/-- Adds a code point to the front of a string that was read. -/
def prepend (point : CodePoint) : Reading Text → Reading Text
  | .ok (points, left) => .ok (point :: points, left)
  | .error stop => .error stop

/-- Reads a string after its opening quote; `opening` is what was left at that
quote.  Surrogates from escapes are left apart. -/
def stringAfter (opening : List Char) : List Char → Reading Text
  | [] => .error (.flaw .unterminatedString opening)
  | '"' :: left => .ok ([], left)
  | ['\\'] => .error (.flaw .unterminatedString opening)
  | '\\' :: 'u' :: first :: second :: third :: fourth :: next :: left =>
      match escapeUnit? first second third fourth with
      | some unit => prepend (.ofValue unit) (stringAfter opening (next :: left))
      | none =>
          .error (.flaw .badUnicodeEscape
            ('u' :: first :: second :: third :: fourth :: next :: left))
  | '\\' :: 'u' :: left => .error (.flaw .badUnicodeEscape ('u' :: left))
  | '\\' :: letter :: left =>
      match escaped? letter with
      | some character => prepend (.char character) (stringAfter opening left)
      | none => .error (.flaw .badEscape ('\\' :: letter :: left))
  | character :: left =>
      if character.toNat < 0x20 then .error (.flaw .controlCharacter (character :: left))
      else prepend (.char character) (stringAfter opening left)

/-- The character of a surrogate pair, given the offsets of its halves. -/
def pairValue (high low : Nat) : Nat :=
  0x10000 + high * 0x400 + (low - 0x400)

/-- Puts a high surrogate and a low one behind it together. -/
def joinSurrogates : Text → Text
  | .surrogate high :: .surrogate low :: rest =>
      if high.val < 0x400 ∧ 0x400 ≤ low.val then
        .ofValue (pairValue high low) :: joinSurrogates rest
      else .surrogate high :: joinSurrogates (.surrogate low :: rest)
  | point :: rest => point :: joinSurrogates rest
  | [] => []

/-- Reads a string from its opening quote on. -/
def readString (text : List Char) : Reading Text :=
  match stringAfter text (text.drop 1) with
  | .ok (points, left) => .ok (joinSurrogates points, left)
  | .error stop => .error stop

/-! ## Numbers and constants -/

/-- Whether a character is a decimal digit. -/
def isDigit (character : Char) : Bool :=
  '0' ≤ character && character ≤ '9'

/-- The number that decimal digits spell. -/
def numberOf (digits : List Char) : Nat :=
  digits.foldl (fun total digit => total * 10 + (digit.toNat - '0'.toNat)) 0

/-- The digits of a fraction and what is left after them; without a digit behind
it a point is no part of the number. -/
def fraction : List Char → List Char × List Char
  | '.' :: left =>
      if (left.takeWhile isDigit).isEmpty then ([], '.' :: left)
      else (left.takeWhile isDigit, left.dropWhile isDigit)
  | left => ([], left)

/-- The sign of an exponent and what is left after it. -/
def exponentSign : List Char → Bool × List Char
  | '-' :: left => (true, left)
  | '+' :: left => (false, left)
  | left => (false, left)

/-- The exponent of a number and what is left after it; without a digit the
letter is no part of the number. -/
def exponent (text : List Char) : Option Int × List Char :=
  match text with
  | letter :: left =>
      if letter = 'e' ∨ letter = 'E' then
        let (negative, left) := exponentSign left
        let digits := left.takeWhile isDigit
        if digits.isEmpty then (none, text)
        else
          let magnitude : Int := numberOf digits
          (some (if negative then -magnitude else magnitude), left.dropWhile isDigit)
      else (none, text)
  | [] => (none, text)

/-- Reads the rest of a number whose whole digits are known. -/
def numberAfter (negative : Bool) (whole left : List Char) : Reading Json :=
  let (fractionDigits, left) := fraction left
  let (power, left) := exponent left
  if fractionDigits.isEmpty ∧ power = none then
    if whole.length ≤ maximumDigits then
      let magnitude : Int := numberOf whole
      .ok (.integer (if negative then -magnitude else magnitude), left)
    else .error .longInteger
  else
    let decimal : Decimal :=
      ⟨numberOf (whole ++ fractionDigits), power.getD 0 - fractionDigits.length⟩
    .ok (.double (.ofDecimal negative decimal), left)

/-- Reads a number. -/
def readNumber (text : List Char) : Reading Json :=
  let (negative, body) :=
    match text with
    | '-' :: body => (true, body)
    | _ => (false, text)
  match body with
  | '0' :: left => numberAfter negative ['0'] left
  | digit :: _ =>
      if isDigit digit then
        numberAfter negative (body.takeWhile isDigit) (body.dropWhile isDigit)
      else .error (.flaw .expectingValue text)
  | [] => .error (.flaw .expectingValue text)

/-- The constants and their values. -/
def constants : List (String × Json) :=
  [("null", .null), ("true", .boolean true), ("false", .boolean false),
   ("NaN", .double .nan), ("Infinity", .double (.infinite false)),
   ("-Infinity", .double (.infinite true))]

/-- Reads a constant, if there is one. -/
def constant? (text : List Char) : Option (Json × List Char) :=
  constants.findSome? fun (name, value) => (after? name.toList text).map (value, ·)

/-! ## Values -/

/-- The number of arrays and objects that may lie one inside the other. -/
def maximumDepth : Nat := 988

mutual

/-- Reads a value.  Every step into the document takes one unit of `fuel`; a
document has fewer steps than twice its characters.  At most `depth` arrays and
objects are entered one inside the other. -/
def readValue : (fuel depth : Nat) → List Char → Reading Json
  | 0, _, text => .error (.flaw .expectingValue text)
  | fuel + 1, depth, text =>
      match text with
      | '"' :: _ =>
          match readString text with
          | .ok (points, left) => .ok (.string points, left)
          | .error stop => .error stop
      | '\x7b' :: left =>
          match depth with
          | 0 => .error .tooDeep
          | depth + 1 =>
              match skipBlanks left with
              | '\x7d' :: left => .ok (.object [], left)
              | left =>
                  match readMembers fuel depth left with
                  | .ok (pairs, left) => .ok (.object (Members.ofPairs pairs), left)
                  | .error stop => .error stop
      | '[' :: left =>
          match depth with
          | 0 => .error .tooDeep
          | depth + 1 =>
              match skipBlanks left with
              | ']' :: left => .ok (.array [], left)
              | left =>
                  match readElements fuel depth left with
                  | .ok (items, left) => .ok (.array items, left)
                  | .error stop => .error stop
      | _ =>
          match constant? text with
          | some reading => .ok reading
          | none => readNumber text

/-- Reads the members of an object from the first name to the closing brace. -/
def readMembers : (fuel depth : Nat) → List Char → Reading (List (Text × Json))
  | 0, _, text => .error (.flaw .expectingName text)
  | fuel + 1, depth, text =>
      match text with
      | '"' :: _ =>
          match readString text with
          | .error stop => .error stop
          | .ok (name, left) =>
              match skipBlanks left with
              | ':' :: left =>
                  match readValue fuel depth (skipBlanks left) with
                  | .error stop => .error stop
                  | .ok (value, left) =>
                      match skipBlanks left with
                      | '\x7d' :: left => .ok ([(name, value)], left)
                      | ',' :: left =>
                          match readMembers fuel depth (skipBlanks left) with
                          | .error stop => .error stop
                          | .ok (pairs, left) => .ok ((name, value) :: pairs, left)
                      | left => .error (.flaw .expectingComma left)
              | left => .error (.flaw .expectingColon left)
      | _ => .error (.flaw .expectingName text)

/-- Reads the elements of an array from the first one to the closing bracket. -/
def readElements : (fuel depth : Nat) → List Char → Reading (List Json)
  | 0, _, text => .error (.flaw .expectingValue text)
  | fuel + 1, depth, text =>
      match readValue fuel depth text with
      | .error stop => .error stop
      | .ok (item, left) =>
          match skipBlanks left with
          | ']' :: left => .ok ([item], left)
          | ',' :: left =>
              match readElements fuel depth (skipBlanks left) with
              | .error stop => .error stop
              | .ok (items, left) => .ok (item :: items, left)
          | left => .error (.flaw .expectingComma left)

end

/-- Reads a document, which is one value between blanks. -/
def readDocument (text : List Char) : Except Stop Json :=
  match text with
  | '\uFEFF' :: _ => .error (.flaw .byteOrderMark text)
  | _ =>
      match readValue (2 * text.length + 1) maximumDepth (skipBlanks text) with
      | .error stop => .error stop
      | .ok (json, left) =>
          match skipBlanks left with
          | [] => .ok json
          | left => .error (.flaw .extraData left)

/-- A place in a document: the number of its line and column, counted from one,
and of the characters before it. -/
structure Place where
  line : Nat
  column : Nat
  offset : Nat
  deriving DecidableEq

/-- The place before the characters left. -/
def Place.before (text left : List Char) : Place :=
  let passed := text.take (text.length - left.length)
  { line := passed.count '\n' + 1
    column := (passed.reverse.takeWhile (· ≠ '\n')).length + 1
    offset := passed.length }

/-- Why a document was refused. -/
inductive Refusal where
  | malformed (flaw : Flaw) (place : Place)
  | longInteger
  | tooDeep
  deriving DecidableEq

/-- The value of a document, or why it has none. -/
def ofDocument (text : List Char) : Except Refusal Json :=
  match readDocument text with
  | .ok json => .ok json
  | .error (.flaw flaw left) => .error (.malformed flaw (.before text left))
  | .error .longInteger => .error .longInteger
  | .error .tooDeep => .error .tooDeep

end HelperKit.Json
