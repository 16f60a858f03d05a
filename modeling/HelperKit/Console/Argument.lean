import HelperKit.Text.Blank
import HelperKit.Text.Encoding
import HelperKit.Text.Numeral
import HelperKit.Text.WordTable

/-!
# Arguments of handlers

A tag that begins with an at sign names a handler, and its parameters are the
handler's arguments: a name, a name with arguments in parentheses, or arguments
alone.  The arguments are a literal: a number, a string, a string of bytes, a
constant, or a tuple, set or dictionary of literals.  Nothing is done with them
here but to check that they are one.

The functions read a piece from the front of the characters that are left and
return what is left after it; they fail where no literal goes on.
-/

namespace HelperKit.Argument

/-- What a literal is, as far as it decides what may be built of it. -/
inductive Kind where
  | real
  | imaginary
  | signedReal
  | signedImaginary
  | constant
  | container
  | emptySetName
  deriving DecidableEq

namespace Kind

/-- Whether a literal can be the member of a set or the key of a dictionary. -/
def isKey : Kind → Bool
  | .container | .emptySetName => false
  | _ => true

/-- Whether a literal is a value.  The name of the empty set becomes one when it
is called. -/
def isValue : Kind → Bool
  | .emptySetName => false
  | _ => true

/-- A number behind a sign.  Nothing else has a sign, and there is only one. -/
def signed? : Kind → Option Kind
  | .real => some .signedReal
  | .imaginary => some .signedImaginary
  | _ => none

/-- The sum or difference of two numbers, which is complex. -/
def sum? : Kind → Kind → Option Kind
  | .real, .imaginary | .signedReal, .imaginary => some .constant
  | _, _ => none

/-- A tuple of literals. -/
def tuple? (kinds : List Kind) : Option Kind :=
  if kinds.all isKey then some .constant
  else if kinds.all isValue then some .container
  else none

/-- Literals within parentheses, or without any.  A single one is itself unless a
comma follows. -/
def enclosed? (kinds : List Kind) (comma : Bool) : Option Kind :=
  match kinds, comma with
  | [kind], false => some kind
  | kinds, _ => tuple? kinds

end Kind

/-! ## Blanks -/

/-- Whether a character separates pieces on a line. -/
def isSpace (character : Char) : Bool :=
  character = ' ' || character = '\t' || character = '\x0c'

/-- The characters after blanks and comments.  Within brackets the ends of lines
are blank too, and so is the end of a line behind a backslash anywhere. -/
def skip (inside comment : Bool) : List Char → List Char
  | [] => []
  | character :: rest =>
      if comment && character ≠ '\n' then skip inside true rest
      else if character = '#' then skip inside true rest
      else if isSpace character || (inside && character = '\n') then skip inside false rest
      else
        match character, rest with
        | '\\', '\n' :: rest => skip inside false rest
        | _, _ => character :: rest

/-- The characters from the first line that holds more than blanks and a comment,
which may not be indented. -/
def firstLine (indented comment : Bool) : List Char → Option (List Char)
  | [] => some []
  | character :: rest =>
      if character = '\n' then firstLine false false rest
      else if comment || character = '#' then firstLine indented true rest
      else if character = '\x0c' then firstLine false false rest
      else if isSpace character then firstLine true false rest
      else if indented then none
      else some (character :: rest)

/-! ## Strings -/

/-- How a string is written: with backslashes that stand for themselves, and as a
string of bytes. -/
structure Manner where
  raw : Bool
  bytes : Bool

/-- The manner that the letters before the opening quote ask for. -/
def manner? : List Char → Option Manner
  | [] | ['u'] => some ⟨false, false⟩
  | ['r'] => some ⟨true, false⟩
  | ['b'] => some ⟨false, true⟩
  | ['b', 'r'] | ['r', 'b'] => some ⟨true, true⟩
  | _ => none

/-- The value of a hexadecimal digit. -/
def hexadecimalDigit? (character : Char) : Option Nat :=
  if '0' ≤ character ∧ character ≤ '9' then some (character.toNat - '0'.toNat)
  else if 'a' ≤ character ∧ character ≤ 'f' then some (character.toNat - 'a'.toNat + 10)
  else if 'A' ≤ character ∧ character ≤ 'F' then some (character.toNat - 'A'.toNat + 10)
  else none

/-- The number of hexadecimal digits at the front of a text. -/
def hexadecimal? (count : Nat) (text : List Char) : Option Nat :=
  if text.length < count then none
  else (text.take count).foldlM (fun total character =>
    (hexadecimalDigit? character).map (total * 16 + ·)) 0

/-- Whether a text begins with the name of a character in braces. -/
def beginsName (text : List Char) : Bool :=
  match text with
  | '\x7b' :: rest =>
      let name := rest.takeWhile fun character =>
        character.isAlphanum || character = ' ' || character = '-'
      !name.isEmpty && (rest.drop name.length).head? = some '\x7d'
  | _ => false

/-- Whether an escape is complete: its letter, and the characters behind it. -/
def isEscape (manner : Manner) (letter : Char) (rest : List Char) : Bool :=
  if manner.raw then true
  else if letter = 'x' then (hexadecimal? 2 rest).isSome
  else if manner.bytes then true
  else if letter = 'u' then (hexadecimal? 4 rest).isSome
  else if letter = 'U' then (hexadecimal? 8 rest).any (· < 0x110000)
  else if letter = 'N' then beginsName rest
  else true

/-- Whether a character may stand in a string. -/
def isAllowed (manner : Manner) (character : Char) : Bool :=
  !manner.bytes || character.toNat < 128

/-- What is left after the closing quote of a string.  A long string ends at three
quotes and may go on over several lines. -/
def afterString (manner : Manner) (quote : Char) (long : Bool) :
    List Char → Option (List Char)
  | [] => none
  | '\\' :: letter :: rest =>
      if isAllowed manner letter && isEscape manner letter rest then
        afterString manner quote long rest
      else none
  | character :: rest =>
      if character = quote then
        if long then
          match rest with
          | second :: third :: left =>
              if second = quote && third = quote then some left
              else afterString manner quote long (second :: third :: left)
          | _ => none
        else some rest
      else if (character = '\n' && !long) || !isAllowed manner character then none
      else afterString manner quote long rest

/-- Reads the string behind an opening quote. -/
def afterQuote (manner : Manner) (quote : Char) : List Char → Option (List Char)
  | second :: third :: rest =>
      if second = quote && third = quote then afterString manner quote true rest
      else afterString manner quote false (second :: third :: rest)
  | rest => afterString manner quote false rest

/-- Whether a character opens a string. -/
def isQuote (character : Char) : Bool :=
  character = '\'' || character = '"'

/-- Reads a string from the letters before its quote on, if there is one. -/
def readString (text : List Char) : Option (Option (Manner × List Char)) :=
  let letters := text.takeWhile Char.isAlpha
  match text.drop letters.length with
  | quote :: rest =>
      if isQuote quote then
        some (do
          let manner ← manner? (letters.map Char.toLower)
          let left ← afterQuote manner quote rest
          some (manner, left))
      else none
  | [] => none

/-- Reads further strings that are written behind a first one.  Strings of bytes
and of characters do not mix. -/
def afterStrings (inside : Bool) (manner : Manner) :
    (fuel : Nat) → List Char → Option (List Char)
  | 0, left => some left
  | fuel + 1, left =>
      match readString (skip inside false left) with
      | none => some left
      | some none => none
      | some (some (next, left)) =>
          if next.bytes = manner.bytes then afterStrings inside manner fuel left else none

/-! ## Numbers -/

/-- The number of digits at the front of a text, between which a single underscore
may stand, and what is left after them. -/
def digits (isDigit : Char → Bool) : List Char → Nat × List Char
  | '_' :: digit :: rest =>
      if isDigit digit then
        let (count, left) := digits isDigit rest
        (count + 1, left)
      else (0, '_' :: digit :: rest)
  | digit :: rest =>
      if isDigit digit then
        let (count, left) := digits isDigit rest
        (count + 1, left)
      else (0, digit :: rest)
  | [] => (0, [])

/-- Decimal digits at the front of a text; no underscore comes first. -/
def decimals (text : List Char) : Nat × List Char :=
  if text.head?.any Char.isDigit then digits Char.isDigit text else (0, text)

/-- The digits of the integers that are written behind a zero and a letter. -/
def basedDigits? (letter : Char) : Option (Char → Bool) :=
  match letter.toLower with
  | 'x' => some fun digit => (hexadecimalDigit? digit).isSome
  | 'o' => some fun digit => '0' ≤ digit && digit ≤ '7'
  | 'b' => some fun digit => digit = '0' || digit = '1'
  | _ => none

/-- The fraction at the front of a text, if there is one, and what is left after
it. -/
def afterFraction : List Char → Bool × List Char
  | '.' :: rest => (true, (decimals rest).2)
  | rest => (false, rest)

/-- The exponent at the front of a text, if there is one, and what is left after
it. -/
def afterExponent (text : List Char) : Bool × List Char :=
  match text with
  | letter :: rest =>
      let power :=
        match rest with
        | sign :: digits => if sign = '+' || sign = '-' then digits else rest
        | [] => rest
      let (count, left) := decimals power
      if (letter = 'e' || letter = 'E') && count ≠ 0 then (true, left) else (false, text)
  | [] => (false, text)

/-- Reads a decimal number.  An integer begins with a zero only if it is zero. -/
def readDecimal (text : List Char) : Option (Kind × List Char) :=
  let (count, left) := decimals text
  let whole := text.take (text.length - left.length)
  let (fraction, left) := afterFraction left
  let (exponent, left) := afterExponent left
  match left with
  | 'j' :: left | 'J' :: left => some (.imaginary, left)
  | left =>
      if fraction || exponent then some (.real, left)
      else if maximumDigits < count then none
      else if whole.head? = some '0' && whole.any (fun digit => '1' ≤ digit && digit ≤ '9') then
        none
      else some (.real, left)

/-- Reads a number. -/
def readNumber (text : List Char) : Option (Kind × List Char) :=
  match text with
  | '0' :: letter :: rest =>
      match basedDigits? letter with
      | some isDigit =>
          let (count, left) := digits isDigit rest
          if count = 0 then none else some (.real, left)
      | none => readDecimal text
  | _ => readDecimal text

/-- Whether a text begins with a number. -/
def beginsNumber : List Char → Bool
  | '.' :: digit :: _ => digit.isDigit
  | digit :: _ => digit.isDigit
  | [] => false

/-! ## Literals -/

/-- The constants by name. -/
def constants : List (String × Kind) :=
  [("None", .constant), ("True", .constant), ("False", .constant), ("set", .emptySetName)]

/-- Reads a name of a constant. -/
def readName (text : List Char) : Option (Kind × List Char) :=
  let name := text.takeWhile fun character => character.isAlphanum || character = '_'
  (constants.lookup (String.ofList name)).map (·, text.drop name.length)

/-- The most brackets that may be open at once. -/
def maximumBrackets : Nat := 200

/-- Whether the items between brackets end at a text. -/
def endsItems : List Char → Bool
  | [] => true
  | character :: _ => character = ')' || character = '\x7d' || character = '\n'

mutual

/-- Reads a literal within a number of open brackets: a number and one added to
it or taken from it, or a single piece.  Every step takes one unit of `fuel`. -/
def readLiteral (depth : Nat) : (fuel : Nat) → List Char → Option (Kind × List Char)
  | 0, _ => none
  | fuel + 1, text => do
      let inside := decide (depth ≠ 0)
      let (kind, left) ← readSigned depth fuel text
      match skip inside false left with
      | '+' :: rest | '-' :: rest =>
          let (added, left) ← readSigned depth fuel (skip inside false rest)
          some (← kind.sum? added, left)
      | left => some (kind, left)

/-- Reads a piece with a sign or without. -/
def readSigned (depth : Nat) : (fuel : Nat) → List Char → Option (Kind × List Char)
  | 0, _ => none
  | fuel + 1, text =>
      match text with
      | '+' :: rest | '-' :: rest => do
          let (kind, left) ← readCall depth fuel (skip (decide (depth ≠ 0)) false rest)
          some (← kind.signed?, left)
      | text => readCall depth fuel text

/-- Reads a piece, and its call if it is the name of the empty set. -/
def readCall (depth : Nat) : (fuel : Nat) → List Char → Option (Kind × List Char)
  | 0, _ => none
  | fuel + 1, text => do
      let (kind, left) ← readPiece depth fuel text
      match kind, skip (decide (depth ≠ 0)) false left with
      | .emptySetName, '(' :: rest =>
          match skip true false rest with
          | ')' :: left => some (.container, left)
          | _ => none
      | kind, _ => some (kind, left)

/-- Reads a number, strings, a constant, or what brackets enclose. -/
def readPiece (depth : Nat) : (fuel : Nat) → List Char → Option (Kind × List Char)
  | 0, _ => none
  | fuel + 1, text =>
      match text with
      | '(' :: rest =>
          if depth < maximumBrackets then do
            let (kinds, comma, left) ← readItems (depth + 1) fuel (skip true false rest)
            match left with
            | ')' :: left => some (← Kind.enclosed? kinds comma, left)
            | _ => none
          else none
      | '\x7b' :: rest =>
          if depth < maximumBrackets then readBraces (depth + 1) fuel (skip true false rest)
          else none
      | '.' :: '.' :: '.' :: left => some (.constant, left)
      | text =>
          if beginsNumber text then readNumber text
          else
            match readString text with
            | none => readName text
            | some none => none
            | some (some (manner, left)) =>
                (afterStrings (decide (depth ≠ 0)) manner fuel left).map (Kind.constant, ·)

/-- Reads literals that are separated by commas, up to the bracket or the line
that ends them, and says whether a comma comes last. -/
def readItems (depth : Nat) : (fuel : Nat) → List Char → Option (List Kind × Bool × List Char)
  | 0, _ => none
  | fuel + 1, text =>
      if endsItems text then some ([], true, text)
      else do
        let inside := decide (depth ≠ 0)
        let (kind, left) ← readLiteral depth fuel text
        match skip inside false left with
        | ',' :: rest => do
            let (kinds, comma, left) ← readItems depth fuel (skip inside false rest)
            some (kind :: kinds, comma, left)
        | left => some ([kind], false, left)

/-- Reads a dictionary or a set behind its brace. -/
def readBraces (depth : Nat) : (fuel : Nat) → List Char → Option (Kind × List Char)
  | 0, _ => none
  | fuel + 1, text =>
      match text with
      | '\x7d' :: left => some (.container, left)
      | text => do
          let (_, left) ← readLiteral depth fuel text
          match skip true false left with
          | ':' :: _ => do
              let left ← readEntries depth fuel text
              some (.container, left)
          | _ => do
              let (kinds, _, left) ← readItems depth fuel text
              match left with
              | '\x7d' :: left => if kinds.all Kind.isKey then some (.container, left) else none
              | _ => none

/-- Reads the entries of a dictionary to its closing brace. -/
def readEntries (depth : Nat) : (fuel : Nat) → List Char → Option (List Char)
  | 0, _ => none
  | fuel + 1, text =>
      match text with
      | '\x7d' :: left => some left
      | text => do
          let (key, left) ← readLiteral depth fuel text
          match skip true false left with
          | ':' :: rest => do
              let (value, left) ← readLiteral depth fuel (skip true false rest)
              if key.isKey && value.isValue then
                match skip true false left with
                | ',' :: rest => readEntries depth fuel (skip true false rest)
                | '\x7d' :: left => some left
                | _ => none
              else none
          | _ => none

end

/-- Whether characters are a literal and nothing but blanks and comments after
it. -/
def isLiteralOf (characters : List Char) : Bool :=
  (do
    let text ← firstLine false false (Text.unifyLineEnds characters)
    let (kinds, comma, left) ← readItems 0 (8 * text.length + 8) (skip false false text)
    let kind ← if kinds = [] then none else Kind.enclosed? kinds comma
    let rest ← firstLine false false (skip false false left)
    if kind.isValue && rest.isEmpty then some () else none).isSome

/-- Whether a text is a literal.  A text with a lone surrogate or a null character
is none. -/
def isLiteral (text : Text) : Bool :=
  text.toChars?.any fun characters => !characters.contains '\x00' && isLiteralOf characters

/-- Whether a code point may stand in the name of a handler. -/
def isNamePart (point : CodePoint) : Bool :=
  point = .char '.' || point.isIn wordRanges

/-- Whether parameters are arguments of a handler: the name of one without any, a
name and a literal in parentheses, or a literal. -/
def isArgument (parameters : Text) : Bool :=
  let parameters := parameters.strip
  let rest := parameters.dropWhile isNamePart
  if rest = [] then true
  else if rest.head? = some (.char '(') && rest.getLast? = some (.char ')') &&
      rest.all (· ≠ .char '\n') then
    isLiteral rest
  else isLiteral parameters

end HelperKit.Argument
