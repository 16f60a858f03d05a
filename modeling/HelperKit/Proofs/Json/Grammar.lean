import HelperKit.Proofs.Json.Numeral

/-!
# The grammar of documents

The grammar says what a text spells, without saying how it is read.  It knows no limits: whole
numbers have any number of digits, and arrays and objects lie inside each other to any depth.
Every relation is between a text, what the beginning of it spells, and the rest of the text
behind that beginning.

A value is due at a place inside a document if everything before the place is spelled as it has
to be.  This is how far a document can be read whatever comes behind the place.
-/

namespace HelperKit

namespace Json

/-! ## Blanks and strings -/

/-- A text begins with blanks, of which there may be none. -/
inductive Blanks : List Char → List Char → Prop where
  | none {rest : List Char} : Blanks rest rest
  | more {character : Char} {text rest : List Char} (blank : isBlank character = true)
      (others : Blanks text rest) : Blanks (character :: text) rest

/-- The code points of a string behind its opening quote, with surrogates still apart. -/
inductive SpellsPoints : List Char → Text → List Char → Prop where
  | close {rest : List Char} : SpellsPoints ('"' :: rest) [] rest
  | plain {character : Char} {text rest : List Char} {points : Text}
      (printable : 0x20 ≤ character.toNat) (notQuote : character ≠ '"')
      (notSlash : character ≠ '\\') (others : SpellsPoints text points rest) :
      SpellsPoints (character :: text) (.char character :: points) rest
  | escape {letter character : Char} {text rest : List Char} {points : Text}
      (escaped : escaped? letter = some character) (others : SpellsPoints text points rest) :
      SpellsPoints ('\\' :: letter :: text) (.char character :: points) rest
  | unit {first second third fourth : Char} {unit : Nat} {text rest : List Char} {points : Text}
      (spelled : escapeUnit? first second third fourth = some unit)
      (others : SpellsPoints text points rest) :
      SpellsPoints ('\\' :: 'u' :: first :: second :: third :: fourth :: text)
        (.ofValue unit :: points) rest

/-- A string with its quotes.  A high surrogate and a low one behind it are put together. -/
inductive SpellsString : List Char → Text → List Char → Prop where
  | quoted {text rest : List Char} {points : Text} (body : SpellsPoints text points rest) :
      SpellsString ('"' :: text) (joinSurrogates points) rest

/-! ## Numbers -/

/-- The whole digits of a number are a zero alone, or they do not begin with a zero. -/
structure IsWhole (digits : List Char) : Prop where
  areDigits : AreDigits digits
  nonempty : digits ≠ []
  leading : digits = ['0'] ∨ ∀ digit ∈ digits.head?, digit ≠ '0'

/-- A point with digits behind it, or nothing. -/
inductive SpellsFraction : List Char → List Char → List Char → Prop where
  | absent {rest : List Char} : SpellsFraction rest [] rest
  | digits {digits rest : List Char} (areDigits : AreDigits digits) (nonempty : digits ≠ []) :
      SpellsFraction ('.' :: (digits ++ rest)) digits rest

/-- The sign of an exponent; whether it is a minus. -/
inductive SpellsSign : List Char → Bool → List Char → Prop where
  | absent {rest : List Char} : SpellsSign rest false rest
  | plus {rest : List Char} : SpellsSign ('+' :: rest) false rest
  | minus {rest : List Char} : SpellsSign ('-' :: rest) true rest

/-- A letter with digits behind it, or nothing. -/
inductive SpellsPower : List Char → Option Int → List Char → Prop where
  | absent {rest : List Char} : SpellsPower rest none rest
  | digits {letter : Char} {negative : Bool} {text digits rest : List Char}
      (begins : letter = 'e' ∨ letter = 'E') (sign : SpellsSign text negative (digits ++ rest))
      (areDigits : AreDigits digits) (nonempty : digits ≠ []) :
      SpellsPower (letter :: text)
        (some (if negative then -(numberOf digits : Int) else numberOf digits)) rest

/-- A number.  With a fraction or an exponent it is one of 64 bits, else a whole number. -/
inductive SpellsNumber : List Char → Json → List Char → Prop where
  | integer {whole rest : List Char} (negative : Bool) (isWhole : IsWhole whole) :
      SpellsNumber (signOf negative ++ (whole ++ rest))
        (.integer (if negative then -(numberOf whole : Int) else numberOf whole)) rest
  | double {whole afterWhole digits afterFraction rest : List Char} {power : Option Int}
      (negative : Bool) (isWhole : IsWhole whole)
      (fraction : SpellsFraction afterWhole digits afterFraction)
      (exponent : SpellsPower afterFraction power rest) (broken : digits ≠ [] ∨ power ≠ none) :
      SpellsNumber (signOf negative ++ (whole ++ afterWhole))
        (.double (.ofDecimal negative ⟨numberOf (whole ++ digits), power.getD 0 - digits.length⟩))
        rest

/-- The whole digits of a number end here, and neither a fraction nor an exponent begins. -/
structure EndsInteger (rest : List Char) : Prop where
  noDigit : EndsDigits rest
  noFraction : ∀ digits left, SpellsFraction rest digits left → digits = []
  noPower : ∀ power left, SpellsPower rest power left → power = none

/-- A text begins with a whole number of more digits than are converted. -/
inductive LongInteger : List Char → Prop where
  | spelled {whole rest : List Char} (negative : Bool) (isWhole : IsWhole whole)
      (long : maximumDigits < whole.length) (ends : EndsInteger rest) :
      LongInteger (signOf negative ++ (whole ++ rest))

/-! ## Values -/

/-- The name of a member and the colon behind it, up to where its value begins. -/
inductive SpellsName : List Char → Text → List Char → Prop where
  | colon {text after behind rest : List Char} {name : Text}
      (string : SpellsString text name after) (before : Blanks after (':' :: behind))
      (blanks : Blanks behind rest) : SpellsName text name rest

mutual

/-- A value. -/
inductive Spells : List Char → Json → List Char → Prop where
  | constant {name : String} {value : Json} {rest : List Char}
      (member : (name, value) ∈ constants) : Spells (name.toList ++ rest) value rest
  | number {text rest : List Char} {value : Json} (number : SpellsNumber text value rest) :
      Spells text value rest
  | string {text rest : List Char} {string : Text} (spelled : SpellsString text string rest) :
      Spells text (.string string) rest
  | emptyArray {text rest : List Char} (blanks : Blanks text (']' :: rest)) :
      Spells ('[' :: text) (.array []) rest
  | array {text first rest : List Char} {items : List Json} (blanks : Blanks text first)
      (elements : SpellsElements first items rest) : Spells ('[' :: text) (.array items) rest
  | object {text rest : List Char} {pairs : List (Text × Json)}
      (spelled : SpellsObject text pairs rest) : Spells text (.object (Members.ofPairs pairs)) rest

/-- The elements of an array with the closing bracket. -/
inductive SpellsElements : List Char → List Json → List Char → Prop where
  | last {text between rest : List Char} {item : Json} (spelled : Spells text item between)
      (blanks : Blanks between (']' :: rest)) : SpellsElements text [item] rest
  | more {text between after next rest : List Char} {item : Json} {items : List Json}
      (spelled : Spells text item between) (before : Blanks between (',' :: after))
      (blanks : Blanks after next) (others : SpellsElements next items rest) :
      SpellsElements text (item :: items) rest

/-- An object, with its pairs as they are written: names may be repeated. -/
inductive SpellsObject : List Char → List (Text × Json) → List Char → Prop where
  | empty {text rest : List Char} (blanks : Blanks text ('\x7d' :: rest)) :
      SpellsObject ('\x7b' :: text) [] rest
  | filled {text first rest : List Char} {pairs : List (Text × Json)} (blanks : Blanks text first)
      (members : SpellsMembers first pairs rest) : SpellsObject ('\x7b' :: text) pairs rest

/-- The members of an object with the closing brace. -/
inductive SpellsMembers : List Char → List (Text × Json) → List Char → Prop where
  | last {text start between rest : List Char} {name : Text} {value : Json}
      (named : SpellsName text name start) (valued : Spells start value between)
      (blanks : Blanks between ('\x7d' :: rest)) : SpellsMembers text [(name, value)] rest
  | more {text start between after next rest : List Char} {name : Text} {value : Json}
      {pairs : List (Text × Json)} (named : SpellsName text name start)
      (valued : Spells start value between) (before : Blanks between (',' :: after))
      (blanks : Blanks after next) (others : SpellsMembers next pairs rest) :
      SpellsMembers text ((name, value) :: pairs) rest

end

/-! ## Places -/

mutual

/-- Where a value begins, another one inside it is due at a place, within a number of arrays and
objects. -/
inductive ValueDue : Nat → List Char → List Char → Prop where
  | here {place : List Char} : ValueDue 0 place place
  | array {inside : Nat} {text first place : List Char} (blanks : Blanks text first)
      (due : ElementDue inside first place) : ValueDue (inside + 1) ('[' :: text) place
  | object {inside : Nat} {text first place : List Char} (blanks : Blanks text first)
      (due : MemberDue inside first place) : ValueDue (inside + 1) ('\x7b' :: text) place

/-- Among the elements of an array a value is due at a place. -/
inductive ElementDue : Nat → List Char → List Char → Prop where
  | here {inside : Nat} {text place : List Char} (due : ValueDue inside text place) :
      ElementDue inside text place
  | later {inside : Nat} {text between after next place : List Char} {item : Json}
      (spelled : Spells text item between) (before : Blanks between (',' :: after))
      (blanks : Blanks after next) (due : ElementDue inside next place) :
      ElementDue inside text place

/-- Among the members of an object a value is due at a place. -/
inductive MemberDue : Nat → List Char → List Char → Prop where
  | here {inside : Nat} {text start place : List Char} {name : Text}
      (named : SpellsName text name start) (due : ValueDue inside start place) :
      MemberDue inside text place
  | later {inside : Nat} {text start between after next place : List Char} {name : Text}
      {value : Json} (named : SpellsName text name start) (valued : Spells start value between)
      (before : Blanks between (',' :: after)) (blanks : Blanks after next)
      (due : MemberDue inside next place) : MemberDue inside text place

end

/-! ## Documents -/

/-- A document is one value between blanks. -/
def IsDocument (text : List Char) (value : Json) : Prop :=
  ∃ start rest, Blanks text start ∧ Spells start value rest ∧ Blanks rest []

/-- A document that is an object, with its pairs as they are written. -/
def IsObjectDocument (text : List Char) (pairs : List (Text × Json)) : Prop :=
  ∃ start rest, Blanks text start ∧ SpellsObject start pairs rest ∧ Blanks rest []

/-- A whole number of more digits than are converted is met before anything that the grammar
does not allow. -/
def MeetsLongInteger (text : List Char) : Prop :=
  ∃ inside start place, Blanks text start ∧ ValueDue inside start place ∧ LongInteger place

/-- An array or object inside more others than are followed is met before anything that the
grammar does not allow. -/
def Overnested (text : List Char) : Prop :=
  ∃ start place left, Blanks text start ∧ ValueDue maximumDepth start place ∧
    (place = '[' :: left ∨ place = '\x7b' :: left)

end Json

end HelperKit
