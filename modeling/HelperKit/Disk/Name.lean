import HelperKit.Text.Encoding

/-!
# The names that a disk knows

A file system names its entries by bytes.  Bytes that are not UTF-8 appear in a
text as surrogates, one for each byte, so that every name has a text.  Several
texts may spell the same bytes; the one that is kept is the one in which every
character that can be put together is.
-/

namespace HelperKit

/-- The byte that a code point stands for by itself. -/
def CodePoint.rawByte? : CodePoint → Option UInt8
  | .char _ => none
  | .surrogate index =>
      if 0x480 ≤ index.val ∧ index.val < 0x500 then some (UInt8.ofNat (index.val - 0x400))
      else none

namespace Name

/-- The most bytes that a name may have. -/
def maximumBytes : Nat := 255

/-- Whether a code point can be part of a name.  The only surrogates that can are
those that stand for bytes. -/
def isEncodable : CodePoint → Bool
  | .char _ => true
  | .surrogate index => (CodePoint.surrogate index).rawByte?.isSome

/-- The number of bytes of a code point. -/
def pointBytes : CodePoint → Nat
  | .char character => character.utf8Size
  | .surrogate _ => 1

/-- The number of bytes of a text. -/
def byteSize : Text → Nat
  | [] => 0
  | point :: rest => pointBytes point + byteSize rest

/-- Whether a name has more bytes than are admitted. -/
def isTooLong (name : Text) : Bool :=
  maximumBytes < byteSize name

/-- The character that is spelled by bytes which stand for themselves. -/
def spelled? (points : Text) : Option Char := do
  let bytes ← points.mapM CodePoint.rawByte?
  match Text.decode? ⟨bytes.toArray⟩ with
  | some [character] => some character
  | _ => none

/-- A code point before a text.  If it begins the bytes of a character, these are
put together; a character has at most four bytes. -/
def extend (point : CodePoint) (rest : Text) : Text :=
  let joined := [1, 2, 3].findSome? fun count =>
    (spelled? (point :: rest.take count)).map fun character =>
      .char character :: rest.drop count
  joined.getD (point :: rest)

/-- The text that is kept for a name.  Bytes are put together from the end, since
no byte inside a character begins another one. -/
def normal : Text → Text
  | [] => []
  | point :: rest => extend point (normal rest)

/-- A character is never a part of another one. -/
theorem extend_char (character : Char) (rest : Text) :
    extend (.char character) rest = .char character :: rest := by
  simp [extend, spelled?, CodePoint.rawByte?]

/-- A name without surrogates is kept as it is. -/
theorem normal_ofChars (characters : List Char) :
    normal (Text.ofChars characters) = Text.ofChars characters := by
  induction characters with
  | nil => rfl
  | cons character characters induction =>
      change extend (.char character) (normal (Text.ofChars characters)) = _
      rw [induction, extend_char]
      rfl

end Name

end HelperKit
