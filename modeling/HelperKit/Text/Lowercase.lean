import HelperKit.Text
import HelperKit.Text.LowercaseTable

/-!
# Lower case

Answers are compared with labels in lower case.  The forms are those of Unicode:
every character has a form of its own, except that a capital sigma at the end of
a word becomes a final sigma and that a dotted capital I becomes an i followed by
a combining dot.
-/

namespace HelperKit

namespace CaseRun

/-- Whether a run lists the number of a code point. -/
def covers (run : CaseRun) (number : Nat) : Bool :=
  run.first ≤ number && number ≤ run.last && (number - run.first) % run.step == 0

/-- The number of the lower-case form of a code point that the run lists. -/
def lower (run : CaseRun) (number : Nat) : Nat :=
  (number + run.offset).toNat

end CaseRun

namespace CodePoint

/-- The lower-case form of a code point taken by itself. -/
def lower (point : CodePoint) : Text :=
  match point with
  | .surrogate _ => [point]
  | .char character =>
      if character.toNat < 128 then [.char character.toLower]
      else if character = 'İ' then [.char 'i', ofValue 0x307]
      else
        match lowercaseRuns.find? (·.covers character.toNat) with
        | some run => [ofValue (run.lower character.toNat)]
        | none => [point]

/-- Whether a code point is a cased letter. -/
def isCased (point : CodePoint) : Bool :=
  point.isIn casedRanges

/-- Whether a code point is passed over in the search for a cased letter. -/
def isCaseIgnorable (point : CodePoint) : Bool :=
  point.isIn caseIgnorableRanges

end CodePoint

namespace Text

/-- Whether the first code point that is not case-ignorable is a cased letter. -/
def beginsCased (text : Text) : Bool :=
  (text.dropWhile CodePoint.isCaseIgnorable).head?.any CodePoint.isCased

/-- The lower-case form of a text that follows a given one, which is written
backwards.  A capital sigma is final when a cased letter comes before it and
none after it. -/
def lowerAfter (before : Text) : Text → Text
  | [] => []
  | point :: rest =>
      let form :=
        if point = .char 'Σ' then
          if beginsCased before && !beginsCased rest then [.char 'ς'] else [.char 'σ']
        else point.lower
      form ++ lowerAfter (point :: before) rest

/-- The lower-case form of a text. -/
def lower (text : Text) : Text :=
  lowerAfter [] text

end Text

end HelperKit
