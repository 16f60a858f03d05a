import HelperKit.Console.Argument
import HelperKit.Console.Styled
import HelperKit.Failure

/-!
# Marked-up text

Text for the console may hold tags in square brackets, which set its style and do
not show.  A backslash takes the meaning from a tag.  What lies between a tag and
the one that closes it is a stretch of styled text.  Rendering fails when a closing
tag has no open one, when the parameters of a handler are no arguments, and when
the name of a style has a broken colour.
-/

namespace HelperKit.Markup

/-- A piece of marked-up text. -/
inductive Piece where
  | literal (text : Text)
  | tag (text : Text)
  deriving DecidableEq

/-- Whether a tag may begin with a code point. -/
def beginsTag : CodePoint → Bool
  | .char character =>
      ('a' ≤ character && character ≤ 'z') || character = '#' || character = '/' ||
        character = '@'
  | .surrogate _ => false

/-- The text of the tag whose opening bracket comes before a text.  A tag holds
no opening bracket. -/
def tagAfter? (text : Text) : Option Text :=
  let body := text.takeWhile fun point => point ≠ .char ']' && point ≠ .char '['
  if text.head?.any beginsTag && (text.drop body.length).head? = some (.char ']') then
    some body
  else none

/-- A run of backslashes. -/
def backslashes (count : Nat) : Text :=
  List.replicate count (.char '\\')

/-- The pieces of a text of which `skip` code points are taken already, after a
number of backslashes that are not written yet.  Before a tag every two of them
stand for one, and one left over makes the tag literal; before another bracket
one of them is dropped. -/
def piecesFrom (skip pending : Nat) : Text → List Piece
  | [] => [.literal (backslashes pending)]
  | point :: rest =>
      match skip with
      | skip + 1 => piecesFrom skip pending rest
      | 0 =>
          if point = .char '\\' then piecesFrom 0 (pending + 1) rest
          else if point = .char '[' then
            match tagAfter? rest with
            | some body =>
                .literal (backslashes (pending / 2)) ::
                (if pending % 2 = 0 then .tag body
                  else .literal ([.char '['] ++ body ++ [.char ']'])) ::
                piecesFrom (body.length + 1) 0 rest
            | none =>
                .literal (backslashes (pending - 1) ++ [.char '[']) :: piecesFrom 0 0 rest
          else .literal (backslashes pending ++ [point]) :: piecesFrom 0 0 rest

/-- The pieces of a text. -/
def pieces (text : Text) : List Piece :=
  piecesFrom 0 0 text

/-- An open tag: the normal form of its name, its parameters, and the place where
it stands. -/
structure OpenTag where
  name : Text
  parameters : Option Text
  place : Nat

namespace OpenTag

/-- Whether a tag is for a handler. -/
def isHandler (tag : OpenTag) : Bool :=
  tag.name.head? = some (.char '@')

/-- The name of the style that a tag sets. -/
def style (tag : OpenTag) : Text :=
  match tag.parameters with
  | some parameters => tag.name ++ " " ++ parameters
  | none => tag.name

/-- The stretch of a tag that is closed at a place. -/
def close (tag : OpenTag) (place : Nat) : Except Failure Stretch :=
  if tag.isHandler then
    if tag.parameters.all fun parameters => parameters = [] || Argument.isArgument parameters then
      .ok ⟨tag.place, place, none⟩
    else .error .badMarkup
  else .ok ⟨tag.place, place, some tag.style⟩

/-- The stretch of a tag that is still open at the end of a text. -/
def finish (tag : OpenTag) (length : Nat) : Stretch :=
  ⟨tag.place, length, some tag.style⟩

end OpenTag

/-- The normal form of the name of a style. -/
def styleName (name : Text) : Except Failure Text :=
  match Style.normalise? name with
  | some name => .ok name
  | none => .error .brokenColour

/-- The tag that a tag at a place opens.  Parameters stand behind an equals
sign. -/
def openTag (text : Text) (place : Nat) : Except Failure OpenTag := do
  let written := text.takeWhile (· ≠ .char '=')
  let name ← styleName written
  let parameters :=
    if written.length < text.length then some (text.drop (written.length + 1)) else none
  .ok ⟨name, parameters, place⟩

/-- The name in a closing tag. -/
def closingName? (text : Text) : Option Text :=
  match text.takeWhile (· ≠ .char '=') with
  | .char '/' :: name => some (Text.strip name)
  | _ => none

/-- Takes the latest open tag, or the latest one with a name, out of the open
tags. -/
def takeTag (opened : List OpenTag) (name : Text) : Except Failure (OpenTag × List OpenTag) :=
  if name = [] then
    match opened with
    | [] => .error .badMarkup
    | tag :: opened => .ok (tag, opened)
  else do
    let name ← styleName name
    match opened.find? fun tag => tag.name = name with
    | some tag => .ok (tag, opened.eraseP fun tag => tag.name = name)
    | none => .error .badMarkup

/-- What shows of pieces behind `place` code points, given the open tags, latest
first. -/
def showFrom (place : Nat) (opened : List OpenTag) :
    List Piece → Except Failure Styled
  | [] => .ok ⟨[], opened.map fun tag => tag.finish place⟩
  | .literal text :: rest => do
      let text := Styled.sanitise text
      let shown ← showFrom (place + text.length) opened rest
      .ok { shown with text := text ++ shown.text }
  | .tag text :: rest =>
      match closingName? text with
      | none => do
          let tag ← openTag text place
          showFrom place (tag :: opened) rest
      | some name => do
          let (tag, opened) ← takeTag opened name
          let stretch ← tag.close place
          let shown ← showFrom place opened rest
          .ok { shown with stretches := stretch :: shown.stretches }

/-- What shows of a marked-up text. -/
def render (text : Text) : Except Failure Styled :=
  showFrom 0 [] (pieces text)

/-- A text with a backslash before every tag, after `pending` backslashes that
are not written yet; `skip` code points are part of a tag. -/
def escapeFrom (skip pending : Nat) : Text → Text
  | [] => backslashes pending
  | point :: rest =>
      match skip with
      | skip + 1 => point :: escapeFrom skip pending rest
      | 0 =>
          if point = .char '\\' then escapeFrom 0 (pending + 1) rest
          else if point = .char '[' then
            match tagAfter? rest with
            | some body =>
                backslashes (2 * pending + 1) ++ point :: escapeFrom (body.length + 1) 0 rest
            | none => backslashes pending ++ point :: escapeFrom 0 0 rest
          else backslashes pending ++ point :: escapeFrom 0 0 rest

/-- A text whose tags are literal.  A backslash alone at its end is doubled, so
that it does not take the meaning from a tag that follows. -/
def escape (text : Text) : Text :=
  let escaped := escapeFrom 0 0 text
  match escaped.reverse with
  | [.char '\\'] => escaped ++ backslashes 1
  | .char '\\' :: before :: _ =>
      if before = .char '\\' then escaped else escaped ++ backslashes 1
  | _ => escaped

end HelperKit.Markup
