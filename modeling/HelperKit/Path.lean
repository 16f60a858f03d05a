import HelperKit.Text.Quoted

/-!
# Paths

A path is kept by its parts.  Empty parts and single dots say nothing and are
dropped; double dots are kept, since what they mean depends on the disk.
-/

namespace HelperKit

/-- Where a path starts: at the working directory, or at the root, which is
written with one slash or with exactly two. -/
inductive Anchor where
  | workingDirectory
  | root
  | doubleRoot
  deriving DecidableEq

/-- A path. -/
structure Path where
  anchor : Anchor
  parts : List Text
  deriving DecidableEq

namespace Path

/-- The part that names the directory above. -/
def parentPart : Text := [.char '.', .char '.']

/-- Whether a piece between slashes says something. -/
def isPart (piece : Text) : Bool :=
  piece ≠ [] ∧ piece ≠ [.char '.']

/-- The anchor that the slashes at the beginning of a text stand for. -/
def anchorOf (text : Text) : Anchor :=
  match (text.takeWhile (· = .char '/')).length with
  | 0 => .workingDirectory
  | 2 => .doubleRoot
  | _ => .root

/-- The path that a text spells. -/
def ofText (text : Text) : Path :=
  { anchor := anchorOf text
    parts := (text.splitOn (.char '/')).filter isPart }

/-- The text of a path; the working directory itself is a dot. -/
def toText (path : Path) : Text :=
  match path.anchor, path.parts with
  | .workingDirectory, [] => [.char '.']
  | .workingDirectory, parts => Text.join [.char '/'] parts
  | .root, parts => [.char '/'] ++ Text.join [.char '/'] parts
  | .doubleRoot, parts => [.char '/', .char '/'] ++ Text.join [.char '/'] parts

/-- A path below another one.  A path that starts at the root stays as it is. -/
def join (path below : Path) : Path :=
  match below.anchor with
  | .workingDirectory => { path with parts := path.parts ++ below.parts }
  | _ => below

/-- The path above; a path without parts is its own parent. -/
def parent (path : Path) : Path :=
  { path with parts := path.parts.dropLast }

end Path

end HelperKit
