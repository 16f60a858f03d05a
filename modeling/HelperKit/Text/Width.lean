import HelperKit.Text
import HelperKit.Text.WidthTable

/-!
# Width on a terminal

Columns are aligned by the cells that their texts take, which is not the number
of their code points.  What is drawn as one picture is a cluster: a zero-width
joiner adds the code point behind it, marks without a width belong to what they
follow, and a variation selector makes an emoji of a character that is narrow
without it.
-/

namespace HelperKit

namespace CodePoint

/-- The number of cells that a code point takes by itself. -/
def cells (point : CodePoint) : Nat :=
  if 32 ≤ point.value && point.value < 127 then 1
  else if point.isIn zeroWidthRanges then 0
  else if point.isIn doubleWidthRanges then 2
  else 1

/-- The joiner U+200D. -/
def joiner : CodePoint := .char '\u200D'

/-- The variation selector U+FE0F, which asks for an emoji. -/
def emojiSelector : CodePoint := .char '\uFE0F'

/-- Whether a variation selector makes a code point one cell wider. -/
def isWidened (point : CodePoint) : Bool :=
  point.isIn widenedRanges

end CodePoint

namespace Text

/-- The number of cells that a text takes.  `joined` says that its first code
point is joined to what comes before, and `last` is the code point that a
variation selector is about. -/
def cellsFrom (joined : Bool) (last : Option CodePoint) : Text → Nat
  | [] => 0
  | point :: rest =>
      if joined then cellsFrom false last rest
      else if point = CodePoint.joiner then cellsFrom true last rest
      else if point = CodePoint.emojiSelector then
        (if last.any CodePoint.isWidened then 1 else 0) + cellsFrom false none rest
      else if point.cells = 0 then cellsFrom false last rest
      else point.cells + cellsFrom false (some point) rest

/-- The number of cells that a text takes. -/
def cells (text : Text) : Nat :=
  cellsFrom false none text

/-- A text filled up with spaces to a number of cells. -/
def padTo (width : Nat) (text : Text) : Text :=
  text ++ spaces (width - text.cells)

/-- A piece of a text that is drawn as one picture. -/
structure Cluster where
  text : Text
  cells : Nat
  deriving DecidableEq

/-- A cluster with one more code point. -/
def Cluster.push (cluster : Cluster) (point : CodePoint) : Cluster :=
  { cluster with text := cluster.text ++ [point] }

/-- The clusters of a text behind an unfinished one; `joined` and `last` are as in
`cellsFrom`. -/
def clustersFrom (current : Cluster) (joined : Bool) (last : Option CodePoint) :
    Text → List Cluster
  | [] => [current]
  | point :: rest =>
      if joined then clustersFrom (current.push point) false last rest
      else if point = CodePoint.joiner then clustersFrom (current.push point) true last rest
      else if point = CodePoint.emojiSelector then
        let widening := if last.any CodePoint.isWidened then 1 else 0
        clustersFrom { current.push point with cells := current.cells + widening } false none rest
      else if point.cells = 0 then clustersFrom (current.push point) false last rest
      else current :: clustersFrom ⟨[point], point.cells⟩ false (some point) rest

/-- The clusters of a text.  A first code point without a width begins one of its
own, whatever it is. -/
def clusters : Text → List Cluster
  | [] => []
  | point :: rest =>
      clustersFrom ⟨[point], point.cells⟩ false (if point.cells = 0 then none else some point) rest

/-- The beginning of clusters that takes a number of cells.  A space stands for
the half of a cluster that is cut. -/
def cut : (width : Nat) → List Cluster → Text
  | 0, _ => []
  | _, [] => []
  | width + 1, cluster :: rest =>
      if cluster.cells ≤ width + 1 then cluster.text ++ cut (width + 1 - cluster.cells) rest
      else spaces 1

/-- A text cut or filled up with spaces to a number of cells. -/
def fitTo (width : Nat) (text : Text) : Text :=
  if width = 0 then []
  else if text.cells ≤ width then text.padTo width
  else cut width text.clusters

/-- Clusters cut into pieces of at most `width` cells.  The first piece begins
with `current`, which takes `column` cells. -/
def chopFrom (width : Nat) (current : Text) (column : Nat) : List Cluster → List Text
  | [] => if column = 0 then [] else [current]
  | cluster :: rest =>
      if width < column + cluster.cells then
        current :: chopFrom width cluster.text cluster.cells rest
      else chopFrom width (current ++ cluster.text) (column + cluster.cells) rest

/-- A text cut into pieces of at most `width` cells. -/
def chop (width : Nat) (text : Text) : List Text :=
  chopFrom width [] 0 text.clusters

end Text

end HelperKit
