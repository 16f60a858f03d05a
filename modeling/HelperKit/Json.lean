import HelperKit.Double

/-!
# Document values

A settings document is a JSON value.  The members of an object are kept in the
order in which the document lists them, because several tools share one document
and none of them may disturb what the others wrote.
-/

namespace HelperKit

/-- A JSON value.  Integers have any size; numbers with a fraction or an
exponent are floating-point numbers, and so are NaN and the infinities. -/
inductive Json where
  | null
  | boolean (value : Bool)
  | integer (value : Int)
  | double (value : Double)
  | string (value : Text)
  | array (items : List Json)
  | object (members : List (Text × Json))

/-- The members of an object, in order. -/
abbrev Members := List (Text × Json)

namespace Members

/-- The value of a name. -/
def get? (members : Members) (name : Text) : Option Json :=
  members.lookup name

/-- Whether a name has a value. -/
def has (members : Members) (name : Text) : Bool :=
  (members.get? name).isSome

/-- Gives a name a value: in place if the name is there, else at the end. -/
def put (members : Members) (name : Text) (value : Json) : Members :=
  match members with
  | [] => [(name, value)]
  | (other, old) :: rest =>
      if other = name then (name, value) :: rest
      else (other, old) :: put rest name value

/-- Takes a name and its value away. -/
def erase (members : Members) (name : Text) : Members :=
  members.filter fun member => member.1 ≠ name

/-- Members from a list of pairs that may repeat names: a name keeps its first
place and takes its last value. -/
def ofPairs (pairs : List (Text × Json)) : Members :=
  pairs.foldl (fun members pair => members.put pair.1 pair.2) []

/-- The names, in order. -/
def names (members : Members) : List Text :=
  members.map Prod.fst

end Members

end HelperKit
