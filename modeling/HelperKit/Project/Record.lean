import HelperKit.Project
import HelperKit.Failure

/-!
# The record of a project

A project is stored as a record, an object with four members.  Reading a record
reports everything that is wrong with it: the members are examined one by one, in
a fixed order, and the complaints about each are gathered.
-/

namespace HelperKit

/-- A value or the complaints about it. -/
abbrev Examined (α : Type) := Except (List Complaint) α

namespace Examined

variable {α β : Type}

/-- A single complaint about a value as a whole. -/
def refuse (defect : Defect) : Examined α :=
  .error [⟨[], defect⟩]

/-- Complaints about a part of a value, seen from the whole. -/
def within (step : Step) (examined : Examined α) : Examined α :=
  examined.mapError fun complaints =>
    complaints.map fun complaint => { complaint with place := step :: complaint.place }

/-- Two examinations, of which both are carried out. -/
def both (first : Examined α) (second : Examined β) : Examined (α × β) :=
  match first, second with
  | .ok first, .ok second => .ok (first, second)
  | .ok _, .error complaints => .error complaints
  | .error complaints, .ok _ => .error complaints
  | .error complaints, .error more => .error (complaints ++ more)

/-- Examinations of the elements of a list, counted from an index; all of them
are carried out. -/
def each (examine : Json → Examined α) : (index : Nat) → List Json → Examined (List α)
  | _, [] => .ok []
  | index, item :: items =>
      (both (within (.index index) (examine item)) (each examine (index + 1) items)).map
        fun (first, rest) => first :: rest

end Examined

namespace Json

/-- The member of a vocabulary that a value names.  A text with a lone surrogate
names nothing, and is complained of for that. -/
def toMember (α : Type) [Vocabulary α] : Json → Examined α
  | .string text =>
      match (Vocabulary.ofName? text : Option α) with
      | some member => .ok member
      | none =>
          if text.isUnicode then .refuse (.notMember (Vocabulary.names α))
          else .refuse .notUnicode
  | _ => .refuse (.notMember (Vocabulary.names α))

/-- The text that a value is. -/
def toText : Json → Examined Text
  | .string text => .ok text
  | _ => .refuse .notString

end Json

namespace Selection

/-- The record of a selection, tagged by its variant. -/
def toRecord : Selection → Json
  | .preset bundle => .object [("Preset", .object [("preset_name", .string bundle.name)])]
  | .custom features _ _ =>
      .object [("Custom", .object
        [("features", .array (features.map fun feature => .string feature.name))])]

/-- The selection of a preset that a value names.  A null names none. -/
def ofPresetName : Json → Examined Selection
  | .null => .refuse .noVariant
  | value => (Examined.within (.name "preset") (value.toMember Preset)).map .preset

/-- The selection made of a list of features. -/
def ofFeatureNames (values : List Json) : Examined Selection :=
  match Examined.within (.name "features") (Examined.each (·.toMember Feature) 0 values) with
  | .error complaints => .error complaints
  | .ok features =>
      if nonempty : features ≠ [] then .ok (.ofFeatures features nonempty)
      else .refuse .noFeature

/-- The selection that a record holds. -/
def ofRecord : Json → Examined Selection
  | .object [(tag, body)] =>
      if tag = Text.ofString "Preset" then
        match body with
        | .object members =>
            match Members.get? members "preset_name" with
            | some value => ofPresetName value
            | none => .refuse .presetWithoutName
        | _ => .refuse .presetWithoutName
      else if tag = Text.ofString "Custom" then
        match body with
        | .object members =>
            match Members.get? members "features" with
            | some (.array values) => ofFeatureNames values
            | _ => .refuse .customWithoutFeatures
        | _ => .refuse .customWithoutFeatures
      else .refuse .notOneVariant
  | .object _ => .refuse .notOneVariant
  | _ => .refuse (.notRecord "ChosenFeatures")

end Selection

namespace Project

/-- The record of a project. -/
def toRecord (project : Project) : Json :=
  .object
    [("runtime", .string project.runtime.name),
     ("chosen_directory", .string project.directory),
     ("feature_set", project.selection.toRecord),
     ("modularity", .string project.layout.name)]

/-- Examines a required member of a record. -/
def field {α : Type} (record : Members) (name : Text) (examine : Json → Examined α) :
    Examined α :=
  Examined.within (.name name) <|
    match record.get? name with
    | some value => examine value
    | none => .refuse .missing

/-- The project that the members of a record describe; other members say
nothing. -/
def ofMembers (record : Members) : Examined Project :=
  (Examined.both (field record "runtime" (·.toMember Runtime))
    (Examined.both (field record "chosen_directory" Json.toText)
      (Examined.both (field record "feature_set" Selection.ofRecord)
        (field record "modularity" (·.toMember Layout))))).map
    fun (runtime, directory, selection, layout) => { runtime, directory, selection, layout }

/-- The project that a record holds. -/
def ofRecord : Json → Examined Project
  | .object record => ofMembers record
  | _ => .refuse (.notRecord "ProjectChoices")

end Project

end HelperKit
