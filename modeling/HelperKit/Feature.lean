import HelperKit.Text

/-!
# What can be chosen

The closed vocabularies of a project: the features that can be copied into it,
the presets that bundle them, the runtimes, and the two layouts.  Each has a
fixed order and a fixed name for every member.
-/

namespace HelperKit

/-- A finite vocabulary whose members are told apart by their names. -/
class Vocabulary (α : Type) where
  members : List α
  name : α → String

namespace Vocabulary

variable {α : Type} [Vocabulary α]

/-- The names of all members, in order. -/
def names (α : Type) [Vocabulary α] : List String :=
  (members : List α).map name

/-- The member with a name. -/
def ofName? (text : Text) : Option α :=
  (members : List α).find? fun member => Text.ofString (name member) = text

end Vocabulary

/-- A helper module that can be copied into a project. -/
inductive Feature where
  | core
  | example
  | option
  | result
  | parsers
  deriving DecidableEq

namespace Feature

/-- Every feature, in catalog order. -/
def all : List Feature := [core, .example, option, result, parsers]

/-- The name of a feature. -/
def name : Feature → String
  | .core => "Core"
  | .example => "Example"
  | .option => "Option"
  | .result => "Result"
  | .parsers => "Parsers"

instance : Vocabulary Feature := ⟨all, name⟩

/-- Every feature is in the catalog. -/
theorem mem_all (feature : Feature) : feature ∈ all := by
  cases feature <;> decide

end Feature

/-- A named bundle of features. -/
inductive Preset where
  | all
  | core
  | corePlus
  deriving DecidableEq

namespace Preset

/-- The name of a preset. -/
def name : Preset → String
  | .all => "All"
  | .core => "Core"
  | .corePlus => "CorePlus"

instance : Vocabulary Preset := ⟨[.all, .core, .corePlus], name⟩

/-- The features that a preset bundles, in catalog order. -/
def features : Preset → List Feature
  | .all => Feature.all
  | .core => [.core]
  | .corePlus => [.core, .option, .result]

end Preset

/-- Where the copied code runs. -/
inductive Runtime where
  | deno
  | nodeJs
  | clientSide
  deriving DecidableEq

namespace Runtime

/-- The name of a runtime. -/
def name : Runtime → String
  | .deno => "Deno"
  | .nodeJs => "NodeJs"
  | .clientSide => "ClientSide"

instance : Vocabulary Runtime := ⟨[.deno, .nodeJs, .clientSide], name⟩

end Runtime

/-- Whether the features are merged into one file or kept in a directory with one
file for each. -/
inductive Layout where
  | singleFile
  | splitFiles
  deriving DecidableEq

namespace Layout

/-- The name of a layout. -/
def name : Layout → String
  | .singleFile => "SingleFile"
  | .splitFiles => "SplitFiles"

instance : Vocabulary Layout := ⟨[.singleFile, .splitFiles], name⟩

end Layout

end HelperKit
