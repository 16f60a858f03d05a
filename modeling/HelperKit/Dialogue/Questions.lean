import HelperKit.Dialogue
import HelperKit.Project.Draft

/-!
# The questions

The questions of the first run, which yield a project, and those of later runs.
-/

namespace HelperKit.Dialogue

/-- The runtimes on offer. -/
def runtimeChoices : List (Choice Runtime) :=
  [⟨"Deno", .deno⟩, ⟨"NodeJS", .nodeJs⟩,
   ⟨"client-side (React, Svelte, Vue, etc)", .clientSide⟩]

/-- The presets on offer. -/
def presetChoices : List (Choice Preset) :=
  [⟨"All", .all⟩, ⟨"Core", .core⟩, ⟨"Core + Option and Result", .corePlus⟩]

/-- The layouts on offer. -/
def layoutChoices : List (Choice Layout) :=
  [⟨"Same file", .singleFile⟩, ⟨"Separate files", .splitFiles⟩]

/-- Features on offer. -/
def featureChoices (features : List Feature) : List (Choice Feature) :=
  features.map fun feature => ⟨feature.name, feature⟩

/-- Asks for the runtime. -/
def askRuntime : Dialogue Runtime :=
  select "What project are you bringing crabSafe into?" runtimeChoices

/-- The question for the directory. -/
def directoryQuestion : Text := "Enter path to directory:"

/-- What is thought of an answer that should name a directory of the disk. -/
def judgeDirectory (disk : Disk) (line : Text) : Verdict Text :=
  let answer := line.strip
  if answer = [] then .giveUp (.cancelled directoryQuestion)
  else
    match disk.isDirectory (.ofText answer) with
    | .ok true => .accept answer
    | .ok false => .again ("Invalid directory: " ++ answer)
    | .error fault => .giveUp (.ofFault fault)

/-- Asks for a directory that is there. -/
def askDirectory (disk : Disk) : Dialogue Text :=
  ask (directoryQuestion ++ " ") directoryQuestion (judgeDirectory disk)

/-- Asks for features, at least one. -/
def askCustom : Dialogue Selection := do
  let features ← multiSelect "Select which features you want" (featureChoices Feature.all) 1
  match Selection.ofFeatureNames (features.map fun feature => .string feature.name) with
  | .ok selection => pure selection
  | .error complaints => throw (.rejected complaints)

/-- Asks for a preset or for features made up by hand. -/
def askSelection : Dialogue Selection := do
  let fromPreset ← select "How would you like to choose features?"
    [⟨"From Preset", true⟩, ⟨"Custom", false⟩]
  if fromPreset then
    let preset ← select "Which crab-safe features do you want?" presetChoices
    pure (.preset preset)
  else askCustom

/-- Asks for the layout. -/
def askLayout : Dialogue Layout :=
  select
    "Do you want the crabSafe implementations to be in separate files or in the same file?"
    layoutChoices

/-- Asks everything that a project consists of. -/
def askProject (disk : Disk) : Dialogue Project := do
  let runtime ← askRuntime
  let directory ← askDirectory disk
  let selection ← askSelection
  let layout ← askLayout
  let draft := ((((({} : Draft).set .runtime (.string runtime.name)).set .directory
    (.string directory)).set .selection selection.toRecord).set .layout (.string layout.name))
  match draft.finish with
  | .ok project => pure project
  | .error failure => throw failure

/-- What can be done with an artifact. -/
inductive NextStep where
  | modify
  | delete
  deriving DecidableEq

/-- The name of a next step. -/
def NextStep.name : NextStep → String
  | .modify => "modify"
  | .delete => "delete"

/-- Asks what to do. -/
def askNextStep : Dialogue NextStep :=
  select "What would you like to do?" [⟨"Modify package", .modify⟩, ⟨"Delete crabSafe", .delete⟩]

/-- What can be modified. -/
inductive ModifyAction where
  | add
  | remove
  | back
  deriving DecidableEq

/-- The name of a modification. -/
def ModifyAction.name : ModifyAction → String
  | .add => "add"
  | .remove => "remove"
  | .back => "back"

/-- Asks what to modify. -/
def askModifyAction : Dialogue ModifyAction :=
  select "Choose aspect to modify"
    [⟨"Add package", .add⟩, ⟨"Remove package", .remove⟩, ⟨"Go back", .back⟩]

/-- Asks for some of the given features. -/
def askFeatures (question : Text) (features : List Feature) : Dialogue (List Feature) :=
  multiSelect question (featureChoices features) 0

end HelperKit.Dialogue
