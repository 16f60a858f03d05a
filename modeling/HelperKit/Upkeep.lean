import HelperKit.Artifact.Features
import HelperKit.Dialogue.Questions

/-!
# Upkeep

A run that finds a stored project offers to add features to it, to remove
features from it, or to delete the whole artifact.  Nothing on the disk changes
before a question about exactly this change was answered with yes.
-/

namespace HelperKit.Upkeep

/-- The question before an artifact is overwritten. -/
def overwriteWarning : Text :=
  "Warning: Doing this will overwrite the crabSafe implementation. " ++
    "Are you sure you want to do this?"

/-- The question before an artifact is deleted. -/
def deleteWarning : Text :=
  "WARN: Doing this will remove the entire crabSafe implementation. " ++
    "Make sure to remove all local code that depends on these methods! " ++
    "Are you sure you want to do this?"

/-- The question when no feature would remain. -/
def emptyWarning : Text :=
  "No features exist on this package. Do you want to delete the whole package instead?"

/-- A job as a part of a session at a terminal. -/
def onDisk {α : Type} (job : Job α) : Errand Terminal α :=
  Errand.onDisk job

/-- A dialogue as a part of a session. -/
def converse {α : Type} (dialogue : Dialogue α) : Errand Terminal α :=
  Errand.onCaller dialogue

/-- Shows a message. -/
def say (message : Except Failure Text) : Errand Terminal Unit :=
  converse (Dialogue.present message)

/-- Adds features that are asked for.  The result is the project afterwards. -/
def handleAdd (site : Site) (project : Project) : Errand Terminal (Option Project) := do
  let available := Feature.complement project.features
  if available = [] then
    say (Screen.warning "Every feature is already included.")
    pure project
  else
    let selected ←
      converse (Dialogue.askFeatures "Select which features you want to add" available)
    if selected = [] then
      say (Screen.warning "Nothing selected.")
      pure project
    else if ← converse (Dialogue.confirm overwriteWarning false) then
      say (Screen.success "Changing data")
      let updated ← onDisk (site.addFeatures project selected)
      pure updated
    else pure project

/-- Removes features that are asked for.  The result is the project afterwards. -/
def handleRemove (site : Site) (project : Project) : Errand Terminal (Option Project) := do
  let selected ← converse (Dialogue.askFeatures "Select packages to remove" project.features)
  if selected = [] then
    say (Screen.warning "Nothing selected.")
    pure project
  else
    let agreed ←
      if selected.length < project.features.length then
        converse (Dialogue.confirm overwriteWarning false)
      else pure true
    if agreed then
      let removal ← site.removeFeatures project selected (Dialogue.confirm emptyWarning true)
      match removal with
      | .updated _ => say (Screen.success "Changing data")
      | .deleted => say (Screen.success "crabSafe removed")
      | _ => pure ()
      pure removal.project?
    else pure project

/-- Deletes the artifact if that is wanted.  The result is the project
afterwards. -/
def handleDelete (site : Site) (project : Project) : Errand Terminal (Option Project) := do
  if ← converse (Dialogue.confirm deleteWarning false) then
    discard (onDisk (site.delete project))
    say (Screen.success "crabSafe removed")
    pure none
  else pure project

/-- What a session does in the end. -/
inductive Task where
  | add
  | remove
  | delete
  deriving DecidableEq

/-- Asks for a task.  Going back asks again from the first question. -/
def chooseTask (workspace : Workspace) (terminal : Terminal) :
    Except Failure Task × (Workspace × Terminal) :=
  match _first : Dialogue.askNextStep terminal with
  | (.error failure, terminal) => (.error failure, (workspace, terminal))
  | (.ok .delete, terminal) => (.ok .delete, (workspace, terminal))
  | (.ok .modify, between) =>
      match _second : Dialogue.askModifyAction between with
      | (.error failure, terminal) => (.error failure, (workspace, terminal))
      | (.ok action, terminal) =>
          let workspace :=
            workspace.note ⟨.debug, "Modify action chosen: " ++ Text.ofString action.name⟩
          match action with
          | .add => (.ok .add, (workspace, terminal))
          | .remove => (.ok .remove, (workspace, terminal))
          | .back => chooseTask workspace terminal
termination_by terminal.answers.length
decreasing_by
  exact Nat.lt_trans (Dialogue.select_ok_length _second) (Dialogue.select_ok_length _first)

/-- A session over a stored project.  The result is the project afterwards, which
is none when the artifact was deleted. -/
def run (site : Site) (project : Project) : Errand Terminal (Option Project) := do
  say (Screen.info
    ("Found previous configuration settings for " ++ Text.ofString project.runtime.name ++
      " project"))
  let task ← (fun (workspace, terminal) => chooseTask workspace terminal :
    Errand Terminal Task)
  match task with
  | .add => handleAdd site project
  | .remove => handleRemove site project
  | .delete => handleDelete site project

end HelperKit.Upkeep
