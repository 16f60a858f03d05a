import HelperKit.Project.Record

/-!
# Drafts

A draft gathers the four choices of a project one at a time, in any order and
without looking at them.  A finished draft is examined like a record.
-/

namespace HelperKit

/-- The choices made so far, unexamined. -/
structure Draft where
  runtime : Option Json := none
  directory : Option Json := none
  selection : Option Json := none
  layout : Option Json := none

namespace Draft

/-- The four choices. -/
inductive Field where
  | runtime
  | directory
  | selection
  | layout
  deriving DecidableEq

/-- The name of a choice in a record. -/
def Field.name : Field → String
  | .runtime => "runtime"
  | .directory => "chosen_directory"
  | .selection => "feature_set"
  | .layout => "modularity"

/-- A choice that was made; a null unmakes it. -/
def chosen : Json → Option Json
  | .null => none
  | value => some value

/-- The draft with a choice made anew. -/
def set (draft : Draft) (field : Field) (value : Json) : Draft :=
  match field with
  | .runtime => { draft with runtime := chosen value }
  | .directory => { draft with directory := chosen value }
  | .selection => { draft with selection := chosen value }
  | .layout => { draft with layout := chosen value }

/-- The failure of a finished draft in which a choice was never made. -/
def demand (field : Field) : Option Json → Except Failure Json
  | some value => .ok value
  | none => .error (.missingField field.name)

/-- The project of a draft.  The first choice that was never made is reported
before any choice is looked at. -/
def finish (draft : Draft) : Except Failure Project := do
  let runtime ← demand .runtime draft.runtime
  let directory ← demand .directory draft.directory
  let selection ← demand .selection draft.selection
  let layout ← demand .layout draft.layout
  (Project.ofMembers
    [(Field.runtime.name, runtime), (Field.directory.name, directory),
     (Field.selection.name, selection), (Field.layout.name, layout)]).mapError .rejected

end Draft

end HelperKit
