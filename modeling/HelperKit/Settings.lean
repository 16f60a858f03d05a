import HelperKit.Workspace
import HelperKit.Config

/-!
# Settings

The settings document is shared by several tools.  A store owns one key of it:
it reads, replaces and removes the member of that key and keeps all other
members, and their order, as they are.
-/

namespace HelperKit

/-- One tool's share of a settings document. -/
structure Store where
  path : Path
  key : Text
  deriving DecidableEq

namespace Store

/-- The store of a configuration. -/
def ofConfig (config : Config) : Store :=
  ⟨config.settingsFile, config.settingsKey⟩

/-- The failure for a document that cannot be used. -/
def invalid (store : Store) (flaw : SettingsFlaw) : Failure :=
  .invalidSettings store.path store.key flaw

/-- Whether the document is there. -/
def present (store : Store) : Job Bool :=
  Attempt.mapError .ofFault (Access.ask (·.isFile store.path))

/-- The members of a document with given bytes. -/
def decode (store : Store) (bytes : ByteArray) : Except Failure Members :=
  match Text.ofFile? bytes with
  | none => .error (store.invalid .undecodable)
  | some characters =>
      match Json.ofDocument characters with
      | .error (.malformed flaw _) => .error (store.invalid (.malformed flaw))
      | .error .longInteger => .error .longInteger
      | .error .tooDeep => .error .tooDeep
      | .ok (.object members) => .ok members
      | .ok _ => .error (store.invalid .notObject)

/-- The members of the document. -/
def members (store : Store) : Job Members := do
  let bytes ← Attempt.mapError (Failure.refused store.path .read)
    (Access.ask (·.read store.path))
  match store.decode bytes with
  | .ok members => pure members
  | .error failure => throw failure

/-- Writes the document. -/
def write (store : Store) (members : Members) : Job Unit :=
  Attempt.mapError (Failure.refused store.path .write)
    (Access.writeDocument (.object members) store.path)

/-- The project that the record of this tool holds among the members. -/
def projectIn (store : Store) (members : Members) : Except Failure (Option Project) :=
  match members.get? store.key with
  | none => .ok none
  | some record =>
      match Project.ofRecord record with
      | .ok project => .ok (some project)
      | .error complaints => .error (store.invalid (.rejected complaints.length))

/-- The stored project.  There is none when the document is absent or has no
record of this tool. -/
def load (store : Store) : Job (Option Project) := do
  if ← store.present then
    let members ← store.members
    match store.projectIn members with
    | .error failure => throw failure
    | .ok none => do
        Attempt.note .info (store.key ++ " not found in " ++ store.path.toText)
        pure none
    | .ok (some project) => pure (some project)
  else
    Attempt.note .info ("Settings file " ++ store.path.toText ++ " does not exist")
    pure none

/-- Stores a project. -/
def save (store : Store) (project : Project) : Job Unit := do
  let members ← if ← store.present then store.members else pure []
  store.write (members.put store.key project.toRecord)
  Attempt.note .debug ("Saved " ++ store.key ++ " to " ++ store.path.toText)

/-- Removes the record of this tool, and the document when no other member is
left. -/
def forget (store : Store) : Job Unit := do
  if ← store.present then
    let members ← store.members
    if members.has store.key then
      let others := members.erase store.key
      if others = [] then
        Attempt.mapError (Failure.refused store.path .delete) (Access.removeFile store.path)
        Attempt.note .debug ("Deleted " ++ store.path.toText ++ ", no keys left")
      else
        store.write others
        Attempt.note .debug ("Removed " ++ store.key ++ " from " ++ store.path.toText)
    else
      Attempt.note .debug (store.key ++ " already absent from " ++ store.path.toText)
  else
    Attempt.note .debug ("Settings file " ++ store.path.toText ++ " already absent")

end Store

end HelperKit
