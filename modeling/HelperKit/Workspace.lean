import HelperKit.Disk.Effect
import HelperKit.Failure
import HelperKit.Json.Printer

/-!
# The workspace

A workspace is what operations change: the disk, the journal of the effects on
it, the log, and the template sources read so far.  An operation that fails
leaves the workspace as it was when it failed.
-/

namespace HelperKit

/-- How much a log record matters. -/
inductive Level where
  | debug
  | info
  | warning
  deriving DecidableEq

/-- The rank of a level. -/
def Level.rank : Level → Nat
  | .debug => 0
  | .info => 1
  | .warning => 2

/-- The name of a level. -/
def Level.name : Level → String
  | .debug => "DEBUG"
  | .info => "INFO"
  | .warning => "WARNING"

/-- A line of the log. -/
structure LogRecord where
  level : Level
  message : Text
  deriving DecidableEq

/-- The state of operations on the disk. -/
structure Workspace where
  disk : Disk
  journal : List Effect := []
  log : List LogRecord := []
  threshold : Level := .debug
  cache : List (Text × Text) := []

/-- The workspace on a disk before any operation. -/
def Workspace.on (disk : Disk) (threshold : Level) : Workspace :=
  { disk, threshold }

/-- The workspace after an effect. -/
def Workspace.perform (workspace : Workspace) (effect : Effect) : Workspace :=
  { workspace with
    disk := workspace.disk.apply effect
    journal := workspace.journal ++ [effect] }

/-- The workspace with one more log record, unless the record matters too
little. -/
def Workspace.note (workspace : Workspace) (record : LogRecord) : Workspace :=
  if workspace.threshold.rank ≤ record.level.rank then
    { workspace with log := workspace.log ++ [record] }
  else workspace

/-- An operation on a workspace that may fail with a given kind of error. -/
abbrev Attempt (ε : Type) := ExceptT ε (StateM Workspace)

/-- An operation that may be faulted by the file system. -/
abbrev Access := Attempt Fault

/-- An operation of the library. -/
abbrev Job := Attempt Failure

namespace Attempt

variable {ε : Type}

/-- The disk as it is. -/
def disk : Attempt ε Disk := do
  return (← get).disk

/-- Carries out an effect. -/
def perform (effect : Effect) : Attempt ε Unit :=
  modify (·.perform effect)

/-- Adds a record to the log. -/
def note (level : Level) (message : Text) : Attempt ε Unit :=
  modify (·.note ⟨level, message⟩)

/-- Runs an operation and hands its error over as a value. -/
def outcome {δ α : Type} (operation : Attempt δ α) : Attempt ε (Except δ α) :=
  ExceptT.lift operation.run

/-- Runs an operation and turns its error into one of another kind. -/
def mapError {δ α : Type} (convert : δ → ε) (operation : Attempt δ α) : Attempt ε α :=
  ExceptT.adapt convert operation

end Attempt

namespace Access

/-- What the disk answers to a question that may be faulted. -/
def ask {α : Type} (question : Disk → Except Fault α) : Access α := do
  liftExcept (question (← Attempt.disk))
where
  /-- A result as an operation. -/
  liftExcept {α : Type} : Except Fault α → Access α
    | .ok value => pure value
    | .error fault => throw fault

/-- Creates one directory. -/
def makeDirectory (path : Path) : Access Unit := do
  Attempt.perform (← ask (·.makingDirectory path))

/-- Creates one directory, or finds it there when that is all right. -/
def provideDirectory (mayExist : Bool) (path : Path) : Access Unit := do
  match ← Attempt.outcome (makeDirectory path) with
  | .ok () => pure ()
  | .error fault => accept fault
where
  /-- Passes over a report about a directory that is there and may be. -/
  accept (fault : Fault) : Access Unit :=
    match fault with
    | .system report => do
        if report.errno = .noEntry then throw fault
        else if mayExist then
          if ← ask (·.isDirectory path) then pure () else throw fault
        else throw fault
    | _ => throw fault

/-- The most directories that are created for another one. -/
def maximumMissing : Nat := 988

/-- Creates a directory with every missing one above it, of which there may be
`missing`; the parts of the path are given from the last to the first. -/
def provideAll (anchor : Anchor) :
    (mayExist : Bool) → (missing : Nat) → (reversed : List Text) → Access Unit
  | mayExist, _, [] => provideDirectory mayExist ⟨anchor, []⟩
  | mayExist, missing, part :: above => do
      let path : Path := ⟨anchor, (part :: above).reverse⟩
      match ← Attempt.outcome (provideDirectory mayExist path) with
      | .ok () => pure ()
      | .error (.system report) =>
          if report.errno = .noEntry then
            match missing with
            | 0 => throw .tooDeep
            | missing + 1 => do
                provideAll anchor true missing above
                provideDirectory mayExist path
          else throw (.system report)
      | .error fault => throw fault

/-- Creates a directory with every missing one above it. -/
def makeDirectories (mayExist : Bool) (path : Path) : Access Unit :=
  provideAll path.anchor mayExist maximumMissing path.parts.reverse

/-- Writes a file.  It is created or emptied before its content is encoded, and
stays empty when the content has no encoded form. -/
def writeText (path : Path) (content : Text) : Access Unit := do
  let location ← ask (·.openingFile path)
  match content.encode? with
  | some bytes => Attempt.perform (.writeFile location bytes)
  | none => do
      Attempt.perform (.writeFile location .empty)
      throw .unencodable

/-- Removes a file. -/
def removeFile (path : Path) : Access Unit := do
  Attempt.perform (← ask (·.removingFile path))

/-- Removes a directory with everything below it. -/
def removeTree (path : Path) : Access Unit := do
  let (effect, remaining) ← ask (·.removingTree path)
  Attempt.perform effect
  match remaining with
  | none => pure ()
  | some fault => throw fault

/-- Writes a document, creating the directories on the way to it. -/
def writeDocument (json : Json) (path : Path) : Access Unit := do
  makeDirectories true path.parent
  writeText path json.toDocument

end Access

/-- Reads a document. -/
def Job.readDocument (path : Path) : Job Json := do
  let bytes ← Attempt.mapError Failure.ofFault (Access.ask (·.read path))
  match Text.ofFile? bytes with
  | none => throw .undecodable
  | some characters =>
      match Json.ofDocument characters with
      | .ok json => pure json
      | .error refusal => throw (.ofRefusal refusal)

end HelperKit
