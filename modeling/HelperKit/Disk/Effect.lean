import HelperKit.Disk

/-!
# Effects on the disk

Whatever changes the disk is one of five effects.  An operation first decides
from the disk whether it can be carried out; then it either reports a fault or
names its effect, which always succeeds.  The effects of a run, in order, are
thus a complete account of what it did to the disk.
-/

namespace HelperKit

/-- A change of the disk. -/
inductive Effect where
  | makeDirectory (location : Location)
  | writeFile (location : Location) (bytes : ByteArray)
  | removeFile (location : Location)
  | removeTree (location : Location)
  | emptyDirectory (location : Location)

/-- The location that an effect is about. -/
def Effect.location : Effect → Location
  | .makeDirectory location => location
  | .writeFile location _ => location
  | .removeFile location => location
  | .removeTree location => location
  | .emptyDirectory location => location

namespace Disk

/-- The disk with an entry, or nothing, at a location. -/
def set (disk : Disk) (location : Location) (entry : Option Entry) : Disk :=
  { disk with entries := fun other => if other = location then entry else disk.entries other }

/-- The disk with nothing where a condition on locations holds. -/
def clear (disk : Disk) (gone : Location → Bool) : Disk :=
  { disk with entries := fun other => if gone other then none else disk.entries other }

/-- The disk after an effect. -/
def apply (disk : Disk) : Effect → Disk
  | .makeDirectory location => disk.set location (some .directory)
  | .writeFile location bytes => disk.set location (some (.file bytes))
  | .removeFile location => disk.set location none
  | .removeTree location => disk.clear fun other => location.isPrefixOf other
  | .emptyDirectory location =>
      disk.clear fun other => location.isPrefixOf other && other != location

/-- The disk after a list of effects. -/
def applyAll (disk : Disk) (effects : List Effect) : Disk :=
  effects.foldl apply disk

@[simp]
theorem applyAll_nil (disk : Disk) : disk.applyAll [] = disk := rfl

@[simp]
theorem applyAll_cons (disk : Disk) (effect : Effect) (effects : List Effect) :
    disk.applyAll (effect :: effects) = (disk.apply effect).applyAll effects := rfl

theorem applyAll_append (disk : Disk) (first second : List Effect) :
    disk.applyAll (first ++ second) = (disk.applyAll first).applyAll second := by
  simp [applyAll]

/-- No effect moves the working directory. -/
@[simp]
theorem apply_home (disk : Disk) (effect : Effect) : (disk.apply effect).home = disk.home := by
  cases effect <;> rfl

/-- The fault of an operation on a path. -/
def refuse (errno : Errno) (path : Path) : Except Fault α :=
  .error (.system { errno, path })

/-- Creating a directory, for which nothing may be there yet.  A path without
names is never created, not even when its start is gone. -/
def makingDirectory (disk : Disk) (path : Path) : Except Fault Effect :=
  match disk.locate path with
  | .error fault => .error fault
  | .ok location =>
      match disk.entries location with
      | some _ => refuse .alreadyExists path
      | none =>
          if path.parts = [] then refuse .alreadyExists path
          else .ok (.makeDirectory location)

/-- Opening a file for writing, which creates or empties it. -/
def openingFile (disk : Disk) (path : Path) : Except Fault Location :=
  match disk.locate path with
  | .error fault => .error fault
  | .ok location =>
      match disk.entries location with
      | some .directory => refuse .isDirectory path
      | some (.file _) => .ok location
      | none => if path.parts = [] then refuse .isDirectory path else .ok location

/-- Removing a file. -/
def removingFile (disk : Disk) (path : Path) : Except Fault Effect :=
  match disk.locate path with
  | .error fault => .error fault
  | .ok location =>
      match disk.entries location with
      | none => refuse .noEntry path
      | some .directory => refuse .isDirectory path
      | some (.file _) => .ok (.removeFile location)

/-- Why the directory that a path leads to cannot be removed under that path: it
has to be named by its own name. -/
def unremovable? (path : Path) : Option Errno :=
  match path.parts.getLast?, path.anchor with
  | none, .workingDirectory => some .invalidArgument
  | none, _ => some .busy
  | some name, _ => if name = Path.parentPart then some .notEmpty else none

/-- Whether the way to the last name of a path is there.  The directories above
the start of the path are reached even if the start is gone. -/
def wayRemains (disk : Disk) (path : Path) : Bool :=
  let way := path.parts.dropLast
  let up := way.takeWhile (· = Path.parentPart)
  let down := way.dropWhile (· = Path.parentPart)
  match disk.walk (up.foldl next (disk.start path)) down with
  | .ok location => down.isEmpty || (disk.entries location).any Entry.isDirectory
  | .error _ => false

/-- Removing a directory with everything below it: the effect, and the fault
that remains when the directory itself cannot be removed after its contents,
since the way to it led through them or since it is not named by its own name. -/
def removingTree (disk : Disk) (path : Path) : Except Fault (Effect × Option Fault) :=
  match disk.locate path with
  | .error fault => .error fault
  | .ok location =>
      match disk.entries location with
      | none => refuse .noEntry path
      | some (.file _) =>
          .error (.system { errno := .notDirectory, path, spelling := .object })
      | some .directory =>
          if (disk.apply (.emptyDirectory location)).wayRemains path then
            match unremovable? path with
            | none => .ok (.removeTree location, none)
            | some errno => .ok (.emptyDirectory location, some (.system { errno, path }))
          else .ok (.emptyDirectory location, some (.system { errno := .noEntry, path }))

end Disk

end HelperKit
