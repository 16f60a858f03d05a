import HelperKit.Path
import HelperKit.Disk.Name

/-!
# The disk

A disk says for every location, which is a list of names from the root down,
whether there is a file, a directory or nothing.  A path is looked up name by
name, so that two dots mean the directory above the one reached so far, and a
lookup can fail with each of the faults that a file system reports.
-/

namespace HelperKit

/-- The names on the way from the root to a file or directory. -/
abbrev Location := List Text

/-- What can be at a location. -/
inductive Entry where
  | file (bytes : ByteArray)
  | directory

/-- Whether an entry is a file. -/
def Entry.isFile : Entry → Bool
  | .file _ => true
  | .directory => false

/-- Whether an entry is a directory. -/
def Entry.isDirectory : Entry → Bool
  | .file _ => false
  | .directory => true

/-- The contents of a file system, and the directory that paths start from. -/
structure Disk where
  entries : Location → Option Entry
  home : Location

/-- The faults that a file system reports. -/
inductive Errno where
  | noEntry
  | busy
  | alreadyExists
  | notDirectory
  | isDirectory
  | invalidArgument
  | nameTooLong
  | notEmpty
  deriving DecidableEq

namespace Errno

/-- The number of a fault. -/
def number : Errno → Nat
  | .noEntry => 2
  | .busy => 16
  | .alreadyExists => 17
  | .notDirectory => 20
  | .isDirectory => 21
  | .invalidArgument => 22
  | .nameTooLong => 36
  | .notEmpty => 39

/-- The wording of a fault. -/
def wording : Errno → String
  | .noEntry => "No such file or directory"
  | .busy => "Device or resource busy"
  | .alreadyExists => "File exists"
  | .notDirectory => "Not a directory"
  | .isDirectory => "Is a directory"
  | .invalidArgument => "Invalid argument"
  | .nameTooLong => "File name too long"
  | .notEmpty => "Directory not empty"

/-- Whether a test for existence takes a fault for a plain no. -/
def isAbsence : Errno → Bool
  | .noEntry => true
  | .notDirectory => true
  | _ => false

end Errno

/-- How a path is spelled in the text of a fault: by itself, or as the path
object that a walk through a tree was started with. -/
inductive Spelling where
  | plain
  | object
  deriving DecidableEq

/-- A fault reported for a path. -/
structure SystemFault where
  errno : Errno
  path : Path
  spelling : Spelling := .plain
  deriving DecidableEq

/-- The text of a reported fault. -/
def SystemFault.text (fault : SystemFault) : Text :=
  let quoted := fault.path.toText.quoted
  "[Errno " ++ Text.ofNat fault.errno.number ++ "] " ++ fault.errno.wording ++ ": " ++
    match fault.spelling with
    | .plain => quoted
    | .object => "PosixPath(" ++ quoted ++ ")"

/-- Why an operation on the disk fails: the file system reports a fault, or a
path or content never reaches it, since a path holds a null character, a text
has no encoded form, or more directories are missing on the way to another one
than are created for it. -/
inductive Fault where
  | system (fault : SystemFault)
  | embeddedNull
  | unencodable
  | tooDeep
  deriving DecidableEq

namespace Disk

/-- The most bytes that the text of a path may have. -/
def maximumPathBytes : Nat := 4095

/-- The directory above a location; the root is above itself. -/
def above (location : Location) : Location :=
  location.dropLast

/-- Where a name leads from a location. -/
def next (location : Location) (name : Text) : Location :=
  if name = Path.parentPart then above location else location ++ [Name.normal name]

/-- Follows names from a location.  Every name but the last must lead to a
directory; the last one may lead to nothing. -/
def walk (disk : Disk) (location : Location) : List Text → Except Errno Location
  | [] => .ok location
  | name :: names =>
      match disk.entries location with
      | none => .error .noEntry
      | some (.file _) => .error .notDirectory
      | some .directory =>
          if Name.isTooLong name then .error .nameTooLong
          else walk disk (next location name) names

/-- Where a path starts. -/
def start (disk : Disk) (path : Path) : Location :=
  match path.anchor with
  | .workingDirectory => disk.home
  | _ => []

/-- Whether a path can be handed to the file system. -/
def vet (path : Path) : Except Fault Unit :=
  if path.parts.any fun name => name.any fun point => !Name.isEncodable point then
    .error .unencodable
  else if path.parts.any fun name => name.any (· = .char '\x00') then .error .embeddedNull
  else if maximumPathBytes < Name.byteSize path.toText then
    .error (.system { errno := .nameTooLong, path })
  else .ok ()

/-- The location that a path leads to. -/
def locate (disk : Disk) (path : Path) : Except Fault Location :=
  match vet path with
  | .error fault => .error fault
  | .ok () =>
      match disk.walk (disk.start path) path.parts with
      | .ok location => .ok location
      | .error errno => .error (.system { errno, path })

/-- What a path leads to. -/
def status (disk : Disk) (path : Path) : Except Fault Entry :=
  match disk.locate path with
  | .error fault => .error fault
  | .ok location =>
      match disk.entries location with
      | some entry => .ok entry
      | none => .error (.system { errno := .noEntry, path })

/-- Tests what a path leads to.  Absence answers no, and so does a path that the
file system never sees; other faults are reported. -/
def test (disk : Disk) (path : Path) (holds : Entry → Bool) : Except Fault Bool :=
  match disk.status path with
  | .ok entry => .ok (holds entry)
  | .error (.system fault) =>
      if fault.errno.isAbsence then .ok false else .error (.system fault)
  | .error _ => .ok false

/-- Whether a path leads to a file. -/
def isFile (disk : Disk) (path : Path) : Except Fault Bool :=
  disk.test path Entry.isFile

/-- Whether a path leads to a directory. -/
def isDirectory (disk : Disk) (path : Path) : Except Fault Bool :=
  disk.test path Entry.isDirectory

/-- Whether a path leads to anything. -/
def pathExists (disk : Disk) (path : Path) : Except Fault Bool :=
  disk.test path fun _ => true

/-- The bytes of the file that a path leads to. -/
def read (disk : Disk) (path : Path) : Except Fault ByteArray :=
  match disk.status path with
  | .ok (.file bytes) => .ok bytes
  | .ok .directory => .error (.system { errno := .isDirectory, path })
  | .error fault => .error fault

end Disk

end HelperKit
