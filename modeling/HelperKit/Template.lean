import HelperKit.Template.Shipped
import HelperKit.Workspace

/-!
# Template sources

The text of a template is copied as it stands.  Templates come with this library
or from a folder on the disk.  A source that was read once is remembered under
the name it was asked for, so that all operations of one run see the same text;
a failed query leaves nothing behind.
-/

namespace HelperKit

/-- Where templates come from. -/
inductive TemplateFolder where
  | shipped
  | directory (path : Path)
  deriving DecidableEq

namespace Template

/-- The pieces of a template name, unless one of them leads upwards. -/
def pieces? (name : Text) : Option (List Text) :=
  let pieces := name.splitOn (.char '/')
  if pieces.any (· = Path.parentPart) then none else some (pieces.filter Path.isPart)

/-- The text of a shipped template. -/
def shippedText? (pieces : List Text) : Option Text :=
  (shipped.find? fun file => Text.ofString file.1 = Text.join [.char '/'] pieces).map
    fun file => textOf file.2

/-- The bytes of the file that the pieces of a name lead to, if it is there. -/
def fileIn? (disk : Disk) (folder : Path) (pieces : List Text) : Option ByteArray :=
  match disk.status { folder with parts := folder.parts ++ pieces } with
  | .ok (.file bytes) => some bytes
  | _ => none

/-- The text of a template as it is at this moment. -/
def current (folder : TemplateFolder) (disk : Disk) (name : Text) : Except Failure Text :=
  match pieces? name with
  | none => .error (.templateMissing name .leadsUp)
  | some pieces =>
      match folder with
      | .shipped =>
          match shippedText? pieces with
          | some text => .ok text
          | none => .error (.templateMissing name (.notFound "templates"))
      | .directory path =>
          match fileIn? disk path pieces with
          | none => .error (.templateMissing name (.notFound path.toText))
          | some bytes =>
              match Text.ofFile? bytes with
              | some characters => .ok (Text.ofChars characters)
              | none => .error .undecodable

/-- The source of a template: the text remembered under its name, else the text
as it is now, which is then remembered. -/
def source (folder : TemplateFolder) (name : Text) : Job Text := do
  let workspace ← get
  match workspace.cache.lookup name with
  | some text => pure text
  | none =>
      match current folder workspace.disk name with
      | .error failure => throw failure
      | .ok text => do
          set { workspace with cache := (name, text) :: workspace.cache }
          pure text

end Template

end HelperKit
