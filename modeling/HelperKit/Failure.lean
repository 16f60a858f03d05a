import HelperKit.Disk
import HelperKit.Json.Reader

/-!
# Failures

A failure is kept as its cause.  The wording of each kind is a function of the
texts that it mentions.
-/

namespace HelperKit

/-- One step to the place of a complaint inside a value. -/
inductive Step where
  | name (name : Text)
  | index (index : Nat)
  deriving DecidableEq

/-- What is wrong with a value. -/
inductive Defect where
  | notOneVariant
  | presetWithoutName
  | customWithoutFeatures
  | noVariant
  | noFeature
  | notRecord (record : String)
  | notMember (members : List String)
  | notString
  | notUnicode
  | emptyString
  | notPath
  | missing
  deriving DecidableEq

/-- A defect and the place where it was found. -/
structure Complaint where
  place : List Step
  defect : Defect
  deriving DecidableEq

/-- Names in quotes, the last one after the word or. -/
def alternatives : List String → Text
  | [] => ""
  | [name] => "'" ++ name ++ "'"
  | [first, last] => "'" ++ first ++ "' or '" ++ last ++ "'"
  | first :: rest => "'" ++ first ++ "', " ++ alternatives rest

/-- The wording of a defect. -/
def Defect.wording : Defect → Text
  | .notOneVariant => "Value error, expected exactly one of 'Preset' or 'Custom'"
  | .presetWithoutName => "Value error, 'Preset' must be an object with a 'preset_name'"
  | .customWithoutFeatures => "Value error, 'Custom' must be an object with a 'features' list"
  | .noVariant => "Value error, exactly one of 'Preset' or 'Custom' must be given"
  | .noFeature => "Value error, 'Custom' must name at least one feature"
  | .notRecord record => "Input should be a valid dictionary or instance of " ++ record
  | .notMember members => "Input should be " ++ alternatives members
  | .notString => "Input should be a valid string"
  | .notUnicode =>
      "Input should be a valid string, unable to parse raw data as a unicode string"
  | .emptyString => "String should have at least 1 character"
  | .notPath => "Input is not a valid path for <class 'pathlib.Path'>"
  | .missing => "Field required"

/-- What is wrong with a settings file. -/
inductive SettingsFlaw where
  | malformed (flaw : Json.Flaw)
  | undecodable
  | notObject
  | rejected (complaints : Nat)
  deriving DecidableEq

/-- The wording of a flaw of a settings file. -/
def SettingsFlaw.wording : SettingsFlaw → Text
  | .malformed flaw => "not valid JSON: " ++ flaw.wording
  | .undecodable => "not valid UTF-8"
  | .notObject => "document is not a JSON object"
  | .rejected complaints => Text.ofNat complaints ++ " validation error(s)"

/-- An operation that a file system may refuse. -/
inductive Operation where
  | read
  | write
  | delete
  | createDirectory
  | recreateDirectory
  deriving DecidableEq

/-- The wording of an operation. -/
def Operation.wording : Operation → String
  | .read => "read"
  | .write => "write"
  | .delete => "delete"
  | .createDirectory => "create directory"
  | .recreateDirectory => "recreate directory"

/-- Why a template has no source: its name leads upwards, or there is no such
file in the folder. -/
inductive TemplateFlaw where
  | leadsUp
  | notFound (folder : Text)
  deriving DecidableEq

/-- Why an operation of this library fails. -/
inductive Failure where
  | missingField (field : Text)
  | invalidSettings (path : Path) (key : Text) (flaw : SettingsFlaw)
  | directoryExists (path : Path)
  | filesystem (path : Path) (operation : Operation) (fault : SystemFault)
  | cancelled (question : Text)
  | rejected (complaints : List Complaint)
  | malformedDocument (flaw : Json.Flaw) (place : Json.Place)
  | templateMissing (name : Text) (flaw : TemplateFlaw)
  | system (fault : SystemFault)
  | embeddedNull
  | longInteger
  | undecodable
  | unencodable
  | badMarkup
  | brokenColour
  | tooDeep
  deriving DecidableEq

namespace Wording

/-- The wording for a choice that was never made. -/
def missingField (field : Text) : Text :=
  "Cannot build project choices: '" ++ field ++ "' was not set"

/-- A reason between an opening and a closing; an empty reason is left out. -/
def reason (opening reason closing : Text) : Text :=
  if reason = [] then [] else opening ++ reason ++ closing

/-- The wording for settings that cannot be used. -/
def invalidSettings (path key why : Text) : Text :=
  "A key of " ++ key ++ " was found in " ++ path ++
    ", but it contained invalid configuration settings. Please delete the key-value pair " ++
    "if you want to import this library from this tool" ++ reason " (" why ")"

/-- The wording for a split directory that is already there. -/
def directoryExists (path : Text) : Text :=
  "Directory already exists: " ++ path

/-- The wording for a refused operation. -/
def filesystem (path operation why : Text) : Text :=
  "Failed to " ++ operation ++ " " ++ path ++ reason ": " why ""

/-- The wording for a question without an answer. -/
def cancelled (question : Text) : Text :=
  "No answer given for: " ++ question

/-- The wording for several bare arguments, or for a single one. -/
def plain : List Text → Text
  | [] => ""
  | [argument] => argument
  | arguments => "(" ++ Text.join ", " (arguments.map Text.quoted) ++ ")"

/-- The wording for a flaw in a document. -/
def malformedDocument (flaw : Json.Flaw) (place : Json.Place) : Text :=
  flaw.wording ++ ": line " ++ Text.ofNat place.line ++ " column " ++ Text.ofNat place.column ++
    " (char " ++ Text.ofNat place.offset ++ ")"

/-- The wording for a template without a source. -/
def templateMissing (name : Text) : TemplateFlaw → Text
  | .leadsUp => name
  | .notFound folder => name.quoted ++ " not found in search path: " ++ folder.quoted

end Wording

namespace Failure

/-- The message of a failure that carries one. -/
def message? : Failure → Option Text
  | .missingField field => some (Wording.missingField field)
  | .invalidSettings path key flaw =>
      some (Wording.invalidSettings path.toText key flaw.wording)
  | .directoryExists path => some (Wording.directoryExists path.toText)
  | .filesystem path operation fault =>
      some (Wording.filesystem path.toText operation.wording fault.text)
  | .cancelled question => some (Wording.cancelled question)
  | .malformedDocument flaw place => some (Wording.malformedDocument flaw place)
  | .templateMissing name flaw => some (Wording.templateMissing name flaw)
  | .system fault => some fault.text
  | .rejected _ | .embeddedNull | .longInteger | .undecodable | .unencodable | .badMarkup
  | .brokenColour | .tooDeep => none

/-- Whether a failure is one that the tool reports on purpose, rather than one
that ends it. -/
def isReported : Failure → Bool
  | .missingField _ | .invalidSettings .. | .directoryExists _ | .filesystem .. | .cancelled _ =>
      true
  | _ => false

/-- The failure that a fault is when nothing is said about the operation. -/
def ofFault : Fault → Failure
  | .system fault => .system fault
  | .embeddedNull => .embeddedNull
  | .unencodable => .unencodable
  | .tooDeep => .tooDeep

/-- The failure that a fault is in an operation on a path.  Only what the file
system reports counts as a refusal. -/
def refused (path : Path) (operation : Operation) : Fault → Failure
  | .system fault => .filesystem path operation fault
  | fault => ofFault fault

/-- The failure that a refused document is. -/
def ofRefusal : Json.Refusal → Failure
  | .malformed flaw place => .malformedDocument flaw place
  | .longInteger => .longInteger
  | .tooDeep => .tooDeep

end Failure

end HelperKit
