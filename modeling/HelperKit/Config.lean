import HelperKit.Disk.Name
import HelperKit.Path
import HelperKit.Project.Record

/-!
# Configuration

Where the settings document lies, which key of it is this tool's, and what the
artifact is called.
-/

namespace HelperKit

/-- A configuration. -/
structure Config where
  settingsFile : Path
  settingsKey : Text
  artifactName : Text
  extension : Text
  deriving DecidableEq

namespace Config

/-- The configuration that is used when nothing else is said. -/
def standard : Config :=
  { settingsFile := .ofText "copy-paste.json"
    settingsKey := "crabSafe"
    artifactName := "crabSafe"
    extension := "ts" }

/-- The name of the merged file. -/
def singleFileName (config : Config) : Text :=
  config.artifactName ++ "." ++ config.extension

/-- The name of the split directory. -/
def splitDirectoryName (config : Config) : Text :=
  config.artifactName

/-- Examines a text that may not be empty, nor hold a lone surrogate. -/
def nonemptyText : Json → Examined Text
  | .string [] => .refuse .emptyString
  | .string text => if text.isUnicode then .ok text else .refuse .notUnicode
  | _ => .refuse .notString

/-- Examines a path. -/
def pathText : Json → Examined Path
  | .string text => .ok (.ofText text)
  | _ => .refuse .notPath

/-- Examines a field that has a standard value. -/
def field {α : Type} (fields : Members) (name : Text) (standard : α)
    (examine : Json → Examined α) : Examined α :=
  Examined.within (.name name) <|
    match fields.get? name with
    | some value => examine value
    | none => .ok standard

/-- The configuration with the given fields; other fields say nothing. -/
def ofFields (fields : Members) : Examined Config :=
  (Examined.both (field fields "settings_file" standard.settingsFile pathText)
    (Examined.both (field fields "settings_key" standard.settingsKey nonemptyText)
      (Examined.both (field fields "artifact_name" standard.artifactName nonemptyText)
        (field fields "extension" standard.extension nonemptyText)))).map
    fun (settingsFile, settingsKey, artifactName, extension) =>
      { settingsFile, settingsKey, artifactName, extension }

/-- The variables of an environment. -/
abbrev Environment := List (Text × Text)

/-- The value of a variable that is set and not empty.  Values are kept as bytes,
like the names of files. -/
def valueOf? (environment : Environment) (name : Text) : Option Text :=
  ((environment.lookup name).filter (· ≠ [])).map Name.normal

/-- The variable that names the settings file. -/
def settingsFileVariable : String := "COPY_CRAB_SETTINGS_FILE"

/-- The variable that names the settings key. -/
def settingsKeyVariable : String := "COPY_CRAB_SETTINGS_KEY"

/-- The fields that an environment sets. -/
def fieldsOf (environment : Environment) : Members :=
  [("settings_file", settingsFileVariable), ("settings_key", settingsKeyVariable)].filterMap
    fun (field, name) => (valueOf? environment name).map fun value => (field, .string value)

/-- The configuration that an environment asks for. -/
def ofEnvironment (environment : Environment) : Examined Config :=
  ofFields (fieldsOf environment)

end Config

end HelperKit
