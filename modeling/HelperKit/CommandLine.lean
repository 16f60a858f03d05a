import HelperKit.CommandLine.Arguments
import HelperKit.Upkeep

/-!
# The command line

A first run asks for a project and writes its artifact; later runs offer to
change or delete it.  Every failure that is reported on purpose ends the run with
an error line and its own exit status.
-/

namespace HelperKit.CommandLine

/-- The line that sums up the usage. -/
def usage : Text :=
  "usage: copy-crab [-h] [--settings-file SETTINGS_FILE] [--verbose]\n"

/-- The help. -/
def help : Text :=
  usage ++
  "\n" ++
  "copy-crab -- copy the crabSafe TypeScript helpers into a project\n" ++
  "\n" ++
  "options:\n" ++
  "  -h, --help            show this help message and exit\n" ++
  "  --settings-file SETTINGS_FILE\n" ++
  "                        Shared settings JSON file (default: ./copy-paste.json)\n" ++
  "  --verbose, -v         Log every file operation\n" ++
  "\n" ++
  "Examples:\n" ++
  "  python -m copy_crab\n" ++
  "  python -m copy_crab --settings-file ./copy-paste.json\n"

/-- What appears among the errors when the arguments are refused. -/
def refusalText (refusal : Refusal) : Text :=
  usage ++ "copy-crab: error: " ++ refusal.wording ++ "\n"

/-- How the log is set up: the least level that is recorded, the number of
handlers, and whether records go on to other handlers. -/
structure Logging where
  level : Level
  handlers : Nat
  propagate : Bool
  deriving DecidableEq

/-- The log of a run. -/
def logging (verbose : Bool) : Logging :=
  { level := if verbose then .debug else .warning, handlers := 1, propagate := false }

/-- The rows that sum up a project. -/
def summary (project : Project) : List (Text × Text) :=
  [("Runtime", project.runtime.name),
   ("Directory", project.directory),
   ("Features", Site.listing project.features),
   ("Modularity", project.layout.name)]

/-- What a first run says about the settings. -/
def announcement (config : Config) (present : Bool) : Text :=
  if present then
    config.settingsKey ++ " not found in " ++ config.settingsFile.toText ++
      ". A file will be created after choosing your settings."
  else
    "File " ++ config.settingsFile.toText ++ " doesn't exist. " ++
      "A file will be created after choosing your settings"

/-- A run for which no project is stored. -/
def firstRun (site : Site) : Errand Terminal Unit := do
  let present ← Upkeep.onDisk site.store.present
  Upkeep.converse (Dialogue.display (Screen.line (announcement site.config present)))
  let disk ← Upkeep.onDisk Attempt.disk
  let project ← Upkeep.converse (Dialogue.askProject disk)
  discard (Upkeep.onDisk (site.materialize project false))
  Upkeep.converse (Dialogue.present (Screen.summaryTable (summary project) "crabSafe"))

/-- A run. -/
def run (site : Site) : Errand Terminal Unit := do
  match ← Upkeep.onDisk site.store.load with
  | some project => discard (Upkeep.run site project)
  | none => firstRun site

/-- The exit statuses. -/
inductive ExitStatus where
  | done
  | failed
  | refused
  | interrupted
  deriving DecidableEq

/-- The number of an exit status. -/
def ExitStatus.number : ExitStatus → Nat
  | .done => 0
  | .failed => 1
  | .refused => 2
  | .interrupted => 130

/-- Ends a run: says that it is done, or reports a failure that is reported on
purpose.  Other failures are passed on. -/
def conclude (site : Site) : Errand Terminal ExitStatus := do
  match ← (fun state =>
      let (result, state) := run site state
      (.ok result, state) : Errand Terminal (Except Failure Unit)) with
  | .ok () => do
      Upkeep.converse (Dialogue.display (Screen.line "Done!"))
      pure .done
  | .error failure =>
      if failure.isReported then do
        Upkeep.onDisk (Attempt.note .debug "Aborting")
        Upkeep.say (Screen.error ("Error: " ++ (failure.message?).getD []))
        pure .failed
      else throw failure

/-- The configuration that the environment and the arguments ask for; an empty
file name asks for nothing. -/
def configuration (environment : Config.Environment) (settingsFile : Option Text) :
    Examined Config :=
  (Config.ofEnvironment environment).map fun config =>
    match settingsFile.filter (· ≠ []) with
    | some file => { config with settingsFile := .ofText file }
    | none => config

/-- What starts a run. -/
structure Invocation where
  arguments : List Text
  environment : Config.Environment
  templates : TemplateFolder
  interrupted : Bool

/-- The site of an invocation that names a settings file or none. -/
def Invocation.site (invocation : Invocation) (settingsFile : Option Text) : Examined Site :=
  (configuration invocation.environment settingsFile).map (⟨·, invocation.templates⟩)

/-- How a run ends: with an exit status or with a failure that nothing reports;
and what was written among the errors. -/
structure Outcome where
  status : Except Failure ExitStatus
  errors : Text
  workspace : Workspace
  terminal : Terminal

/-- The outcome of an invocation on a disk, with the answers that are given. -/
def Invocation.outcome (invocation : Invocation) (disk : Disk) (answers : List Answer) : Outcome :=
  let workspace := Workspace.on disk .warning
  let terminal : Terminal := { answers }
  match ofArguments invocation.arguments with
  | .error refusal =>
      { status := .ok .refused, errors := refusalText refusal, workspace, terminal }
  | .ok .help => { status := .ok .done, errors := [], workspace, terminal := terminal.display help }
  | .ok (.run settingsFile verbose) =>
      let workspace := { workspace with threshold := (logging verbose).level }
      let session : Errand Terminal ExitStatus :=
        match invocation.site settingsFile with
        | .error complaints => throw (.rejected complaints)
        | .ok site =>
            if invocation.interrupted then do
              Upkeep.say (Screen.error "Interrupted.")
              pure .interrupted
            else conclude site
      let (status, workspace, terminal) := session (workspace, terminal)
      { status, errors := [], workspace, terminal }

end HelperKit.CommandLine
