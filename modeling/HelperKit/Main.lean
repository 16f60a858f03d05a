import HelperKit.CommandLine.Survey

/-!
# The program

Carries out a run on the real file system and terminal.  A run is worked out on
what is known of the disk and of the answers; as long as it asks for an answer
that is not known yet, one more line is read and the run is worked out again.  No
run changes the disk before its last answer, so its effects are carried out once,
at the end.
-/

namespace HelperKit.Program

/-- A text as a string; lone surrogates cannot be shown. -/
def shown (text : Text) : String :=
  String.ofList (text.filterMap CodePoint.toChar?)

/-- The name of a location in the file system. -/
def nameOf (location : Location) : String :=
  "/" ++ "/".intercalate (location.map shown)

/-- The location of an absolute name. -/
def locationOf (name : String) : Location :=
  (Path.ofText name).parts

/-- What is at a location in the file system. -/
def entryAt (location : Location) : IO (Option Entry) := do
  try
    pure (some (.file (← IO.FS.readBinFile (nameOf location))))
  catch fault =>
    match fault with
    | .inappropriateType _ code _ =>
        pure (if code.toNat = Errno.isDirectory.number then some .directory else none)
    | _ => pure none

/-- The disk as far as the given locations are concerned. -/
def capture (home : Location) (locations : List Location) : IO Disk := do
  let found ← (distinct locations).mapM fun location => do
    pure (location, ← entryAt location)
  pure { entries := fun location => (found.lookup location).join, home }

/-- The disk as far as a run looks at it.  What is stored in the settings file is
looked at in a second round. -/
def captureFor (invocation : CommandLine.Invocation) (home : Location)
    (answers : List Answer) : IO Disk := do
  let nothing : Disk := { entries := fun _ => none, home }
  let first ← capture home (CommandLine.survey invocation nothing answers)
  capture home (CommandLine.survey invocation first answers)

/-- Carries out an effect. -/
def carryOut : Effect → IO Unit
  | .makeDirectory location => IO.FS.createDir (nameOf location)
  | .writeFile location bytes => IO.FS.writeBinFile (nameOf location) bytes
  | .removeFile location => IO.FS.removeFile (nameOf location)
  | .removeTree location => IO.FS.removeDirAll (nameOf location)
  | .emptyDirectory location => do
      IO.FS.removeDirAll (nameOf location)
      IO.FS.createDir (nameOf location)

/-- Ends a run of which a number of code points was shown already. -/
def finish (outcome : CommandLine.Outcome) (printed : Nat) : IO UInt32 := do
  outcome.workspace.journal.forM carryOut
  let errors ← IO.getStderr
  for record in outcome.workspace.log do
    errors.putStrLn (record.level.name ++ " " ++ shown record.message)
  errors.putStr (shown outcome.errors)
  let output ← IO.getStdout
  output.putStr (shown (outcome.terminal.output.drop printed))
  output.flush
  match outcome.status with
  | .ok status => pure (UInt32.ofNat status.number)
  | .error failure => do
      errors.putStrLn (shown ((failure.message?).getD "The run failed."))
      pure 1

/-- The line of an answer, without its line feed. -/
def answerOf (line : String) : Answer :=
  .line (Text.ofChars (line.toList.filter (· ≠ '\n')))

/-- Works out a run with the answers read so far, and reads one more if it is
asked for. -/
partial def converse (invocation : CommandLine.Invocation) (home : Location)
    (answers : List Answer) (printed : Nat) (ended : Bool) : IO UInt32 := do
  let disk ← captureFor invocation home answers
  let outcome := invocation.outcome disk answers
  let settled := outcome.terminal.transcript.takeWhile (· ≠ .read none)
  if ended ∨ settled = outcome.terminal.transcript then finish outcome printed
  else do
    let output ← IO.getStdout
    let text := settled.flatMap Exchange.output
    output.putStr (shown (text.drop printed))
    output.flush
    let line ← (← IO.getStdin).getLine
    if line.isEmpty then converse invocation home answers text.length true
    else converse invocation home (answers ++ [answerOf line]) text.length false

/-- The variables that a configuration may depend on. -/
def environment : IO Config.Environment :=
  [Config.settingsFileVariable, Config.settingsKeyVariable].filterMapM fun name => do
    pure ((← IO.getEnv name).map fun value => (Text.ofString name, Text.ofString value))

/-- Runs the program with its arguments. -/
def run (arguments : List String) : IO UInt32 := do
  let home := locationOf (toString (← IO.currentDir))
  let invocation : CommandLine.Invocation :=
    { arguments := arguments.map Text.ofString
      environment := ← environment
      templates := .shipped
      interrupted := false }
  try
    converse invocation home [] 0 false
  catch fault =>
    (← IO.getStderr).putStrLn (toString fault)
    pure 1

end HelperKit.Program

/-- The program. -/
def main (arguments : List String) : IO UInt32 :=
  HelperKit.Program.run arguments
