import HelperKit.Text.Numeral
import HelperKit.Text.Quoted

/-!
# Arguments

The command line knows three options.  A long option may be shortened as long as
it stays unique and may take its value after an equals sign; one-letter options
may be written together.  Behind a bare double dash nothing is an option, and
nothing but options is understood.
-/

namespace HelperKit.CommandLine

/-- What an option asks for. -/
inductive Switch where
  | help
  | settingsFile
  | verbose
  deriving DecidableEq

namespace Switch

/-- How an option is named in messages. -/
def label : Switch → String
  | .help => "-h/--help"
  | .settingsFile => "--settings-file"
  | .verbose => "--verbose/-v"

/-- Whether a value belongs to an option. -/
def takesValue : Switch → Bool
  | .settingsFile => true
  | _ => false

end Switch

/-- All spellings of options, in the order of their declaration. -/
def spellings : List (String × Switch) :=
  [("-h", .help), ("--help", .help), ("--settings-file", .settingsFile),
   ("--verbose", .verbose), ("-v", .verbose)]

/-- The option with exactly this spelling. -/
def spelled? (text : Text) : Option Switch :=
  (spellings.find? fun (spelling, _) => Text.ofString spelling = text).map Prod.snd

/-- What an argument is by itself.  An option is written short, behind one dash,
or long, and may have a text attached, behind an equals sign or right behind its
letter. -/
inductive Shape where
  | separator
  | positional
  | unknown
  | option (switch : Switch) (short : Bool) (attached : Option Text)
  deriving DecidableEq

/-- The parts of a text before and after its first equals sign. -/
def atEquals? (text : Text) : Option (Text × Text) :=
  let name := text.takeWhile (· ≠ .char '=')
  match text.drop name.length with
  | _ :: value => some (name, value)
  | [] => none

/-- A text without a line feed at its end. -/
def chomp (text : Text) : Text :=
  if text.getLast? = some (.char '\n') then text.dropLast else text

/-- Whether an argument is a negative number, which is no option. -/
def isNegativeNumber (text : Text) : Bool :=
  match chomp text with
  | .char '-' :: body =>
      let whole := body.takeWhile fun point => point.digit?.isSome
      match body.drop whole.length with
      | [] => !whole.isEmpty
      | .char '.' :: places => !places.isEmpty && places.all fun point => point.digit?.isSome
      | _ => false
  | _ => false

/-- Whether an argument is written behind one dash only. -/
def isShort (argument : Text) : Bool :=
  !argument.startsWith "--"

/-- The options that an argument may be short for, with the text it attaches. -/
def candidates (argument : Text) : List (String × Shape) :=
  if isShort argument then
    spellings.filterMap fun (spelling, switch) =>
      if Text.ofString spelling = argument.take 2 then
        some (spelling, .option switch true (some (argument.drop 2)))
      else none
  else
    let (name, attached) :=
      match atEquals? argument with
      | some (name, value) => (name, some value)
      | none => (argument, none)
    spellings.filterMap fun (spelling, switch) =>
      if (Text.ofString spelling).startsWith name then
        some (spelling, .option switch false attached)
      else none

/-- Why a command line is refused. -/
inductive Refusal where
  | unrecognised (arguments : List Text)
  | expectedValue (switch : Switch)
  | ignoredValue (switch : Switch) (value : Text)
  | ambiguous (argument : Text) (spellings : List String)
  deriving DecidableEq

/-- The wording of a refusal. -/
def Refusal.wording : Refusal → Text
  | .unrecognised arguments => "unrecognized arguments: " ++ Text.join " " arguments
  | .expectedValue switch => "argument " ++ switch.label ++ ": expected one argument"
  | .ignoredValue switch value =>
      "argument " ++ switch.label ++ ": ignored explicit argument " ++ value.quoted
  | .ambiguous argument spellings =>
      "ambiguous option: " ++ argument ++ " could match " ++
        Text.join ", " (spellings.map Text.ofString)

/-- What an argument before the double dash is. -/
def classify (argument : Text) : Except Refusal Shape :=
  if argument.head? ≠ some (.char '-') then .ok .positional
  else
    match spelled? argument with
    | some switch => .ok (.option switch (isShort argument) none)
    | none =>
        if argument.length = 1 then .ok .positional
        else
          let valued := do
            let (name, value) ← atEquals? argument
            let switch ← spelled? name
            some (Shape.option switch (isShort argument) (some value))
          match valued with
          | some shape => .ok shape
          | none =>
              match candidates argument with
              | [(_, shape)] => .ok shape
              | first :: second :: rest =>
                  .error (.ambiguous argument ((first :: second :: rest).map Prod.fst))
              | [] =>
                  if isNegativeNumber argument then .ok .positional
                  else if .char ' ' ∈ argument then .ok .positional
                  else .ok .unknown

/-- All arguments with what they are.  Behind a double dash nothing is an
option. -/
def classifyAll : List Text → Except Refusal (List (Text × Shape))
  | [] => .ok []
  | argument :: rest =>
      if argument = Text.ofString "--" then
        .ok ((argument, .separator) :: rest.map fun argument => (argument, .positional))
      else do
        let shape ← classify argument
        let shapes ← classifyAll rest
        .ok ((argument, shape) :: shapes)

/-- What the arguments ask for. -/
inductive Request where
  | help
  | run (settingsFile : Option Text) (verbose : Bool)
  deriving DecidableEq

/-- What was understood so far; unrecognised arguments are written backwards. -/
structure Progress where
  settingsFile : Option Text := none
  verbose : Bool := false
  unrecognised : List Text := []

/-- The options in the letters behind a one-letter option.  All of the letters
have to be options. -/
def letters (switch : Switch) : Text → Except Refusal (List Switch)
  | [] => .ok [switch]
  | letter :: rest =>
      match spelled? [.char '-', letter] with
      | some next => (letters next rest).map (switch :: ·)
      | none => .error (.ignoredValue switch (letter :: rest))

/-- The options in an argument that begins with an option without value.  A text
attached to a one-letter option is a group of further letters, also behind an
equals sign. -/
def valueless (switch : Switch) (short : Bool) :
    Option Text → Except Refusal (List Switch)
  | none => .ok [switch]
  | some [] => .error (.ignoredValue switch [])
  | some text => if short then letters switch text else .error (.ignoredValue switch text)

/-- Follows options without values.  Help is given at once. -/
def follow (progress : Progress) : List Switch → Except Request Progress
  | [] => .ok progress
  | .help :: _ => .error .help
  | .verbose :: rest => follow { progress with verbose := true } rest
  | .settingsFile :: rest => follow progress rest

/-- The value that a text attached to an option gives.  A double dash gives
none. -/
def attachedValue? (text : Text) : Option Text :=
  if text = Text.ofString "--" then none else some text

/-- Understands the arguments one after the other. -/
def understand (progress : Progress) : List (Text × Shape) → Except Refusal Request
  | [] =>
      if progress.unrecognised = [] then .ok (.run progress.settingsFile progress.verbose)
      else .error (.unrecognised progress.unrecognised.reverse)
  | (_, .option .settingsFile _ (some text)) :: rest =>
      understand { progress with settingsFile := attachedValue? text } rest
  | (_, .option .settingsFile _ none) :: rest =>
      match rest with
      | (value, .positional) :: rest =>
          understand { progress with settingsFile := some value } rest
      | _ => .error (.expectedValue .settingsFile)
  | (_, .option switch short attached) :: rest =>
      match valueless switch short attached with
      | .error refusal => .error refusal
      | .ok switches =>
          match follow progress switches with
          | .error request => .ok request
          | .ok progress => understand progress rest
  | (argument, _) :: rest =>
      understand { progress with unrecognised := argument :: progress.unrecognised } rest

/-- What the arguments ask for, or why they are refused. -/
def ofArguments (arguments : List Text) : Except Refusal Request := do
  understand {} (← classifyAll arguments)

end HelperKit.CommandLine
