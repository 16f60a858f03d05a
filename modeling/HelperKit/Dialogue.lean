import HelperKit.Console.Screen

/-!
# Dialogues

A dialogue reads answers from a script that was fixed beforehand; behind its last
line the input has ended.  The transcript keeps what was shown and what was read,
in order.  Every question is asked again until an answer is accepted, the
question is given up, or the input ends, so that a dialogue never reads more than
the script holds and one end of input.
-/

namespace HelperKit

/-- What comes in at one read: a line, or an interruption by the user. -/
inductive Answer where
  | line (text : Text)
  | interrupt
  deriving DecidableEq

/-- One event at the terminal: something is shown, or something is read, which
is nothing at the end of input. -/
inductive Exchange where
  | shown (text : Text)
  | read (answer : Option Answer)
  deriving DecidableEq

/-- The text that an event puts on the terminal. -/
def Exchange.output : Exchange → Text
  | .shown text => text
  | .read _ => []

/-- A terminal: the answers not read yet, and what has happened. -/
structure Terminal where
  answers : List Answer
  transcript : List Exchange := []
  deriving DecidableEq

namespace Terminal

/-- The text on the terminal. -/
def output (terminal : Terminal) : Text :=
  terminal.transcript.flatMap Exchange.output

/-- The terminal after a text was shown. -/
def display (terminal : Terminal) (text : Text) : Terminal :=
  { terminal with transcript := terminal.transcript ++ [.shown text] }

end Terminal

/-- A part of a conversation at a terminal. -/
abbrev Dialogue := ExceptT Failure (StateM Terminal)

/-- What is thought of an answer: it is accepted, it is complained about and the
question asked again, or the question is given up. -/
inductive Verdict (α : Type) where
  | accept (value : α)
  | again (complaint : Text)
  | giveUp (failure : Failure)

namespace Dialogue

variable {α : Type}

/-- Shows a text. -/
def display (text : Text) : Dialogue Unit :=
  modify (·.display text)

/-- Shows a text that may be impossible to show. -/
def present : Except Failure Text → Dialogue Unit
  | .ok text => display text
  | .error failure => throw failure

/-- Asks for answers, each after the prompt, until one settles the question. -/
def settle (prompt question : Text) (judge : Text → Verdict α) :
    List Answer → List Exchange → Except Failure α × Terminal
  | [], transcript =>
      (.error (.cancelled question),
        ⟨[], transcript ++ [.shown prompt, .read none, .shown "\n"]⟩)
  | .interrupt :: answers, transcript =>
      (.error (.cancelled question),
        ⟨answers, transcript ++ [.shown prompt, .read (some .interrupt), .shown "\n"]⟩)
  | .line text :: answers, transcript =>
      match judge text with
      | .accept value =>
          (.ok value, ⟨answers, transcript ++ [.shown prompt, .read (some (.line text))]⟩)
      | .giveUp failure =>
          (.error failure, ⟨answers, transcript ++ [.shown prompt, .read (some (.line text))]⟩)
      | .again complaint =>
          settle prompt question judge answers
            (transcript ++
              [.shown prompt, .read (some (.line text)), .shown (Screen.line complaint)])

/-- Asks a question.  `prompt` stands before every answer. -/
def ask (prompt question : Text) (judge : Text → Verdict α) : Dialogue α :=
  fun terminal => settle (Screen.plain prompt) question judge terminal.answers terminal.transcript

/-- A question that was settled has read an answer. -/
theorem settle_ok_length {prompt question : Text} {judge : Text → Verdict α}
    {answers : List Answer} {transcript : List Exchange} {value : α} {after : Terminal}
    (settled : settle prompt question judge answers transcript = (.ok value, after)) :
    after.answers.length < answers.length := by
  induction answers generalizing transcript with
  | nil => simp [settle] at settled
  | cons answer answers induction =>
      cases answer with
      | interrupt => simp [settle] at settled
      | line text =>
          simp only [settle] at settled
          split at settled
          · simp only [Prod.mk.injEq] at settled
            simp [← settled.2]
          · simp at settled
          · exact Nat.lt_succ_of_lt (induction settled)

/-- An answer to a question has been read. -/
theorem ask_ok_length {prompt question : Text} {judge : Text → Verdict α}
    {terminal after : Terminal} {value : α}
    (settled : ask prompt question judge terminal = (.ok value, after)) :
    after.answers.length < terminal.answers.length :=
  settle_ok_length settled

/-! ## Choosing from a table -/

/-- A choice that a table offers. -/
structure Choice (α : Type) where
  label : Text
  value : α

/-- The words that give a question up. -/
def cancelWords : List Text := ["q", "quit", "cancel"]

/-- Whether an answer gives a question up. -/
def isCancel (answer : Text) : Bool :=
  cancelWords.any (· = answer.lower)

/-- The place of the choice that an answer names by its number, counted from one,
or else by its label in any case of letters. -/
def pick? (answer : Text) (labels : List Text) : Option Nat :=
  let index : Int := (answer.toInt?.map (· - 1)).getD (-1)
  if 0 ≤ index ∧ index < labels.length then some index.toNat
  else labels.findIdx? fun label => label.lower = answer.lower

/-- Shows a question and the numbered table of its choices. -/
def showChoices (question : Text) (choices : List (Choice α)) : Dialogue Unit := do
  display "\n"
  display (Screen.line question)
  present (Screen.optionTable (choices.map Choice.label))

/-- What is thought of an answer that should name one choice. -/
def judgeOne (question : Text) (choices : List (Choice α)) (line : Text) : Verdict α :=
  let answer := line.strip
  if answer = [] ∨ isCancel answer then .giveUp (.cancelled question)
  else
    match (pick? answer (choices.map Choice.label)).bind fun index => choices[index]? with
    | some choice => .accept choice.value
    | none =>
        .again ("Invalid choice. Enter 1-" ++ Text.ofNat choices.length ++ " or option name.")

/-- Asks for one of the choices. -/
def select (question : Text) (choices : List (Choice α)) : Dialogue α := do
  showChoices question choices
  ask "Enter number or name: " question (judgeOne question choices)

/-- One part of a conversation after another. -/
theorem bind_apply {β : Type} (first : Dialogue α) (next : α → Dialogue β) (terminal : Terminal) :
    (first >>= next) terminal =
      match first terminal with
      | (.ok value, terminal) => next value terminal
      | (.error failure, terminal) => (.error failure, terminal) := by
  have unfolded : (first >>= next) terminal =
      (fun reached : Except Failure α × Terminal => ExceptT.bindCont next reached.1 reached.2)
        (first terminal) := rfl
  rw [unfolded]
  cases first terminal with
  | mk result between => cases result <;> rfl

/-- Showing a text reads nothing. -/
theorem present_answers (text : Except Failure Text) (terminal : Terminal) :
    (present text terminal).2.answers = terminal.answers := by
  cases text <;> rfl

/-- Showing the choices reads nothing. -/
theorem showChoices_answers (question : Text) (choices : List (Choice α)) (terminal : Terminal) :
    (showChoices question choices terminal).2.answers = terminal.answers :=
  present_answers _ ((terminal.display "\n").display (Screen.line question))

/-- A choice that was made has been read. -/
theorem select_ok_length {question : Text} {choices : List (Choice α)}
    {terminal after : Terminal} {value : α}
    (selected : select question choices terminal = (.ok value, after)) :
    after.answers.length < terminal.answers.length := by
  rw [select, bind_apply] at selected
  have unread := showChoices_answers question choices terminal
  cases displayed : showChoices question choices terminal with
  | mk result between =>
      rw [displayed] at selected unread
      cases result with
      | error failure => cases selected
      | ok => exact unread ▸ ask_ok_length selected

/-- The parts of an answer that names several choices. -/
def parts (answer : Text) : List Text :=
  ((answer.splitOn (.char ',')).map Text.strip).filter fun part => part ≠ []

/-- The values of the choices at the given places, in the order of the table. -/
def valuesAt (choices : List (Choice α)) (indices : List Nat) : List α :=
  (choices.zipIdx.filter fun entry => entry.2 ∈ indices).map fun entry => entry.1.value

/-- What is thought of an answer that should name several choices. -/
def judgeSeveral (question : Text) (choices : List (Choice α)) (minimum : Nat) (line : Text) :
    Verdict (List α) :=
  let answer := line.strip
  if isCancel answer then .giveUp (.cancelled question)
  else
    match (parts answer).mapM fun part => pick? part (choices.map Choice.label) with
    | none => .again "Invalid choice in selection."
    | some indices =>
        let selected := valuesAt choices indices
        if selected.length < minimum then
          .again ("Select at least " ++ Text.ofNat minimum ++ " option(s).")
        else .accept selected

/-- Asks for any number of the choices. -/
def multiSelect (question : Text) (choices : List (Choice α)) (minimum : Nat) :
    Dialogue (List α) := do
  showChoices question choices
  ask "Enter numbers or names, comma separated: " question
    (judgeSeveral question choices minimum)

/-! ## Other questions -/

/-- What is thought of an answer to a yes-or-no question. -/
def judgeConfirm (standard : Bool) (line : Text) : Verdict Bool :=
  let answer := line.strip.lower
  if answer = [] then .accept standard
  else .accept (answer = Text.ofString "y" || answer = Text.ofString "yes")

/-- Asks a yes-or-no question; an empty answer means `standard`. -/
def confirm (message : Text) (standard : Bool) : Dialogue Bool :=
  ask (message ++ if standard then Text.ofString " [Y/n] " else Text.ofString " [y/N] ") message
    (judgeConfirm standard)

/-- What is thought of an answer that should be a text. -/
def judgeText (question : Text) (line : Text) : Verdict Text :=
  if line.strip = [] then .giveUp (.cancelled question) else .accept line.strip

/-- Asks for a text. -/
def text (message : Text) : Dialogue Text :=
  ask (message ++ " ") message (judgeText message)

end Dialogue

end HelperKit
