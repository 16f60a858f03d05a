import HelperKit.Proofs.CommandLine.Exhausting
import HelperKit.Proofs.CommandLine.Questioning
import HelperKit.Proofs.Dialogue.Reaching
import HelperKit.Proofs.Upkeep.Tracking
import Mathlib.Logic.Relation

/-!
# Detours make no difference

Two kinds of answers bring a run back to where it was: lines that the question rejects that reads
them, and rounds of the menu that end with going back.  With any number of them put in between,
the run ends as it does without them, but for the screen and the log.
-/

namespace HelperKit

open Dialogue Upkeep

namespace Dialogue

theorem ChosenBy.behind_rejected {α : Type} {choices : List (Choice α)} {taken : List Answer}
    {value : α} (chosen : ChosenBy choices taken value) {rejected : List Text}
    (unsettling : ∀ line ∈ rejected, Unsettling (choices.map Choice.label) line) :
    ChosenBy choices (rejected.map .line ++ taken) value := by
  cases chosen with
  | @behind others line index choice unsettlingToo decides found =>
      rw [← List.append_assoc, ← List.map_append]
      refine .behind (fun other member => ?_) decides found
      rcases List.mem_append.mp member with before | behind
      · exact unsettling other before
      · exact unsettlingToo other behind

end Dialogue

namespace CommandLine

variable {site : Site} {start there : Workspace} {disk : Disk}

/-! ## Rounds of the menu -/

/-- A round of the menu that ends with going back leads to the menu again. -/
theorem menu_round {modify goBack : List Answer}
    (modifies : ChosenBy nextStepChoices modify .modify)
    (returns : ChosenBy modifyChoices goBack .back) (before : Workspace) :
    ∃ added, ∀ later transcript, menu (before, ⟨modify ++ goBack ++ later, transcript⟩) =
      menu (before.note (actionRecord .back), ⟨later, transcript ++ added⟩) := by
  obtain ⟨added, takes⟩ := modifies.takes "What would you like to do?"
  obtain ⟨more, takesMore⟩ := returns.takes "Choose aspect to modify"
  refine ⟨added ++ more, fun later transcript => ?_⟩
  have asked : askNextStep ⟨modify ++ (goBack ++ later), transcript⟩ =
      (.ok .modify, ⟨goBack ++ later, transcript ++ added⟩) := takes _ _
  have askedMore : askModifyAction ⟨goBack ++ later, transcript ++ added⟩ =
      (.ok .back, ⟨later, transcript ++ added ++ more⟩) := takesMore _ _
  rw [menu_eq, Errand.bind_apply, converse_apply, List.append_assoc, asked]
  simp only
  rw [proceed_modify_of_ok askedMore, ← menu_eq, ← List.append_assoc]
  rfl

/-- The first question of the menu. -/
def firstQuestion : Question :=
  .one "What would you like to do?" (nextStepChoices.map Choice.label)

theorem arrives_firstQuestion (site : Site) (there : Workspace) :
    Arrives site menu there []
      (converse (ask firstQuestion.prompt firstQuestion.text
        (judgeOne firstQuestion.text nextStepChoices))) there := by
  rw [menu_eq]
  exact .first composed_proceed (arrives_choose _ _ _ nextStepChoices _ there)

theorem menu_endAlike_rejected (site : Site) {rejected : List Text}
    (unsettling : ∀ line ∈ rejected, Unsettling (nextStepChoices.map Choice.label) line)
    (back : List Answer) (transcript : List Exchange) :
    EndAlike (actionRecord .back) (menu (there, ⟨back, transcript⟩))
      (menu (there, ⟨rejected.map .line ++ back, transcript⟩)) := by
  induction rejected with
  | nil => exact ⟨rfl, .refl _, rfl⟩
  | cons line rejected induction =>
      have again := (unsettling line List.mem_cons_self).judged firstQuestion.text
      exact (induction fun other member => unsettling other (List.mem_cons_of_mem _ member)).trans
        ((arrives_firstQuestion site there).endAlike_rejected again _ transcript)

/-- Nor does a round that goes back, behind such lines or behind none. -/
theorem menu_endAlike_round (site : Site) {rejected : List Text} {modify goBack : List Answer}
    (unsettling : ∀ line ∈ rejected, Unsettling (nextStepChoices.map Choice.label) line)
    (modifies : ChosenBy nextStepChoices modify .modify)
    (returns : ChosenBy modifyChoices goBack .back) (back : List Answer)
    (transcript : List Exchange) :
    EndAlike (actionRecord .back) (menu (there, ⟨rejected.map .line ++ back, transcript⟩))
      (menu (there, ⟨rejected.map .line ++ (modify ++ goBack ++ back), transcript⟩)) := by
  obtain ⟨added, round⟩ := menu_round (modifies.behind_rejected unsettling) returns there
  have heedless : Respects (AlikeStates (actionRecord .back)) menu :=
    Composed.respects (.menu : Composed site (fun _ => True) menu)
  refine (menu_endAlike_rejected site unsettling back transcript).symm.trans ?_
  rw [← List.append_assoc, ← List.append_assoc, round]
  exact heedless ⟨there.differBy_note, rfl⟩

/-! ## Detours -/

/-- An invocation starts a run on a disk, in a workspace in which nothing has been done yet. -/
inductive Invocation.Starts (invocation : Invocation) (disk : Disk) :
    Site → Workspace → Prop where
  | run {settingsFile : Option Text} {verbose : Bool} {site : Site}
      (given : ofArguments invocation.arguments = .ok (.run settingsFile verbose))
      (situated : invocation.site settingsFile = .ok site)
      (undisturbed : invocation.interrupted = false) :
      Starts invocation disk site (.on disk (logging verbose).level)

/-- How one list of answers to a run comes of another by a single detour: at a question a line is
put in that it rejects, or at the first question of the menu a round that goes back.  Either may
stand before an answer or at the end of all. -/
inductive Invocation.Detour (invocation : Invocation) (disk : Disk) :
    List Answer → List Answer → Prop where
  | rejected {site : Site} {start : Workspace} {front : List Answer} {question : Question}
      {line : Text} (starts : invocation.Starts disk site start)
      (asks : Asks site disk (CommandLine.run site) start front question)
      (rejects : question.Rejects disk line) (back : List Answer) :
      Detour invocation disk (front ++ back) (front ++ .line line :: back)
  | round {site : Site} {start there : Workspace} {front : List Answer} {rejected : List Text}
      {modify goBack : List Answer} (starts : invocation.Starts disk site start)
      (arrives : Arrives site (CommandLine.run site) start front menu there)
      (unsettling : ∀ line ∈ rejected, Unsettling (nextStepChoices.map Choice.label) line)
      (modifies : ChosenBy nextStepChoices modify .modify)
      (returns : ChosenBy modifyChoices goBack .back) (back : List Answer) :
      Detour invocation disk (front ++ (rejected.map .line ++ back))
        (front ++ (rejected.map .line ++ (modify ++ goBack ++ back)))

/-- Outcomes that differ in nothing but what is on the screen and how often a record is in the
log. -/
structure Outcome.AlikeBut (record : LogRecord) (left right : Outcome) : Prop where
  status : left.status = right.status
  errors : left.errors = right.errors
  workspaces : left.workspace.DifferBy record right.workspace
  unread : left.terminal.answers = right.terminal.answers

theorem Invocation.Starts.outcome_eq {invocation : Invocation}
    (starts : invocation.Starts disk site start) (answers : List Answer) :
    invocation.outcome disk answers = .ofErrand (conclude site) start { answers } := by
  cases starts with
  | run given situated undisturbed =>
      exact Invocation.outcome_eq_conclude given situated undisturbed disk answers

/-- Runs that end alike are concluded alike. -/
theorem endAlike_conclude {record : LogRecord} {left right : Workspace × Terminal}
    (alike : EndAlike record (run site left) (run site right)) :
    EndAlike record (conclude site left) (conclude site right) := by
  have closes : Composed site (fun _ => True) (close (run site left).1) := composed_close _
  rw [conclude_apply, conclude_apply, ← alike.1]
  exact closes.respects alike.2

/-- A single detour makes no difference. -/
theorem Invocation.Detour.alikeBut {invocation : Invocation} {direct detoured : List Answer}
    (detour : invocation.Detour disk direct detoured) :
    (invocation.outcome disk direct).AlikeBut (actionRecord .back)
      (invocation.outcome disk detoured) := by
  have concluded : ∀ {site start}, invocation.Starts disk site start →
      EndAlike (actionRecord .back) (run site (start, { answers := direct }))
        (run site (start, { answers := detoured })) →
      (invocation.outcome disk direct).AlikeBut (actionRecord .back)
        (invocation.outcome disk detoured) := by
    intro site start starts alike
    rw [starts.outcome_eq, starts.outcome_eq]
    obtain ⟨status, states⟩ := endAlike_conclude alike
    exact ⟨status, rfl, states.workspaces, states.answers⟩
  cases detour with
  | rejected starts asks rejects back =>
      obtain ⟨_, judge, there, judged, arrives⟩ := asks
      obtain ⟨complaint, again⟩ := (judged.rejects_iff _).mp rejects
      exact concluded starts (arrives.endAlike_rejected again back [])
  | @round site _ _ _ _ _ _ starts arrives unsettling modifies returns back =>
      exact concluded starts (arrives.endAlike
        (menu_endAlike_round site unsettling modifies returns back) [])

/-! ## Where detours begin -/

theorem Outcome.ofErrand_terminal (errand : Errand Terminal ExitStatus) (before : Workspace)
    (terminal : Terminal) :
    (Outcome.ofErrand errand before terminal).terminal = (errand (before, terminal)).2.2 := rfl

/-- An invocation starts a run, or it leaves all answers. -/
theorem Invocation.starts_or_unread (invocation : Invocation) (disk : Disk) :
    (∃ site start, invocation.Starts disk site start) ∨
      ∀ answers, (invocation.outcome disk answers).terminal.answers = answers := by
  cases given : ofArguments invocation.arguments with
  | error refusal =>
      refine .inr fun answers => ?_
      unfold outcome
      rw [given]
  | ok command =>
      cases command with
      | help =>
          refine .inr fun answers => ?_
          unfold outcome
          rw [given]
          rfl
      | run settingsFile verbose =>
          cases situated : invocation.site settingsFile with
          | error complaints =>
              refine .inr fun answers => ?_
              rw [outcome_eq given, session, situated]
              rfl
          | ok site =>
              cases undisturbed : invocation.interrupted with
              | false => exact .inl ⟨site, _, .run given situated undisturbed⟩
              | true =>
                  refine .inr fun answers => ?_
                  have halts : Composed site (fun _ => True) halt := composed_halt
                  obtain ⟨_, -, -, unread⟩ := halts.answers_eq tells_halt
                    (.on disk (logging verbose).level, { answers })
                  have halted : invocation.session settingsFile = halt := by
                    rw [session, situated]
                    exact if_pos undisturbed
                  rw [outcome_eq given, halted, Outcome.ofErrand_terminal]
                  exact unread

/-- A run over a stored project comes to the menu before it reads an answer, and so to whatever the
menu comes to. -/
theorem Arrives.of_menu {project : Project} {α : Type} {part : Errand Terminal α}
    {front : List Answer} (stored : (site.store.load start).1 = .ok (some project))
    (arrives : Arrives site menu (site.store.load start).2 front part there) :
    Arrives site (run site) start front part there := by
  obtain ⟨text, drawn⟩ := Screen.info_eq_ok
    ("Found previous configuration settings for " ++ Text.ofString project.runtime.name ++
      " project")
  have greets : Yields (say (Screen.info ("Found previous configuration settings for " ++
      Text.ofString project.runtime.name ++ " project"))) (site.store.load start).2 [] ()
      (site.store.load start).2 := by
    rw [drawn]
    exact yields_say text _
  rw [run_eq, inquire_eq]
  exact .first composed_conduct (.next (yields_onDisk stored) (.next greets
    (.first (fun task => composed_consult task project) arrives)))

/-- A run ends as it does without detours: with the same status, the same disk, and the same
answers left.  Only the screen differs, and the log by the records of going back.  There may be any
number of detours before every answer that a run reads, for each is read at the prompt of a
question that is asked there, and over a stored project before the first one. -/
theorem detours_make_no_difference (invocation : Invocation) (disk : Disk) :
    (∀ direct detoured, Relation.ReflTransGen (invocation.Detour disk) direct detoured →
      (invocation.outcome disk direct).AlikeBut (actionRecord .back)
        (invocation.outcome disk detoured)) ∧
    (∀ front answer back,
      (invocation.outcome disk (front ++ answer :: back)).terminal.answers <:+ back →
      ∃ site start question, invocation.Starts disk site start ∧
        Asks site disk (run site) start front question ∧ question.ReadsIn disk answer front
          (invocation.outcome disk (front ++ answer :: back)).terminal.transcript) ∧
    ∀ site start project, invocation.Starts disk site start →
      (site.store.load start).1 = .ok (some project) →
      ∃ there, Arrives site (run site) start [] menu there := by
  refine ⟨?_, ?_, ?_⟩
  · intro direct detoured detours
    induction detours with
    | refl => exact ⟨rfl, rfl, .refl _, rfl⟩
    | tail _ detour induction =>
        have last := detour.alikeBut
        exact ⟨induction.status.trans last.status, induction.errors.trans last.errors,
          induction.workspaces.trans last.workspaces, induction.unread.trans last.unread⟩
  · intro front answer back read
    have few := read.length_le
    rcases invocation.starts_or_unread disk with ⟨site, start, starts⟩ | unread
    · have begins : start.disk = disk := by
        cases starts
        rfl
      let given : Terminal := { answers := front ++ answer :: back }
      have accounted : Accounted site disk (run site) (start, given) := accounted_run site begins
      obtain ⟨more, -, told⟩ := conclude_tells site (start, given)
      rw [starts.outcome_eq, Outcome.ofErrand_terminal, told] at few ⊢
      obtain ⟨question, added, asks, grown, reads⟩ := accounted.asks front answer back rfl few
      refine ⟨site, start, question, starts, asks, ?_⟩
      rw [grown]
      exact reads.append more
    · rw [unread, List.length_append, List.length_cons] at few
      omega
  · intro site start project starts stored
    exact ⟨_, Arrives.of_menu stored (.here menu _)⟩

/-- A line that is rejected and a round of the menu before an artifact is deleted. -/
theorem detours_make_no_difference_deletion :
    let invocation : Invocation := ⟨[], [], .shipped, false⟩
    let direct := [Answer.line "2", .line "y"]
    let detoured := [Answer.line "9", .line "1", .line "3", .line "2", .line "y"]
    Relation.ReflTransGen (invocation.Detour Session.recordedDisk) direct detoured ∧
      (invocation.outcome Session.recordedDisk direct).status = .ok .done ∧
      (invocation.outcome Session.recordedDisk direct).AlikeBut (actionRecord .back)
        (invocation.outcome Session.recordedDisk detoured) := by
  intro invocation direct detoured
  let site : Site := ⟨.standard, .shipped⟩
  have given : ofArguments invocation.arguments = .ok (.run none false) := by decide
  have starts : invocation.Starts Session.recordedDisk site (.on Session.recordedDisk .warning) :=
    .run given rfl rfl
  have stored := Session.load_recordedDisk
  have modifies : ChosenBy nextStepChoices [.line "1"] .modify :=
    (chosenBy_iff "").mpr ⟨[], "1", rfl, by simp, rfl⟩
  have returns : ChosenBy modifyChoices [.line "3"] .back :=
    (chosenBy_iff "").mpr ⟨[], "3", rfl, by simp, rfl⟩
  have round : invocation.Detour Session.recordedDisk direct
      [.line "1", .line "3", .line "2", .line "y"] :=
    .round starts (Arrives.of_menu stored (.here menu _)) (fun _ => List.not_mem_nil.elim) modifies
      returns direct
  have again : judgeOne firstQuestion.text nextStepChoices "9" = .again (invalidChoice 2) := rfl
  have asks : Asks site Session.recordedDisk (run site) (.on Session.recordedDisk .warning) []
      firstQuestion :=
    ⟨_, _, _, .one firstQuestion.text nextStepChoices,
      Arrives.of_menu stored (arrives_firstQuestion _ _)⟩
  have rejected : invocation.Detour Session.recordedDisk
      [.line "1", .line "3", .line "2", .line "y"] detoured :=
    .rejected starts asks (judgeOne_eq_again again).2 _
  have detours : Relation.ReflTransGen (invocation.Detour Session.recordedDisk) direct detoured :=
    .tail (.single round) rejected
  exact ⟨detours, by decide +kernel,
    (detours_make_no_difference invocation Session.recordedDisk).1 direct detoured detours⟩

end CommandLine

end HelperKit
