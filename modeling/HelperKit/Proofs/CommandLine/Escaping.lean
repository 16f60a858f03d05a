import HelperKit.Proofs.CommandLine.Lifecycle
import HelperKit.Proofs.Dialogue.Failing

/-!
# What escapes a run

A failure that is reported on purpose ends a run with an error line.  Every other failure escapes,
and has one of a few causes: a path that is too long for a test or does not fit otherwise, a
document that holds more than is read, a text that has no encoded form, or a directory whose
name is taken for markup when everything is done.
-/

namespace HelperKit

namespace Upkeep

open Dialogue

variable {project : Project}

theorem answered_of_chosen {result : Except Failure Task} {added : List Exchange}
    (chosen : Chosen result added) : Answered result := by
  have answered : ∀ {α : Type} {question : Text} {choices : List (Choice α)}
      {result : Except Failure α} {added : List Exchange},
      Spoken (select question choices) result added → Answered result :=
    fun spoken => (tellsAnswered_select _ _).of_spoken spoken
  induction chosen with
  | unsettled first =>
      cases answered first with
      | cancelled question => exact .cancelled question
  | delete first => exact .returned _
  | undecided first second =>
      cases answered second with
      | cancelled question => exact .cancelled question
  | add first second => exact .returned _
  | remove first second => exact .returned _
  | back first second further induction => exact induction

/-- The questions of a session fail only if one of them is cancelled. -/
theorem tellsAnswered_inquire (project : Project) : TellsAnswered Prod.snd (inquire project) := by
  have greets : ∀ text, TellsAnswered Prod.snd (say (Screen.info text)) :=
    fun text => tells_onCaller (tellsAnswered_present (Screen.info_eq_ok text))
  refine (greets _).bind fun _ => TellsAnswered.bind ?_ fun task =>
    tells_onCaller (tellsAnswered_consult task project)
  exact tells_menu.mono fun _ _ chosen => answered_of_chosen chosen

end Upkeep

namespace CommandLine

open Dialogue Upkeep

variable {site : Site} {project : Project} {before between after : Workspace} {disk : Disk}
  {terminal asker final : Terminal} {call? : Option ArtifactCall} {failure : Failure}
  {transcript : List Exchange}

/-- The directories that a run on a disk may have to do with: the one of the record there, and
those that answers name. -/
inductive Concerns (site : Site) (disk : Disk) (transcript : List Exchange) : Text → Prop where
  | recorded {project : Project} (recorded : record? site disk = some project) :
      Concerns site disk transcript project.directory
  | named {directory : Text} (names : Names disk directory transcript) :
      Concerns site disk transcript directory

/-- How a failure comes to escape a run on a disk, going by the transcript of the run and the
workspace that it leaves. -/
inductive Escapes (site : Site) (disk : Disk) (transcript : List Exchange) :
    Failure → Workspace → Prop where
  | trouble {failure : Failure} {after : Workspace}
      (trouble : site.Trouble (Concerns site disk transcript) failure after) :
      Escapes site disk transcript failure after
  | overlong {line : Text} {fault : Fault} (read : .read (some (.line line)) ∈ transcript)
      (overlong : Disk.Overlong (.ofText line.strip) fault) (after : Workspace) :
      Escapes site disk transcript (.ofFault fault) after
  | undrawn {project : Project} {failure : Failure} {after : Workspace}
      (names : Names disk project.directory transcript)
      (written : record? site after.disk = some project)
      (undrawn : Screen.summaryTable (summary project) "crabSafe" = .error failure) :
      Escapes site disk transcript failure after

/-- The questions of a run fail because one of them is cancelled, or with what escapes. -/
theorem escapes_of_inquire
    (failed : inquire site (before, terminal) = (.error failure, after, final)) :
    (∃ question, failure = .cancelled question) ∨
      Escapes site before.disk final.transcript failure after := by
  generalize ended : Except.error failure = result at failed
  cases inquired failed with
  | unread loading =>
      cases ended
      exact .inr (.trouble (Site.failsOnly_load before failure after loading))
  | @session project opened after final result loading asking =>
      cases ended
      obtain ⟨added, -, answered⟩ := (tellsAnswered_inquire project).of_eq asking
      cases answered with
      | cancelled question => exact .inl ⟨question, rfl⟩
  | untested loading testing =>
      cases ended
      exact .inr (.trouble (Site.failsOnly_present Site.tolerates_trouble _ failure after testing))
  | @first there opened after final result loading testing asking =>
      cases result with
      | ok project => cases ended
      | error failure =>
          cases ended
          obtain ⟨added, grown, located⟩ := (tells_askProject after.disk).of_eq asking
          cases located with
          | cancelled question => exact .inl ⟨question, rfl⟩
          | overlong read overlong =>
              refine .inr (.overlong ?_ overlong after)
              exact grown.symm.subst (List.mem_append_right _ read)

/-- A call that was agreed on fails with what escapes; if it returns, all that can fail is to
show what was written. -/
theorem escapes_of_conduct
    (returned : inquire site (before, terminal) = (.ok call?, between, asker))
    (failed : conduct site call? (between, asker) = (.error failure, after, final)) :
    Escapes site before.disk final.transcript failure after := by
  cases call? with
  | none => cases failed
  | some call =>
      rcases conduct_eq_error failed with ⟨running, rfl⟩ | ⟨report, running, untold⟩
      · refine .trouble ?_
        rcases call_of_inquire returned with ⟨project, loaded, makes⟩ | ⟨-, project, written, names⟩
        · have made := makes call rfl
          refine ArtifactCall.failsOnly_run made.answers ?_ between failure after running
          rw [made.project_eq]
          exact .recorded (record?_eq loaded)
        · cases written
          have answers : (ArtifactCall.materialize project false).answers := trivial
          exact ArtifactCall.failsOnly_run answers (.named names) between failure after running
      · rcases call_of_inquire returned with ⟨project, loaded, makes⟩ | ⟨-, project, written, names⟩
        · obtain ⟨told, said⟩ := farewell_returns (makes call rfl) report asker
          rw [said] at untold
          cases untold
        · cases written
          rw [farewell] at untold
          cases drawn : Screen.summaryTable (summary project) "crabSafe" with
          | ok table =>
              rw [drawn] at untold
              cases untold
          | error original =>
              rw [drawn] at untold
              cases untold
              obtain ⟨paths, saved, writing, finished⟩ := Attempt.bind_eq_ok_iff.mp running
              cases finished
              obtain ⟨earlier, -, saving⟩ := Site.materialize_eq_ok writing
              exact .undrawn names (record?_eq (Store.load_of_save saving)) drawn

/-- How a run on a disk ends: with an exit status, which follows an error line if the run failed,
or with a failure that escapes. -/
inductive Ends (site : Site) (disk : Disk) :
    Except Failure ExitStatus → Workspace → Terminal → Prop where
  | done (after : Workspace) (final : Terminal) : Ends site disk (.ok .done) after final
  | interrupted (after : Workspace) (final : Terminal) :
      Ends site disk (.ok .interrupted) after final
  | failed {failure : Failure} {line : Text} {after : Workspace} {final : Terminal}
      (reported : failure.isReported = true)
      (drawn : Screen.error ("Error: " ++ (failure.message?).getD []) = .ok line)
      (told : final.transcript.getLast? = some (.shown line)) :
      Ends site disk (.ok .failed) after final
  | escaped {failure : Failure} {after : Workspace} {final : Terminal}
      (unreported : failure.isReported = false)
      (escapes : Escapes site disk final.transcript failure after) :
      Ends site disk (.error failure) after final

theorem ends_of_close (result : Except Failure Unit)
    (escapes : ∀ failure, result = .error failure → (∃ question, failure = .cancelled question) ∨
      Escapes site disk terminal.transcript failure before) :
    Ends site disk (close result (before, terminal)).1 (close result (before, terminal)).2.1
      (close result (before, terminal)).2.2 := by
  cases result with
  | ok => exact .done _ _
  | error failure =>
      by_cases reported : failure.isReported = true
      · obtain ⟨line, after, final, drawn, closed, -, told⟩ := close_reported reported before terminal
        rw [closed]
        exact .failed reported drawn (by rw [told, List.getLast?_concat])
      · rw [close, if_neg reported]
        refine .escaped (Bool.eq_false_iff.mpr reported) ?_
        refine (escapes failure rfl).resolve_left ?_
        rintro ⟨question, rfl⟩
        exact reported rfl

theorem ends_of_conclude (site : Site) (before : Workspace) (terminal : Terminal) :
    let ended := conclude site (before, terminal)
    Ends site before.disk ended.1 ended.2.1 ended.2.2 := by
  intro ended
  have followed : ended = finish site (inquire site (before, terminal)).1
      (inquire site (before, terminal)).2 := by
    change conclude site (before, terminal) = _
    rw [conclude_eq, Errand.outcome_bind_apply]
  rw [followed]
  cases asked : inquire site (before, terminal) with
  | mk result rest =>
      obtain ⟨between, asker⟩ := rest
      cases result with
      | error failure =>
          refine ends_of_close (.error failure) fun other same => ?_
          cases same
          exact escapes_of_inquire asked
      | ok call? =>
          simp only [finish, Errand.onReturn]
          rw [Errand.outcome_bind_apply]
          cases conducted : conduct site call? (between, asker) with
          | mk result rest =>
              obtain ⟨after, final⟩ := rest
              refine ends_of_close result fun failure failed => ?_
              subst failed
              exact .inr (escapes_of_conduct asked conducted)

theorem Ends.escapes {status : Except Failure ExitStatus}
    (ends : Ends site disk status after final) (unsettled : status = .error failure) :
    Escapes site disk final.transcript failure after := by
  cases ends with
  | escaped unreported escapes =>
      cases unsettled
      exact escapes
  | _ => cases unsettled

/-- A settings file whose name is too long for a disk. -/
def longName : Text :=
  List.replicate 256 (.char 'a')

/-- A disk on which a directory has a name that closes a tag. -/
def taggedDisk : Disk where
  entries location :=
    if location = [] ∨ location = [Text.ofString "["] ∨
        location = [Text.ofString "[", Text.ofString "x]"] then
      some .directory
    else none
  home := []

end CommandLine

end HelperKit
