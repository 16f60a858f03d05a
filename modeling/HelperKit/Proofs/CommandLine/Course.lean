import HelperKit.Proofs.Dialogue.Transcript
import HelperKit.Proofs.Upkeep.Handlers

/-!
# The course of a run

A run first looks at what is stored and asks all its questions, without touching the disk.  If
that ends with a call to be made, the call is carried out, and nothing is asked any more.
-/

namespace HelperKit

/-- An errand that has no effect on the disk, whether it returns or not. -/
def Errand.Quiet {σ α : Type} (errand : Errand σ α) : Prop :=
  ∀ (before : Workspace) (caller : σ), before.Reaches [] (errand (before, caller)).2.1

namespace Errand

variable {σ α β : Type}

theorem quiet_pure (value : α) : Quiet (pure value : Errand σ α) :=
  fun before _ => .refl before

theorem quiet_onCaller (act : σ → Except Failure α × σ) : Quiet (onCaller act : Errand σ α) :=
  fun before _ => .refl before

theorem quiet_onDisk {job : Job α} (acts : Attempt.Acts (fun _ _ => False) job) :
    Quiet (onDisk job : Errand σ α) :=
  fun before _ => acts.reaches_nil before

theorem Quiet.bind {first : Errand σ α} {next : α → Errand σ β} (firstQuiet : first.Quiet)
    (nextQuiet : ∀ value, (next value).Quiet) : (first >>= next).Quiet := by
  intro before caller
  have reaches := firstQuiet before caller
  rw [bind_apply]
  cases reached : first (before, caller) with
  | mk result rest =>
      obtain ⟨between, between'⟩ := rest
      rw [reached] at reaches
      cases result with
      | error failure => exact reaches
      | ok value => exact reaches.trans (nextQuiet value between between')

/-- An errand whose result says how another one ended. -/
def outcome (errand : Errand σ α) : Errand σ (Except Failure α) :=
  fun state => (.ok (errand state).1, (errand state).2)

theorem outcome_bind_apply (errand : Errand σ α) (next : Except Failure α → Errand σ β)
    (state : Workspace × σ) :
    (outcome errand >>= next) state = next (errand state).1 (errand state).2 := rfl

theorem tellsLines_outcome {errand : Errand Terminal α}
    (tells : Dialogue.TellsLines Prod.snd errand) :
    Dialogue.TellsLines Prod.snd (outcome errand) :=
  fun before => tells before

/-- What comes after an errand, if that returned. -/
def onReturn (next : α → Errand σ β) : Except Failure α → Errand σ β
  | .ok value => next value
  | .error failure => throw failure

theorem bind_eq_outcome (first : Errand σ α) (next : α → Errand σ β) :
    first >>= next = outcome first >>= onReturn next := by
  funext ⟨workspace, caller⟩
  rw [outcome_bind_apply, bind_apply]
  cases first (workspace, caller) with
  | mk result rest => cases result <;> rfl

end Errand

namespace Upkeep

variable {site : Site} {project : Project}

/-- The menu of a session. -/
def menu : Errand Terminal Task :=
  fun (workspace, terminal) => chooseTask workspace terminal

/-- Everything that a session over a stored project asks. -/
def inquire (project : Project) : Errand Terminal (Option ArtifactCall) := do
  say (Screen.info
    ("Found previous configuration settings for " ++ Text.ofString project.runtime.name ++
      " project"))
  let task ← menu
  converse (consult task project)

/-- A session asks all that it asks, and then carries out what was agreed on. -/
theorem run_eq (site : Site) (project : Project) :
    run site project = inquire project >>= carryOut site project := by
  unfold run inquire
  rw [bind_assoc]
  refine bind_congr fun _ => ?_
  rw [bind_assoc]
  refine bind_congr fun task => ?_
  cases task with
  | add => exact handle_eq site .add project
  | remove => exact handle_eq site .remove project
  | delete => exact handle_eq site .delete project

/-- Carries out a call, if there is one to be made, and says what there is to say. -/
def conduct (site : Site) : Option ArtifactCall → Errand Terminal Unit
  | none => pure ()
  | some call => do
      let report ← onDisk (call.run site)
      converse (farewell call report)

theorem discard_carryOut (site : Site) (project : Project) (call? : Option ArtifactCall) :
    discard (carryOut site project call?) = conduct site call? := by
  cases call? with
  | none => rfl
  | some call =>
      rw [carryOut, conduct, Errand.discard_eq, bind_assoc]
      refine bind_congr fun report => ?_
      rw [bind_assoc]
      simp only [pure_bind]
      exact bind_pure _

theorem tells_say {message : Except Failure Text}
    (tells : Dialogue.TellsLines id (Dialogue.present message)) :
    Dialogue.TellsLines Prod.snd (say message) :=
  tells_onCaller tells

theorem quiet_say (message : Except Failure Text) : Errand.Quiet (say message) :=
  Errand.quiet_onCaller _

/-- After a call nothing is asked. -/
theorem tells_farewell (call : ArtifactCall) (report : Report) :
    Dialogue.TellsLines id (farewell call report) := by
  cases call with
  | materialize project replace =>
      rw [farewell]
      exact Dialogue.tells_line fun shown drawn => Screen.line_of_summaryTable drawn
  | add project requested => exact Dialogue.tellsLines_pure ()
  | remove project dropped answer =>
      cases report with
      | wrote project =>
          rw [farewell]
          exact Dialogue.tells_success _
      | deleted project =>
          rw [farewell]
          exact Dialogue.tells_success _
      | kept project => exact Dialogue.tellsLines_pure ()
  | delete project =>
      rw [farewell]
      exact Dialogue.tells_success _

theorem tells_carryOut (site : Site) (project : Project) (call? : Option ArtifactCall) :
    Dialogue.TellsLines Prod.snd (carryOut site project call?) := by
  cases call? with
  | none => exact Dialogue.tellsLines_pure _
  | some call =>
      exact (Dialogue.tellsLines_onDisk _).bind fun report =>
        Dialogue.TellsLines.bind (tells_onCaller (tells_farewell call report)) fun _ =>
          Dialogue.tellsLines_pure _

theorem tells_conduct (site : Site) (call? : Option ArtifactCall) :
    Dialogue.TellsLines Prod.snd (conduct site call?) := by
  cases call? with
  | none => exact Dialogue.tellsLines_pure _
  | some call =>
      exact (Dialogue.tellsLines_onDisk _).bind fun report =>
        tells_onCaller (tells_farewell call report)

/-- What the menu adds: rounds that go back, and a last round in which a task is chosen or a
question is given up. -/
inductive Chosen : Except Failure Task → List Exchange → Prop where
  | unsettled {failure : Failure} {added : List Exchange}
      (first : Spoken Dialogue.askNextStep (.error failure) added) :
      Chosen (.error failure) added
  | delete {added : List Exchange} (first : Spoken Dialogue.askNextStep (.ok .delete) added) :
      Chosen (.ok .delete) added
  | undecided {failure : Failure} {added more : List Exchange}
      (first : Spoken Dialogue.askNextStep (.ok .modify) added)
      (second : Spoken Dialogue.askModifyAction (.error failure) more) :
      Chosen (.error failure) (added ++ more)
  | add {added more : List Exchange}
      (first : Spoken Dialogue.askNextStep (.ok .modify) added)
      (second : Spoken Dialogue.askModifyAction (.ok .add) more) :
      Chosen (.ok .add) (added ++ more)
  | remove {added more : List Exchange}
      (first : Spoken Dialogue.askNextStep (.ok .modify) added)
      (second : Spoken Dialogue.askModifyAction (.ok .remove) more) :
      Chosen (.ok .remove) (added ++ more)
  | back {added more rest : List Exchange} {result : Except Failure Task}
      (first : Spoken Dialogue.askNextStep (.ok .modify) added)
      (second : Spoken Dialogue.askModifyAction (.ok .back) more)
      (further : Chosen result rest) : Chosen result (added ++ (more ++ rest))

/-- The menu adds what it adds, and nothing but records to the log. -/
theorem chosen (before : Workspace) (terminal : Terminal) :
    (∃ records : List LogRecord,
      (menu (before, terminal)).2.1 = records.foldl Workspace.note before) ∧
      ∃ added, (menu (before, terminal)).2.2.transcript = terminal.transcript ++ added ∧
        Chosen (menu (before, terminal)).1 added := by
  have first : Tells id (Spoken Dialogue.askNextStep) Dialogue.askNextStep :=
    tells_spoken (Dialogue.tells_select _ _)
  have second : Tells id (Spoken Dialogue.askModifyAction) Dialogue.askModifyAction :=
    tells_spoken (Dialogue.tells_select _ _)
  unfold menu
  simp only
  -- Each question may fail; after the second one a task is known, or the loop begins again.
  fun_induction chooseTask before terminal with
  | case1 before terminal failure final asked =>
      obtain ⟨added, grown, spoken⟩ := first.of_eq asked
      exact ⟨⟨[], rfl⟩, added, grown, .unsettled spoken⟩
  | case2 before terminal final asked =>
      obtain ⟨added, grown, spoken⟩ := first.of_eq asked
      exact ⟨⟨[], rfl⟩, added, grown, .delete spoken⟩
  | case3 before terminal between asked failure final askedMore =>
      obtain ⟨added, grown, spoken⟩ := first.of_eq asked
      obtain ⟨more, further, spokenMore⟩ := second.of_eq askedMore
      refine ⟨⟨[], rfl⟩, added ++ more, ?_, .undecided spoken spokenMore⟩
      exact further.trans ((congrArg (· ++ more) grown).trans (List.append_assoc _ _ _))
  | case4 before terminal between asked final _ askedMore noted =>
      obtain ⟨added, grown, spoken⟩ := first.of_eq asked
      obtain ⟨more, further, spokenMore⟩ := second.of_eq askedMore
      refine ⟨⟨[_], rfl⟩, added ++ more, ?_, .add spoken spokenMore⟩
      exact further.trans ((congrArg (· ++ more) grown).trans (List.append_assoc _ _ _))
  | case5 before terminal between asked final _ askedMore noted =>
      obtain ⟨added, grown, spoken⟩ := first.of_eq asked
      obtain ⟨more, further, spokenMore⟩ := second.of_eq askedMore
      refine ⟨⟨[_], rfl⟩, added ++ more, ?_, .remove spoken spokenMore⟩
      exact further.trans ((congrArg (· ++ more) grown).trans (List.append_assoc _ _ _))
  | case6 before terminal between asked final _ askedMore noted again =>
      obtain ⟨added, grown, spoken⟩ := first.of_eq asked
      obtain ⟨more, further, spokenMore⟩ := second.of_eq askedMore
      obtain ⟨⟨records, recorded⟩, rest, last, chosen⟩ := again
      refine ⟨⟨_ :: records, recorded⟩, added ++ (more ++ rest), ?_,
        .back spoken spokenMore chosen⟩
      rw [last, ← List.append_assoc, ← List.append_assoc]
      exact congrArg (· ++ rest) (further.trans (congrArg (· ++ more) grown))

theorem reaches_notes (before : Workspace) (records : List LogRecord) :
    before.Reaches [] (records.foldl Workspace.note before) := by
  induction records generalizing before with
  | nil => exact .refl before
  | cons record records induction =>
      exact (before.reaches_note record).trans (induction (before.note record))

theorem quiet_menu : Errand.Quiet menu := by
  intro before terminal
  obtain ⟨⟨records, recorded⟩, -⟩ := chosen before terminal
  rw [recorded]
  exact reaches_notes before records

theorem tells_menu : Tells Prod.snd Chosen menu :=
  fun before => (chosen before.1 before.2).2

theorem quiet_inquire (project : Project) : Errand.Quiet (inquire project) :=
  (quiet_say _).bind fun _ => quiet_menu.bind fun _ => Errand.quiet_onCaller _

end Upkeep

namespace CommandLine

open Upkeep

/-- Everything that a run looks at and asks before anything is changed. -/
def inquire (site : Site) : Errand Terminal (Option ArtifactCall) := do
  match ← onDisk site.store.load with
  | some project => Upkeep.inquire project
  | none => do
      let present ← onDisk site.store.present
      converse (Dialogue.display (Screen.line (announcement site.config present)))
      let disk ← onDisk Attempt.disk
      let project ← converse (Dialogue.askProject disk)
      pure (some (.materialize project false))

/-- What comes of the questions of a run: those of a session, if a project is stored, and those
of a first run otherwise, unless the disk does not say what is stored. -/
inductive Inquired (site : Site) (before : Workspace) (terminal : Terminal) :
    Except Failure (Option ArtifactCall) → Workspace → Terminal → Prop where
  | unread {failure : Failure} {after : Workspace}
      (loading : site.store.load before = (.error failure, after)) :
      Inquired site before terminal (.error failure) after terminal
  | session {project : Project} {opened after : Workspace} {final : Terminal}
      {result : Except Failure (Option ArtifactCall)}
      (loading : site.store.load before = (.ok (some project), opened))
      (asking : Upkeep.inquire project (opened, terminal) = (result, after, final)) :
      Inquired site before terminal result after final
  | untested {failure : Failure} {opened after : Workspace}
      (loading : site.store.load before = (.ok none, opened))
      (testing : site.store.present opened = (.error failure, after)) :
      Inquired site before terminal (.error failure) after terminal
  | first {there : Bool} {opened after : Workspace} {final : Terminal}
      {result : Except Failure Project} (loading : site.store.load before = (.ok none, opened))
      (testing : site.store.present opened = (.ok there, after))
      (asking : Dialogue.askProject after.disk
        (terminal.display (Screen.line (announcement site.config there))) = (result, final)) :
      Inquired site before terminal (result.map fun project => some (.materialize project false))
        after final

/-- The questions of a first run, after a text is shown. -/
theorem askFirst_apply (text : Text) (before : Workspace) (terminal : Terminal) :
    (do
      converse (Dialogue.display text)
      let disk ← onDisk Attempt.disk
      let project ← converse (Dialogue.askProject disk)
      pure (some (.materialize project false)) : Errand Terminal (Option ArtifactCall))
        (before, terminal) =
      ((Dialogue.askProject before.disk (terminal.display text)).1.map fun project =>
        some (.materialize project false), before,
        (Dialogue.askProject before.disk (terminal.display text)).2) := by
  have displayed : converse (Dialogue.display text) (before, terminal) =
      (.ok (), before, terminal.display text) := rfl
  have known : onDisk Attempt.disk (before, terminal.display text) =
      (.ok before.disk, before, terminal.display text) := rfl
  rw [Errand.bind_apply, displayed]
  simp only
  rw [Errand.bind_apply, known]
  simp only
  rw [Errand.bind_apply, converse_apply]
  cases Dialogue.askProject before.disk (terminal.display text) with
  | mk answered asked => cases answered <;> rfl

theorem inquired {site : Site} {before after : Workspace} {terminal final : Terminal}
    {result : Except Failure (Option ArtifactCall)}
    (returned : inquire site (before, terminal) = (result, after, final)) :
    Inquired site before terminal result after final := by
  rw [inquire, onDisk, Errand.bind_apply, Errand.onDisk_apply] at returned
  cases loading : site.store.load before with
  | mk found opened =>
      rw [loading] at returned
      cases found with
      | error failure =>
          cases returned
          exact .unread loading
      | ok found =>
          cases found with
          | some project => exact .session loading returned
          | none =>
              simp only at returned
              rw [Errand.bind_apply, onDisk, Errand.onDisk_apply] at returned
              cases testing : site.store.present opened with
              | mk there tested =>
                  rw [testing] at returned
                  cases there with
                  | error failure =>
                      cases returned
                      exact .untested loading testing
                  | ok there =>
                      have first := askFirst_apply
                        (Screen.line (announcement site.config there)) tested terminal
                      obtain ⟨rfl, same⟩ := Prod.mk.inj (first.symm.trans returned)
                      obtain ⟨rfl, rfl⟩ := Prod.mk.inj same
                      exact .first loading testing rfl

/-- A run asks all that it asks, and then carries out what was agreed on. -/
theorem run_eq (site : Site) : run site = inquire site >>= conduct site := by
  unfold run inquire
  rw [bind_assoc]
  refine bind_congr fun found => ?_
  cases found with
  | some project =>
      simp only
      rw [Upkeep.run_eq, Errand.discard_eq, bind_assoc]
      refine bind_congr fun call? => ?_
      rw [← Errand.discard_eq, discard_carryOut]
  | none =>
      simp only
      unfold firstRun
      rw [bind_assoc]
      refine bind_congr fun present => ?_
      rw [bind_assoc]
      refine bind_congr fun _ => ?_
      rw [bind_assoc]
      refine bind_congr fun disk => ?_
      rw [bind_assoc]
      refine bind_congr fun project => ?_
      rw [pure_bind, conduct, Errand.discard_eq, bind_assoc]
      have ran : ArtifactCall.run site (.materialize project false) =
          site.materialize project false >>= fun _ => pure (.wrote project) := rfl
      rw [ran, onDisk_bind, bind_assoc]
      refine bind_congr fun _ => ?_
      rw [pure_bind, onDisk_pure, pure_bind, farewell]

/-- Says how a run ended. -/
def close : Except Failure Unit → Errand Terminal ExitStatus
  | .ok () => do
      converse (Dialogue.display (Screen.line "Done!"))
      pure .done
  | .error failure =>
      if failure.isReported then do
        onDisk (Attempt.note .debug "Aborting")
        say (Screen.error ("Error: " ++ (failure.message?).getD []))
        pure .failed
      else throw failure

/-- What comes after everything was asked: the call is carried out, if there is one, and it is
said how the run ended. -/
def finish (site : Site) (asked : Except Failure (Option ArtifactCall)) : Errand Terminal ExitStatus :=
  Errand.outcome (Errand.onReturn (conduct site) asked) >>= close

theorem close_reported {failure : Failure} (reported : failure.isReported = true)
    (before : Workspace) (terminal : Terminal) : ∃ line after final,
      Screen.error ("Error: " ++ (failure.message?).getD []) = .ok line ∧
      close (.error failure) (before, terminal) = (.ok .failed, after, final) ∧
      before.Reaches [] after ∧ final.transcript = terminal.transcript ++ [.shown line] := by
  rw [close, if_pos reported]
  generalize Text.ofString "Error: " ++ (failure.message?).getD [] = text
  obtain ⟨line, drawn⟩ := Screen.error_eq_ok text
  rw [drawn]
  exact ⟨line, _, _, rfl, rfl, before.reaches_note _, rfl⟩

theorem quiet_close (result : Except Failure Unit) : Errand.Quiet (close result) := by
  cases result with
  | ok => exact Errand.Quiet.bind (Errand.quiet_onCaller _) fun _ => Errand.quiet_pure _
  | error failure =>
      rw [close]
      split
      · exact Errand.Quiet.bind (Errand.quiet_onDisk (Attempt.acts_note _ _)) fun _ =>
          (quiet_say _).bind fun _ => Errand.quiet_pure _
      · exact fun before _ => .refl before

theorem tells_close (result : Except Failure Unit) : Dialogue.TellsLines Prod.snd (close result) := by
  cases result with
  | ok =>
      exact Dialogue.TellsLines.bind (tells_onCaller (Dialogue.tells_displayLine "Done!")) fun _ =>
        Dialogue.tellsLines_pure _
  | error failure =>
      rw [close]
      split
      · exact Dialogue.TellsLines.bind (Dialogue.tellsLines_onDisk _) fun _ =>
          (tells_say (Dialogue.tells_error _)).bind fun _ => Dialogue.tellsLines_pure _
      · exact Dialogue.tellsLines_throw _

theorem tells_finish (site : Site) (asked : Except Failure (Option ArtifactCall)) :
    Dialogue.TellsLines Prod.snd (finish site asked) := by
  have conducts : Dialogue.TellsLines Prod.snd (Errand.onReturn (conduct site) asked) := by
    cases asked with
    | ok call? => exact tells_conduct site call?
    | error failure => exact Dialogue.tellsLines_throw failure
  exact (Errand.tellsLines_outcome conducts).bind tells_close

theorem finish_error (site : Site) (failure : Failure) (state : Workspace × Terminal) :
    finish site (.error failure) state = close (.error failure) state := rfl

theorem conclude_eq_outcome (site : Site) :
    conclude site = Errand.outcome (run site) >>= close := by
  unfold conclude
  refine bind_congr fun result => ?_
  cases result <;> rfl

theorem conclude_eq (site : Site) :
    conclude site = Errand.outcome (inquire site) >>= finish site := by
  rw [conclude_eq_outcome, run_eq, Errand.bind_eq_outcome (inquire site)]
  rfl

theorem conduct_eq_ok {site : Site} {call : ArtifactCall} {before after : Workspace} {terminal final : Terminal}
    (returned : conduct site (some call) (before, terminal) = (.ok (), after, final)) :
    ∃ report, call.run site before = (.ok report, after) := by
  rw [conduct, Upkeep.onDisk, Errand.bind_apply, Errand.onDisk_apply] at returned
  cases running : call.run site before with
  | mk outcome changed =>
      rw [running] at returned
      cases outcome with
      | error failure => cases returned
      | ok report =>
          have same : changed = after := congrArg (fun reached => reached.2.1) returned
          exact ⟨report, by rw [same]⟩

theorem conduct_eq_error {site : Site} {call : ArtifactCall} {before after : Workspace}
    {terminal final : Terminal} {failure : Failure}
    (failed : conduct site (some call) (before, terminal) = (.error failure, after, final)) :
    (call.run site before = (.error failure, after) ∧ final = terminal) ∨
      ∃ report, call.run site before = (.ok report, after) ∧
        farewell call report terminal = (.error failure, final) := by
  rw [conduct, Upkeep.onDisk, Errand.bind_apply, Errand.onDisk_apply] at failed
  cases running : call.run site before with
  | mk outcome changed =>
      rw [running] at failed
      cases outcome with
      | error failure =>
          cases failed
          exact .inl ⟨rfl, rfl⟩
      | ok report =>
          simp only [converse_apply] at failed
          obtain ⟨told, same⟩ := Prod.mk.inj failed
          obtain ⟨rfl, shown⟩ := Prod.mk.inj same
          exact .inr ⟨report, rfl, Prod.ext told shown⟩

/-- A run that is done has carried out what it had asked. -/
theorem done_of_conclude {site : Site} {before : Workspace} {terminal : Terminal}
    (done : (conclude site (before, terminal)).1 = .ok .done) :
    ∃ call? between asker after final,
      inquire site (before, terminal) = (.ok call?, between, asker) ∧
      conduct site call? (between, asker) = (.ok (), after, final) ∧
      (conclude site (before, terminal)).2.1 = after := by
  have undone : ∀ failure state, (close (.error failure) state).1 ≠ .ok .done := by
    intro failure state
    by_cases reported : failure.isReported = true
    · obtain ⟨line, after, final, -, closed, -⟩ := close_reported reported state.1 state.2
      rw [closed]
      exact fun impossible => by cases impossible
    · rw [close, if_neg reported]
      exact fun impossible => by cases impossible
  rw [conclude_eq, Errand.outcome_bind_apply] at done ⊢
  cases inquired : inquire site (before, terminal) with
  | mk result rest =>
      obtain ⟨between, asker⟩ := rest
      rw [inquired] at done
      cases result with
      | error failure => exact absurd done (undone failure _)
      | ok call? =>
          simp only [finish, Errand.onReturn] at done ⊢
          rw [Errand.outcome_bind_apply] at done ⊢
          cases conducted : conduct site call? (between, asker) with
          | mk result rest =>
              obtain ⟨after, final⟩ := rest
              rw [conducted] at done
              cases result with
              | error failure => exact absurd done (undone failure _)
              | ok => exact ⟨call?, between, asker, after, final, rfl, conducted, rfl⟩

/-- Nothing is changed as long as there is something to ask. -/
theorem quiet_inquire (site : Site) : Errand.Quiet (inquire site) := by
  refine (Errand.quiet_onDisk Store.acts_load).bind fun found => ?_
  cases found with
  | some project => exact Upkeep.quiet_inquire project
  | none =>
      exact (Errand.quiet_onDisk Store.acts_present).bind fun _ =>
        (Errand.quiet_onCaller _).bind fun _ =>
          (Errand.quiet_onDisk Attempt.acts_disk).bind fun _ =>
            (Errand.quiet_onCaller _).bind fun _ => Errand.quiet_pure _

/-! ## Invocations -/

/-- How the program ended that an errand at a terminal is. -/
def Outcome.ofErrand (errand : Errand Terminal ExitStatus) (before : Workspace)
    (terminal : Terminal) : Outcome where
  status := (errand (before, terminal)).1
  errors := []
  workspace := (errand (before, terminal)).2.1
  terminal := (errand (before, terminal)).2.2

/-- An interrupted run. -/
def halt : Errand Terminal ExitStatus := do
  say (Screen.error "Interrupted.")
  pure .interrupted

theorem tells_halt : Dialogue.TellsLines Prod.snd halt :=
  (tells_say (Dialogue.tells_error _)).bind fun _ => Dialogue.tellsLines_pure _

theorem quiet_halt : Errand.Quiet halt :=
  (quiet_say _).bind fun _ => Errand.quiet_pure _

theorem halt_eq (before : Workspace) (terminal : Terminal) :
    (halt (before, terminal)).1 = .ok .interrupted := by
  unfold halt
  obtain ⟨line, drawn⟩ := Screen.error_eq_ok "Interrupted."
  rw [drawn]
  rfl

/-- What an invocation does with its settings file. -/
def Invocation.session (invocation : Invocation) (settingsFile : Option Text) :
    Errand Terminal ExitStatus :=
  match invocation.site settingsFile with
  | .error complaints => throw (.rejected complaints)
  | .ok site => if invocation.interrupted then halt else conclude site

theorem Invocation.outcome_eq {invocation : Invocation} {settingsFile : Option Text} {verbose : Bool}
    (given : ofArguments invocation.arguments = .ok (.run settingsFile verbose)) (disk : Disk)
    (answers : List Answer) : invocation.outcome disk answers =
      .ofErrand (invocation.session settingsFile) (.on disk (logging verbose).level) { answers } := by
  unfold outcome
  rw [given]
  rfl

theorem Invocation.outcome_eq_conclude {invocation : Invocation} {settingsFile : Option Text}
    {verbose : Bool} {site : Site}
    (given : ofArguments invocation.arguments = .ok (.run settingsFile verbose))
    (examined : invocation.site settingsFile = .ok site)
    (undisturbed : invocation.interrupted = false) (disk : Disk) (answers : List Answer) :
    invocation.outcome disk answers =
      .ofErrand (conclude site) (.on disk (logging verbose).level) { answers } := by
  rw [outcome_eq given, session, examined]
  simp only [undisturbed, Bool.false_eq_true, if_false]

/-- An invocation is a run on a site, or it reads no answer and leaves the disk alone. -/
theorem Invocation.outcome_cases (invocation : Invocation) (disk : Disk) (answers : List Answer) :
    (∃ site level, invocation.outcome disk answers =
      .ofErrand (conclude site) (.on disk level) { answers }) ∨
    ((invocation.outcome disk answers).workspace.disk = disk ∧
      (invocation.outcome disk answers).workspace.journal = [] ∧
      ∀ answer, .read answer ∉ (invocation.outcome disk answers).terminal.transcript) := by
  -- Every invocation but a run that gets to its work only shows lines.
  have still : ∀ {errand level}, Errand.Quiet errand → Dialogue.TellsLines Prod.snd errand →
      invocation.outcome disk answers = .ofErrand errand (.on disk level) { answers } →
      (invocation.outcome disk answers).workspace.disk = disk ∧
        (invocation.outcome disk answers).workspace.journal = [] ∧
        ∀ answer, .read answer ∉ (invocation.outcome disk answers).terminal.transcript := by
    intro errand level quiet tells same
    obtain ⟨added, grown, lines⟩ := tells (.on disk level, { answers })
    have reaches := quiet (.on disk level) { answers }
    rw [same]
    refine ⟨reaches.disk, reaches.journal, fun answer member => lines.read_notMem answer ?_⟩
    exact grown.subst member
  cases given : ofArguments invocation.arguments with
  | error refusal =>
      unfold outcome
      rw [given]
      exact .inr ⟨rfl, rfl, fun answer => List.not_mem_nil⟩
  | ok command =>
      cases command with
      | help =>
          unfold outcome
          rw [given]
          exact .inr ⟨rfl, rfl, fun answer => by simp [Terminal.display]⟩
      | run settingsFile verbose =>
          have ran := outcome_eq given disk answers
          unfold session at ran
          cases examined : invocation.site settingsFile with
          | error complaints =>
              rw [examined] at ran
              exact .inr (still (fun before _ => .refl before) (Dialogue.tellsLines_throw _) ran)
          | ok site =>
              rw [examined] at ran
              simp only at ran
              split at ran
              · exact .inr (still quiet_halt tells_halt ran)
              · exact .inl ⟨site, _, ran⟩

end CommandLine

end HelperKit
