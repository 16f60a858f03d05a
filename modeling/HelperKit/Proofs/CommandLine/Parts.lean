import HelperKit.Proofs.CommandLine.Course

/-!
# The parts of a run

A run is composed of questions, of texts that are shown and of operations on the disk, one behind
the other.  What is to be shown of all of a run is shown of each of these, and of two errands of
which the second goes on from the value of the first.
-/

namespace HelperKit

namespace Upkeep

theorem converse_eq_ok {α : Type} {dialogue : Dialogue α} {value : α}
    {before after : Workspace × Terminal}
    (returned : converse dialogue before = (.ok value, after)) :
    dialogue before.2 = (.ok value, after.2) ∧ before.1 = after.1 := by
  have result : (converse dialogue before).1 = .ok value := congrArg Prod.fst returned
  have final : (converse dialogue before).2.2 = after.2 := congrArg (fun ran => ran.2.2) returned
  exact ⟨Prod.ext result final, congrArg (fun ran => ran.2.1) returned⟩

/-- What follows an answer to the second question of the menu. -/
def pursue : Dialogue.ModifyAction → Errand Terminal Task
  | .add => pure .add
  | .remove => pure .remove
  | .back => menu

/-- The record of an answer to the second question of the menu. -/
def actionRecord (action : Dialogue.ModifyAction) : LogRecord :=
  ⟨.debug, "Modify action chosen: " ++ Text.ofString action.name⟩

/-- What follows an answer to the first question of the menu. -/
def proceed : Dialogue.NextStep → Errand Terminal Task
  | .delete => pure .delete
  | .modify => do
      let action ← converse Dialogue.askModifyAction
      onDisk (Attempt.note (actionRecord action).level (actionRecord action).message)
      pursue action

theorem proceed_modify_of_error {failure : Failure} {between final : Terminal}
    (asked : Dialogue.askModifyAction between = (.error failure, final)) (before : Workspace) :
    proceed .modify (before, between) = (.error failure, before, final) := by
  rw [proceed, Errand.bind_apply, converse_apply, asked]

theorem proceed_modify_of_ok {action : Dialogue.ModifyAction} {between final : Terminal}
    (asked : Dialogue.askModifyAction between = (.ok action, final)) (before : Workspace) :
    proceed .modify (before, between) =
      pursue action (before.note (actionRecord action), final) := by
  rw [proceed, Errand.bind_apply, converse_apply, asked]
  rfl

/-- The menu asks its first question, and the second one if something is to be modified.  Going
back leads to the menu again. -/
theorem menu_eq : menu = converse Dialogue.askNextStep >>= proceed := by
  funext ⟨workspace, terminal⟩
  rw [Errand.bind_apply, converse_apply]
  change chooseTask workspace terminal = _
  unfold chooseTask
  split
  · rename_i asked
    rw [asked]
  · rename_i asked
    rw [asked]
    rfl
  · rename_i between asked
    rw [asked]
    split
    · rename_i askedMore
      exact (proceed_modify_of_error askedMore workspace).symm
    · rename_i action final askedMore
      refine Eq.trans ?_ (proceed_modify_of_ok askedMore workspace).symm
      cases action with
      | add => rfl
      | remove => rfl
      | back => rfl

end Upkeep

namespace CommandLine

open Upkeep

/-- What a run is composed of.  Directories are asked for on disks of one kind. -/
inductive Composed (site : Site) (known : Disk → Prop) :
    {α : Type} → Errand Terminal α → Prop where
  | pure {α : Type} (value : α) : Composed site known (pure value : Errand Terminal α)
  | throw {α : Type} (failure : Failure) :
      Composed site known (throw failure : Errand Terminal α)
  | bind {α β : Type} {first : Errand Terminal α} {next : α → Errand Terminal β}
      (firstComposed : Composed site known first)
      (nextComposed : ∀ value, Composed site known (next value)) :
      Composed site known (first >>= next)
  | say (message : Except Failure Text) : Composed site known (say message)
  | select {α : Type} (question : Text) (choices : List (Dialogue.Choice α)) :
      Composed site known (converse (Dialogue.select question choices))
  | multiSelect {α : Type} (question : Text) (choices : List (Dialogue.Choice α)) (minimum : Nat) :
      Composed site known (converse (Dialogue.multiSelect question choices minimum))
  | confirm (message : Text) (standard : Bool) :
      Composed site known (converse (Dialogue.confirm message standard))
  | directory {disk : Disk} (found : known disk) :
      Composed site known (converse (Dialogue.askDirectory disk))
  | menu : Composed site known menu
  | load : Composed site known (onDisk site.store.load)
  | present : Composed site known (onDisk site.store.present)
  | disk : Composed site known (onDisk Attempt.disk)
  | note (level : Level) (message : Text) :
      Composed site known (onDisk (Attempt.note level message))
  | call (call : ArtifactCall) : Composed site known (onDisk (call.run site))

variable {site : Site} {known : Disk → Prop} {α β : Type}

/-- Asking on disks of a wider kind is no less composed. -/
theorem Composed.mono {wider : Disk → Prop} {errand : Errand Terminal α}
    (composed : Composed site known errand) (weaken : ∀ disk, known disk → wider disk) :
    Composed site wider errand := by
  induction composed with
  | pure value => exact .pure value
  | throw failure => exact .throw failure
  | bind _ _ first next => exact .bind first next
  | say message => exact .say message
  | select question choices => exact .select question choices
  | multiSelect question choices minimum => exact .multiSelect question choices minimum
  | confirm message standard => exact .confirm message standard
  | directory found => exact .directory (weaken _ found)
  | menu => exact .menu
  | load => exact .load
  | present => exact .present
  | disk => exact .disk
  | note level message => exact .note level message
  | call call => exact .call call

theorem Composed.converse_bind {first : Dialogue α} {next : α → Dialogue β}
    (firstComposed : Composed site known (converse first))
    (nextComposed : ∀ value, Composed site known (converse (next value))) :
    Composed site known (converse (first >>= next)) := by
  rw [Upkeep.converse_bind]
  exact .bind firstComposed nextComposed

theorem Composed.display (text : Text) : Composed site known (converse (Dialogue.display text)) :=
  .say (.ok text)

theorem composed_askSelection : Composed site known (converse Dialogue.askSelection) := by
  refine .converse_bind (.select _ _) fun fromPreset => ?_
  split
  · exact .converse_bind (.select _ _) fun _ => .pure _
  · refine .converse_bind (.multiSelect _ _ _) fun features => ?_
    split
    · exact .pure _
    · exact .throw _

theorem composed_askProject {disk : Disk} (found : known disk) :
    Composed site known (converse (Dialogue.askProject disk)) := by
  refine .converse_bind (.select _ _) fun runtime => ?_
  refine .converse_bind (.directory found) fun directory => ?_
  refine .converse_bind composed_askSelection fun selection => ?_
  refine .converse_bind (.select _ _) fun layout => ?_
  simp only
  split
  · exact .pure _
  · exact .throw _

theorem composed_consult (task : Task) (project : Project) :
    Composed site known (converse (consult task project)) :=
  @consult_closed (fun dialogue => Composed site known (converse dialogue)) .pure .converse_bind
    (fun _ => .say _) (fun _ => .say _) (fun _ _ => .multiSelect _ _ _) (.confirm _ _)
    (.confirm _ _) (.confirm _ _) task project

theorem composed_pursue (action : Dialogue.ModifyAction) : Composed site known (pursue action) := by
  cases action with
  | add => exact .pure _
  | remove => exact .pure _
  | back => exact .menu

theorem composed_proceed (step : Dialogue.NextStep) : Composed site known (proceed step) := by
  cases step with
  | delete => exact .pure _
  | modify =>
      exact .bind (.select _ _) fun action => .bind (.note _ _) fun _ => composed_pursue action

/-- What holds of an errand in a state it begins in holds of the menu in every state if it holds of
the questions and the records, and of two errands of which the second goes on where the first
has returned.  With every round that goes back the answers become fewer. -/
theorem menu_closed (site : Site) (known : Disk → Prop)
    (holds : {α : Type} → Errand Terminal α → Workspace × Terminal → Prop)
    (pures : ∀ {α : Type} (value : α) state, holds (pure value : Errand Terminal α) state)
    (binds : ∀ {α β : Type} {first : Errand Terminal α} {next : α → Errand Terminal β} {state},
      (∀ value, Composed site known (next value)) → holds first state →
      (∀ value after, first state = (.ok value, after) → holds (next value) after) →
      holds (first >>= next) state)
    (selects : ∀ {α : Type} question (choices : List (Dialogue.Choice α)) state,
      holds (converse (Dialogue.select question choices)) state)
    (notes : ∀ level message state, holds (onDisk (Attempt.note level message)) state)
    (state : Workspace × Terminal) : holds Upkeep.menu state := by
  induction fewer : state.2.answers.length using Nat.strong_induction_on generalizing state with
  | _ length induction =>
      subst fewer
      rw [menu_eq]
      refine binds composed_proceed (selects _ _ state) fun step between first => ?_
      have firstLess : between.2.answers.length < state.2.answers.length :=
        Dialogue.select_ok_length (converse_eq_ok first).1
      cases step with
      | delete => exact pures _ _
      | modify =>
          refine binds (fun action => .bind (.note _ _) fun _ => composed_pursue action)
            (selects _ _ between) fun action chosen second => ?_
          have secondLess : chosen.2.answers.length < between.2.answers.length :=
            Dialogue.select_ok_length (converse_eq_ok second).1
          refine binds (fun _ => composed_pursue action) (notes _ _ chosen) fun _ noted note => ?_
          cases action with
          | add => exact pures _ _
          | remove => exact pures _ _
          | back =>
              have unread : noted.2 = chosen.2 := congrArg (fun ran => ran.2.2) note.symm
              exact induction _ (by rw [unread]; omega) noted rfl

/-- Everything that a session asks. -/
theorem composed_inquireSession (project : Project) :
    Composed site known (Upkeep.inquire project) :=
  .bind (.say _) fun _ => .bind .menu fun task => composed_consult task project

/-- What a first run asks on a disk. -/
def inquireOn (disk : Disk) : Errand Terminal (Option ArtifactCall) :=
  converse (Dialogue.askProject disk) >>= fun project => pure (some (.materialize project false))

theorem composed_inquireOn {disk : Disk} (found : known disk) :
    Composed site known (inquireOn disk) :=
  .bind (composed_askProject found) fun _ => .pure _

/-- What a run asks, once it is known whether a project is stored. -/
def inquireFound (site : Site) : Option Project → Errand Terminal (Option ArtifactCall)
  | some project => Upkeep.inquire project
  | none => do
      let present ← onDisk site.store.present
      converse (Dialogue.display (Screen.line (announcement site.config present)))
      let disk ← onDisk Attempt.disk
      inquireOn disk

theorem inquire_eq (site : Site) :
    CommandLine.inquire site = onDisk site.store.load >>= inquireFound site := by
  unfold CommandLine.inquire
  refine bind_congr fun found => ?_
  cases found <;> rfl

theorem composed_inquireFound (all : ∀ disk, known disk) (found : Option Project) :
    Composed site known (inquireFound site found) := by
  cases found with
  | some project => exact composed_inquireSession project
  | none =>
      exact .bind .present fun present => .bind (.display _) fun _ => .bind .disk fun disk =>
        composed_inquireOn (all disk)

/-- Everything that a run asks. -/
theorem composed_inquire (all : ∀ disk, known disk) :
    Composed site known (CommandLine.inquire site) := by
  rw [inquire_eq]
  exact .bind .load (composed_inquireFound all)

theorem composed_farewell (call : ArtifactCall) (report : Report) :
    Composed site known (converse (farewell call report)) := by
  cases call with
  | materialize project replace =>
      rw [farewell]
      exact .say _
  | add project requested =>
      rw [farewell, converse_pure]
      exact .pure ()
  | delete project =>
      rw [farewell]
      exact .say _
  | remove project dropped answer =>
      cases report with
      | wrote project =>
          rw [farewell]
          exact .say _
      | deleted project =>
          rw [farewell]
          exact .say _
      | kept project =>
          rw [farewell, converse_pure]
          exact .pure ()

/-- What a run carries out. -/
theorem composed_conduct (call? : Option ArtifactCall) :
    Composed site known (conduct site call?) := by
  cases call? with
  | none => exact .pure ()
  | some call => exact .bind (.call call) fun report => composed_farewell call report

theorem composed_runSession (project : Project) :
    Composed site known (Upkeep.run site project) := by
  rw [Upkeep.run_eq]
  refine .bind (composed_inquireSession project) fun call? => ?_
  cases call? with
  | none => exact .pure _
  | some call =>
      exact .bind (.call call) fun report => .bind (composed_farewell call report) fun _ => .pure _

theorem composed_run (all : ∀ disk, known disk) : Composed site known (run site) := by
  rw [run_eq]
  exact .bind (composed_inquire all) composed_conduct

theorem conclude_apply (site : Site) (before : Workspace × Terminal) :
    conclude site before = CommandLine.close (run site before).1 (run site before).2 := by
  rw [conclude_eq_outcome, Errand.outcome_bind_apply]

/-- How a run is closed. -/
theorem composed_close (result : Except Failure Unit) :
    Composed site known (CommandLine.close result) := by
  cases result with
  | ok => exact .bind (.display _) fun _ => .pure _
  | error failure =>
      rw [CommandLine.close]
      split
      · exact .bind (.note _ _) fun _ => .bind (.say _) fun _ => .pure _
      · exact .throw _

theorem composed_halt : Composed site known halt :=
  .bind (.say _) fun _ => .pure _

end CommandLine

end HelperKit
