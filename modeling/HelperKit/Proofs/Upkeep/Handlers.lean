import HelperKit.CommandLine
import HelperKit.Proofs.Artifact.Trouble
import HelperKit.Proofs.Console.Messages

/-!
# What handlers do

A handler first asks everything that it asks, without touching the disk.  If that ends with
a call to be made, the call is carried out, and nothing is asked any more.
-/

namespace HelperKit

namespace Errand

variable {σ α β : Type}

theorem onCaller_bind (first : StateM σ (Except Failure α))
    (next : α → ExceptT Failure (StateM σ) β) :
    (onCaller (ExceptT.mk first >>= next) : Errand σ β) =
      onCaller first >>= fun value => onCaller (next value) := by
  funext ⟨workspace, caller⟩
  rw [bind_apply, onCaller_apply, onCaller_apply]
  have unfolded : (ExceptT.mk first >>= next) caller =
      (fun reached : Except Failure α × σ => ExceptT.bindCont next reached.1 reached.2)
        (first caller) := rfl
  rw [unfolded]
  cases first caller with
  | mk result between => cases result <;> rfl

theorem onCaller_pure (value : α) :
    (onCaller (pure value : ExceptT Failure (StateM σ) α) : Errand σ α) = pure value := rfl

theorem onDisk_bind (first : Job α) (next : α → Job β) :
    (onDisk (first >>= next) : Errand σ β) =
      onDisk first >>= fun value => onDisk (next value) := by
  funext ⟨workspace, caller⟩
  rw [bind_apply, onDisk_apply, onDisk_apply, Attempt.bind_apply]
  cases first workspace with
  | mk result between => cases result <;> rfl

theorem discard_eq (errand : Errand σ α) :
    discard errand = errand >>= fun _ => (pure ⟨⟩ : Errand σ PUnit) := rfl

end Errand

namespace Site

/-- The question that a removal of features asks its caller, if it asks one; otherwise it is
answered with yes. -/
def removalQuestion {σ : Type} (project : Project) (dropped : List Feature)
    (confirm : ExceptT Failure (StateM σ) Bool) : ExceptT Failure (StateM σ) Bool :=
  if (project.remainder dropped).length ≠ project.features.length ∧
      project.remainder dropped = [] then confirm
  else pure true

/-- A removal asks its question first, and then does what the answer says. -/
theorem removeFeatures_eq {σ : Type} (site : Site) (project : Project) (dropped : List Feature)
    (confirm : ExceptT Failure (StateM σ) Bool) :
    site.removeFeatures project dropped confirm =
      Errand.onCaller (removalQuestion project dropped confirm) >>= fun answer =>
        Errand.onDisk (site.answeredRemoval project dropped (.ok answer)) := by
  unfold removeFeatures removalQuestion answeredRemoval
  simp only
  by_cases same : (project.remainder dropped).length = project.features.length
  · rw [if_pos same, if_neg (fun both => both.1 same), Errand.onCaller_pure, pure_bind,
      if_pos same, Errand.onDisk_bind]
    rfl
  · rw [if_neg same]
    by_cases nothing : project.remainder dropped = []
    · rw [dif_pos nothing, if_pos ⟨same, nothing⟩]
      refine bind_congr fun agreed => ?_
      rw [if_neg same, dif_pos nothing]
      cases agreed with
      | true =>
          rw [if_pos rfl, Errand.discard_eq, bind_assoc, Errand.onDisk_bind]
          rfl
      | false =>
          rw [if_neg (by decide), Errand.onDisk_bind]
          rfl
    · rw [dif_neg nothing, if_neg (fun both => nothing both.2), Errand.onCaller_pure, pure_bind,
        if_neg same, dif_neg nothing, Errand.onDisk_bind]
      rfl

end Site

/-- The project that a call leaves, going by its report. -/
def Report.project? : Report → Option Project
  | .wrote project => some project
  | .deleted _ => none
  | .kept project => some project

namespace Upkeep

variable {site : Site} {project : Project}

/-- Asks what to add.  There is a call to be made if that is agreed on. -/
def consultAdd (project : Project) : Dialogue (Option ArtifactCall) := do
  let available := Feature.complement project.features
  if available = [] then
    Dialogue.present (Screen.warning "Every feature is already included.")
    pure none
  else
    let selected ← Dialogue.askFeatures "Select which features you want to add" available
    if selected = [] then
      Dialogue.present (Screen.warning "Nothing selected.")
      pure none
    else if ← Dialogue.confirm overwriteWarning false then
      Dialogue.present (Screen.success "Changing data")
      pure (some (.add project selected))
    else pure none

/-- Asks what to remove.  There is a call to be made if that is agreed on; it comes with the
answer about deleting everything, if that was asked. -/
def consultRemove (project : Project) : Dialogue (Option ArtifactCall) := do
  let selected ← Dialogue.askFeatures "Select packages to remove" project.features
  if selected = [] then
    Dialogue.present (Screen.warning "Nothing selected.")
    pure none
  else
    let agreed ←
      if selected.length < project.features.length then Dialogue.confirm overwriteWarning false
      else pure true
    if agreed then
      let answer ← Site.removalQuestion project selected (Dialogue.confirm emptyWarning true)
      pure (some (.remove project selected (.ok answer)))
    else pure none

/-- Asks whether to delete. -/
def consultDelete (project : Project) : Dialogue (Option ArtifactCall) := do
  if ← Dialogue.confirm deleteWarning false then pure (some (.delete project))
  else pure none

/-- Everything that a handler asks. -/
def consult : Task → Project → Dialogue (Option ArtifactCall)
  | .add => consultAdd
  | .remove => consultRemove
  | .delete => consultDelete

/-- What is said after a call, going by its report. -/
def farewell : ArtifactCall → Report → Dialogue Unit
  | .remove _ _ _, report =>
      match report with
      | .wrote _ => Dialogue.present (Screen.success "Changing data")
      | .deleted _ => Dialogue.present (Screen.success "crabSafe removed")
      | .kept _ => pure ()
  | .delete _, _ => Dialogue.present (Screen.success "crabSafe removed")
  | .add _ _, _ => pure ()
  | .materialize project _, _ =>
      Dialogue.present (Screen.summaryTable (CommandLine.summary project) "crabSafe")

/-- Carries out a call, if there is one to be made.  The result is the project afterwards. -/
def carryOut (site : Site) (project : Project) :
    Option ArtifactCall → Errand Terminal (Option Project)
  | none => pure project
  | some call => do
      let report ← onDisk (call.run site)
      converse (farewell call report)
      pure report.project?

/-- The handler of a task. -/
def handle (site : Site) : Task → Project → Errand Terminal (Option Project)
  | .add => handleAdd site
  | .remove => handleRemove site
  | .delete => handleDelete site

theorem converse_apply {α : Type} (dialogue : Dialogue α) (workspace : Workspace)
    (terminal : Terminal) : converse dialogue (workspace, terminal) =
      ((dialogue terminal).1, (workspace, (dialogue terminal).2)) := rfl

theorem converse_pure {α : Type} (value : α) : converse (pure value) = pure value := rfl

theorem converse_bind {α β : Type} (first : Dialogue α) (next : α → Dialogue β) :
    converse (first >>= next) = converse first >>= fun value => converse (next value) :=
  Errand.onCaller_bind first next

theorem onDisk_pure {α : Type} (value : α) : onDisk (pure value) = pure value := rfl

theorem onDisk_bind {α β : Type} (first : Job α) (next : α → Job β) :
    onDisk (first >>= next) = onDisk first >>= fun value => onDisk (next value) :=
  Errand.onDisk_bind first next

theorem carryOut_add (site : Site) (project : Project) (requested : List Feature) :
    carryOut site project (some (.add project requested)) =
      onDisk (site.addFeatures project requested) >>= fun updated => pure (some updated) := by
  have ran : ArtifactCall.run site (.add project requested) =
      site.addFeatures project requested >>= fun updated =>
        pure (if project.additions requested = [] then .kept updated else .wrote updated) := rfl
  rw [carryOut, ran, onDisk_bind, bind_assoc]
  refine bind_congr fun updated => ?_
  rw [onDisk_pure, pure_bind]
  rw [farewell, converse_pure, pure_bind]
  split <;> rfl

theorem carryOut_remove (site : Site) (project : Project) (dropped : List Feature)
    (answer : Except Failure Bool) :
    carryOut site project (some (.remove project dropped answer)) =
      onDisk (site.answeredRemoval project dropped answer) >>= fun removal =>
        converse (farewell (.remove project dropped answer)
          (ArtifactCall.reportOf project removal)) >>= fun _ => pure removal.project? := by
  rw [carryOut, ArtifactCall.run_remove, onDisk_bind, bind_assoc]
  refine bind_congr fun removal => ?_
  rw [onDisk_pure, pure_bind]
  cases removal with
  | updated updated => rfl
  | deleted => rfl
  | aborted kept => rfl
  | unchanged kept => rfl

theorem carryOut_delete (site : Site) (project : Project) :
    carryOut site project (some (.delete project)) =
      onDisk (site.delete project) >>= fun _ =>
        say (Screen.success "crabSafe removed") >>= fun _ => pure none := by
  have ran : ArtifactCall.run site (.delete project) =
      site.delete project >>= fun _ => pure (.deleted project) := rfl
  rw [carryOut, ran, onDisk_bind, bind_assoc]
  refine bind_congr fun _ => ?_
  rw [onDisk_pure, pure_bind, farewell, say, Report.project?]

theorem handleAdd_eq (site : Site) (project : Project) :
    handleAdd site project = converse (consultAdd project) >>= carryOut site project := by
  unfold handleAdd consultAdd
  simp only
  split
  · rw [converse_bind, bind_assoc]
    rfl
  · rw [converse_bind, bind_assoc]
    refine bind_congr fun selected => ?_
    split
    · rw [converse_bind, bind_assoc]
      rfl
    · rw [converse_bind, bind_assoc]
      refine bind_congr fun agreed => ?_
      cases agreed with
      | false => rfl
      | true =>
          rw [if_pos rfl, if_pos rfl, converse_bind, bind_assoc]
          refine bind_congr fun _ => ?_
          rw [converse_pure, pure_bind]
          exact (carryOut_add site project selected).symm

/-- What was agreed to be removed is asked about once more, if nothing would remain, and then
removed. -/
theorem agreedRemoval_eq (site : Site) (project : Project) (dropped : List Feature) :
    (do
      let removal ← site.removeFeatures project dropped (Dialogue.confirm emptyWarning true)
      match removal with
      | .updated _ => say (Screen.success "Changing data")
      | .deleted => say (Screen.success "crabSafe removed")
      | _ => pure ()
      pure removal.project? : Errand Terminal (Option Project)) =
    converse (do
      let answer ← Site.removalQuestion project dropped (Dialogue.confirm emptyWarning true)
      pure (some (.remove project dropped (.ok answer)))) >>= carryOut site project := by
  rw [Site.removeFeatures_eq, bind_assoc, converse_bind, bind_assoc]
  refine bind_congr fun answer => ?_
  rw [converse_pure, pure_bind, carryOut_remove]
  refine bind_congr fun removal => ?_
  cases removal with
  | updated updated => rfl
  | deleted => rfl
  | aborted kept => rfl
  | unchanged kept => rfl

theorem handleRemove_eq (site : Site) (project : Project) :
    handleRemove site project = converse (consultRemove project) >>= carryOut site project := by
  unfold handleRemove consultRemove
  rw [converse_bind, bind_assoc]
  refine bind_congr fun selected => ?_
  by_cases nothing : selected = []
  · rw [if_pos nothing, if_pos nothing, converse_bind, bind_assoc]
    rfl
  · rw [if_neg nothing, if_neg nothing]
    simp only
    split
    · rw [converse_bind, bind_assoc]
      refine bind_congr fun agreed => ?_
      cases agreed with
      | false => rfl
      | true =>
          rw [if_pos rfl, if_pos rfl]
          exact agreedRemoval_eq site project selected
    · rw [pure_bind, pure_bind, if_pos rfl, if_pos rfl]
      exact agreedRemoval_eq site project selected

theorem handleDelete_eq (site : Site) (project : Project) :
    handleDelete site project = converse (consultDelete project) >>= carryOut site project := by
  unfold handleDelete consultDelete
  rw [converse_bind, bind_assoc]
  refine bind_congr fun agreed => ?_
  cases agreed with
  | false => rfl
  | true =>
      rw [if_pos rfl, if_pos rfl, converse_pure, pure_bind, carryOut_delete,
        Errand.discard_eq, bind_assoc]
      refine bind_congr fun _ => ?_
      rw [pure_bind]

/-- A handler asks all that it asks, and then carries out what was agreed on. -/
theorem handle_eq (site : Site) (task : Task) (project : Project) :
    handle site task project =
      converse (consult task project) >>= carryOut site project := by
  cases task with
  | add => exact handleAdd_eq site project
  | remove => exact handleRemove_eq site project
  | delete => exact handleDelete_eq site project

/-! ## What came of a handler -/

variable {before after : Workspace} {terminal final : Terminal} {task : Task}
  {result : Except Failure (Option Project)}

/-- The calls that handlers make for a project. -/
inductive Makes (project : Project) : ArtifactCall → Prop where
  | add (requested : List Feature) : Makes project (.add project requested)
  | remove (dropped : List Feature) (agreed : Bool) :
      Makes project (.remove project dropped (.ok agreed))
  | delete : Makes project (.delete project)

theorem Makes.answers {call : ArtifactCall} (makes : Makes project call) : call.answers := by
  cases makes with
  | add requested => trivial
  | remove dropped agreed => exact ⟨agreed, rfl⟩
  | delete => trivial

theorem Makes.project_eq {call : ArtifactCall} (makes : Makes project call) :
    call.project = project := by
  cases makes <;> rfl

/-- What holds of every question of a handler, and of everything it says, holds of all that it
asks, as long as it goes on from one part of a dialogue to the next. -/
theorem consult_closed {closed : {α : Type} → Dialogue α → Prop}
    (pures : ∀ {α : Type} (value : α), closed (pure value : Dialogue α))
    (binds : ∀ {α β : Type} {first : Dialogue α} {next : α → Dialogue β}, closed first →
      (∀ value, closed (next value)) → closed (first >>= next))
    (warns : ∀ text, closed (Dialogue.present (Screen.warning text)))
    (announces : ∀ text, closed (Dialogue.present (Screen.success text)))
    (selects : ∀ question features, closed (Dialogue.askFeatures question features))
    (overwrites : closed (Dialogue.confirm overwriteWarning false))
    (deletes : closed (Dialogue.confirm deleteWarning false))
    (empties : closed (Dialogue.confirm emptyWarning true)) (task : Task) (project : Project) :
    closed (consult task project) := by
  have declined : ∀ text, closed (do
      Dialogue.present (Screen.warning text)
      pure none : Dialogue (Option ArtifactCall)) := fun text => binds (warns text) fun _ => pures _
  cases task with
  | add =>
      unfold consult consultAdd
      simp only
      split
      · exact declined _
      · refine binds (selects _ _) fun selected => ?_
        split
        · exact declined _
        · refine binds overwrites fun agreed => ?_
          split
          · exact binds (announces _) fun _ => pures _
          · exact pures _
  | remove =>
      have removes : ∀ selected (agreed : Bool), closed
          (if agreed = true then do
            let answer ← Site.removalQuestion project selected (Dialogue.confirm emptyWarning true)
            pure (some (.remove project selected (.ok answer)))
          else pure none : Dialogue (Option ArtifactCall)) := by
        intro selected agreed
        split
        · refine binds ?_ fun _ => pures _
          unfold Site.removalQuestion
          split
          · exact empties
          · exact pures _
        · exact pures _
      unfold consult consultRemove
      refine binds (selects _ _) fun selected => ?_
      split
      · exact declined _
      · simp only
        split
        · exact binds overwrites (removes selected)
        · exact binds (pures true) (removes selected)
  | delete =>
      unfold consult consultDelete
      refine binds deletes fun agreed => ?_
      split
      · exact pures _
      · exact pures _

/-- Nothing else than such a call comes of what a handler asks. -/
theorem makes_of_consult (task : Task) (project : Project) :
    ReturnsOnly (fun call? => ∀ call, call? = some call → Makes project call)
      (consult task project) := by
  have nothing : ReturnsOnly (fun call? => ∀ call, call? = some call → Makes project call)
      (pure none : Dialogue (Option ArtifactCall)) :=
    returnsOnly_pure fun call impossible => by cases impossible
  have something : ∀ {call}, Makes project call →
      ReturnsOnly (fun call? => ∀ call, call? = some call → Makes project call)
        (pure (some call) : Dialogue (Option ArtifactCall)) := by
    intro call makes
    refine returnsOnly_pure fun other same => ?_
    cases same
    exact makes
  cases task with
  | add =>
      unfold consult consultAdd
      simp only
      split
      · exact returnsOnly_bind fun _ => nothing
      · refine returnsOnly_bind fun selected => ?_
        split
        · exact returnsOnly_bind fun _ => nothing
        · refine returnsOnly_bind fun agreed => ?_
          split
          · exact returnsOnly_bind fun _ => something (.add selected)
          · exact nothing
  | remove =>
      have asks : ∀ selected agreed, ReturnsOnly
          (fun call? => ∀ call, call? = some call → Makes project call)
          (if agreed = true then do
            let answer ← Site.removalQuestion project selected (Dialogue.confirm emptyWarning true)
            pure (some (.remove project selected (.ok answer)))
          else pure none : Dialogue (Option ArtifactCall)) := by
        intro selected agreed
        split
        · exact returnsOnly_bind fun answer => something (.remove selected answer)
        · exact nothing
      unfold consult consultRemove
      refine returnsOnly_bind fun selected => ?_
      split
      · exact returnsOnly_bind fun _ => nothing
      · simp only
        split
        · exact returnsOnly_bind fun agreed => asks selected agreed
        · exact returnsOnly_bind fun agreed => asks selected agreed
  | delete =>
      unfold consult consultDelete
      refine returnsOnly_bind fun agreed => ?_
      split
      · exact something .delete
      · exact nothing

/-- After such a call a farewell is always said. -/
theorem farewell_returns {call : ArtifactCall} (makes : Makes project call) (report : Report)
    (terminal : Terminal) : ∃ final, farewell call report terminal = (.ok (), final) := by
  have shown : ∀ text, ∃ final, Dialogue.present (Screen.success text) terminal =
      (.ok (), final) := by
    intro text
    obtain ⟨line, success⟩ := Screen.success_eq_ok text
    rw [success]
    exact ⟨_, rfl⟩
  cases makes with
  | add requested => exact ⟨terminal, rfl⟩
  | remove dropped agreed =>
      cases report with
      | wrote project =>
          rw [farewell]
          exact shown "Changing data"
      | deleted project =>
          rw [farewell]
          exact shown "crabSafe removed"
      | kept project => exact ⟨terminal, rfl⟩
  | delete =>
      rw [farewell]
      exact shown "crabSafe removed"

/-- What comes of a handler: it is given up or ends without a call while it asks, or it makes
its call, which fails or returns. -/
inductive Handled (site : Site) (task : Task) (project : Project) (before : Workspace)
    (terminal : Terminal) : Except Failure (Option Project) → Workspace → Terminal → Prop where
  | givenUp {failure : Failure} {final : Terminal}
      (consulted : consult task project terminal = (.error failure, final)) :
      Handled site task project before terminal (.error failure) before final
  | declined {final : Terminal}
      (consulted : consult task project terminal = (.ok none, final)) :
      Handled site task project before terminal (.ok (some project)) before final
  | failed {call : ArtifactCall} {failure : Failure} {after : Workspace} {final : Terminal}
      (consulted : consult task project terminal = (.ok (some call), final))
      (running : call.run site before = (.error failure, after)) :
      Handled site task project before terminal (.error failure) after final
  | returned {call : ArtifactCall} {report : Report} {after : Workspace} {between final : Terminal}
      (consulted : consult task project terminal = (.ok (some call), between))
      (running : call.run site before = (.ok report, after))
      (told : farewell call report between = (.ok (), final)) :
      Handled site task project before terminal (.ok report.project?) after final

theorem handled (returned : handle site task project (before, terminal) = (result, after, final)) :
    Handled site task project before terminal result after final := by
  rw [handle_eq, Errand.bind_apply, converse_apply] at returned
  cases consulted : consult task project terminal with
  | mk outcome between =>
      rw [consulted] at returned
      cases outcome with
      | error failure =>
          cases returned
          exact .givenUp consulted
      | ok call? =>
          cases call? with
          | none =>
              cases returned
              exact .declined consulted
          | some call =>
              simp only at returned
              rw [carryOut, onDisk, Errand.bind_apply, Errand.onDisk_apply] at returned
              cases running : call.run site before with
              | mk outcome changed =>
                  rw [running] at returned
                  cases outcome with
                  | error failure =>
                      cases returned
                      exact .failed consulted running
                  | ok report =>
                      have makes := makes_of_consult task project terminal _ _ consulted call rfl
                      obtain ⟨told, said⟩ := farewell_returns makes report between
                      simp only at returned
                      rw [Errand.bind_apply, converse_apply, said] at returned
                      cases returned
                      exact .returned consulted running said

end Upkeep

end HelperKit
