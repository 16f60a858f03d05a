import HelperKit.Artifact.Features
import HelperKit.Proofs.Artifact.Writing

/-!
# Calls that change an artifact

A call removes the artifact first, if it removes anything, and from then on only makes
directories, writes files of the artifact and keeps the settings document.
-/

namespace HelperKit

namespace Attempt

variable {ε δ α β : Type} {removal allowed : Disk → Effect → Prop} {before : Workspace}

/-- An operation removes something first, if anything, and does what is allowed from then
on. -/
def ClearsFirst (removal allowed : Disk → Effect → Prop) (operation : Attempt ε α)
    (before : Workspace) : Prop :=
  ∃ first rest, before.Reaches (first ++ rest) (operation before).2 ∧ first.length ≤ 1 ∧
    before.disk.Allows removal first ∧ (before.disk.applyAll first).Allows allowed rest

theorem ActsOn.clearsFirst {operation : Attempt ε α} (acts : ActsOn allowed operation before) :
    ClearsFirst removal allowed operation before := by
  obtain ⟨effects, reaches, allows⟩ := acts
  exact ⟨[], effects, reaches, Nat.zero_le 1, trivial, allows⟩

theorem ClearsFirst.actsOn {operation : Attempt ε α}
    (clears : ClearsFirst allowed allowed operation before) : ActsOn allowed operation before := by
  obtain ⟨first, rest, reaches, -, cleared, allows⟩ := clears
  exact ⟨first ++ rest, reaches, Disk.allows_append.mpr ⟨cleared, allows⟩⟩

theorem ClearsFirst.bind {first : Attempt ε α} {next : α → Attempt ε β}
    (clears : ClearsFirst removal allowed first before)
    (acts : ∀ value between, first before = (.ok value, between) →
      ActsOn allowed (next value) between) :
    ClearsFirst removal allowed (first >>= next) before := by
  obtain ⟨cleared, effects, reaches, single, removals, allows⟩ := clears
  unfold ClearsFirst
  rw [bind_apply]
  cases reached : first before with
  | mk result between =>
      rw [reached] at reaches
      cases result with
      | error error => exact ⟨cleared, effects, reaches, single, removals, allows⟩
      | ok value =>
          obtain ⟨more, further, moreAllows⟩ := acts value between reached
          refine ⟨cleared, effects ++ more, ?_, single, removals, ?_⟩
          · rw [← List.append_assoc]
            exact reaches.trans further
          · rw [Disk.allows_append, ← Disk.applyAll_append, ← reaches.disk]
            exact ⟨allows, moreAllows⟩

theorem ClearsFirst.mapError {operation : Attempt δ α} (convert : δ → ε)
    (clears : ClearsFirst removal allowed operation before) :
    ClearsFirst removal allowed (Attempt.mapError convert operation) before := by
  unfold ClearsFirst
  rw [mapError_apply]
  exact clears

theorem ClearsFirst.outcome {operation : Attempt δ α}
    (clears : ClearsFirst removal allowed operation before) :
    ClearsFirst removal allowed (Attempt.outcome operation : Attempt ε (Except δ α)) before := by
  unfold ClearsFirst
  rw [outcome_apply]
  exact clears

theorem ClearsFirst.ask_bind {question : Disk → Except Fault α} {next : α → Access β}
    (clears : ∀ answer, question before.disk = .ok answer →
      ClearsFirst removal allowed (next answer) before) :
    ClearsFirst removal allowed (Access.ask question >>= next) before := by
  unfold ClearsFirst
  rw [bind_apply, Access.ask_apply]
  cases known : question before.disk with
  | error fault => exact ⟨[], [], .refl before, Nat.zero_le 1, trivial, trivial⟩
  | ok answer => exact clears answer known

end Attempt

namespace Access

open Attempt

variable {removal allowed : Disk → Effect → Prop} {path : Path} {before : Workspace}

theorem clearsFirst_removeTree (permits : ∀ disk effect remaining,
    disk.removingTree path = .ok (effect, remaining) → removal disk effect) :
    ClearsFirst removal allowed (removeTree path) before := by
  unfold ClearsFirst
  rw [removeTree_apply]
  cases removing : before.disk.removingTree path with
  | error fault => exact ⟨[], [], .refl before, Nat.zero_le 1, trivial, trivial⟩
  | ok answer =>
      obtain ⟨effect, remaining⟩ := answer
      have removes := permits _ _ _ removing
      cases remaining with
      | none =>
          exact ⟨[effect], [], before.reaches_perform effect, le_rfl, ⟨removes, trivial⟩, trivial⟩
      | some fault =>
          exact ⟨[effect], [], before.reaches_perform effect, le_rfl, ⟨removes, trivial⟩, trivial⟩

theorem clearsFirst_removeFile (permits : ∀ disk effect,
    disk.removingFile path = .ok effect → removal disk effect) :
    ClearsFirst removal allowed (removeFile path) before := by
  unfold ClearsFirst removeFile
  rw [bind_apply, ask_apply]
  cases removing : before.disk.removingFile path with
  | error fault => exact ⟨[], [], .refl before, Nat.zero_le 1, trivial, trivial⟩
  | ok effect =>
      exact ⟨[effect], [], before.reaches_perform effect, le_rfl,
        ⟨permits _ _ removing, trivial⟩, trivial⟩

end Access

namespace Site

open Attempt

/-- An effect of removing the artifact of a project. -/
inductive Clears (site : Site) (project : Project) (disk : Disk) : Effect → Prop where
  | file {effect : Effect} (single : project.layout = .singleFile)
      (removing : disk.removingFile (site.artifact project) = .ok effect) :
      Clears site project disk effect
  | tree {effect : Effect} {remaining : Option Fault} (split : project.layout = .splitFiles)
      (removing : disk.removingTree (site.artifact project) = .ok (effect, remaining)) :
      Clears site project disk effect

/-- An effect of making the way to the split directory of a project. -/
def Paves (site : Site) (project : Project) (disk : Disk) (effect : Effect) : Prop :=
  project.layout = .splitFiles ∧ ∃ names, names <+: (site.splitDirectory project).parts ∧
    disk.makingDirectory ⟨(site.splitDirectory project).anchor, names⟩ = .ok effect

/-- What calls for a project may do. -/
structure Permits (site : Site) (removal allowed : Disk → Effect → Prop) (project : Project) :
    Prop where
  clears : ∀ disk effect, site.Clears project disk effect → removal disk effect
  paves : ∀ disk effect, site.Paves project disk effect → allowed disk effect
  builds : ∀ disk effect, site.Builds project disk effect → allowed disk effect
  saves : ∀ between, site.Written project between →
    ActsOn allowed (site.store.save project) between
  forgets : Acts allowed site.store.forget

variable {site : Site} {project : Project} {removal allowed : Disk → Effect → Prop}
  {before after : Workspace}

/-! ## Writing -/

theorem actsOn_materialize (permits : site.Permits removal allowed project) (replace : Bool) :
    ActsOn allowed (site.materialize project replace) before := by
  refine actsOn_bind ?_ fun written between writing => actsOn_bind ?_ fun _ after _ =>
    acts_pure _ after
  · obtain ⟨effects, reaches, builds⟩ := acts_writeArtifact replace before
    exact ⟨effects, reaches, builds.mono permits.builds⟩
  · exact permits.saves between (writeArtifact_eq_ok writing)

theorem materialize_eq_ok {replace : Bool} {paths : List Path}
    (returned : site.materialize project replace before = (.ok paths, after)) :
    ∃ between, site.writeArtifact project replace before = (.ok paths, between) ∧
      site.store.save project between = (.ok (), after) := by
  obtain ⟨written, between, writing, continued⟩ := bind_eq_ok_iff.mp returned
  obtain ⟨_, saved, saving, finished⟩ := bind_eq_ok_iff.mp continued
  cases finished
  exact ⟨between, writing, saving⟩

theorem clearDirectory_eq (path : Path) :
    clearDirectory path = Access.ask (·.pathExists path) >>= fun there =>
      (if there then Access.removeTree path else pure ()) >>= fun _ =>
        Access.makeDirectories false path := by
  unfold clearDirectory
  refine bind_congr fun there => ?_
  cases there with
  | true => rfl
  | false => rfl

theorem clearsFirst_recreateDirectory
    (clears : ∀ disk effect, site.Clears project disk effect → removal disk effect)
    (paves : ∀ disk effect, site.Paves project disk effect → allowed disk effect)
    (split : project.layout = .splitFiles) :
    ClearsFirst removal allowed (recreateDirectory (site.splitDirectory project)) before := by
  refine ClearsFirst.bind (ClearsFirst.mapError _ ?_) fun _ after _ => acts_note _ _ after
  rw [clearDirectory_eq]
  refine ClearsFirst.ask_bind fun there _ => ClearsFirst.bind ?_ fun _ between _ => ?_
  · cases there with
    | true =>
        refine Access.clearsFirst_removeTree fun disk effect remaining removing => ?_
        rw [← artifact_of_split split] at removing
        exact clears disk effect (.tree split removing)
    | false => exact (acts_pure () before).clearsFirst
  · exact Access.acts_makeDirectories false (fun disk names effect shorter making =>
      paves disk effect ⟨split, names, shorter, making⟩) between

/-- What renewing an artifact does before the artifact is written: a split directory is made empty,
and for a merged file there is nothing to do. -/
inductive Cleared (site : Site) (project : Project) (before : Workspace) : Workspace → Prop where
  | single (single : project.layout = .singleFile) : Cleared site project before before
  | split {after : Workspace} (split : project.layout = .splitFiles)
      (recreating : recreateDirectory (site.splitDirectory project) before = (.ok (), after)) :
      Cleared site project before after

theorem renew_eq_ok (returned : site.renew project before = (.ok (), after)) :
    ∃ paths between, site.Cleared project before between ∧
      site.materialize project true between = (.ok paths, after) := by
  unfold renew at returned
  cases layout : project.layout with
  | singleFile =>
      simp only [layout] at returned
      obtain ⟨paths, written, writing, finished⟩ := bind_eq_ok_iff.mp returned
      cases finished
      exact ⟨paths, before, .single layout, writing⟩
  | splitFiles =>
      simp only [layout] at returned
      obtain ⟨_, between, recreating, discarded⟩ := bind_eq_ok_iff.mp returned
      obtain ⟨paths, written, writing, finished⟩ := bind_eq_ok_iff.mp discarded
      cases finished
      exact ⟨paths, between, .split layout recreating, writing⟩

theorem clearsFirst_renew (permits : site.Permits removal allowed project) :
    ClearsFirst removal allowed (site.renew project) before := by
  have writes : ∀ between, ActsOn allowed (discard (site.materialize project true)) between :=
    fun between => actsOn_bind (actsOn_materialize permits true) fun _ after _ => acts_pure _ after
  unfold renew
  cases layout : project.layout with
  | singleFile => exact (writes before).clearsFirst
  | splitFiles =>
      exact (clearsFirst_recreateDirectory permits.clears permits.paves layout).bind
        fun _ between _ => writes between

/-! ## Deleting -/

/-- The effect that removes an artifact. -/
def clearing (site : Site) (project : Project) (disk : Disk) : Effect :=
  match project.layout with
  | .singleFile => .removeFile (site.artifactLocation project disk)
  | .splitFiles => .removeTree (site.artifactLocation project disk)

/-- Removing an artifact is one effect. -/
theorem removeArtifact_eq_ok {before after : Workspace}
    (returned : site.removeArtifact project before = (.ok (), after)) :
    site.Clears project before.disk (site.clearing project before.disk) ∧
      after = before.perform (site.clearing project before.disk) := by
  unfold removeArtifact at returned
  unfold clearing
  cases layout : project.layout with
  | singleFile =>
      simp only [layout] at returned
      obtain ⟨effect, removing, rfl⟩ := Access.performing_eq_ok returned
      obtain ⟨-, -, rfl⟩ := Disk.removingFile_eq_ok removing
      exact ⟨.file layout removing, rfl⟩
  | splitFiles =>
      simp only [layout] at returned
      rw [Access.removeTree_apply] at returned
      cases removing : before.disk.removingTree (site.artifact project) with
      | error fault =>
          rw [removing] at returned
          cases returned
      | ok answer =>
          obtain ⟨effect, remaining⟩ := answer
          rw [removing] at returned
          cases remaining with
          | some fault => cases returned
          | none =>
              cases returned
              obtain ⟨-, -, ⟨rfl, -⟩ | ⟨-, errno, impossible⟩⟩ := Disk.removingTree_eq_ok removing
              · exact ⟨.tree layout removing, rfl⟩
              · cases impossible

theorem clearing_removes (site : Site) (project : Project) (disk : Disk) :
    (site.clearing project disk).Removes (site.artifactLocation project disk) := by
  unfold clearing
  cases project.layout with
  | singleFile => exact rfl
  | splitFiles => exact List.prefix_rfl

/-- What a removal of an artifact amounts to: an artifact that is gone already counts as
removed. -/
def judgeRemoval (site : Site) (project : Project) : Except Fault Unit → Job Bool
  | .ok () => pure true
  | .error fault =>
      match fault with
      | .system report =>
          if report.errno = .noEntry then do
            note .warning
              ((site.artifact project).toText ++ " was already removed, clearing settings only")
            pure false
          else throw (.refused (site.artifact project) .delete fault)
      | _ => throw (.refused (site.artifact project) .delete fault)

theorem delete_eq (site : Site) (project : Project) :
    site.delete project = outcome (site.removeArtifact project) >>= fun result =>
      site.judgeRemoval project result >>= fun removed =>
        site.store.forget >>= fun _ => pure removed := by
  unfold delete judgeRemoval
  refine bind_congr fun result => ?_
  cases result with
  | ok => rfl
  | error fault =>
      cases fault with
      | system report =>
          by_cases gone : report.errno = .noEntry
          · simp only [gone, if_true]
            rfl
          · simp only [gone, if_false]
      | embeddedNull => rfl
      | unencodable => rfl
      | tooDeep => rfl

/-- What is returned by a deletion says whether the artifact was there. -/
theorem delete_eq_ok {removed : Bool}
    (returned : site.delete project before = (.ok removed, after)) :
    ∃ result between judged, site.removeArtifact project before = (result, between) ∧
      site.judgeRemoval project result between = (.ok removed, judged) ∧
      site.store.forget judged = (.ok (), after) := by
  rw [delete_eq] at returned
  obtain ⟨result, between, removing, continued⟩ := bind_eq_ok_iff.mp returned
  obtain ⟨found, judged, judging, continued⟩ := bind_eq_ok_iff.mp continued
  obtain ⟨_, forgot, forgetting, finished⟩ := bind_eq_ok_iff.mp continued
  rw [outcome_apply] at removing
  cases removing
  cases finished
  exact ⟨_, _, judged, rfl, judging, forgetting⟩

/-- The artifact was there exactly when nothing went wrong in its removal. -/
theorem judgeRemoval_eq_ok {result : Except Fault Unit} {removed : Bool}
    (judging : site.judgeRemoval project result before = (.ok removed, after)) :
    after.disk = before.disk ∧
      ((removed = true ∧ result = .ok ()) ∨
        (removed = false ∧ ∃ report, result = .error (.system report) ∧
          report.errno = .noEntry)) := by
  unfold judgeRemoval at judging
  cases result with
  | ok =>
      cases judging
      exact ⟨rfl, .inl ⟨rfl, rfl⟩⟩
  | error fault =>
      cases fault with
      | system report =>
          by_cases gone : report.errno = .noEntry
          · simp only [gone, if_true] at judging
            obtain ⟨_, noted, note, finished⟩ := bind_eq_ok_iff.mp judging
            cases finished
            exact ⟨disk_eq_of_note note, .inr ⟨rfl, report, rfl, gone⟩⟩
          · simp only [gone, if_false] at judging
            cases judging
      | embeddedNull => cases judging
      | unencodable => cases judging
      | tooDeep => cases judging

theorem acts_judgeRemoval (result : Except Fault Unit) :
    Acts allowed (site.judgeRemoval project result) := by
  unfold judgeRemoval
  cases result with
  | ok => exact acts_pure _
  | error fault =>
      cases fault with
      | system report =>
          simp only
          split
          · exact acts_bind (acts_note _ _) fun _ => acts_pure _
          · exact acts_throw _
      | embeddedNull => exact acts_throw _
      | unencodable => exact acts_throw _
      | tooDeep => exact acts_throw _

theorem clearsFirst_removeArtifact
    (clears : ∀ disk effect, site.Clears project disk effect → removal disk effect) :
    ClearsFirst removal allowed (site.removeArtifact project) before := by
  unfold removeArtifact
  cases layout : project.layout with
  | singleFile =>
      exact Access.clearsFirst_removeFile fun disk effect removing =>
        clears disk effect (.file layout removing)
  | splitFiles =>
      exact Access.clearsFirst_removeTree fun disk effect remaining removing =>
        clears disk effect (.tree layout removing)

theorem clearsFirst_delete (permits : site.Permits removal allowed project) :
    ClearsFirst removal allowed (site.delete project) before := by
  rw [delete_eq]
  exact ClearsFirst.bind (clearsFirst_removeArtifact permits.clears).outcome
    fun result between _ => acts_bind (acts_judgeRemoval result) (fun removed =>
      acts_bind permits.forgets fun _ => acts_pure _) between

/-! ## Removing features -/

/-- Removes features when the answer to the only question is known. -/
def answeredRemoval (site : Site) (project : Project) (dropped : List Feature)
    (answer : Except Failure Bool) : Job Removal :=
  if (project.remainder dropped).length = project.features.length then
    note .info "None of the selected features are present" >>= fun _ => pure (.unchanged project)
  else if nothing : project.remainder dropped = [] then
    match answer with
    | .error failure => throw failure
    | .ok true => site.delete project >>= fun _ => pure .deleted
    | .ok false =>
        note .info "Removal aborted, artifact left as is" >>= fun _ => pure (.aborted project)
  else
    site.renew (project.withFeatures (project.remainder dropped) nothing) >>= fun _ =>
      pure (.updated (project.withFeatures (project.remainder dropped) nothing))

end Site

namespace Errand

variable {σ α β : Type}

theorem bind_apply (first : Errand σ α) (next : α → Errand σ β) (before : Workspace × σ) :
    (first >>= next) before =
      match first before with
      | (.ok value, between) => next value between
      | (.error failure, between) => (.error failure, between) := by
  have unfolded : (first >>= next) before =
      (fun reached : Except Failure α × (Workspace × σ) =>
        ExceptT.bindCont next reached.1 reached.2) (first before) := rfl
  rw [unfolded]
  cases first before with
  | mk result between => cases result <;> rfl

@[simp]
theorem onDisk_apply (job : Job α) (workspace : Workspace) (caller : σ) :
    (onDisk job : Errand σ α) (workspace, caller) =
      ((job workspace).1, ((job workspace).2, caller)) := rfl

@[simp]
theorem onCaller_apply (act : σ → Except Failure α × σ) (workspace : Workspace) (caller : σ) :
    (onCaller act : Errand σ α) (workspace, caller) =
      ((act caller).1, (workspace, (act caller).2)) := rfl

end Errand

namespace Site

open Attempt

variable {site : Site} {project : Project} {removal allowed : Disk → Effect → Prop}
  {before after : Workspace}

/-- Of its caller, a removal sees no more than the answer to its question. -/
theorem removeFeatures_apply {σ : Type} (site : Site) (project : Project)
    (dropped : List Feature) (confirm : σ → Except Failure Bool × σ) (before : Workspace)
    (caller : σ) :
    ((site.removeFeatures project dropped confirm (before, caller)).1,
        (site.removeFeatures project dropped confirm (before, caller)).2.1) =
      site.answeredRemoval project dropped (confirm caller).1 before := by
  unfold removeFeatures answeredRemoval
  simp only
  split
  · rfl
  · split
    · rw [Errand.bind_apply, Errand.onCaller_apply]
      cases (confirm caller).1 with
      | error failure => rfl
      | ok agreed =>
          cases agreed with
          | false => rfl
          | true =>
              simp only [if_true]
              have deleted : (discard (Errand.onDisk (site.delete project)) : Errand σ PUnit) =
                  Errand.onDisk (site.delete project) >>= fun _ => pure ⟨⟩ := rfl
              rw [deleted, bind_assoc, Errand.bind_apply, Errand.onDisk_apply, Attempt.bind_apply]
              cases site.delete project before with
              | mk result after => cases result <;> rfl
    · rw [Errand.bind_apply, Errand.onDisk_apply, Attempt.bind_apply]
      rename_i nothing
      cases site.renew (project.withFeatures (project.remainder dropped) nothing) before with
      | mk result after => cases result <;> rfl

end Site

/-! ## Any call -/

/-- A call on the artifact of a project.  A removal comes with what its caller answers if
it is asked. -/
inductive ArtifactCall where
  | materialize (project : Project) (replace : Bool)
  | add (project : Project) (requested : List Feature)
  | remove (project : Project) (dropped : List Feature) (answer : Except Failure Bool)
  | delete (project : Project)

/-- What a call that returns has done, and to which project. -/
inductive Report where
  | wrote (project : Project)
  | deleted (project : Project)
  | kept (project : Project)
  deriving DecidableEq

namespace ArtifactCall

/-- The project that a call is about. -/
def project : ArtifactCall → Project
  | .materialize project _ => project
  | .add project _ => project
  | .remove project _ _ => project
  | .delete project => project

/-- What a removal of features from a project has done. -/
def reportOf (project : Project) : Removal → Report
  | .updated updated => .wrote updated
  | .deleted => .deleted project
  | .aborted kept => .kept kept
  | .unchanged kept => .kept kept

/-- Carries out a call. -/
def run (site : Site) : ArtifactCall → Job Report
  | .materialize project replace =>
      site.materialize project replace >>= fun _ => pure (.wrote project)
  | .add project requested =>
      site.addFeatures project requested >>= fun updated =>
        pure (if project.additions requested = [] then .kept updated else .wrote updated)
  | .remove project dropped answer => fun before =>
      let (result, after) :=
        site.removeFeatures project dropped (fun () => (answer, ())) (before, ())
      (result.map (reportOf project), after.1)
  | .delete project => site.delete project >>= fun _ => pure (.deleted project)

variable {site : Site} {project : Project} {removal allowed : Disk → Effect → Prop}
  {before after : Workspace} {call : ArtifactCall}

open Attempt

theorem run_remove (project : Project) (dropped : List Feature) (answer : Except Failure Bool) :
    run site (.remove project dropped answer) =
      site.answeredRemoval project dropped answer >>= fun removal =>
        pure (reportOf project removal) := by
  funext before
  have answered := site.removeFeatures_apply project dropped (fun () => (answer, ())) before ()
  have unfolded : run site (.remove project dropped answer) before =
      (fun reached : Except Failure Removal × (Workspace × Unit) =>
        (reached.1.map (reportOf project), reached.2.1))
        (site.removeFeatures project dropped (fun () => (answer, ())) (before, ())) := rfl
  rw [bind_apply, ← answered, unfolded]
  cases site.removeFeatures project dropped (fun () => (answer, ())) (before, ()) with
  | mk result after => cases result <;> rfl

/-- A call removes the artifact first, if it removes anything. -/
theorem clearsFirst_run (permits : ∀ selection,
    site.Permits removal allowed { call.project with selection }) :
    ClearsFirst removal allowed (call.run site) before := by
  cases call with
  | materialize project replace =>
      refine (actsOn_bind (site.actsOn_materialize (permits project.selection) replace)
        fun _ between _ => acts_pure _ between).clearsFirst
  | add project requested =>
      refine ClearsFirst.bind ?_ fun updated between _ => acts_pure _ between
      unfold Site.addFeatures
      simp only
      split
      · exact (acts_bind (acts_note _ _) (fun _ => acts_pure _) before).clearsFirst
      · exact (site.clearsFirst_renew (permits _)).bind fun _ between _ => acts_pure _ between
  | remove project dropped answer =>
      rw [run_remove]
      refine ClearsFirst.bind ?_ fun removed between _ => acts_pure _ between
      unfold Site.answeredRemoval
      split
      · exact (acts_bind (acts_note _ _) (fun _ => acts_pure _) before).clearsFirst
      · split
        · cases answer with
          | error failure => exact (acts_throw failure before).clearsFirst
          | ok agreed =>
              cases agreed with
              | true =>
                  exact (site.clearsFirst_delete (permits project.selection)).bind
                    fun _ between _ => acts_pure _ between
              | false =>
                  exact (acts_bind (acts_note _ _) (fun _ => acts_pure _) before).clearsFirst
        · exact (site.clearsFirst_renew (permits _)).bind fun _ between _ => acts_pure _ between
  | delete project =>
      exact (site.clearsFirst_delete (permits project.selection)).bind
        fun _ between _ => acts_pure _ between

/-! ## What a call has done -/

/-- What a call that returned did, by what it reports. -/
inductive Did (site : Site) (call : ArtifactCall) (before after : Workspace) : Report → Prop where
  | wrote {project : Project} {replace : Bool} {paths : List Path}
      (same : call = .materialize project replace)
      (writing : site.materialize project replace before = (.ok paths, after)) :
      Did site call before after (.wrote project)
  | renewed {selection : Selection}
      (renewing : site.renew { call.project with selection } before = (.ok (), after)) :
      Did site call before after (.wrote { call.project with selection })
  | deleted {removed : Bool} (deleting : site.delete call.project before = (.ok removed, after)) :
      Did site call before after (.deleted call.project)
  | kept (reaches : before.Reaches [] after) : Did site call before after (.kept call.project)

theorem reaches_of_note {level : Level} {message : Text}
    (noted : (note level message : Job Unit) before = (.ok (), after)) :
    before.Reaches [] after := by
  cases noted
  exact before.reaches_note _

theorem did_of_run {report : Report} (returned : call.run site before = (.ok report, after)) :
    call.Did site before after report := by
  cases call with
  | materialize project replace =>
      obtain ⟨paths, between, writing, finished⟩ := bind_eq_ok_iff.mp returned
      cases finished
      exact .wrote rfl writing
  | add project requested =>
      obtain ⟨updated, between, adding, finished⟩ := bind_eq_ok_iff.mp returned
      unfold Site.addFeatures at adding
      by_cases nothing : project.additions requested = []
      · rw [if_pos nothing] at finished
        simp only [nothing, dite_true] at adding
        obtain ⟨_, same, noted, kept⟩ := bind_eq_ok_iff.mp adding
        cases kept
        cases finished
        exact .kept (reaches_of_note noted)
      · rw [if_neg nothing] at finished
        simp only [nothing, dite_false] at adding
        obtain ⟨_, renewed, renewing, kept⟩ := bind_eq_ok_iff.mp adding
        cases kept
        cases finished
        exact .renewed renewing
  | remove project dropped answer =>
      rw [run_remove] at returned
      obtain ⟨removal, between, removing, finished⟩ := bind_eq_ok_iff.mp returned
      -- Nothing is dropped, or all is and the answer decides, or something is left.
      unfold Site.answeredRemoval at removing
      split at removing
      · obtain ⟨_, same, noted, kept⟩ := bind_eq_ok_iff.mp removing
        cases kept
        cases finished
        exact .kept (reaches_of_note noted)
      · split at removing
        · cases answer with
          | error failure => cases removing
          | ok agreed =>
              cases agreed with
              | true =>
                  obtain ⟨removed, gone, deleting, deleted⟩ := bind_eq_ok_iff.mp removing
                  cases deleted
                  cases finished
                  exact .deleted deleting
              | false =>
                  obtain ⟨_, same, noted, kept⟩ := bind_eq_ok_iff.mp removing
                  cases kept
                  cases finished
                  exact .kept (reaches_of_note noted)
        · obtain ⟨_, renewed, renewing, updated⟩ := bind_eq_ok_iff.mp removing
          cases updated
          cases finished
          exact .renewed renewing
  | delete project =>
      obtain ⟨removed, between, deleting, finished⟩ := bind_eq_ok_iff.mp returned
      cases finished
      exact .deleted deleting

/-! ## Sound disks -/

theorem permits_admits (site : Site) (project : Project) :
    site.Permits (fun disk effect => disk.Sound → disk.Admits effect)
      (fun disk effect => disk.Sound → disk.Admits effect) project where
  clears disk effect clears _ := by
    cases clears with
    | file single removing => exact Disk.Sound.admits_removingFile removing
    | tree split removing => exact Disk.Sound.admits_removingTree removing
  paves disk effect paves sound := by
    obtain ⟨-, names, -, making⟩ := paves
    exact sound.admits_makingDirectory making
  builds disk effect builds sound := builds.admits sound
  saves between _ := by
    obtain ⟨effects, reaches, keeps⟩ := site.store.acts_save project between
    exact ⟨effects, reaches, keeps.mono fun _ _ keeps sound => keeps.admits sound⟩
  forgets before := by
    obtain ⟨effects, reaches, keeps⟩ := site.store.acts_forget before
    exact ⟨effects, reaches, keeps.mono fun _ _ keeps sound => keeps.admits sound⟩

theorem acts_run : Acts (fun disk effect => disk.Sound → disk.Admits effect) (call.run site) := by
  intro before
  have clears : ClearsFirst _ _ (call.run site) before :=
    clearsFirst_run fun selection => permits_admits site { call.project with selection }
  exact clears.actsOn

/-- A call leaves a sound disk sound, whether it returns or not. -/
theorem sound_run (sound : before.disk.Sound) : (call.run site before).2.disk.Sound := by
  obtain ⟨effects, reaches, admits⟩ := acts_run before
  rw [reaches.disk]
  exact sound.applyAll admits

theorem home_run : (call.run site before).2.disk.home = before.disk.home := by
  obtain ⟨effects, reaches, -⟩ := acts_run before
  exact reaches.home

end ArtifactCall

/-! ## A disk and a project -/

namespace Site

/-- A disk with an empty directory, `x`, in its root. -/
def roomDisk : Disk where
  entries location :=
    if location = [] ∨ location = [Text.ofString "x"] then some .directory else none
  home := []

/-- The project whose split directory lies in the root. -/
def rootProject : Project :=
  ⟨.deno, "x/..", .preset .core, .splitFiles⟩

end Site

end HelperKit
