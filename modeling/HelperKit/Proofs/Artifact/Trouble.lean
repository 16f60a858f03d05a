import HelperKit.Proofs.Artifact.Calls
import HelperKit.Proofs.Workspace.Faults

/-!
# What calls on artifacts fail with

What the file system refuses is reported.  What is not reported comes from four places: a test
of a path that is too long, a path that does not fit for what its names hold or for their number,
a document that holds more than its reader admits, and a text without an encoded form, for which
a file is left empty.
-/

namespace HelperKit

namespace Site

variable {site : Site} {project : Project} {chosen : Text → Prop}

/-- The paths that calls on artifacts make use of, for projects with chosen directories. -/
inductive Uses (site : Site) (chosen : Text → Prop) : Path → Prop where
  | settings : Uses site chosen site.config.settingsFile
  | destination {project : Project} {path : Path} (concerned : chosen project.directory)
      (listed : path ∈ site.destinations project) : Uses site chosen path

/-- The paths that calls on artifacts test before they use them. -/
inductive Tests (site : Site) (chosen : Text → Prop) : Path → Prop where
  | settings : Tests site chosen site.config.settingsFile
  | directory {project : Project} (concerned : chosen project.directory) :
      Tests site chosen (site.splitDirectory project)

/-- What a call on an artifact may fail with, and the workspace that it leaves then.  The shipped
templates are never a cause. -/
inductive Trouble (site : Site) (chosen : Text → Prop) : Failure → Workspace → Prop where
  | reported {failure : Failure} (reported : failure.isReported = true)
      (uncancelled : ∀ question, failure ≠ .cancelled question) (after : Workspace) :
      Trouble site chosen failure after
  | overlong {path : Path} {fault : Fault} (tests : site.Tests chosen path)
      (overlong : Disk.Overlong path fault) (after : Workspace) :
      Trouble site chosen (.ofFault fault) after
  | unfit {path : Path} {fault : Fault} (uses : site.Uses chosen path)
      (unfit : Disk.Unfit path fault) (after : Workspace) :
      Trouble site chosen (.ofFault fault) after
  | deep {path : Path} (uses : site.Uses chosen path)
      (many : Access.maximumMissing < path.parts.length) (after : Workspace) :
      Trouble site chosen .tooDeep after
  | emptied {path : Path} {after : Workspace} (uses : site.Uses chosen path)
      (empty : after.disk.read path = .ok .empty) : Trouble site chosen .unencodable after
  | unreadable {bytes : ByteArray} {failure : Failure} {after : Workspace}
      (read : after.disk.read site.config.settingsFile = .ok bytes)
      (undecoded : site.store.decode bytes = .error failure)
      (excess : failure = .longInteger ∨ failure = .tooDeep) : Trouble site chosen failure after
  | missing (own : site.templates ≠ .shipped) (name : Text) (flaw : TemplateFlaw)
      (after : Workspace) : Trouble site chosen (.templateMissing name flaw) after
  | undecodable (own : site.templates ≠ .shipped) (after : Workspace) :
      Trouble site chosen .undecodable after

open Attempt

variable {failure : Failure} {after : Workspace}

theorem Trouble.uncancelled (trouble : site.Trouble chosen failure after) (question : Text) :
    failure ≠ .cancelled question := by
  cases trouble with
  | reported reported uncancelled => exact uncancelled question
  | overlong tests overlong =>
      cases overlong
      exact fun same => by cases same
  | unfit uses unfit => cases unfit <;> exact fun same => by cases same
  | deep uses many => exact fun same => by cases same
  | emptied uses empty => exact fun same => by cases same
  | unreadable read undecoded excess =>
      rcases excess with rfl | rfl <;> exact fun same => by cases same
  | missing own name flaw => exact fun same => by cases same
  | undecodable own => exact fun same => by cases same

theorem current_shipped (feature : Feature) (disk : Disk) :
    ∃ text, Template.current .shipped disk feature.fileName = .ok text := by
  have known : ∀ feature : Feature, ((Template.pieces? (Text.ofString feature.fileName)).bind
      Template.shippedText?).isSome = true := by
    intro feature
    cases feature <;> decide +kernel
  have found := known feature
  unfold Template.current
  cases known : Template.pieces? (Text.ofString feature.fileName) with
  | none => simp [known] at found
  | some pieces =>
      rw [known, Option.bind_some] at found
      obtain ⟨text, shipped⟩ := Option.isSome_iff_exists.mp found
      exact ⟨text, by simp only [shipped]⟩

/-- A family of failures that has all that a call on an artifact may come upon, but for a directory
that exists already: what the file system refuses or gives no answer for, a document that is not
understood, and a template that is not there. -/
structure Tolerates (site : Site) (chosen : Text → Prop) (allowed : Failure → Workspace → Prop) :
    Prop where
  refused : ∀ {path : Path} {fault : Fault} {after : Workspace} (operation : Operation),
    site.Uses chosen path → Faulted path fault after → allowed (.refused path operation fault) after
  unanswered : ∀ {path : Path} {fault : Fault} (after : Workspace),
    site.Tests chosen path → Disk.Overlong path fault → allowed (.ofFault fault) after
  undecoded : ∀ {bytes : ByteArray} {failure : Failure} {after : Workspace},
    after.disk.read site.config.settingsFile = .ok bytes →
      site.store.decode bytes = .error failure → allowed failure after
  missing : ∀ {name : Text} {disk : Disk} {failure : Failure} (after : Workspace),
    site.templates ≠ .shipped → Template.current site.templates disk name = .error failure →
      allowed failure after

/-- What the file system reports is reported in turn; every other fault is passed on. -/
theorem trouble_refused {path : Path} {fault : Fault} (uses : site.Uses chosen path)
    (faulted : Faulted path fault after) (operation : Operation) :
    site.Trouble chosen (.refused path operation fault) after := by
  cases faulted with
  | refused refuses =>
      cases refuses with
      | reported report => exact .reported rfl (fun question same => by cases same) after
      | unfit unfit => cases unfit with
        | null holds => exact .unfit uses (.null holds) after
        | odd holds => exact .unfit uses (.odd holds) after
      | deep many => exact .deep uses many after
  | emptied empty => exact .emptied uses empty

theorem trouble_of_decode {bytes : ByteArray}
    (read : after.disk.read site.config.settingsFile = .ok bytes)
    (failed : site.store.decode bytes = .error failure) : site.Trouble chosen failure after := by
  have excessive : failure = .longInteger ∨ failure = .tooDeep →
      site.Trouble chosen failure after := .unreadable read failed
  unfold Store.decode at failed
  cases decoded : Text.ofFile? bytes with
  | none =>
      rw [decoded] at failed
      cases failed
      exact .reported rfl (fun question same => by cases same) _
  | some characters =>
      rw [decoded] at failed
      simp only at failed
      split at failed
      · cases failed
        exact .reported rfl (fun question same => by cases same) _
      · cases failed
        exact excessive (.inl rfl)
      · cases failed
        exact excessive (.inr rfl)
      · cases failed
      · cases failed
        exact .reported rfl (fun question same => by cases same) _

theorem trouble_of_current {disk : Disk} {name : Text} (own : site.templates ≠ .shipped)
    (failed : Template.current site.templates disk name = .error failure) :
    site.Trouble chosen failure after := by
  unfold Template.current at failed
  split at failed
  · cases failed
    exact .missing own _ _ after
  · split at failed
    · split at failed
      · cases failed
      · cases failed
        exact .missing own _ _ after
    · split at failed
      · cases failed
        exact .missing own _ _ after
      · split at failed
        · cases failed
        · cases failed
          exact .undecodable own after

theorem tolerates_trouble : site.Tolerates chosen (site.Trouble chosen) where
  refused operation uses faulted := trouble_refused uses faulted operation
  unanswered after tests overlong := .overlong tests overlong after
  undecoded := trouble_of_decode
  missing _ own failed := trouble_of_current own failed

section Tolerates

variable {allowed : Failure → Workspace → Prop} (tolerates : site.Tolerates chosen allowed)

include tolerates

theorem failsOnly_refused {α : Type} {path : Path} {access : Access α}
    (uses : site.Uses chosen path) (operation : Operation)
    (faulted : FailsOnly (Faulted path) access) :
    FailsOnly allowed (mapError (Failure.refused path operation) access) :=
  failsOnly_mapError faulted fun _ _ faulted => tolerates.refused operation uses faulted

theorem failsOnly_tested {path : Path} (tests : site.Tests chosen path) (holds : Entry → Bool) :
    FailsOnly allowed (mapError .ofFault (Access.ask (·.test path holds))) := by
  have asks : FailsOnly (fun fault _ => Disk.Overlong path fault)
      (Access.ask (·.test path holds)) :=
    Access.failsOnly_ask fun _ _ => Disk.overlong_of_test
  exact failsOnly_mapError asks fun _ after overlong => tolerates.unanswered after tests overlong

/-! ## The record -/

theorem failsOnly_present : FailsOnly allowed site.store.present :=
  failsOnly_tested tolerates .settings Entry.isFile

theorem failsOnly_members : FailsOnly allowed site.store.members := by
  intro before failure after failed
  have reads : FailsOnly allowed
      (mapError (Failure.refused site.store.path .read) (Access.ask (·.read site.store.path))) :=
    failsOnly_refused tolerates .settings .read
      (Access.refusedOnly_read site.config.settingsFile).faulted
  rcases bind_eq_error_iff.mp failed with unread | ⟨bytes, between, read, undecoded⟩
  · exact reads before failure after unread
  · obtain ⟨known, rfl⟩ := Access.ask_eq_ok_iff.mp (mapError_eq_ok_iff.mp read)
    cases decoded : site.store.decode bytes with
    | ok members =>
        rw [decoded] at undecoded
        cases undecoded
    | error failure =>
        rw [decoded] at undecoded
        cases undecoded
        exact tolerates.undecoded known decoded

theorem failsOnly_write (members : Members) : FailsOnly allowed (site.store.write members) :=
  failsOnly_refused tolerates .settings .write
    (Access.failsOnly_writeDocument _ site.config.settingsFile)

theorem failsOnly_save (project : Project) : FailsOnly allowed (site.store.save project) := by
  rw [Store.save_eq]
  refine failsOnly_bind (failsOnly_bind (failsOnly_present tolerates) fun there => ?_)
    fun members => failsOnly_bind (failsOnly_write tolerates _) fun _ => failsOnly_note _ _
  cases there with
  | true => exact failsOnly_members tolerates
  | false => exact failsOnly_pure _

theorem failsOnly_forget : FailsOnly allowed site.store.forget := by
  refine failsOnly_bind (failsOnly_present tolerates) fun there => ?_
  cases there with
  | false => exact failsOnly_note _ _
  | true =>
      refine failsOnly_bind (failsOnly_members tolerates) fun members => ?_
      split
      · simp only
        split
        · exact failsOnly_bind
            (failsOnly_refused tolerates .settings .delete (Access.refusedOnly_removeFile _).faulted)
            fun _ => failsOnly_note _ _
        · exact failsOnly_bind (failsOnly_write tolerates _) fun _ => failsOnly_note _ _
      · exact failsOnly_note _ _

/-! ## The files -/

theorem failsOnly_payload (feature : Feature) :
    FailsOnly allowed (feature.payload site.templates) := by
  intro before failure after failed
  rw [Feature.payload, Template.source_apply] at failed
  split at failed
  · cases failed
  · split at failed
    · rename_i missing
      cases failed
      refine tolerates.missing before (fun shipped => ?_) missing
      obtain ⟨text, read⟩ := current_shipped feature before.disk
      rw [shipped, read] at missing
      cases missing
    · cases failed

section Chosen

variable (concerned : chosen project.directory)

include concerned

theorem failsOnly_writeFile {path : Path} (listed : path ∈ site.destinations project)
    (content : Text) : FailsOnly allowed (writeFile path content) :=
  failsOnly_refused tolerates (.destination concerned listed) .write
    (Access.failsOnly_writeText path content)

theorem failsOnly_writeSingleFile (layout : project.layout = .singleFile) :
    FailsOnly allowed (site.writeSingleFile project) := by
  have listed : site.singleFile project ∈ site.destinations project := by
    simp [destinations, layout]
  rw [writeSingleFile_eq]
  refine failsOnly_bind ?_ fun _ => failsOnly_bind ?_ fun text =>
    failsOnly_bind (failsOnly_writeFile tolerates concerned listed _) fun _ =>
      failsOnly_bind (failsOnly_note _ _) fun _ => failsOnly_pure _
  · split
    · exact failsOnly_note _ _
    · exact failsOnly_pure _
  · exact failsOnly_bind (failsOnly_mapM fun feature _ => failsOnly_payload tolerates feature)
      fun _ => failsOnly_pure _

theorem failsOnly_writeFeatures (layout : project.layout = .splitFiles) :
    FailsOnly allowed (project.features.mapM (site.writeFeature project)) := by
  have listed : ∀ feature ∈ project.features,
      site.featureFile project feature ∈ site.destinations project := by
    intro feature member
    simp only [destinations, layout]
    exact List.mem_cons_of_mem _ (List.mem_map_of_mem member)
  exact failsOnly_mapM fun feature member => failsOnly_bind (failsOnly_payload tolerates feature)
    fun _ => failsOnly_bind (failsOnly_writeFile tolerates concerned (listed feature member) _)
      fun _ => failsOnly_pure _

/-- Nothing else but a directory that exists may come up when an artifact is written. -/
theorem failsOnly_writeArtifact {replace : Bool}
    (taken : replace = false → ∀ after, allowed (.directoryExists (site.splitDirectory project)) after) :
    FailsOnly allowed (site.writeArtifact project replace) := by
  unfold writeArtifact
  cases layout : project.layout with
  | singleFile =>
      exact failsOnly_bind (failsOnly_writeSingleFile tolerates concerned layout) fun _ =>
        failsOnly_pure _
  | splitFiles =>
      have directory : site.splitDirectory project ∈ site.destinations project := by
        simp [destinations, layout]
      simp only [writeSplitFiles_eq]
      refine failsOnly_bind ?_ fun _ =>
        failsOnly_bind (failsOnly_writeFeatures tolerates concerned layout) fun _ =>
          failsOnly_bind (failsOnly_note _ _) fun _ => failsOnly_pure _
      refine failsOnly_bind (failsOnly_tested tolerates (.directory concerned) fun _ => true)
        fun there => ?_
      cases there with
      | true =>
          cases replace with
          | true => exact failsOnly_pure _
          | false => exact failsOnly_throw (taken rfl)
      | false =>
          exact failsOnly_refused tolerates (.destination concerned directory) .createDirectory
            (Access.refusedOnly_makeDirectory _).faulted

theorem failsOnly_materialize {replace : Bool}
    (taken : replace = false → ∀ after, allowed (.directoryExists (site.splitDirectory project)) after) :
    FailsOnly allowed (site.materialize project replace) :=
  failsOnly_bind (failsOnly_writeArtifact tolerates concerned taken) fun _ =>
    failsOnly_bind (failsOnly_save tolerates project) fun _ => failsOnly_pure _

theorem failsOnly_recreateDirectory (layout : project.layout = .splitFiles) :
    FailsOnly allowed (recreateDirectory (site.splitDirectory project)) := by
  have directory : site.splitDirectory project ∈ site.destinations project := by
    simp [destinations, layout]
  have clears : Access.RefusedOnly (site.splitDirectory project)
      (clearDirectory (site.splitDirectory project)) := by
    rw [clearDirectory_eq]
    refine failsOnly_bind (Access.refusedOnly_test _ _) fun there => failsOnly_bind ?_ fun _ =>
      Access.refusedOnly_makeDirectories _ false
    cases there with
    | true => exact Access.refusedOnly_removeTree _
    | false => exact failsOnly_pure ()
  exact failsOnly_bind
    (failsOnly_refused tolerates (.destination concerned directory) .recreateDirectory clears.faulted)
    fun _ => failsOnly_note _ _

/-- A renewal replaces what is there. -/
theorem failsOnly_renew : FailsOnly allowed (site.renew project) := by
  have writes : FailsOnly allowed (discard (site.materialize project true)) :=
    failsOnly_bind (failsOnly_materialize tolerates concerned fun impossible => nomatch impossible)
      fun _ => failsOnly_pure _
  unfold renew
  cases layout : project.layout with
  | singleFile => exact writes
  | splitFiles =>
      exact failsOnly_bind (failsOnly_recreateDirectory tolerates concerned layout) fun _ => writes

/-! ## The calls -/

theorem failsOnly_delete : FailsOnly allowed (site.delete project) := by
  have removes : Access.RefusedOnly (site.artifact project) (site.removeArtifact project) := by
    unfold removeArtifact
    cases project.layout with
    | singleFile => exact Access.refusedOnly_removeFile _
    | splitFiles => exact Access.refusedOnly_removeTree _
  have listed : site.artifact project ∈ site.destinations project := by
    unfold artifact destinations
    cases project.layout <;> simp
  have forgets : ∀ removed, FailsOnly allowed (do
      site.store.forget
      pure removed : Job Bool) := fun removed =>
    failsOnly_bind (failsOnly_forget tolerates) fun _ => failsOnly_pure _
  rw [delete_eq]
  refine failsOnly_outcome_bind removes
    (fun _ => failsOnly_bind (failsOnly_pure true) forgets) fun fault _ refuses => ?_
  refine failsOnly_bind ?_ forgets
  have refused : FailsOnly allowed
      (throw (.refused (site.artifact project) .delete fault) : Job Bool) :=
    failsOnly_throw fun state =>
      tolerates.refused .delete (.destination concerned listed) (.refused refuses state)
  cases fault with
  | system report =>
      unfold judgeRemoval
      simp only
      split
      · exact failsOnly_bind (failsOnly_note _ _) fun _ => failsOnly_pure _
      · exact refused
  | embeddedNull => exact refused
  | unencodable => exact refused
  | tooDeep => exact refused

theorem failsOnly_addFeatures (requested : List Feature) :
    FailsOnly allowed (site.addFeatures project requested) := by
  unfold addFeatures
  simp only
  split
  · exact failsOnly_bind (failsOnly_note _ _) fun _ => failsOnly_pure _
  · exact failsOnly_bind (failsOnly_renew tolerates concerned) fun _ => failsOnly_pure _

theorem failsOnly_answeredRemoval (dropped : List Feature) (answer : Bool) :
    FailsOnly allowed (site.answeredRemoval project dropped (.ok answer)) := by
  unfold answeredRemoval
  split
  · exact failsOnly_bind (failsOnly_note _ _) fun _ => failsOnly_pure _
  · split
    · cases answer with
      | true =>
          exact failsOnly_bind (failsOnly_delete tolerates concerned) fun _ => failsOnly_pure _
      | false => exact failsOnly_bind (failsOnly_note _ _) fun _ => failsOnly_pure _
    · exact failsOnly_bind (failsOnly_renew tolerates concerned) fun _ => failsOnly_pure _

end Chosen

end Tolerates

theorem failsOnly_load : FailsOnly (site.Trouble chosen) site.store.load := by
  refine failsOnly_bind (failsOnly_present tolerates_trouble) fun there => ?_
  cases there with
  | false => exact failsOnly_bind (failsOnly_note _ _) fun _ => failsOnly_pure _
  | true =>
      refine failsOnly_bind (failsOnly_members tolerates_trouble) fun members => ?_
      cases verdict : site.store.projectIn members with
      | error failure =>
          refine failsOnly_throw fun state => ?_
          unfold Store.projectIn at verdict
          split at verdict
          · cases verdict
          · split at verdict
            · cases verdict
            · cases verdict
              exact .reported rfl (fun question same => by cases same) _
      | ok found =>
          cases found with
          | none => exact failsOnly_bind (failsOnly_note _ _) fun _ => failsOnly_pure _
          | some project => exact failsOnly_pure _

end Site

/-- Whether the caller of a removal gives an answer if it is asked. -/
def ArtifactCall.answers : ArtifactCall → Prop
  | .remove _ _ answer => ∃ agreed, answer = .ok agreed
  | _ => True

/-- A call whose caller answers fails with nothing else. -/
theorem ArtifactCall.failsOnly_run {site : Site} {call : ArtifactCall} {chosen : Text → Prop}
    (answers : call.answers) (concerned : chosen call.project.directory) :
    FailsOnly (site.Trouble chosen) (call.run site) := by
  cases call with
  | materialize project replace =>
      have taken : ∀ after, site.Trouble chosen (.directoryExists (site.splitDirectory project)) after :=
        fun after => .reported rfl (fun question same => by cases same) after
      exact failsOnly_bind
        (Site.failsOnly_materialize Site.tolerates_trouble concerned fun _ => taken)
        fun _ => failsOnly_pure _
  | add project requested =>
      exact failsOnly_bind (Site.failsOnly_addFeatures Site.tolerates_trouble concerned requested)
        fun _ => failsOnly_pure _
  | remove project dropped answer =>
      obtain ⟨agreed, rfl⟩ := answers
      rw [run_remove]
      exact failsOnly_bind
        (Site.failsOnly_answeredRemoval Site.tolerates_trouble concerned dropped agreed)
        fun _ => failsOnly_pure _
  | delete project =>
      exact failsOnly_bind (Site.failsOnly_delete Site.tolerates_trouble concerned)
        fun _ => failsOnly_pure _

end HelperKit
