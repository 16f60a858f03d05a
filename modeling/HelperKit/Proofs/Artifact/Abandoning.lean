import HelperKit.Proofs.Artifact.Groundwork
import HelperKit.Proofs.Artifact.Merging
import HelperKit.Proofs.Artifact.Trouble

/-!
# Calls that are abandoned

A call that fails in its work on the artifact leaves the settings document as it was.  One of
these failures is that a directory exists.  It comes from one place, before anything was done,
and only a call that writes an artifact for the first time gets there.
-/

namespace HelperKit

open Attempt

variable {site : Site} {project : Project} {before after : Workspace} {path : Path}

/-- A failure is not that a directory exists. -/
def NotTaken (failure : Failure) (_ : Workspace) : Prop :=
  ∀ path, failure ≠ .directoryExists path

theorem notTaken_ofFault (fault : Fault) (after : Workspace) : NotTaken (.ofFault fault) after := by
  intro path same
  cases fault <;> cases same

namespace Site

/-- Whatever else a call comes upon is told as something else. -/
theorem tolerates_notTaken : site.Tolerates (fun _ => True) NotTaken where
  refused {place fault after} operation _ _ := by
    intro path same
    cases fault <;> cases same
  unanswered after _ _ := notTaken_ofFault _ after
  undecoded {bytes failure after} _ failed := by
    rintro path rfl
    unfold Store.decode at failed
    split at failed
    · cases failed
    · split at failed <;> cases failed
  missing {name disk failure} _ _ failed := by
    rintro path rfl
    unfold Template.current at failed
    split at failed
    · cases failed
    · split at failed
      · split at failed <;> cases failed
      · split at failed
        · cases failed
        · split at failed <;> cases failed

/-- The split directory is taken when something is there that may not be replaced. -/
theorem prepareDirectory_taken_iff {replace : Bool} (layout : project.layout = .splitFiles) :
    site.prepareDirectory project replace before = (.error (.directoryExists path), after) ↔
      replace = false ∧ (∃ entry, before.disk.status (site.splitDirectory project) = .ok entry) ∧
        path = site.splitDirectory project ∧ after = before := by
  have found : before.disk.pathExists (site.splitDirectory project) = .ok true ↔
      ∃ entry, before.disk.status (site.splitDirectory project) = .ok entry := by
    rw [Disk.pathExists, Disk.test_eq_true_iff]
    simp
  unfold prepareDirectory
  rw [← found, bind_apply, mapError_apply, Access.ask_apply]
  cases before.disk.pathExists (site.splitDirectory project) with
  | error fault =>
      constructor
      · intro failed
        exact absurd (Except.error.inj (congrArg Prod.fst failed))
          (notTaken_ofFault fault before path)
      · rintro ⟨-, there, -⟩
        cases there
  | ok there =>
      cases there with
      | true =>
          cases replace with
          | true =>
              constructor
              · intro failed
                cases failed
              · rintro ⟨replaced, -⟩
                cases replaced
          | false =>
              constructor
              · intro failed
                cases failed
                exact ⟨rfl, rfl, rfl, rfl⟩
              · rintro ⟨-, -, rfl, rfl⟩
                rfl
      | false =>
          have directory : site.splitDirectory project ∈ site.destinations project := by
            simp [destinations, layout]
          -- Only the test says that the directory is taken; what making it fails with is told
          -- otherwise.
          have makes := failsOnly_refused tolerates_notTaken (.destination trivial directory)
            .createDirectory (Access.refusedOnly_makeDirectory (site.splitDirectory project)).faulted
          constructor
          · intro failed
            exact absurd rfl (makes _ _ _ failed path)
          · rintro ⟨-, there, -⟩
            cases there

/-- An artifact is not written with a directory that exists exactly when it may not be replaced, and
this is found before anything is done. -/
theorem writeArtifact_taken_iff {replace : Bool} :
    site.writeArtifact project replace before = (.error (.directoryExists path), after) ↔
      project.layout = .splitFiles ∧ replace = false ∧
        (∃ entry, before.disk.status (site.splitDirectory project) = .ok entry) ∧
        path = site.splitDirectory project ∧ after = before := by
  unfold writeArtifact
  cases layout : project.layout with
  | singleFile =>
      have fails : FailsOnly NotTaken (site.writeSingleFile project >>= fun target =>
          (pure [target] : Job (List Path))) :=
        failsOnly_bind (failsOnly_writeSingleFile tolerates_notTaken trivial layout) fun _ =>
          failsOnly_pure _
      constructor
      · intro failed
        exact absurd rfl (fails _ _ _ failed path)
      · rintro ⟨split, -⟩
        cases split
  | splitFiles =>
      simp only [true_and]
      rw [writeSplitFiles_eq, ← prepareDirectory_taken_iff layout, bind_eq_error_iff]
      constructor
      · rintro (failed | ⟨_, prepared, -, failed⟩)
        · exact failed
        · have fails : FailsOnly NotTaken (project.features.mapM (site.writeFeature project) >>=
              fun written => note .info ("Wrote " ++ Text.ofNat written.length ++ " file(s) to " ++
                (site.splitDirectory project).toText) >>= fun _ => pure written) :=
            failsOnly_bind (failsOnly_writeFeatures tolerates_notTaken trivial layout)
              fun _ => failsOnly_bind (failsOnly_note _ _) fun _ => failsOnly_pure _
          exact absurd rfl (fails _ _ _ failed path)
      · exact .inl

theorem materialize_taken_iff {replace : Bool} :
    site.materialize project replace before = (.error (.directoryExists path), after) ↔
      project.layout = .splitFiles ∧ replace = false ∧
        (∃ entry, before.disk.status (site.splitDirectory project) = .ok entry) ∧
        path = site.splitDirectory project ∧ after = before := by
  rw [← writeArtifact_taken_iff, materialize_eq, bind_eq_error_iff]
  constructor
  · rintro (failed | ⟨written, between, -, failed⟩)
    · exact failed
    · have fails : FailsOnly NotTaken (site.store.save project >>= fun _ =>
          (pure written : Job (List Path))) :=
        failsOnly_bind (failsOnly_save tolerates_notTaken project) fun _ => failsOnly_pure _
      exact absurd rfl (fails _ _ _ failed path)
  · exact .inl

/-- A removal fails with a directory that exists only if its caller does. -/
theorem notTaken_answeredRemoval {dropped : List Feature} {answer : Except Failure Bool}
    (answers : answer ≠ .error (.directoryExists path)) :
    (site.answeredRemoval project dropped answer before).1 ≠ .error (.directoryExists path) := by
  intro failed
  obtain ⟨after, failed⟩ := exists_eq_mk failed
  cases answer with
  | ok agreed =>
      exact failsOnly_answeredRemoval tolerates_notTaken trivial dropped agreed _ _ _ failed path rfl
  | error failure =>
      unfold answeredRemoval at failed
      split at failed
      · cases failed
      · split at failed
        · cases failed
          exact answers rfl
        · have renews : FailsOnly NotTaken (site.renew (project.withFeatures
              (project.remainder dropped) ‹_›) >>= fun _ => (pure (.updated (project.withFeatures
                (project.remainder dropped) ‹_›)) : Job Removal)) :=
            failsOnly_bind (failsOnly_renew tolerates_notTaken trivial) fun _ => failsOnly_pure _
          exact renews _ _ _ failed path rfl

end Site

namespace ArtifactCall

variable {call : ArtifactCall} {failure : Failure}

theorem run_of_groundwork (failed : call.groundwork site before = (.error failure, after)) :
    call.run site before = (.error failure, after) := by
  rw [run_eq_settle]
  exact bind_eq_error_iff.mpr (.inl failed)

/-- Where the document lies outside the artifact and its path has no step upwards, work that fails
spares the document.  What is loaded is as before, unless new directories on the way to a split
directory let the path of the document get as far as a name that is too long. -/
theorem record_of_groundwork (sound : before.disk.Sound)
    (plain : Path.parentPart ∉ site.config.settingsFile.parts)
    (outside : site.Outside call.project before.disk)
    (failed : call.groundwork site before = (.error failure, after)) :
    (∀ bytes, after.disk.entries (site.documentLocation before.disk) = some (.file bytes) ↔
      before.disk.entries (site.documentLocation before.disk) = some (.file bytes)) ∧
    ((site.store.load after).1 = (site.store.load before).1 ∨
      call.MayPave ∧ (∃ name ∈ site.config.settingsFile.parts, Name.isTooLong name = true) ∧
        (site.store.load before).1 = .ok none ∧
        (site.store.load after).1 =
          .error (.system { errno := .nameTooLong, path := site.config.settingsFile })) := by
  have ended : (call.groundwork site before).2 = after := congrArg Prod.snd failed
  have home : before.disk.home = after.disk.home := by
    have same : (call.run site before).2.disk.home = before.disk.home := home_run
    rw [run_of_groundwork failed] at same
    exact same.symm
  have furnished : ∀ station ∈ before.disk.reach site.config.settingsFile,
      Disk.FurnishedAt before.disk after.disk station ∧
        (¬ call.MayPave → after.disk.entries station = before.disk.entries station) := by
    intro station reached
    have above := Disk.prefix_target_of_mem_reach plain reached
    rw [← ended]
    exact furnished_of_groundwork fun below => outside (below.trans above)
  refine ⟨fun bytes => (furnished _ (Disk.target_mem_reach _ _)).1.file_iff, ?_⟩
  by_cases mayPave : call.MayPave
  · rcases site.store.load_furnished sound plain home fun station reached =>
        (furnished station reached).1 with same | ⟨long, none, lost⟩
    · exact .inl same
    · exact .inr ⟨mayPave, long, none, lost⟩
  · exact .inl (Store.load_of_status (Disk.status_congr home fun station reached =>
      ((furnished station reached).2 mayPave).symm).symm)

/-- No record is kept of an artifact that was not written.  A call turns to the record when its
work on the artifact is done.  If that work fails, the call ends with the failure and leaves the
settings document as it was; what is loaded stays the same, unless a name on the way to the
document is too long.  That a directory exists is told exactly by a first writing of a split
directory in a place where something is, and nothing has happened then.  Features are added and
removed without that failure. -/
theorem failed_work_keeps_record (site : Site) (before : Workspace) :
    (∀ call : ArtifactCall, call.run site = call.groundwork site >>= settle site) ∧
    (∀ (call : ArtifactCall) failure after, before.disk.Sound →
      Path.parentPart ∉ site.config.settingsFile.parts → site.Outside call.project before.disk →
      call.groundwork site before = (.error failure, after) →
      call.run site before = (.error failure, after) ∧
      (∀ bytes, after.disk.entries (site.documentLocation before.disk) = some (.file bytes) ↔
        before.disk.entries (site.documentLocation before.disk) = some (.file bytes)) ∧
      ((site.store.load after).1 = (site.store.load before).1 ∨
        call.MayPave ∧ (∃ name ∈ site.config.settingsFile.parts, Name.isTooLong name = true) ∧
          (site.store.load before).1 = .ok none ∧
          (site.store.load after).1 =
            .error (.system { errno := .nameTooLong, path := site.config.settingsFile }))) ∧
    (∀ project replace path after,
      site.materialize project replace before = (.error (.directoryExists path), after) ↔
        project.layout = .splitFiles ∧ replace = false ∧
          (∃ entry, before.disk.status (site.splitDirectory project) = .ok entry) ∧
          path = site.splitDirectory project ∧ after = before) ∧
    (∀ project requested path,
      (site.addFeatures project requested before).1 ≠ .error (.directoryExists path)) ∧
    ∀ (σ : Type) (confirm : σ → Except Failure Bool × σ) caller project dropped path,
      (confirm caller).1 ≠ .error (.directoryExists path) →
      (site.removeFeatures project dropped confirm (before, caller)).1 ≠
        .error (.directoryExists path) := by
  refine ⟨run_eq_settle site, fun call failure after sound plain outside failed =>
      ⟨run_of_groundwork failed, record_of_groundwork sound plain outside failed⟩,
    fun project replace path after => Site.materialize_taken_iff,
    fun project requested path failed => ?_,
    fun σ confirm caller project dropped path answers failed => ?_⟩
  · obtain ⟨after, failed⟩ := Site.exists_eq_mk failed
    exact Site.failsOnly_addFeatures Site.tolerates_notTaken trivial requested _ _ _ failed path rfl
  · have never : (site.answeredRemoval project dropped (confirm caller).1 before).1 ≠
        .error (.directoryExists path) := Site.notTaken_answeredRemoval answers
    rw [← site.removeFeatures_apply project dropped confirm before caller] at never
    exact never failed

/-- A disk with nothing but its root. -/
def bareDisk : Disk where
  entries location := if location = [] then some .directory else none
  home := []

theorem sound_bareDisk : bareDisk.Sound := by
  refine ⟨rfl, fun location occupied => ?_⟩
  simp only [bareDisk, ne_eq, ite_eq_right_iff, reduceCtorEq, imp_false, not_not] at occupied
  exact .inl occupied

/-- A feature is to be added to a split directory that is not there, without any template. -/
def hopelessCall : ArtifactCall :=
  .add ⟨.deno, "x", .preset .core, .splitFiles⟩ [.option]

/-- The call fails after the directory was made. -/
theorem failed_work_keeps_record_hopeless :
    let site : Site := ⟨.standard, .directory (.ofText "tpl")⟩
    let before := Workspace.on bareDisk .warning
    ∃ failure after, hopelessCall.run site before = (.error failure, after) ∧
      after.disk.isDirectory (site.artifact hopelessCall.project) = .ok true ∧
      (∀ bytes, after.disk.entries (site.documentLocation before.disk) = some (.file bytes) ↔
        before.disk.entries (site.documentLocation before.disk) = some (.file bytes)) ∧
      (site.store.load after).1 = (site.store.load before).1 := by
  intro site before
  have failed : (hopelessCall.groundwork site before).1 =
      .error (.templateMissing "core.ts" (.notFound "tpl")) := by decide +kernel
  have made : (hopelessCall.groundwork site before).2.disk.isDirectory
      (site.artifact hopelessCall.project) = .ok true := by decide +kernel
  have outside : site.Outside hopelessCall.project before.disk := by
    unfold Site.Outside
    decide +kernel
  have short : ¬ ∃ name ∈ site.config.settingsFile.parts, Name.isTooLong name = true := by
    decide +kernel
  obtain ⟨after, failed⟩ := Site.exists_eq_mk failed
  obtain ⟨ended, bytes, loaded⟩ := (failed_work_keeps_record site before).2.1 hopelessCall _ after
    sound_bareDisk (by decide +kernel) outside failed
  rw [failed] at made
  exact ⟨_, after, ended, made, bytes, loaded.resolve_right fun lost => short lost.2.1⟩

/-- The name of the settings document is too long, and the directory that it was to lie in is not
there at first.  The call that fails has made it, and from then on loading fails. -/
theorem way_made_by_failed_work :
    let settingsFile : Path :=
      ⟨.workingDirectory, [Text.ofString "x", List.replicate 256 (CodePoint.char 'a')]⟩
    let site : Site := ⟨{ Config.standard with settingsFile }, .directory (.ofText "tpl")⟩
    let before := Workspace.on bareDisk .warning
    before.disk.Sound ∧ Path.parentPart ∉ site.config.settingsFile.parts ∧
      ¬ site.artifactLocation hopelessCall.project before.disk <+: site.documentLocation before.disk ∧
      ¬ site.documentLocation before.disk <+: site.artifactLocation hopelessCall.project before.disk ∧
      ∃ failure after, hopelessCall.groundwork site before = (.error failure, after) ∧
        hopelessCall.run site before = (.error failure, after) ∧
        (site.store.load before).1 = .ok none ∧ (site.store.load after).1 ≠ .ok none := by
  intro settingsFile site before
  have failed : (hopelessCall.groundwork site before).1 =
      .error (.templateMissing "core.ts" (.notFound "tpl")) := by decide +kernel
  have lost : (site.store.load (hopelessCall.groundwork site before).2).1 ≠ .ok none := by
    decide +kernel
  obtain ⟨after, failed⟩ := Site.exists_eq_mk failed
  rw [failed] at lost
  exact ⟨sound_bareDisk, by decide +kernel, by decide +kernel, by decide +kernel, _, after, failed,
    run_of_groundwork failed, by decide +kernel, lost⟩

end ArtifactCall

end HelperKit
