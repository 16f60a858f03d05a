import HelperKit.Proofs.Artifact.InStep
import HelperKit.Proofs.Upkeep.Handlers

/-!
# A session knows what is stored

A session calls handlers one after the other.  It has the project that the last one returned,
and keeps its own when a handler is cancelled.  What it has is at any time what the settings
document says, whatever the handlers were told.
-/

namespace HelperKit

theorem Site.load_of_renew {site : Site} {project : Project} {before after : Workspace}
    (returned : site.renew project before = (.ok (), after)) :
    (site.store.load after).1 = .ok (some project) := by
  obtain ⟨_, _, -, writing⟩ := renew_eq_ok returned
  obtain ⟨_, -, saving⟩ := materialize_eq_ok writing
  exact Store.load_of_save saving

/-- What every step of a run keeps holds after the run. -/
theorem foldlM_invariant {α β : Type} {step : β → α → Option β} (invariant : β → Prop)
    (keeps : ∀ state item next, invariant state → step state item = some next → invariant next)
    {items : List α} {start final : β} (initially : invariant start)
    (ran : items.foldlM step start = some final) : invariant final := by
  induction items generalizing start with
  | nil =>
      cases ran
      exact initially
  | cons item items induction =>
      rw [List.foldlM_cons] at ran
      obtain ⟨next, stepped, further⟩ := Option.bind_eq_some_iff.mp ran
      exact induction (keeps start item next initially stepped) further

namespace Upkeep

/-- A session: its project, which is none once the artifact was deleted, and the workspace. -/
structure Session where
  project? : Option Project
  workspace : Workspace

namespace Session

/-- The session after the handler of a task was called at a terminal, if it returned or was
cancelled.  Without a project no handler is called. -/
def call? (site : Site) (session : Session) (turn : Task × Terminal) : Option Session :=
  session.project?.bind fun project =>
    match handle site turn.1 project (session.workspace, turn.2) with
    | (.ok left, workspace, _) => some ⟨left, workspace⟩
    | (.error (.cancelled _), workspace, _) => some ⟨some project, workspace⟩
    | (.error _, _, _) => none

/-- A session has the project that is stored.  It never turned into one for another runtime,
another directory or another layout than the first one was for. -/
structure Tracks (site : Site) (first : Project) (session : Session) : Prop where
  stored : (site.store.load session.workspace).1 = .ok session.project?
  same : ∀ project, session.project? = some project → project.runtime = first.runtime ∧
    project.directory = first.directory ∧ project.layout = first.layout

variable {site : Site} {first project : Project} {session next : Session} {turn : Task × Terminal}
  {before after : Workspace}

/-- What a call of a handler reports is what is stored then. -/
theorem stored_of_run {call : ArtifactCall} {report : Report} (makes : Makes project call)
    (stored : (site.store.load before).1 = .ok (some project))
    (running : call.run site before = (.ok report, after)) :
    (site.store.load after).1 = .ok report.project? ∧
      ∀ left, report.project? = some left → left.runtime = project.runtime ∧
        left.directory = project.directory ∧ left.layout = project.layout := by
  have about := makes.project_eq
  cases ArtifactCall.did_of_run running with
  | wrote same writing =>
      subst same
      cases makes
  | renewed renewing =>
      refine ⟨Site.load_of_renew renewing, fun left same => ?_⟩
      cases same
      rw [about]
      exact ⟨rfl, rfl, rfl⟩
  | deleted deleting =>
      refine ⟨(Site.gone_of_delete deleting).1, fun left impossible => ?_⟩
      cases impossible
  | kept reaches =>
      rw [about]
      refine ⟨(Store.load_congr reaches.disk).trans stored, fun left same => ?_⟩
      cases same
      exact ⟨rfl, rfl, rfl⟩

/-- A session knows what is stored after one more call. -/
theorem Tracks.call? (tracks : Tracks site first session)
    (called : session.call? site turn = some next) : Tracks site first next := by
  obtain ⟨task, terminal⟩ := turn
  unfold Session.call? at called
  cases current : session.project? with
  | none =>
      rw [current] at called
      cases called
  | some project =>
      have stored := tracks.stored
      have origin := tracks.same project current
      rw [current] at called stored
      simp only [Option.bind_some] at called
      have kept : Tracks site first ⟨some project, session.workspace⟩ := by
        refine ⟨stored, fun other same => ?_⟩
        cases same
        exact origin
      cases reached : handle site task project (session.workspace, terminal) with
      | mk result rest =>
          obtain ⟨workspace, final⟩ := rest
          rw [reached] at called
          -- A call that failed ends the session; a question given up leaves the project as it was.
          cases handled reached with
          | givenUp consulted =>
              rename_i failure
              cases failure <;> cases called
              exact kept
          | declined consulted =>
              cases called
              exact kept
          | failed consulted running =>
              rename_i call failure
              have makes := makes_of_consult task project terminal _ _ consulted call rfl
              have trouble : site.Trouble (fun _ => True) failure workspace :=
                ArtifactCall.failsOnly_run makes.answers trivial _ _ _ running
              cases failure with
              | cancelled question => exact absurd rfl (trouble.uncancelled question)
              | _ => cases called
          | returned consulted running told =>
              cases called
              have makes := makes_of_consult task project terminal _ _ consulted _ rfl
              obtain ⟨tracked, alike⟩ := stored_of_run makes stored running
              refine ⟨tracked, fun left same => ?_⟩
              obtain ⟨runtime, directory, layout⟩ := alike left same
              exact ⟨runtime.trans origin.1, directory.trans origin.2.1, layout.trans origin.2.2⟩

/-- After every run of calls a session has the project that is stored, none exactly when
nothing is stored.  The project stays one for the same runtime, directory and layout, and has
features, none of them twice. -/
theorem tracks_after_run (site : Site) (first : Project) (workspace : Workspace)
    (turns : List (Task × Terminal)) (after : Session)
    (opened : (site.store.load workspace).1 = .ok (some first))
    (ran : turns.foldlM (call? site) ⟨some first, workspace⟩ = some after) :
    (site.store.load after.workspace).1 = .ok after.project? ∧
      ∀ project, after.project? = some project →
        project.runtime = first.runtime ∧ project.directory = first.directory ∧
          project.layout = first.layout ∧ project.features ≠ [] ∧ project.features.Nodup := by
  have start : Tracks site first ⟨some first, workspace⟩ := by
    refine ⟨opened, fun project same => ?_⟩
    cases same
    exact ⟨rfl, rfl, rfl⟩
  obtain ⟨stored, same⟩ := foldlM_invariant (Tracks site first)
    (fun _ _ _ tracks called => tracks.call? called) start ran
  refine ⟨stored, fun project known => ?_⟩
  obtain ⟨runtime, directory, layout⟩ := same project known
  exact ⟨runtime, directory, layout, project.features_ne_nil, project.nodup_features⟩

/-- A disk with nothing in its root but the settings document, which holds a record. -/
def recordedDisk : Disk where
  entries location :=
    if location = [] then some .directory
    else if location = [Text.ofString "copy-paste.json"] then
      (Json.object [(Text.ofString "crabSafe", Site.rootProject.toRecord)]).toDocument.encode?.map
        .file
    else none
  home := []

theorem load_recordedDisk :
    ((Site.store ⟨.standard, .shipped⟩).load (Workspace.on recordedDisk .warning)).1 =
      .ok (some Site.rootProject) := by
  have answered : recordedDisk.isFile (.ofText "copy-paste.json") = .ok true := by decide +kernel
  obtain ⟨bytes, read⟩ := Disk.isFile_eq_true_iff_read.mp answered
  have file := (Disk.read_eq_ok_iff.mp read).2
  have place : recordedDisk.target (.ofText "copy-paste.json") =
      [Text.ofString "copy-paste.json"] := by decide
  rw [place] at file
  simp only [recordedDisk, List.cons_ne_nil, if_false, if_true] at file
  obtain ⟨_, encoded, same⟩ := Option.map_eq_some_iff.mp file
  cases same
  -- The record is the only member, as if it was stored in a document without any.
  have recorded : [(Text.ofString "crabSafe", Site.rootProject.toRecord)] =
      Members.put [] "crabSafe" Site.rootProject.toRecord := rfl
  rw [recorded] at encoded
  have known := Members.ofFile?_toDocument (Members.Storable.nil.put _ _) encoded
  have holds : (Workspace.on recordedDisk .warning).disk.Holds
      (Site.store ⟨.standard, .shipped⟩).path
      (Members.put [] "crabSafe" Site.rootProject.toRecord) := .inr ⟨bytes, read, known⟩
  exact (Store.load_of_holds holds answered).1.trans Store.projectIn_put

/-- Nothing is selected for removal, the deletion is interrupted, and then agreed to. -/
def threeTurns : List (Task × Terminal) :=
  [(.remove, { answers := [.line []] }), (.delete, { answers := [.interrupt] }),
    (.delete, { answers := [.line "y"] })]

theorem tracks_after_run_three_turns :
    let site : Site := ⟨.standard, .shipped⟩
    let start := Workspace.on recordedDisk .warning
    ∃ after, threeTurns.foldlM (call? site) ⟨some Site.rootProject, start⟩ = some after ∧
      after.project? = none ∧ (site.store.load after.workspace).1 = .ok none := by
  intro site start
  have returns : (threeTurns.foldlM (call? site) ⟨some Site.rootProject, start⟩).map
      Session.project? = some none := by decide +kernel
  obtain ⟨after, ran, gone⟩ := Option.map_eq_some_iff.mp returns
  obtain ⟨stored, -⟩ := tracks_after_run site Site.rootProject start threeTurns after load_recordedDisk ran
  rw [gone] at stored
  exact ⟨after, ran, gone, stored⟩

end Session

end Upkeep

end HelperKit
