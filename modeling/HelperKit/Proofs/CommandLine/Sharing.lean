import HelperKit.Proofs.Artifact.Renewal
import HelperKit.Proofs.CommandLine.Lifecycle
import HelperKit.Proofs.Settings.Sharing

/-!
# What other tools keep in the document

A run that is done has written or removed an artifact, and has then put its own member into the
document or taken it away.  The members of other tools stay as long as the artifact does not
take the document along with it: the document must not be the merged file, and its path must
not lead into the split directory, nor even through it when the directory is deleted.
-/

namespace HelperKit

open Attempt

namespace Disk

variable {disk : Disk} {path : Path} {bytes : ByteArray} {effect : Effect} {members : Members}

theorem read_apply_of_spares (read : disk.read path = .ok bytes)
    (spares : ∀ station ∈ disk.reach path, effect.Spares station) :
    (disk.apply effect).read path = .ok bytes := by
  obtain ⟨opens, file⟩ := read_eq_ok_iff.mp read
  rw [read_eq_ok_iff, target_congr (disk.apply_home effect)]
  refine ⟨opens.apply fun way member => spares way (mem_reach_iff.mpr (.inl member)), ?_⟩
  rw [entries_apply_of_spares (spares _ (disk.target_mem_reach path))]
  exact file

theorem directory_or_file_of_read (read : disk.read path = .ok bytes) {station : Location}
    (reached : station ∈ disk.reach path) : disk.entries station = some .directory ∨
      station = disk.target path ∧ disk.entries station = some (.file bytes) := by
  obtain ⟨opens, file⟩ := read_eq_ok_iff.mp read
  rcases mem_reach_iff.mp reached with onTheWay | rfl
  · exact .inl (opens.passable station onTheWay)
  · exact .inr ⟨rfl, file⟩

theorem occupied_of_read (read : disk.read path = .ok bytes) {station : Location}
    (reached : station ∈ disk.reach path) : disk.entries station ≠ none := by
  rcases directory_or_file_of_read read reached with directory | ⟨-, file⟩
  · simp [directory]
  · simp [file]

/-- The document of a store holds some members, except that the member of the store itself may be
another one, or none. -/
def HoldsOthers (disk : Disk) (store : Store) (members : Members) : Prop :=
  ∃ left, disk.Holds store.path left ∧ left.erase store.key = members.erase store.key

theorem HoldsOthers.erase_eq_nil {store : Store} (holds : disk.HoldsOthers store members)
    (absent : disk.isFile store.path ≠ .ok true) : members.erase store.key = [] := by
  obtain ⟨left, holds, same⟩ := holds
  rw [← same, Classical.byContradiction fun nonempty => absent (holds.isFile_of_mem nonempty)]
  rfl

end Disk

theorem StoreCall.Returns.holdsOthers {path : Path} {before after : Workspace} {call : StoreCall}
    {members : Members} (returned : Returns path before call after)
    (holds : before.disk.Holds path members) :
    after.disk.HoldsOthers ⟨path, call.key⟩ members :=
  ⟨turn members call, (returned.refines holds).1, erase_turn members call⟩

namespace Site

variable {site : Site} {project : Project} {disk : Disk} {effect : Effect}
  {bytes : ByteArray} {members : Members} {before after : Workspace}

/-! ## Out of the reach of an artifact -/

/-- The document is not the merged file, and its path does not lead into the split directory. -/
def Sheltered (site : Site) (project : Project) (disk : Disk) : Prop :=
  match project.layout with
  | .singleFile => site.documentLocation disk ≠ site.artifactLocation project disk
  | .splitFiles => site.Apart project disk

/-- The document is not in the split directory, and its path leads through the directory alone, and
not through what is in it. -/
structure Skirts (site : Site) (project : Project) (disk : Disk) : Prop where
  split : project.layout = .splitFiles
  outside : site.Outside project disk
  through : ∀ way ∈ disk.ways site.config.settingsFile,
    site.artifactLocation project disk <+: way → way = site.artifactLocation project disk

theorem Sheltered.congr {other : Disk} (sheltered : site.Sheltered project disk)
    (home : disk.home = other.home) : site.Sheltered project other := by
  unfold Sheltered at sheltered ⊢
  cases layout : project.layout with
  | singleFile =>
      rw [layout] at sheltered
      rw [← documentLocation_congr home, ← artifactLocation_congr home]
      exact sheltered
  | splitFiles =>
      rw [layout] at sheltered
      exact sheltered.congr home

/-- What is done to a merged file is done to no directory, and to no other file. -/
theorem Touches.location_of_single (touches : site.Touches project disk effect)
    (single : project.layout = .singleFile) :
    disk.entries (site.artifactLocation project disk) ≠ some .directory ∧
      ∀ location, location ≠ site.artifactLocation project disk → effect.Spares location := by
  cases touches with
  | clears clears =>
      cases clears with
      | file single removing =>
          obtain ⟨-, ⟨bytes, file⟩, rfl⟩ := Disk.removingFile_eq_ok removing
          refine ⟨?_, fun location differ => ⟨differ, fun created => absurd rfl created⟩⟩
          rw [artifactLocation, file]
          exact fun impossible => by cases impossible
      | tree split => exact absurd (single.symm.trans split) (by decide)
  | paves paves => exact absurd (single.symm.trans paves.1) (by decide)
  | builds builds =>
      cases builds with
      | directory split => exact absurd (single.symm.trans split) (by decide)
      | file content part opening =>
          unfold files at part
          rw [single] at part
          rw [List.mem_singleton.mp part] at opening
          obtain ⟨-, rfl, noDirectory, -⟩ := Disk.openingFile_eq_ok opening
          rw [artifactLocation_of_single single]
          exact ⟨noDirectory, fun location differ => ⟨id, fun _ => differ⟩⟩

/-- Nothing that is done to the artifact is done to the document or on the way to it. -/
theorem Touches.spares_document (touches : site.Touches project disk effect)
    (sheltered : site.Sheltered project disk)
    (read : disk.read site.config.settingsFile = .ok bytes) {station : Location}
    (reached : station ∈ disk.reach site.config.settingsFile) : effect.Spares station := by
  unfold Sheltered at sheltered
  cases layout : project.layout with
  | singleFile =>
      rw [layout] at sheltered
      obtain ⟨noDirectory, elsewhere⟩ := touches.location_of_single layout
      refine elsewhere station ?_
      rcases Disk.directory_or_file_of_read read reached with directory | ⟨rfl, -⟩
      · rintro rfl
        exact noDirectory directory
      · exact sheltered
  | splitFiles =>
      rw [layout] at sheltered
      exact touches.spares (Disk.occupied_of_read read reached) (sheltered station reached)

/-- Whatever only touches the artifact leaves the document as it is. -/
theorem holds_of_touches {ε α : Type} {operation : Attempt ε α} {result : Except ε α}
    (acts : ActsOn (site.Touches project) operation before)
    (sheltered : site.Sheltered project before.disk)
    (read : before.disk.read site.config.settingsFile = .ok bytes)
    (known : Members.ofFile? bytes = some members) (ran : operation before = (result, after)) :
    after.disk.Holds site.config.settingsFile members := by
  obtain ⟨effects, reaches, touches⟩ := acts
  rw [ran] at reaches
  rw [reaches.disk]
  have kept := touches.applyAll
    (fun later => site.Sheltered project later ∧ later.read site.config.settingsFile = .ok bytes)
    ⟨sheltered, read⟩ fun later effect both touches =>
      ⟨both.1.congr (later.apply_home effect).symm,
        Disk.read_apply_of_spares both.2 fun _ reached =>
          touches.spares_document both.1 both.2 reached⟩
  exact .inr ⟨bytes, kept.2, known⟩

/-- Whatever touches an artifact that is written afterwards leaves the document as it is. -/
theorem holds_of_written {job : Job (List Path)} {paths : List Path} {selection : Selection}
    (acts : ActsOn (site.Touches { project with selection }) job before)
    (spared : site.Sheltered project before.disk ∨ site.Skirts project before.disk)
    (read : before.disk.read site.config.settingsFile = .ok bytes)
    (known : Members.ofFile? bytes = some members) (ran : job before = (.ok paths, after))
    (written : site.Written { project with selection } after) :
    after.disk.Holds site.config.settingsFile members := by
  rcases spared with sheltered | skirts
  · have still : site.Sheltered { project with selection } before.disk := sheltered
    exact holds_of_touches acts still read known ran
  · exact .inr ⟨bytes, read_of_written acts skirts.outside
      (fun way member inside => ⟨skirts.split, skirts.through way member inside⟩) read ran written,
      known⟩

/-- A split directory that is created anew is on the way to no file. -/
theorem sheltered_of_materialize {paths : List Path} (sound : before.disk.Sound)
    (read : before.disk.read site.config.settingsFile = .ok bytes)
    (beside : project.layout = .singleFile →
      site.documentLocation before.disk ≠ site.artifactLocation project before.disk)
    (returned : site.materialize project false before = (.ok paths, after)) :
    site.Sheltered project before.disk := by
  unfold Sheltered
  cases layout : project.layout with
  | singleFile => exact beside layout
  | splitFiles =>
      obtain ⟨between, writing, -⟩ := materialize_eq_ok returned
      simp only [writeArtifact, layout, writeSplitFiles_eq] at writing
      obtain ⟨_, prepared, preparing, -⟩ := bind_eq_ok_iff.mp writing
      rcases prepareDirectory_eq_ok preparing with ⟨-, impossible, -⟩ | ⟨effect, making, -⟩
      · cases impossible
      · obtain ⟨-, -, vacant, -⟩ := Disk.makingDirectory_eq_ok making
        rw [← artifactLocation_of_split layout] at vacant
        intro station reached inside
        have present := Disk.occupied_of_read read reached
        by_cases here : station = site.artifactLocation project before.disk
        · rw [here] at present
          exact present vacant
        · exact present (sound.none_of_prefix (by simp [vacant]) inside here)

end Site

namespace ArtifactCall

variable {site : Site} {call : ArtifactCall} {report : Report} {before after : Workspace}
  {bytes : ByteArray} {members : Members}

/-- A call that returns leaves the members of others as they are, in a document that is out of reach
of the artifact, or at least of an artifact that is not deleted. -/
theorem holdsOthers_of_run (spared : site.Sheltered call.project before.disk ∨
      (site.Skirts call.project before.disk ∧ report ≠ .deleted call.project))
    (read : before.disk.read site.config.settingsFile = .ok bytes)
    (known : Members.ofFile? bytes = some members)
    (returned : call.run site before = (.ok report, after)) :
    after.disk.HoldsOthers site.store members := by
  have spares : site.Sheltered call.project before.disk ∨ site.Skirts call.project before.disk :=
    spared.imp_right And.left
  have saved : ∀ {between} {project : Project},
      between.disk.Holds site.config.settingsFile members →
        site.store.save project between = (.ok (), after) →
          after.disk.HoldsOthers site.store members := by
    intro between project holds saving
    exact StoreCall.Returns.holdsOthers (.save saving) holds
  -- Up to the document every call only touches the artifact.
  cases did_of_run returned with
  | @wrote project replace paths same writing =>
      subst same
      obtain ⟨between, writing, saving⟩ := Site.materialize_eq_ok writing
      obtain ⟨effects, reaches, builds⟩ :=
        (Site.acts_writeArtifact replace : Acts (site.Builds project) _) before
      have acts : ActsOn (site.Touches { project with selection := project.selection })
          (site.writeArtifact project replace) before :=
        ⟨effects, reaches, builds.mono fun _ _ => .builds⟩
      exact saved (Site.holds_of_written acts spares read known writing
        (Site.writeArtifact_eq_ok writing)) saving
  | renewed renewing =>
      obtain ⟨paths, between, rebuilding, saving⟩ := Site.rebuild_of_renew renewing
      exact saved (Site.holds_of_written Site.actsOn_rebuild spares read known rebuilding
        (Site.written_of_rebuild rebuilding)) saving
  | deleted deleting =>
      have sheltered := spared.resolve_right fun skirts => skirts.2 rfl
      obtain ⟨result, between, judged, removing, judging, forgetting⟩ := Site.delete_eq_ok deleting
      have clears : ActsOn (site.Touches call.project) (site.removeArtifact call.project) before :=
        (Site.clearsFirst_removeArtifact fun _ _ => .clears).actsOn
      have standing := Site.holds_of_touches clears sheltered read known removing
      rw [← (Site.judgeRemoval_eq_ok judging).1] at standing
      exact StoreCall.Returns.holdsOthers (.forget forgetting) standing
  | kept reaches =>
      have same : after.disk = before.disk := reaches.disk
      rw [same]
      exact ⟨members, .inr ⟨bytes, read, known⟩, rfl⟩

end ArtifactCall

namespace CommandLine

open Upkeep

variable {site : Site}

/-- After a deletion nothing is recorded. -/
theorem record?_of_deleted {call : ArtifactCall} {before after : Workspace}
    (running : call.run site before = (.ok (.deleted call.project), after)) :
    record? site after.disk = none := by
  cases ArtifactCall.did_of_run running with
  | deleted deleting =>
      obtain ⟨-, -, judged, -, -, forgetting⟩ := Site.delete_eq_ok deleting
      exact record?_of_vacant ((Store.load_on _ after).trans (Store.load_of_forget forgetting))

/-- A run that is done leaves the members of other tools in the document, with their values and in
their order, and takes the document away only when there are none.  This is so unless the document
is the merged file, or its path leads into the split directory that was recorded; through the
directory itself it may lead as long as something is recorded afterwards. -/
theorem run_keeps_others (invocation : Invocation) (site : Site) (settingsFile : Option Text)
    (verbose : Bool) (disk : Disk) (answers : List Answer) (bytes : ByteArray) (members : Members)
    (given : ofArguments invocation.arguments = .ok (.run settingsFile verbose))
    (examined : invocation.site settingsFile = .ok site) (sound : disk.Sound)
    (read : disk.read site.config.settingsFile = .ok bytes)
    (known : Members.ofFile? bytes = some members)
    (beside : ∀ project,
      record? site (invocation.outcome disk answers).workspace.disk = some project →
        project.layout = .singleFile →
          site.documentLocation disk ≠ site.artifactLocation project disk)
    (spared : ∀ project, record? site disk = some project → site.Sheltered project disk ∨
      (site.Skirts project disk ∧
        record? site (invocation.outcome disk answers).workspace.disk ≠ none))
    (done : (invocation.outcome disk answers).status = .ok .done) :
    let after := (invocation.outcome disk answers).workspace.disk
    let key := site.config.settingsKey
    ∃ left, after.Holds site.config.settingsFile left ∧ left.erase key = members.erase key ∧
      (after.isFile site.config.settingsFile ≠ .ok true → members.erase key = []) := by
  intro after key
  have ran : ∃ level, invocation.outcome disk answers =
      .ofErrand (conclude site) (.on disk level) { answers } := by
    have session := Invocation.outcome_eq given disk answers
    unfold Invocation.session at session
    rw [examined] at session
    simp only at session
    split at session
    · rw [session] at done
      unfold Outcome.ofErrand at done
      rw [halt_eq] at done
      cases done
    · exact ⟨_, session⟩
  have holds : after.HoldsOthers site.store members := by
    obtain ⟨level, ran⟩ := ran
    subst after
    rw [ran] at done beside spared ⊢
    -- A run that is done has made one call at most, behind questions that change nothing.
    rcases call_of_done done with
      same | ⟨between, -, call, report, last, -, same, running, ended, asked⟩
    · rw [same]
      exact ⟨members, .inr ⟨bytes, read, known⟩, rfl⟩
    · rw [← ended] at asked beside spared ⊢
      rw [← same] at read sound beside spared asked
      refine ArtifactCall.holdsOthers_of_run ?_ read known running
      rcases asked with ⟨project, recorded, makes⟩ | ⟨project, recorded, rfl⟩
      · rw [makes.project_eq]
        refine (spared project recorded).imp_right fun ⟨skirts, remains⟩ => ⟨skirts, ?_⟩
        rintro rfl
        rw [← makes.project_eq] at running
        exact remains (record?_of_deleted running)
      · obtain ⟨paths, written, writing, finished⟩ := bind_eq_ok_iff.mp running
        exact .inl (Site.sheltered_of_materialize sound read (beside project recorded) writing)
  obtain ⟨left, standing, same⟩ := holds
  exact ⟨left, standing, same, Disk.HoldsOthers.erase_eq_nil ⟨left, standing, same⟩⟩

/-! ## A document beside the artifact, and one inside -/

/-- The bytes of a document in which another tool has a member, too. -/
def sharedBytes : ByteArray :=
  ("\x7b\"other\":true,\"crabSafe\":\x7b\"runtime\":\"Deno\",\"chosen_directory\":\".\"," ++
    "\"feature_set\":\x7b\"Preset\":\x7b\"preset_name\":\"Core\"\x7d\x7d," ++
    "\"modularity\":\"SplitFiles\"\x7d\x7d").toUTF8

def sharedProject : Project :=
  ⟨.deno, ".", .preset .core, .splitFiles⟩

/-- A disk with the split directory, and with the document at some place. -/
def sharedDisk (place : Location) : Disk where
  entries location :=
    if location = [] ∨ location = [Text.ofString "crabSafe"] then some .directory
    else if location = place then some (.file sharedBytes)
    else none
  home := []

/-- The site with the document beside the split directory. -/
def besideSite : Site :=
  ⟨{ Config.standard with settingsFile := .ofText "s.json" }, .shipped⟩

theorem ofFile?_sharedBytes : ∃ members, Members.ofFile? sharedBytes = some members ∧
    besideSite.store.projectIn members = .ok (some sharedProject) ∧
      (members.erase "crabSafe").names = [Text.ofString "other"] := by
  have read : (Members.ofFile? sharedBytes).map (fun members =>
      decide (besideSite.store.projectIn members = .ok (some sharedProject)) &&
        decide ((members.erase "crabSafe").names = [Text.ofString "other"])) = some true := by
    decide +kernel
  obtain ⟨members, known, holds⟩ := Option.map_eq_some_iff.mp read
  have both := Bool.and_eq_true_iff.mp holds
  exact ⟨members, known, of_decide_eq_true both.1, of_decide_eq_true both.2⟩

theorem sound_sharedDisk : (sharedDisk [Text.ofString "s.json"]).Sound := by
  refine ⟨rfl, fun location occupied => ?_⟩
  have rooted : ∀ name, location = [name] →
      (sharedDisk [Text.ofString "s.json"]).entries location.dropLast = some .directory := by
    rintro name rfl
    rfl
  by_cases directory : location = [] ∨ location = [Text.ofString "crabSafe"]
  · exact directory.imp_right (rooted _)
  by_cases document : location = [Text.ofString "s.json"]
  · exact .inr (rooted _ document)
  simp [sharedDisk, directory, document] at occupied

/-- Deleting the artifact leaves the member of the other tool in a document beside it. -/
theorem run_keeps_others_beside :
    let invocation : Invocation := ⟨["--settings-file", "s.json"], [], .shipped, false⟩
    let disk := sharedDisk [Text.ofString "s.json"]
    let after := (invocation.outcome disk [.line "2", .line "y"]).workspace.disk
    ∃ left, after.Holds (.ofText "s.json") left ∧
      (left.erase "crabSafe").names = [Text.ofString "other"] := by
  intro invocation disk after
  obtain ⟨members, known, stored, names⟩ := ofFile?_sharedBytes
  have read : disk.read besideSite.config.settingsFile = .ok sharedBytes := rfl
  have standing : (Workspace.on disk .warning).disk.Holds besideSite.store.path members :=
    .inr ⟨sharedBytes, read, known⟩
  have answered := Disk.isFile_eq_true_iff_read.mpr ⟨sharedBytes, read⟩
  have recorded := record?_eq ((Store.load_of_holds standing answered).1.trans stored)
  have sheltered : ∀ project, record? besideSite disk = some project →
      besideSite.Sheltered project disk := by
    intro project same
    obtain rfl := Option.some.inj (recorded.symm.trans same)
    change besideSite.Apart sharedProject disk
    unfold Site.Apart
    decide
  have elsewhere : ∀ project, besideSite.documentLocation disk ≠
      besideSite.artifactLocation project disk := by
    intro project
    rw [Site.artifactLocation_of_standard ⟨rfl, rfl⟩]
    intro same
    have last := congrArg List.getLast? same
    rw [List.getLast?_concat] at last
    revert last
    cases project.layout with
    | singleFile => decide
    | splitFiles => decide
  have done : (invocation.outcome disk [.line "2", .line "y"]).status = .ok .done := by
    decide +kernel
  obtain ⟨left, holds, same, -⟩ := run_keeps_others invocation besideSite (some "s.json") false disk
    [.line "2", .line "y"] sharedBytes members (by decide) (by decide +kernel) sound_sharedDisk read known
    (fun project _ _ => elsewhere project) (fun project same => .inl (sheltered project same)) done
  exact ⟨left, holds, same ▸ names⟩

/-- Deleting the artifact takes the document along when it lies inside, and the member of the
other tool is lost. -/
theorem others_lost_inside :
    let invocation : Invocation := ⟨["--settings-file", "crabSafe/s.json"], [], .shipped, false⟩
    let path := Path.ofText "crabSafe/s.json"
    let disk := sharedDisk [Text.ofString "crabSafe", Text.ofString "s.json"]
    (disk.read path = .ok sharedBytes ∧ ∃ members, Members.ofFile? sharedBytes = some members ∧
      members.erase "crabSafe" ≠ []) ∧
    (invocation.outcome disk [.line "2", .line "y"]).status = .ok .done ∧
      (invocation.outcome disk [.line "2", .line "y"]).workspace.disk.isFile path = .ok false := by
  obtain ⟨members, known, stored, names⟩ := ofFile?_sharedBytes
  refine ⟨⟨rfl, members, known, fun nothing => ?_⟩, by decide +kernel⟩
  rw [nothing] at names
  cases names

end CommandLine

end HelperKit
