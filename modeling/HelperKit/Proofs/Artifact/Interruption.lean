import HelperKit.Proofs.Artifact.Calls

/-!
# Interrupted calls

A call that is cut short leaves the disk with a prefix of its effects.  The record in the
settings document can point at nothing then, but only between the removal of the artifact
and whatever comes next at the artifact or in the document.
-/

namespace HelperKit

namespace Site

open Attempt

variable {site : Site} {project : Project} {disk : Disk} {effect : Effect}
  {effects : List Effect}

/-- Where the settings document lies. -/
def documentLocation (site : Site) (disk : Disk) : Location :=
  disk.target site.config.settingsFile

/-- The project whose record the settings document holds. -/
def recorded? (site : Site) (disk : Disk) : Option Project :=
  match disk.entries (site.documentLocation disk) with
  | some (.file bytes) => site.store.recordOf? bytes
  | _ => none

/-- A record points at nothing. -/
def Dangles (site : Site) (disk : Disk) : Prop :=
  ∃ project, site.recorded? disk = some project ∧
    disk.entries (site.artifactLocation project disk) = none

/-- The settings document lies neither at the artifact of a project nor below it. -/
def Outside (site : Site) (project : Project) (disk : Disk) : Prop :=
  ¬ site.artifactLocation project disk <+: site.documentLocation disk

theorem documentLocation_congr {other : Disk} (home : disk.home = other.home) :
    site.documentLocation disk = site.documentLocation other :=
  Disk.target_congr home

theorem Outside.congr {other : Disk} (outside : site.Outside project disk)
    (home : disk.home = other.home) : site.Outside project other := by
  unfold Outside
  rw [← artifactLocation_congr home, ← documentLocation_congr home]
  exact outside

/-- Effects that spare the document spare the record in it. -/
theorem recorded?_applyAll_of_spares
    (spares : ∀ effect ∈ effects, effect.Spares (site.documentLocation disk)) :
    site.recorded? (disk.applyAll effects) = site.recorded? disk := by
  unfold recorded?
  rw [documentLocation_congr (disk.applyAll_home effects),
    Disk.entries_applyAll_of_spares spares]

/-! ## Effects that leave no record behind -/

/-- An effect that takes nothing away but the document, and writes no record into it
unless the artifact is there. -/
inductive Constructs (site : Site) (disk : Disk) : Effect → Prop where
  | directory {place : Location} (vacant : disk.entries place = none) :
      Constructs site disk (.makeDirectory place)
  | file {place : Location} (bytes : ByteArray) (elsewhere : place ≠ site.documentLocation disk) :
      Constructs site disk (.writeFile place bytes)
  | record {bytes : ByteArray} (backed : ∀ project, site.store.recordOf? bytes = some project →
      disk.entries (site.artifactLocation project disk) ≠ none) :
      Constructs site disk (.writeFile (site.documentLocation disk) bytes)
  | forget : Constructs site disk (.removeFile (site.documentLocation disk))

/-- A record that points at nothing after such an effect did so before. -/
theorem Constructs.dangling (constructs : site.Constructs disk effect)
    (recorded : site.recorded? (disk.apply effect) = some project)
    (vacant : (disk.apply effect).entries (site.artifactLocation project disk) = none) :
    effect.Spares (site.artifactLocation project disk) ∧
      effect.Spares (site.documentLocation disk) := by
  have document : ∀ entry, (disk.apply effect).entries (site.documentLocation disk) = entry →
      site.recorded? (disk.apply effect) =
        match entry with
        | some (.file bytes) => site.store.recordOf? bytes
        | _ => none := by
    rintro entry rfl
    rw [recorded?, documentLocation_congr (disk.apply_home effect)]
  -- An effect at the artifact occupies it, and one at the document settles what is recorded.
  cases constructs with
  | @directory place free =>
      have created : (disk.apply (.makeDirectory place)).entries place = some .directory :=
        Disk.entries_apply_of_created rfl
      refine ⟨⟨id, fun _ same => ?_⟩, ⟨id, fun _ same => ?_⟩⟩
      · have isPlace : site.artifactLocation project disk = place := same
        rw [isPlace, created] at vacant
        cases vacant
      · have isPlace : site.documentLocation disk = place := same
        have unread := document (some .directory) (isPlace ▸ created)
        rw [recorded] at unread
        cases unread
  | @file place bytes elsewhere =>
      have created : (disk.apply (.writeFile place bytes)).entries place = some (.file bytes) :=
        Disk.entries_apply_of_created rfl
      refine ⟨⟨id, fun _ same => ?_⟩, ⟨id, fun _ same => elsewhere same.symm⟩⟩
      have isPlace : site.artifactLocation project disk = place := same
      rw [isPlace, created] at vacant
      cases vacant
  | @record bytes backed =>
      have created : (disk.apply (.writeFile (site.documentLocation disk) bytes)).entries
          (site.documentLocation disk) = some (.file bytes) := Disk.entries_apply_of_created rfl
      have held := document _ created
      rw [recorded] at held
      refine absurd vacant ?_
      by_cases here : site.artifactLocation project disk = site.documentLocation disk
      · simp [here, created]
      · rw [Disk.entries_apply_of_spares ⟨id, fun _ => here⟩]
        exact backed project held.symm
  | forget =>
      have gone : (disk.apply (.removeFile (site.documentLocation disk))).entries
          (site.documentLocation disk) = none := Disk.entries_apply_of_removes rfl
      have unread := document none gone
      rw [recorded] at unread
      cases unread

/-- A record that points at nothing after such effects did so before, and they have touched
neither the artifact nor the document. -/
theorem spares_of_dangling (constructs : disk.Allows site.Constructs effects)
    (recorded : site.recorded? (disk.applyAll effects) = some project)
    (vacant : (disk.applyAll effects).entries (site.artifactLocation project disk) = none) :
    ∀ effect ∈ effects, effect.Spares (site.artifactLocation project disk) ∧
      effect.Spares (site.documentLocation disk) := by
  induction effects generalizing disk with
  | nil => simp
  | cons effect effects induction =>
      have home := disk.apply_home effect
      rw [← artifactLocation_congr home] at vacant
      have later := induction constructs.2 recorded vacant
      have before : site.recorded? (disk.apply effect) = some project := by
        rw [← recorded, Disk.applyAll_cons]
        exact (recorded?_applyAll_of_spares fun effect member => (later effect member).2).symm
      have free : (disk.apply effect).entries (site.artifactLocation project disk) = none := by
        rw [← artifactLocation_congr home, ← vacant, Disk.applyAll_cons]
        exact (Disk.entries_applyAll_of_spares fun effect member => (later effect member).1).symm
      rw [artifactLocation_congr home, documentLocation_congr home] at later
      exact List.forall_mem_cons.mpr ⟨constructs.1.dangling before free, later⟩

/-! ## What calls do -/

/-- Removing an artifact creates nothing and spares a document outside. -/
theorem Clears.spares (clears : site.Clears project disk effect)
    (outside : site.Outside project disk) :
    effect.created? = none ∧ effect.Spares (site.documentLocation disk) := by
  have removed : ∀ location : Location, site.artifactLocation project disk <+: location →
      location ≠ site.documentLocation disk := by
    rintro location inside rfl
    exact outside inside
  have spared : ∀ effect : Effect, effect.created? = none →
      (∀ location, effect.Removes location → site.artifactLocation project disk <+: location) →
        effect.created? = none ∧ effect.Spares (site.documentLocation disk) :=
    fun effect nothing inside => ⟨nothing, fun removes => removed _ (inside _ removes) rfl,
      fun created => absurd nothing created⟩
  cases clears with
  | file single removing =>
      obtain ⟨-, -, rfl⟩ := Disk.removingFile_eq_ok removing
      exact spared _ rfl fun location same => same ▸ List.prefix_rfl
  | tree split removing =>
      obtain ⟨-, -, ⟨rfl, -⟩ | ⟨rfl, -⟩⟩ := Disk.removingTree_eq_ok removing
      · exact spared _ rfl fun location removes => removes
      · exact spared _ rfl fun location removes => removes.1

/-- Keeping the document leaves no record behind when every record that is written is
backed by its artifact. -/
theorem constructs_of_keeps {written : ByteArray → Prop}
    (keeps : disk.Keeps site.config.settingsFile written effect)
    (backed : ∀ bytes, written bytes → ∀ project, site.store.recordOf? bytes = some project →
      disk.entries (site.artifactLocation project disk) ≠ none) :
    site.Constructs disk effect := by
  cases keeps with
  | way shorter making =>
      obtain ⟨-, -, vacant, rfl⟩ := Disk.makingDirectory_eq_ok making
      exact .directory vacant
  | write opening fitting =>
      obtain ⟨-, rfl, -⟩ := Disk.openingFile_eq_ok opening
      exact .record (backed _ fitting)
  | remove removing =>
      obtain ⟨-, -, rfl⟩ := Disk.removingFile_eq_ok removing
      exact .forget

/-- Keeping a document outside an artifact takes nothing of the artifact away. -/
theorem not_removes_of_keeps {written : ByteArray → Prop}
    (keeps : disk.Keeps site.config.settingsFile written effect)
    (outside : site.Outside project disk) :
    ¬ effect.Removes (site.artifactLocation project disk) := by
  cases keeps with
  | way shorter making =>
      obtain ⟨-, -, -, rfl⟩ := Disk.makingDirectory_eq_ok making
      exact id
  | write opening fitting => exact id
  | remove removing =>
      obtain ⟨-, -, rfl⟩ := Disk.removingFile_eq_ok removing
      intro same
      exact outside (same ▸ List.prefix_rfl)

theorem constructs_of_builds (builds : site.Builds project disk effect)
    (outside : site.Outside project disk) : site.Constructs disk effect := by
  have below := builds.target_prefix
  cases builds with
  | directory split making =>
      obtain ⟨-, -, vacant, rfl⟩ := Disk.makingDirectory_eq_ok making
      exact .directory vacant
  | @file path location bytes part opening =>
      refine .file bytes ?_
      rintro rfl
      exact outside below

/-- Calls whose document lies outside the artifact construct, once they have cleared. -/
theorem permits_constructs (site : Site) (project : Project) :
    site.Permits
      (fun disk effect => site.Outside project disk →
        effect.created? = none ∧ effect.Spares (site.documentLocation disk))
      (fun disk effect => site.Outside project disk → site.Constructs disk effect) project where
  clears disk effect clears outside := clears.spares outside
  paves disk effect paves _ := by
    obtain ⟨-, names, -, making⟩ := paves
    obtain ⟨-, -, vacant, rfl⟩ := Disk.makingDirectory_eq_ok making
    exact .directory vacant
  builds disk effect builds outside := constructs_of_builds builds outside
  saves between written := by
    obtain ⟨effects, reaches, keeps⟩ := site.store.acts_save project between
    refine ⟨effects, reaches, keeps.of_invariant (fun disk => site.Outside project disk →
      disk.entries (site.artifactLocation project disk) ≠ none) (fun _ => written.occupied)
      fun disk effect occupied keeps => ⟨fun outside => ?_, fun outside => ?_⟩⟩
    · refine constructs_of_keeps keeps fun bytes recorded other known => ?_
      rcases recorded with nothing | this
      · rw [nothing] at known
        cases known
      · rw [known] at this
        cases this
        exact occupied outside
    · have earlier := outside.congr (disk.apply_home effect)
      rw [artifactLocation_congr (disk.apply_home effect)]
      exact Disk.occupied_apply (occupied earlier) (not_removes_of_keeps keeps earlier)
  forgets between := by
    obtain ⟨effects, reaches, keeps⟩ := site.store.acts_forget between
    refine ⟨effects, reaches, keeps.mono fun disk effect keeps _ =>
      constructs_of_keeps keeps fun bytes nothing other known => ?_⟩
    rw [nothing] at known
    cases known

/-! ## Cuts -/

/-- Once the artifact of the record is removed, the record points at nothing for as long as
neither the artifact nor the document is touched. -/
theorem dangles_of_removed {removal : Effect}
    (recorded : site.recorded? disk = some project)
    (removes : removal.Removes (site.artifactLocation project disk))
    (artifact : ∀ effect ∈ effects, effect.Spares (site.artifactLocation project disk))
    (document : ∀ effect ∈ removal :: effects, effect.Spares (site.documentLocation disk)) :
    site.Dangles (disk.applyAll (removal :: effects)) := by
  refine ⟨project, ?_, ?_⟩
  · rw [recorded?_applyAll_of_spares document, recorded]
  · rw [artifactLocation_congr (disk.applyAll_home _), Disk.applyAll_cons,
      Disk.entries_applyAll_of_spares artifact, Disk.entries_apply_of_removes removes]

/-- Effects that only construct leave no record that points at nothing. -/
theorem not_dangles_of_constructs (agrees : ¬ site.Dangles disk)
    (constructs : disk.Allows site.Constructs effects) :
    ¬ site.Dangles (disk.applyAll effects) := by
  rintro ⟨project, recorded, vacant⟩
  rw [artifactLocation_congr (disk.applyAll_home effects)] at vacant
  have kept := spares_of_dangling constructs recorded vacant
  rw [recorded?_applyAll_of_spares fun effect member => (kept effect member).2] at recorded
  rw [Disk.entries_applyAll_of_spares fun effect member => (kept effect member).1] at vacant
  exact agrees ⟨project, recorded, vacant⟩

/-- The effects of a call: its first one may remove the artifact, and the others
construct. -/
theorem clearsFirst_of_outside {call : ArtifactCall} {before : Workspace}
    (outside : site.Outside call.project before.disk) :
    ClearsFirst (fun disk effect => effect.created? = none ∧
        effect.Spares (site.documentLocation disk)) site.Constructs (call.run site) before := by
  have clears : ClearsFirst
      (fun disk effect => site.Outside call.project disk →
        effect.created? = none ∧ effect.Spares (site.documentLocation disk))
      (fun disk effect => site.Outside call.project disk → site.Constructs disk effect)
      (call.run site) before :=
    ArtifactCall.clearsFirst_run fun selection =>
      permits_constructs site { call.project with selection }
  obtain ⟨first, rest, reaches, single, cleared, constructed⟩ := clears
  refine ⟨first, rest, reaches, single, ?_, ?_⟩
  · exact cleared.of_invariant (site.Outside call.project) outside fun disk effect holds clears =>
      ⟨clears holds, holds.congr (disk.apply_home effect).symm⟩
  · exact constructed.of_invariant (site.Outside call.project)
      (outside.congr (before.disk.applyAll_home first).symm) fun disk effect holds constructs =>
        ⟨constructs holds, holds.congr (disk.apply_home effect).symm⟩

/-- A call that is cut short leaves a record that points at nothing exactly when its first
effect has removed the artifact of that record, and since then nothing was created at the
artifact and the document was not touched. -/
theorem dangles_cut_iff (site : Site) (call : ArtifactCall) (before : Workspace)
    (agrees : ¬ site.Dangles before.disk) (outside : site.Outside call.project before.disk)
    (cut : List Effect) (isCut : before.journal ++ cut <+: (call.run site before).2.journal) :
    site.Dangles (before.disk.applyAll cut) ↔
      ∃ project removal later, site.recorded? before.disk = some project ∧
        cut = removal :: later ∧
        removal.Removes (site.artifactLocation project before.disk) ∧
        (∀ effect ∈ later, effect.Spares (site.artifactLocation project before.disk)) ∧
        ∀ effect ∈ cut, effect.Spares (site.documentLocation before.disk) := by
  constructor
  · intro dangles
    obtain ⟨first, rest, reaches, single, cleared, constructs⟩ := clearsFirst_of_outside outside
    rw [reaches.journal, List.prefix_append_right_inj] at isCut
    cases first with
    | nil =>
        rw [Disk.applyAll_nil] at constructs
        obtain ⟨left, rfl⟩ := isCut
        exact absurd dangles (not_dangles_of_constructs agrees (Disk.allows_append.mp constructs).1)
    | cons removal others =>
        obtain ⟨project, recorded, vacant⟩ := dangles
        rw [artifactLocation_congr (before.disk.applyAll_home cut)] at vacant
        -- The record is as it was before the call, so its artifact was removed.
        obtain rfl : others = [] := by simpa using single
        obtain ⟨nothing, spares⟩ := cleared.1
        cases cut with
        | nil => exact absurd ⟨project, recorded, vacant⟩ agrees
        | cons effect later =>
            obtain ⟨rfl, left, rfl⟩ := List.cons_prefix_cons.mp isCut
            have home := before.disk.apply_home effect
            rw [Disk.applyAll_cons, Disk.applyAll_nil] at constructs
            rw [← artifactLocation_congr home] at vacant
            have kept := spares_of_dangling (Disk.allows_append.mp constructs).1 recorded vacant
            rw [artifactLocation_congr home] at kept vacant
            rw [documentLocation_congr home] at kept
            have untouched : ∀ other ∈ effect :: later,
                other.Spares (site.documentLocation before.disk) :=
              List.forall_mem_cons.mpr ⟨spares, fun other member => (kept other member).2⟩
            rw [recorded?_applyAll_of_spares untouched] at recorded
            refine ⟨project, effect, later, recorded, rfl, ?_,
              fun other member => (kept other member).1, untouched⟩
            by_contra stays
            have there : before.disk.entries (site.artifactLocation project before.disk) ≠ none :=
              fun nothing => agrees ⟨project, recorded, nothing⟩
            have stillThere := Disk.occupied_apply there stays
            rw [Disk.applyAll_cons, Disk.entries_applyAll_of_spares
              fun other member => (kept other member).1] at vacant
            exact stillThere vacant
  · rintro ⟨project, removal, later, recorded, rfl, removes, artifact, document⟩
    exact dangles_of_removed recorded removes artifact document

theorem constructs_materialize (outside : site.Outside project disk) (replace : Bool)
    {before : Workspace} (start : before.disk = disk) :
    ∃ effects, before.Reaches effects (site.materialize project replace before).2 ∧
      disk.Allows site.Constructs effects := by
  subst start
  obtain ⟨effects, reaches, permitted⟩ :=
    site.actsOn_materialize (permits_constructs site project) replace
  refine ⟨effects, reaches, permitted.of_invariant (site.Outside project) outside
    fun disk effect holds constructs => ?_⟩
  exact ⟨constructs holds, holds.congr (disk.apply_home effect).symm⟩

/-- Writing an artifact never leaves a record that points at nothing, wherever it is cut
short. -/
theorem not_dangles_cut_materialize {before : Workspace} {replace : Bool}
    (agrees : ¬ site.Dangles before.disk) (outside : site.Outside project before.disk)
    {cut : List Effect}
    (isCut : before.journal ++ cut <+: (site.materialize project replace before).2.journal) :
    ¬ site.Dangles (before.disk.applyAll cut) := by
  obtain ⟨effects, reaches, constructs⟩ := constructs_materialize outside replace rfl
  rw [reaches.journal, List.prefix_append_right_inj] at isCut
  obtain ⟨left, rfl⟩ := isCut
  exact not_dangles_of_constructs agrees (Disk.allows_append.mp constructs).1

/-- Every deletion of an artifact that is there leaves the record behind at first. -/
theorem dangles_within_delete {before : Workspace}
    (recorded : site.recorded? before.disk = some project)
    (outside : site.Outside project before.disk)
    (deleted : (site.delete project before).1 = .ok true) :
    before.journal ++ [site.clearing project before.disk] <+:
        ((ArtifactCall.delete project).run site before).2.journal ∧
      site.Dangles (before.disk.applyAll [site.clearing project before.disk]) := by
  have returned := eq_of_fst deleted
  have run : (ArtifactCall.delete project).run site before =
      (.ok (.deleted project), (site.delete project before).2) :=
    bind_eq_ok_iff.mpr ⟨true, _, returned, rfl⟩
  rw [run]
  obtain ⟨result, between, judged, removing, judging, forgetting⟩ := delete_eq_ok returned
  obtain ⟨-, ⟨-, rfl⟩ | ⟨impossible, -⟩⟩ := judgeRemoval_eq_ok judging
  · obtain ⟨clears, rfl⟩ := removeArtifact_eq_ok removing
    have judges : Acts (fun _ _ => True) (site.judgeRemoval project (.ok ())) :=
      acts_judgeRemoval _
    obtain ⟨noted, first, -⟩ := judges (before.perform (site.clearing project before.disk))
    obtain ⟨forgotten, second, -⟩ := site.store.acts_forget judged
    rw [judging] at first
    rw [forgetting] at second
    have journal := (first.trans second).journal
    refine ⟨⟨noted ++ forgotten, journal.symm⟩, ?_⟩
    refine dangles_of_removed recorded (clearing_removes site project before.disk) (by simp) ?_
    exact List.forall_mem_singleton.mpr (clears.spares outside).2
  · cases impossible

/-- Writing an artifact keeps record and artifact in agreement. -/
theorem agrees_of_materialize {before : Workspace} (agrees : ¬ site.Dangles before.disk)
    (outside : site.Outside project before.disk) (replace : Bool) :
    ¬ site.Dangles (site.materialize project replace before).2.disk ∧
      site.Outside project (site.materialize project replace before).2.disk := by
  obtain ⟨effects, reaches, constructs⟩ := constructs_materialize outside replace rfl
  refine ⟨?_, outside.congr reaches.home.symm⟩
  rw [reaches.disk]
  exact not_dangles_of_constructs agrees constructs

/-! ## A document behind the artifact

The path of this document leads through the split directory and out of it again, so that the
document lies beside the directory.  Once that is removed, the path leads nowhere and the
record stays for good. -/

theorem recorded?_of_materialize {before : Workspace} {replace : Bool} {paths : List Path}
    (returned : (site.materialize project replace before).1 = .ok paths) :
    site.recorded? (site.materialize project replace before).2.disk = some project := by
  obtain ⟨between, -, saving⟩ := materialize_eq_ok (eq_of_fst returned)
  generalize (site.materialize project replace before).2 = after at saving ⊢
  obtain ⟨members, -, bytes, read, held⟩ := Store.save_eq_ok saving
  have file : after.disk.entries (site.documentLocation after.disk) = some (.file bytes) :=
    (Disk.read_eq_ok_iff.mp read).2
  rw [recorded?, file]
  exact Store.recordOf?_of_ofFile? held Store.projectIn_put

/-- The site with a document behind the artifact. -/
def behindSite : Site where
  config := { Config.standard with settingsFile := .ofText "crabSafe/../s.json" }
  templates := .shipped

/-- The workspace after the project was written. -/
def behindWorkspace : Workspace :=
  (behindSite.materialize rootProject false (.on roomDisk .debug)).2

theorem recorded?_behindWorkspace :
    behindSite.recorded? behindWorkspace.disk = some rootProject := by
  have written : (behindSite.materialize rootProject false (.on roomDisk .debug)).1 =
      .ok [.ofText "x/../crabSafe/core.ts"] := by decide +kernel
  rw [behindWorkspace]
  exact recorded?_of_materialize written

theorem agrees_behindWorkspace :
    ¬ behindSite.Dangles behindWorkspace.disk ∧
      behindSite.Outside rootProject behindWorkspace.disk := by
  have nothing : ¬ behindSite.Dangles (Workspace.on roomDisk .debug).disk := by
    rintro ⟨project, recorded, -⟩
    cases recorded
  have outside : behindSite.Outside rootProject (Workspace.on roomDisk .debug).disk := by
    unfold Outside
    decide
  rw [behindWorkspace]
  exact agrees_of_materialize nothing outside false

theorem deleted_behindWorkspace :
    (behindSite.delete rootProject behindWorkspace).1 = .ok true := by
  decide +kernel

/-- The document lies outside the artifact of a project that was written; the project is
deleted, and the record is left with nothing to point at. -/
theorem deletion_leaves_record_behind :
    ¬ behindSite.Dangles behindWorkspace.disk ∧
      behindSite.Outside rootProject behindWorkspace.disk ∧
      ∃ cut, behindWorkspace.journal ++ cut <+:
          ((ArtifactCall.delete rootProject).run behindSite behindWorkspace).2.journal ∧
        behindSite.Dangles (behindWorkspace.disk.applyAll cut) :=
  ⟨agrees_behindWorkspace.1, agrees_behindWorkspace.2, _,
    dangles_within_delete recorded?_behindWorkspace agrees_behindWorkspace.2
      deleted_behindWorkspace⟩

theorem dangles_cut_iff_behind :
    let cut := [behindSite.clearing rootProject behindWorkspace.disk]
    behindSite.Dangles (behindWorkspace.disk.applyAll cut) ↔
      ∃ project removal later, behindSite.recorded? behindWorkspace.disk = some project ∧
        cut = removal :: later ∧
        removal.Removes (behindSite.artifactLocation project behindWorkspace.disk) ∧
        (∀ effect ∈ later,
          effect.Spares (behindSite.artifactLocation project behindWorkspace.disk)) ∧
        ∀ effect ∈ cut, effect.Spares (behindSite.documentLocation behindWorkspace.disk) :=
  dangles_cut_iff behindSite (.delete rootProject) behindWorkspace agrees_behindWorkspace.1
    agrees_behindWorkspace.2 _ (dangles_within_delete recorded?_behindWorkspace
      agrees_behindWorkspace.2 deleted_behindWorkspace).1

end Site

end HelperKit
