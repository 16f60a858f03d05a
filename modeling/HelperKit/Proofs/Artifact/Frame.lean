import HelperKit.Proofs.Artifact.Interruption

/-!
# What calls leave alone

A call for a project changes what lies at the artifact and below it, and the settings
document.  Everywhere else it can only make a directory where nothing was, on the way to
the document or to the split directory, and this holds however the call ends.
-/

namespace HelperKit

open Attempt

namespace Site

variable {site : Site} {project : Project} {disk before after : Disk} {effect : Effect}
  {location : Location}

/-- A location that neither belongs to the artifact of a project nor is that of the settings
document. -/
def Foreign (site : Site) (project : Project) (disk : Disk) (location : Location) : Prop :=
  ¬ site.artifactLocation project disk <+: location ∧ location ≠ site.documentLocation disk

/-- The locations on the way to the settings document, or to the split directory of a project
that has one. -/
def OnTheWay (site : Site) (project : Project) (disk : Disk) (location : Location) : Prop :=
  location ∈ disk.ways site.config.settingsFile ∨
    project.layout = .splitFiles ∧ location ∈ disk.ways (site.splitDirectory project)

/-- An entry is as before, or it is a directory that was made on the way, where nothing
was. -/
def LeavesAlone (site : Site) (project : Project) (before after : Disk) (location : Location) :
    Prop :=
  after.entries location = before.entries location ∨
    before.entries location = none ∧ after.entries location = some .directory ∧
      site.OnTheWay project before location

/-- An effect spares what is foreign, or makes a directory on the way. -/
def Respects (site : Site) (project : Project) (disk : Disk) (effect : Effect) : Prop :=
  ∀ location, site.Foreign project disk location → effect.Spares location ∨
    effect = .makeDirectory location ∧ disk.entries location = none ∧
      site.OnTheWay project disk location

theorem Foreign.congr {other : Disk} (foreign : site.Foreign project disk location)
    (home : disk.home = other.home) : site.Foreign project other location := by
  unfold Foreign
  rw [← artifactLocation_congr home, ← documentLocation_congr home]
  exact foreign

theorem OnTheWay.congr {other : Disk} (onTheWay : site.OnTheWay project disk location)
    (home : disk.home = other.home) : site.OnTheWay project other location := by
  unfold OnTheWay
  rw [← Disk.ways_congr home, ← Disk.ways_congr home]
  exact onTheWay

/-! ## The effects of calls -/

/-- Removing an artifact removes what lies there and below it. -/
theorem Clears.inside (clears : site.Clears project disk effect) (touched : ¬ effect.Spares location) :
    site.artifactLocation project disk <+: location := by
  have removed : ∀ {other : Effect}, other.created? = none → ¬ other.Spares location →
      (other.Removes location → site.artifactLocation project disk <+: location) →
        site.artifactLocation project disk <+: location := by
    intro other nothing unspared inside
    by_contra outside
    exact unspared ⟨fun removes => outside (inside removes), fun created => absurd nothing created⟩
  cases clears with
  | file single removing =>
      obtain ⟨-, -, rfl⟩ := Disk.removingFile_eq_ok removing
      refine removed rfl touched fun removes => ?_
      have same : location = site.artifactLocation project disk := removes
      rw [same]
  | tree split removing =>
      obtain ⟨-, -, ⟨rfl, -⟩ | ⟨rfl, -⟩⟩ := Disk.removingTree_eq_ok removing
      · exact removed rfl touched fun removes => removes
      · exact removed rfl touched fun removes => removes.1

theorem Builds.inside (builds : site.Builds project disk effect) (touched : ¬ effect.Spares location) :
    site.artifactLocation project disk <+: location := by
  have creates : ¬ effect.Removes location := by
    cases builds with
    | directory split making =>
        obtain ⟨-, -, -, rfl⟩ := Disk.makingDirectory_eq_ok making
        exact id
    | file bytes part opening => exact id
  by_contra outside
  refine touched ⟨creates, fun _ same => ?_⟩
  rw [same] at outside
  exact outside builds.target_prefix

theorem respects_of_inside
    (inside : ∀ location, ¬ effect.Spares location →
      site.artifactLocation project disk <+: location) : site.Respects project disk effect := by
  intro location foreign
  refine .inl ?_
  by_contra touched
  exact foreign.1 (inside location touched)

theorem respects_of_making {path : Path} {names : List Text}
    (shorter : names <+: path.parts)
    (making : disk.makingDirectory ⟨path.anchor, names⟩ = .ok effect)
    (way : ∀ location, site.Foreign project disk location → location ∈ disk.reach path →
      site.OnTheWay project disk location) : site.Respects project disk effect := by
  obtain ⟨-, -, vacant, rfl⟩ := Disk.makingDirectory_eq_ok making
  intro location foreign
  by_cases here : location = disk.target ⟨path.anchor, names⟩
  · subst here
    exact .inr ⟨rfl, vacant, way _ foreign (disk.target_mem_reach_of_prefix shorter)⟩
  · exact .inl ⟨id, fun _ => here⟩

theorem respects_of_paves (paves : site.Paves project disk effect) :
    site.Respects project disk effect := by
  obtain ⟨split, names, shorter, making⟩ := paves
  refine respects_of_making shorter making fun location foreign reached => ?_
  rcases Disk.mem_reach_iff.mp reached with onTheWay | rfl
  · exact .inr ⟨split, onTheWay⟩
  · rw [← artifactLocation_of_split split] at foreign
    exact absurd List.prefix_rfl foreign.1

theorem respects_of_keeps {written : ByteArray → Prop}
    (keeps : disk.Keeps site.config.settingsFile written effect) :
    site.Respects project disk effect := by
  cases keeps with
  | way shorter making =>
      refine respects_of_making (shorter.trans (List.dropLast_prefix _)) making
        fun location foreign reached => .inl ?_
      rcases Disk.mem_reach_iff.mp reached with onTheWay | rfl
      · exact onTheWay
      · exact absurd rfl foreign.2
  | write opening fitting =>
      obtain ⟨-, rfl, -⟩ := Disk.openingFile_eq_ok opening
      exact fun location foreign => .inl ⟨id, fun _ => foreign.2⟩
  | remove removing =>
      obtain ⟨-, -, rfl⟩ := Disk.removingFile_eq_ok removing
      exact fun location foreign => .inl ⟨foreign.2, fun created => absurd rfl created⟩

theorem permits_respects (site : Site) (project : Project) :
    site.Permits (site.Respects project) (site.Respects project) project where
  clears _ _ clears := respects_of_inside fun _ => clears.inside
  paves _ _ := respects_of_paves
  builds _ _ builds := respects_of_inside fun _ => builds.inside
  saves between _ := by
    obtain ⟨effects, reaches, keeps⟩ := site.store.acts_save project between
    exact ⟨effects, reaches, keeps.mono fun _ _ => respects_of_keeps⟩
  forgets before := by
    obtain ⟨effects, reaches, keeps⟩ := site.store.acts_forget before
    exact ⟨effects, reaches, keeps.mono fun _ _ => respects_of_keeps⟩

/-! ## Runs of effects -/

/-- One more effect that respects what is foreign leaves it alone. -/
theorem LeavesAlone.apply (leaves : site.LeavesAlone project before disk location)
    (home : disk.home = before.home) (foreign : site.Foreign project before location)
    (respects : site.Respects project disk effect) :
    site.LeavesAlone project before (disk.apply effect) location := by
  rcases respects location (foreign.congr home.symm) with spares | ⟨rfl, vacant, onTheWay⟩
  · unfold LeavesAlone
    rw [Disk.entries_apply_of_spares spares]
    exact leaves
  · rcases leaves with same | ⟨-, directory, -⟩
    · exact .inr ⟨same.symm.trans vacant, Disk.entries_apply_of_created rfl, onTheWay.congr home⟩
    · rw [vacant] at directory
      cases directory

theorem leavesAlone_applyAll {effects : List Effect}
    (respects : before.Allows (site.Respects project) effects)
    (foreign : site.Foreign project before location) :
    site.LeavesAlone project before (before.applyAll effects) location := by
  have kept := respects.applyAll
    (fun disk => disk.home = before.home ∧ site.LeavesAlone project before disk location)
    ⟨rfl, .inl rfl⟩ fun disk effect invariant respects =>
      ⟨(disk.apply_home effect).trans invariant.1,
        invariant.2.apply invariant.1 foreign respects⟩
  exact kept.2

/-- A call leaves alone what is foreign to its project, however it ends. -/
theorem leavesAlone_run {call : ArtifactCall} {start : Workspace}
    (foreign : site.Foreign call.project start.disk location) :
    site.LeavesAlone call.project start.disk (call.run site start).2.disk location := by
  have clears : ClearsFirst (site.Respects call.project) (site.Respects call.project)
      (call.run site) start :=
    ArtifactCall.clearsFirst_run fun selection =>
      permits_respects site { call.project with selection }
  obtain ⟨effects, reaches, respects⟩ := clears.actsOn
  rw [reaches.disk]
  exact leavesAlone_applyAll respects foreign

/-! ## The standard names -/

/-- The directory that a project was chosen for. -/
def chosenLocation (project : Project) (disk : Disk) : Location :=
  disk.target (.ofText project.directory)

/-- The artifacts of a site have their standard names. -/
def HasStandardNames (site : Site) : Prop :=
  site.config.artifactName = Config.standard.artifactName ∧
    site.config.extension = Config.standard.extension

/-- The name of an artifact among the standard names. -/
def standardName : Layout → Text
  | .singleFile => "crabSafe.ts"
  | .splitFiles => "crabSafe"

theorem standardName_injective {first second : Layout}
    (same : standardName first = standardName second) : first = second := by
  have apart : standardName .singleFile ≠ standardName .splitFiles := by decide
  cases first <;> cases second
  · rfl
  · exact absurd same apart
  · exact absurd same.symm apart
  · rfl

/-- Under its standard name an artifact lies right in the chosen directory. -/
theorem artifactLocation_of_standard (standard : site.HasStandardNames) (project : Project)
    (disk : Disk) : site.artifactLocation project disk =
      chosenLocation project disk ++ [standardName project.layout] := by
  have single : Path.ofText site.config.singleFileName =
      ⟨.workingDirectory, [standardName .singleFile]⟩ := by
    rw [Config.singleFileName, standard.1, standard.2]
    decide
  have split : Path.ofText site.config.splitDirectoryName =
      ⟨.workingDirectory, [standardName .splitFiles]⟩ := by
    rw [Config.splitDirectoryName, standard.1]
    decide
  have joined : site.artifact project =
      (Path.ofText project.directory).join ⟨.workingDirectory, [standardName project.layout]⟩ := by
    unfold artifact
    cases project.layout with
    | singleFile => simp only [singleFile, single]
    | splitFiles => simp only [splitDirectory, split]
  have plain : ∀ layout, Disk.next (chosenLocation project disk) (standardName layout) =
      chosenLocation project disk ++ [standardName layout] := by
    intro layout
    cases layout with
    | singleFile => rfl
    | splitFiles => rfl
  rw [artifactLocation, joined, ← plain, chosenLocation]
  exact List.foldl_append

/-- Under the standard names a location in the chosen directory is the directory itself, or
belongs to the artifact, or lies under another name. -/
theorem not_prefix_of_standard (standard : site.HasStandardNames) {project : Project}
    (elsewhere : location = chosenLocation project disk ∨
      ∃ name rest, name ≠ standardName project.layout ∧
        location = chosenLocation project disk ++ name :: rest) :
    ¬ site.artifactLocation project disk <+: location := by
  rw [artifactLocation_of_standard standard]
  rcases elsewhere with rfl | ⟨name, rest, differ, rfl⟩
  · intro longer
    simpa using longer.length_le
  · intro inside
    rw [List.prefix_append_right_inj] at inside
    exact differ (List.cons_prefix_cons.mp inside).1.symm

/-- However a call ends, it leaves alone what is neither at the artifact nor below it nor the
settings document: at most directories are made where nothing was, on the way to the document
or to the split directory.  Under the standard names, the chosen directory, whatever else lies
in it, and the artifact of the other layout with all that is in it stay as they are. -/
theorem call_leaves_rest_alone (site : Site) (call : ArtifactCall) (start : Workspace) :
    let after := (call.run site start).2.disk
    (∀ location, site.Foreign call.project start.disk location →
      site.LeavesAlone call.project start.disk after location) ∧
    (site.HasStandardNames → ∀ location, start.disk.entries location ≠ none →
      location ≠ site.documentLocation start.disk →
      (location = chosenLocation call.project start.disk ∨
        (∃ name rest, name ≠ standardName call.project.layout ∧
          location = chosenLocation call.project start.disk ++ name :: rest) ∨
        ∃ layout, layout ≠ call.project.layout ∧
          site.artifactLocation { call.project with layout } start.disk <+: location) →
      after.entries location = start.disk.entries location) := by
  refine ⟨fun location foreign => leavesAlone_run foreign,
    fun standard location present noDocument elsewhere => ?_⟩
  have outside : ¬ site.artifactLocation call.project start.disk <+: location := by
    refine not_prefix_of_standard standard ?_
    rcases elsewhere with chosen | beside | ⟨layout, differ, rest, rfl⟩
    · exact .inl chosen
    · exact .inr beside
    · refine .inr ⟨standardName layout, rest, fun same => differ (standardName_injective same), ?_⟩
      rw [artifactLocation_of_standard standard, List.append_assoc]
      rfl
  have foreign : site.Foreign call.project start.disk location := ⟨outside, noDocument⟩
  rcases leavesAlone_run foreign with same | ⟨absent, -⟩
  · exact same
  · exact absurd absent present

/-! ## Two artifacts beside each other -/

/-- A disk with a split directory that holds a file, and a merged file beside it. -/
def pairDisk : Disk where
  entries location :=
    if location ∈ [[], [Text.ofString "x"], [Text.ofString "crabSafe"]] then some .directory
    else if location ∈ [[Text.ofString "crabSafe", Text.ofString "mine.ts"],
        [Text.ofString "crabSafe.ts"]] then some (.file .empty)
    else none
  home := []

/-- The split directory goes with all that is in it; the merged file stays. -/
theorem call_leaves_rest_alone_pair :
    let call := ArtifactCall.delete rootProject
    let after := (call.run ⟨.standard, .shipped⟩ (.on pairDisk .warning)).2.disk
    after.entries [Text.ofString "crabSafe", Text.ofString "mine.ts"] = none ∧
      after.entries [Text.ofString "crabSafe.ts"] = some (.file .empty) := by
  refine ⟨by decide +kernel, ?_⟩
  have kept := (call_leaves_rest_alone ⟨.standard, .shipped⟩ (.delete rootProject)
    (.on pairDisk .warning)).2 ⟨rfl, rfl⟩ [Text.ofString "crabSafe.ts"] (by decide) (by decide)
    (.inr (.inr ⟨.singleFile, by decide, by decide⟩))
  exact kept

end Site

end HelperKit
