import HelperKit.Proofs.Artifact.Frame
import HelperKit.Proofs.Artifact.Sources
import HelperKit.Proofs.Workspace.Rewriting

/-!
# Renewing an artifact

Where record and artifact belong to one project and the document lies outside, renewing the
artifact with other features leaves a disk that depends on these features alone: everything
outside is as it was, the artifact holds the texts of its features, and the document has the
new record in the place of the old one.
-/

namespace HelperKit

open Attempt

namespace Site

variable {site : Site} {project : Project} {disk other : Disk} {effect : Effect}
  {effects : List Effect} {location : Location} {origin before between after : Workspace}

/-! ## Before the document is written -/

/-- An effect of removing the artifact of a project, of making the way to it or of building it. -/
inductive Touches (site : Site) (project : Project) (disk : Disk) (effect : Effect) : Prop where
  | clears (clears : site.Clears project disk effect)
  | paves (paves : site.Paves project disk effect)
  | builds (builds : site.Builds project disk effect)

theorem Touches.admits (touches : site.Touches project disk effect) (sound : disk.Sound) :
    disk.Admits effect := by
  cases touches with
  | clears clears => exact (ArtifactCall.permits_admits site project).clears disk effect clears sound
  | paves paves => exact (ArtifactCall.permits_admits site project).paves disk effect paves sound
  | builds builds => exact builds.admits sound

/-- What is outside the artifact is spared, unless nothing is there. -/
theorem Touches.spares (touches : site.Touches project disk effect)
    (occupied : disk.entries location ≠ none)
    (outside : ¬ site.artifactLocation project disk <+: location) : effect.Spares location := by
  cases touches with
  | clears clears =>
      by_contra touched
      exact outside (clears.inside touched)
  | builds builds =>
      by_contra touched
      exact outside (builds.inside touched)
  | paves paves =>
      obtain ⟨-, names, -, making⟩ := paves
      obtain ⟨-, -, vacant, rfl⟩ := Disk.makingDirectory_eq_ok making
      refine ⟨id, fun _ same => occupied ?_⟩
      rw [same]
      exact vacant

theorem entries_eq_of_touches (allows : disk.Allows (site.Touches project) effects)
    (occupied : disk.entries location ≠ none)
    (outside : ¬ site.artifactLocation project disk <+: location) :
    (disk.applyAll effects).entries location = disk.entries location := by
  refine allows.entries_eq fun later effect home same touches => touches.spares ?_ ?_
  · rw [same]
    exact occupied
  · rw [artifactLocation_congr home]
    exact outside

/-- Writes the artifact of a project over the one that is there, without its record. -/
def rebuild (site : Site) (project : Project) : Job (List Path) := do
  match project.layout with
  | .splitFiles => recreateDirectory (site.splitDirectory project)
  | .singleFile => pure ()
  site.writeArtifact project true

theorem rebuild_eq_ok_iff {paths : List Path} : site.rebuild project before = (.ok paths, after) ↔
    ∃ between, site.Cleared project before between ∧
      site.writeArtifact project true between = (.ok paths, after) := by
  unfold rebuild
  constructor
  · intro returned
    cases layout : project.layout with
    | singleFile =>
        simp only [layout] at returned
        exact ⟨before, .single layout, returned⟩
    | splitFiles =>
        simp only [layout] at returned
        obtain ⟨_, between, recreating, writing⟩ := bind_eq_ok_iff.mp returned
        exact ⟨between, .split layout recreating, writing⟩
  · rintro ⟨between, cleared, writing⟩
    cases cleared with
    | single single =>
        simp only [single]
        exact writing
    | split split recreating =>
        simp only [split]
        exact bind_eq_ok_iff.mpr ⟨(), between, recreating, writing⟩

theorem rebuild_of_renew (returned : site.renew project before = (.ok (), after)) :
    ∃ paths between, site.rebuild project before = (.ok paths, between) ∧
      site.store.save project between = (.ok (), after) := by
  obtain ⟨paths, start, cleared, materializing⟩ := renew_eq_ok returned
  obtain ⟨between, writing, saving⟩ := materialize_eq_ok materializing
  exact ⟨paths, between, rebuild_eq_ok_iff.mpr ⟨start, cleared, writing⟩, saving⟩

theorem actsOn_rebuild : ActsOn (site.Touches project) (site.rebuild project) before := by
  have writes : Acts (site.Touches project) (site.writeArtifact project true) := by
    intro start
    obtain ⟨effects, reaches, builds⟩ :=
      (acts_writeArtifact true : Acts (site.Builds project) _) start
    exact ⟨effects, reaches, builds.mono fun _ _ => .builds⟩
  unfold rebuild
  cases layout : project.layout with
  | singleFile => exact writes before
  | splitFiles =>
      exact actsOn_bind (clearsFirst_recreateDirectory (fun _ _ => .clears) (fun _ _ => .paves)
        layout).actsOn fun _ between _ => writes between

theorem sound_rebuild {paths : List Path} (sound : before.disk.Sound)
    (returned : site.rebuild project before = (.ok paths, after)) : after.disk.Sound := by
  obtain ⟨effects, reaches, touches⟩ : ActsOn (site.Touches project) (site.rebuild project) before :=
    actsOn_rebuild
  rw [returned] at reaches
  rw [reaches.disk]
  exact sound.applyAll (touches.mono fun _ _ touches sound => touches.admits sound)

theorem written_of_rebuild {paths : List Path}
    (returned : site.rebuild project before = (.ok paths, after)) : site.Written project after := by
  obtain ⟨_, -, writing⟩ := rebuild_eq_ok_iff.mp returned
  exact writeArtifact_eq_ok writing

theorem within_of_rebuild {paths : List Path} (sound : before.disk.Sound)
    (returned : site.rebuild project before = (.ok paths, after)) :
    site.Within project after.disk := by
  obtain ⟨between, cleared, writing⟩ := rebuild_eq_ok_iff.mp returned
  cases cleared with
  | single single =>
      refine within_of_writeArtifact sound (fun split => ?_) writing
      cases single.symm.trans split
  | split split recreating =>
      obtain ⟨still, -, empty⟩ := recreateDirectory_eq_ok sound split recreating
      exact within_of_writeArtifact still (fun _ _ => empty) writing

theorem follows_rebuild {paths : List Path}
    (follows : Workspace.Follows site.templates origin before)
    (sparesTemplates : site.SparesTemplates project origin)
    (returned : site.rebuild project before = (.ok paths, after)) :
    Workspace.Follows site.templates origin after := by
  obtain ⟨between, cleared, writing⟩ := rebuild_eq_ok_iff.mp returned
  cases cleared with
  | single _ => exact follows.writeArtifact sparesTemplates writing
  | split split recreating =>
      exact (follows.recreateDirectory split recreating).writeArtifact sparesTemplates writing

/-! ## An artifact in its place -/

/-- The file at a path holds a text. -/
def Carries (path : Path) (text : Option Text) (disk : Disk) : Prop :=
  ∃ content bytes, text = some content ∧ content.encode? = some bytes ∧
    disk.read path = .ok bytes

/-- At the artifact of a project is exactly what the artifact consists of, with the texts that a
workspace has for the features. -/
structure Houses (site : Site) (origin : Workspace) (project : Project) (disk : Disk) : Prop where
  contents : ∀ location, site.artifactLocation project disk <+: location →
    (disk.entries location ≠ none ↔
      ∃ path ∈ site.destinations project, location = disk.target path)
  merged : project.layout = .singleFile →
    Carries (site.singleFile project) ((project.mergedFeatures.mapM
      (Feature.text? site.templates origin)).map (Merge.render project.runtime)) disk
  split : project.layout = .splitFiles →
    disk.isDirectory (site.splitDirectory project) = .ok true ∧
      ∀ feature ∈ project.features,
        Carries (site.featureFile project feature) (feature.text? site.templates origin) disk

theorem Carries.entries_eq {path : Path} {text : Option Text} (carries : Carries path text disk)
    (again : Carries path text other) (home : disk.home = other.home) :
    disk.entries (disk.target path) = other.entries (disk.target path) := by
  obtain ⟨content, bytes, known, encoded, read⟩ := carries
  obtain ⟨copy, others, same, encodedToo, reread⟩ := again
  rw [known] at same
  cases same
  rw [encoded] at encodedToo
  cases encodedToo
  rw [(Disk.read_eq_ok_iff.mp read).2, Disk.target_congr home, (Disk.read_eq_ok_iff.mp reread).2]

/-- The files of one artifact are the same on every disk. -/
theorem Houses.entries_eq {selection : Selection} (houses : site.Houses origin project disk)
    (others : site.Houses origin { project with selection } other)
    (same : selection.features = project.features) (home : disk.home = other.home)
    (inside : site.artifactLocation project disk <+: location) :
    disk.entries location = other.entries location := by
  have sameFeatures : ({ project with selection } : Project).features = project.features := same
  have sameDestinations : site.destinations { project with selection } =
      site.destinations project := by
    unfold destinations
    rw [sameFeatures]
    rfl
  have insideToo : site.artifactLocation { project with selection } other <+: location := by
    have sameLocation : site.artifactLocation { project with selection } other =
        site.artifactLocation project other := rfl
    rw [sameLocation, ← artifactLocation_congr home]
    exact inside
  -- Both sides have the same destinations, so a location is free on both or on neither.
  by_cases occupied : disk.entries location = none
  · rw [occupied]
    by_contra present
    obtain ⟨path, part, place⟩ := (others.contents location insideToo).mp (Ne.symm present)
    rw [sameDestinations] at part
    rw [← Disk.target_congr home] at place
    exact (houses.contents location inside).mpr ⟨path, part, place⟩ occupied
  · obtain ⟨path, part, rfl⟩ := (houses.contents location inside).mp occupied
    unfold destinations at part
    cases layout : project.layout with
    | singleFile =>
        rw [layout] at part
        rw [List.mem_singleton.mp part]
        have carries := others.merged layout
        have sameMerged : ({ project with selection } : Project).mergedFeatures =
            project.mergedFeatures := by
          unfold Project.mergedFeatures
          rw [sameFeatures]
        rw [sameMerged] at carries
        exact (houses.merged layout).entries_eq carries home
    | splitFiles =>
        rw [layout] at part
        obtain ⟨directory, files⟩ := houses.split layout
        obtain ⟨directoryToo, filesToo⟩ := others.split layout
        rcases List.mem_cons.mp part with rfl | part
        · have there := (Disk.isDirectory_eq_true_iff.mp directoryToo).2
          rw [← Disk.target_congr home] at there
          rw [(Disk.isDirectory_eq_true_iff.mp directory).2]
          exact there.symm
        · obtain ⟨feature, member, rfl⟩ := List.mem_map.mp part
          refine (files feature member).entries_eq (filesToo feature ?_) home
          rw [sameFeatures]
          exact member

/-- The only directory in an artifact is the split directory. -/
theorem Houses.eq_of_directory (houses : site.Houses origin project disk)
    (inside : site.artifactLocation project disk <+: location)
    (directory : disk.entries location = some .directory) :
    project.layout = .splitFiles ∧ location = site.artifactLocation project disk := by
  have noFile : ∀ {path : Path} {text : Option Text}, Carries path text disk →
      location ≠ disk.target path := by
    rintro path text ⟨content, bytes, -, -, read⟩ rfl
    rw [(Disk.read_eq_ok_iff.mp read).2] at directory
    cases directory
  obtain ⟨path, part, place⟩ := (houses.contents location inside).mp (by simp [directory])
  unfold destinations at part
  cases layout : project.layout with
  | singleFile =>
      rw [layout] at part
      rw [List.mem_singleton.mp part] at place
      exact absurd place (noFile (houses.merged layout))
  | splitFiles =>
      rw [layout] at part
      rcases List.mem_cons.mp part with rfl | part
      · rw [artifactLocation_of_split layout]
        exact ⟨rfl, place⟩
      · obtain ⟨feature, member, rfl⟩ := List.mem_map.mp part
        exact absurd place (noFile ((houses.split layout).2 feature member))

/-! ## The state between two changes -/

/-- A workspace can have its artifact renewed: the artifact of a project is in its place, with
the texts of an origin, and the document is one in which a record has the place that it would
have among the members of the origin.  Outside the two everything is as at the origin. -/
structure Tended (site : Site) (origin : Workspace) (members : Members) (project : Project)
    (workspace : Workspace) : Prop where
  sound : workspace.disk.Sound
  follows : Workspace.Follows site.templates origin workspace
  houses : site.Houses origin project workspace.disk
  foreign : ∀ location, site.Foreign project origin.disk location →
    workspace.disk.entries location = origin.disk.entries location
  document : ∃ bytes others, workspace.disk.read site.config.settingsFile = .ok bytes ∧
    Members.ofFile? bytes = some others ∧ ∀ record,
      others.put site.config.settingsKey record = members.put site.config.settingsKey record

/-- The document is the printed form of some members with the record of a project. -/
def Inscribed (site : Site) (members : Members) (project : Project) (disk : Disk) : Prop :=
  ∃ bytes, (Json.object (members.put site.config.settingsKey project.toRecord)).toDocument.encode? =
      some bytes ∧
    disk.entries (site.documentLocation disk) = some (.file bytes)

theorem carries_of_shows {path : Path} {text : Job Text} {known : Option Text}
    (shows : Shows path text after)
    (is : ∀ content, text after = (.ok content, after) → known = some content) :
    Carries path known after.disk := by
  obtain ⟨content, bytes, returned, encoded, read⟩ := shows
  exact ⟨content, bytes, is content returned, encoded, read⟩

/-- An artifact that was written with nothing else beside it is in its place. -/
theorem houses_of_written (follows : Workspace.Follows site.templates origin after)
    (within : site.Within project after.disk) (written : site.Written project after) :
    site.Houses origin project after.disk := by
  refine ⟨fun location inside => ⟨within location inside, ?_⟩, fun single => ?_, fun split => ?_⟩
  · rintro ⟨path, part, rfl⟩
    obtain ⟨entry, known⟩ := written.status_eq_ok part
    simp [(Disk.status_eq_ok_iff.mp known).2]
  · unfold Written at written
    rw [single] at written
    refine carries_of_shows written fun content rendered => ?_
    obtain ⟨payloads, _, reading, merged⟩ := bind_eq_ok_iff.mp rendered
    cases merged
    rw [(follows.payloads reading).1]
    rfl
  · unfold Written at written
    rw [split] at written
    exact ⟨written.1, fun feature member => carries_of_shows (written.2 feature member)
      fun content reading => (follows.payload reading).1⟩

/-- A file outside an artifact leaves it in its place. -/
theorem Houses.apply_writeFile {path : Path} {bytes content : ByteArray}
    (houses : site.Houses origin project disk) (read : disk.read path = .ok bytes)
    (outside : ¬ site.artifactLocation project disk <+: disk.target path) :
    site.Houses origin project (disk.apply (.writeFile (disk.target path) content)) := by
  have home := disk.apply_home (.writeFile (disk.target path) content)
  have opening := Disk.openingFile_of_read read
  have noDirectory : disk.entries (disk.target path) ≠ some .directory := by
    rw [(Disk.read_eq_ok_iff.mp read).2]
    simp
  have kept : ∀ {file : Path} {text : Option Text},
      site.artifactLocation project disk <+: disk.target file → Carries file text disk →
        Carries file text (disk.apply (.writeFile (disk.target path) content)) := by
    rintro file text inside ⟨found, encoded, known, printed, reads⟩
    refine ⟨found, encoded, known, printed, ?_⟩
    have keeps : disk.Allows (Disk.Keeps path fun _ => True)
        [.writeFile (disk.target path) content] := ⟨.write opening trivial, trivial⟩
    refine keeps.read_eq_of_keeps reads fun same => outside ?_
    rw [← same]
    exact inside
  refine ⟨fun location inside => ?_, fun single => ?_, fun split => ?_⟩
  · rw [artifactLocation_congr home] at inside
    have differ : location ≠ disk.target path := fun same => outside (same ▸ inside)
    rw [Disk.entries_apply_of_spares ⟨id, fun _ => differ⟩]
    simp only [Disk.target_congr home]
    exact houses.contents location inside
  · refine kept ?_ (houses.merged single)
    rw [artifactLocation_of_single single]
  · obtain ⟨directory, files⟩ := houses.split split
    refine ⟨Disk.isDirectory_apply_writeFile directory noDirectory,
      fun feature member => kept ?_ (files feature member)⟩
    rw [artifactLocation_of_split split, target_featureFile]
    exact List.prefix_append _ _

/-- The document outside is as it was once an artifact was written, even if its path leads
through the split directory. -/
theorem read_of_written {job : Job (List Path)} {paths : List Path} {selection : Selection}
    {bytes : ByteArray} (acts : ActsOn (site.Touches { project with selection }) job before)
    (outside : site.Outside project before.disk)
    (through : ∀ way ∈ before.disk.ways site.config.settingsFile,
      site.artifactLocation project before.disk <+: way →
        project.layout = .splitFiles ∧ way = site.artifactLocation project before.disk)
    (read : before.disk.read site.config.settingsFile = .ok bytes)
    (returned : job before = (.ok paths, between))
    (written : site.Written { project with selection } between) :
    between.disk.read site.config.settingsFile = .ok bytes := by
  obtain ⟨effects, reaches, touches⟩ := acts
  rw [returned] at reaches
  have untouched : ∀ location, before.disk.entries location ≠ none →
      ¬ site.artifactLocation project before.disk <+: location →
        between.disk.entries location = before.disk.entries location := by
    intro location occupied elsewhere
    rw [reaches.disk]
    exact entries_eq_of_touches touches occupied elsewhere
  obtain ⟨opens, file⟩ := Disk.read_eq_ok_iff.mp read
  have home := reaches.home.symm
  refine Disk.read_eq_ok_iff.mpr ⟨opens.congr home fun way member => ?_, ?_⟩
  · have directory := opens.passable way member
    by_cases inside : site.artifactLocation project before.disk <+: way
    · obtain ⟨split, rfl⟩ := through way member inside
      unfold Written at written
      have splitToo : ({ project with selection } : Project).layout = .splitFiles := split
      rw [splitToo] at written
      rw [directory, artifactLocation_congr home, artifactLocation_of_split split]
      exact (Disk.isDirectory_eq_true_iff.mp written.1).2
    · exact untouched way (by simp [directory]) inside
  · have occupied : before.disk.entries (site.documentLocation before.disk) ≠ none := by
      rw [documentLocation, file]
      simp
    rw [← Disk.target_congr home]
    exact (untouched _ occupied outside).trans file

/-- Renewing changes nothing outside the artifact and the document, since the ways to both are
there already. -/
theorem foreign_of_renew {selection : Selection} {bytes : ByteArray}
    (houses : site.Houses origin project before.disk)
    (read : before.disk.read site.config.settingsFile = .ok bytes)
    (returned : site.renew { project with selection } before = (.ok (), after))
    (foreign : site.Foreign project before.disk location) :
    after.disk.entries location = before.disk.entries location := by
  have clears : ClearsFirst (site.Respects { project with selection })
      (site.Respects { project with selection }) (site.renew { project with selection }) before :=
    clearsFirst_renew (permits_respects site _)
  obtain ⟨effects, reaches, respects⟩ := clears.actsOn
  rw [returned] at reaches
  rw [reaches.disk]
  rcases leavesAlone_applyAll respects foreign with same | ⟨vacant, -, way | ⟨split, way⟩⟩
  · exact same
  · rw [(Disk.read_eq_ok_iff.mp read).1.passable location way] at vacant
    cases vacant
  · have opens := (Disk.isDirectory_eq_true_iff.mp (houses.split split).1).1
    rw [opens.passable location way] at vacant
    cases vacant

/-- Once an artifact was renewed with other features it can be renewed again, and the document
has the new record. -/
theorem Tended.renew {members : Members} {selection : Selection}
    (tended : site.Tended origin members project before)
    (outside : site.Outside project origin.disk)
    (sparesTemplates : site.SparesTemplates project origin)
    (returned : site.renew { project with selection } before = (.ok (), after)) :
    site.Tended origin members { project with selection } after ∧
      site.Inscribed members { project with selection } after.disk := by
  obtain ⟨bytes, others, read, known, place⟩ := tended.document
  have home := tended.follows.home
  have outsideNow : site.Outside project before.disk := outside.congr home.symm
  have spares : site.SparesTemplates { project with selection } origin := sparesTemplates
  obtain ⟨paths, between, rebuilding, saving⟩ := rebuild_of_renew returned
  have within := within_of_rebuild tended.sound rebuilding
  have written := written_of_rebuild rebuilding
  have sound := sound_rebuild tended.sound rebuilding
  have follows := follows_rebuild tended.follows spares rebuilding
  have through : ∀ way ∈ before.disk.ways site.config.settingsFile,
      site.artifactLocation project before.disk <+: way →
        project.layout = .splitFiles ∧ way = site.artifactLocation project before.disk := by
    intro way member inside
    exact tended.houses.eq_of_directory inside ((Disk.read_eq_ok_iff.mp read).1.passable way member)
  have reread := read_of_written actsOn_rebuild outsideNow through read rebuilding written
  have houses := houses_of_written follows within written
  have stillOutside : site.Outside { project with selection } between.disk :=
    outside.congr follows.home.symm
  -- What is saved replaces the document and nothing else.
  obtain ⟨content, encoded, saved⟩ := Store.save_in_place reread known saving
  have opening := Disk.openingFile_of_read reread
  have held : (between.disk.apply (.writeFile _ content)).read site.config.settingsFile =
      .ok content := Disk.read_apply_writeFile opening
  have stored := Members.ofFile?_toDocument
    ((Members.storable_of_ofFile? known).put site.config.settingsKey { project with selection })
    encoded
  refine ⟨⟨?_, follows.save spares saving, ?_, fun location foreign => ?_, content, _, ?_, stored,
    fun record => ?_⟩, content, ?_, ?_⟩
  · rw [saved]
    exact sound.apply (sound.admits_openingFile opening content)
  · rw [saved]
    exact houses.apply_writeFile reread stillOutside
  · exact (foreign_of_renew tended.houses read returned (foreign.congr home.symm)).trans
      (tended.foreign location foreign)
  · rw [saved]
    exact held
  · rw [Members.put_put, place]
  · rw [← place]
    exact encoded
  · rw [saved]
    exact (Disk.read_eq_ok_iff.mp held).2

theorem Tended.note {members : Members} (tended : site.Tended origin members project before)
    (record : LogRecord) : site.Tended origin members project (before.note record) := by
  have same : (before.note record).disk = before.disk := (before.reaches_note record).disk
  have sameCache := (Workspace.steady_cache before.cache).note before record rfl
  refine ⟨same ▸ tended.sound, ?_, same ▸ tended.houses, same ▸ tended.foreign,
    same ▸ tended.document⟩
  exact tended.follows.of_reaches (before.reaches_note record) sameCache fun _ _ => trivial

/-- Two disks on which the same project was renewed are the same. -/
theorem disk_eq_of_tended {members : Members} (first : site.Tended origin members project before)
    (second : site.Tended origin members project after)
    (inscribed : site.Inscribed members project before.disk)
    (inscribedToo : site.Inscribed members project after.disk) : before.disk = after.disk := by
  have home : before.disk.home = after.disk.home :=
    first.follows.home.trans second.follows.home.symm
  have entries : before.disk.entries = after.disk.entries := by
    funext location
    by_cases inside : site.artifactLocation project before.disk <+: location
    · exact first.houses.entries_eq second.houses rfl home inside
    · by_cases document : location = site.documentLocation before.disk
      · obtain ⟨bytes, encoded, file⟩ := inscribed
        obtain ⟨others, encodedToo, fileToo⟩ := inscribedToo
        rw [encoded] at encodedToo
        cases encodedToo
        rw [← documentLocation_congr home] at fileToo
        rw [document, file, fileToo]
      · have foreign : site.Foreign project origin.disk location :=
          Foreign.congr ⟨inside, document⟩ first.follows.home
        rw [first.foreign location foreign, second.foreign location foreign]
  exact congrArg₂ Disk.mk entries home

/-! ## Record and artifact agree -/

/-- The record is that of a project, and its artifact is in its place. -/
structure Agrees (site : Site) (project : Project) (workspace : Workspace) : Prop where
  recorded : (site.store.load workspace).1 = .ok (some project)
  houses : site.Houses workspace project workspace.disk

theorem InStep.agrees (inStep : site.InStep project before) : site.Agrees project before where
  recorded := inStep.recorded
  houses := houses_of_written (.refl site.templates before)
    (fun location inside => (inStep.contents location inside).mp) inStep.written

theorem Agrees.tended (agrees : site.Agrees project before) (sound : before.disk.Sound) :
    ∃ members, site.Tended before members project before := by
  obtain ⟨members, holds, verdict, -⟩ := Store.load_eq_ok (eq_of_fst agrees.recorded)
  refine ⟨members, sound, .refl site.templates before, agrees.houses, fun _ _ => rfl, ?_⟩
  rcases holds with ⟨-, rfl⟩ | ⟨bytes, read, known⟩
  · cases verdict
  · exact ⟨bytes, members, read, known, fun _ => rfl⟩

end Site

end HelperKit
