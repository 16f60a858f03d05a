import HelperKit.Artifact.Writing
import HelperKit.Proofs.Artifact.Payload
import HelperKit.Proofs.Settings.Store

/-!
# What writing an artifact does

Writing an artifact creates its directory, if it has one, and writes its files; nothing
outside the artifact changes.  When it returns, every file holds the text it should.
-/

namespace HelperKit

open Attempt

theorem Feature.ofText_fileName (feature : Feature) :
    Path.ofText feature.fileName = ⟨.workingDirectory, [Text.ofString feature.fileName]⟩ := by
  cases feature <;> decide

theorem Feature.eq_of_ofString_fileName {feature other : Feature}
    (same : Text.ofString other.fileName = Text.ofString feature.fileName) : other = feature := by
  have characters := congrArg Text.characters same
  rw [Text.ofString, Text.ofString, Text.characters_ofChars,
    Text.characters_ofChars] at characters
  exact Feature.fileName_injective (String.toList_inj.mp characters)

theorem Feature.target_fileName (feature : Feature) (folder : Path) (disk : Disk) :
    disk.target { folder with parts := folder.parts ++ [Text.ofString feature.fileName] } =
      disk.target folder ++ [Text.ofString feature.fileName] := by
  have proper : Text.ofString feature.fileName ≠ Path.parentPart := by
    cases feature <;> decide
  have normal : Name.normal (Text.ofString feature.fileName) = Text.ofString feature.fileName :=
    Name.normal_ofChars _
  rw [Disk.target, List.foldl_append, List.foldl_cons, List.foldl_nil, Disk.next,
    if_neg proper, normal]
  rfl

namespace Site

variable {site : Site} {project : Project} {feature : Feature} {disk : Disk} {effect : Effect}
  {effects : List Effect} {before between after : Workspace}

/-! ## Where the files lie -/

/-- Where the artifact of a project lies. -/
def artifactLocation (site : Site) (project : Project) (disk : Disk) : Location :=
  disk.target (site.artifact project)

theorem artifactLocation_congr {other : Disk} (home : disk.home = other.home) :
    site.artifactLocation project disk = site.artifactLocation project other :=
  Disk.target_congr home

/-- The paths of the files that the artifact of a project consists of. -/
def files (site : Site) (project : Project) : List Path :=
  match project.layout with
  | .singleFile => [site.singleFile project]
  | .splitFiles => project.features.map (site.featureFile project)

theorem artifact_of_single (single : project.layout = .singleFile) :
    site.artifact project = site.singleFile project := by
  rw [artifact, single]

theorem artifact_of_split (split : project.layout = .splitFiles) :
    site.artifact project = site.splitDirectory project := by
  rw [artifact, split]

theorem artifactLocation_of_single (single : project.layout = .singleFile) :
    site.artifactLocation project disk = disk.target (site.singleFile project) := by
  rw [artifactLocation, artifact_of_single single]

theorem artifactLocation_of_split (split : project.layout = .splitFiles) :
    site.artifactLocation project disk = disk.target (site.splitDirectory project) := by
  rw [artifactLocation, artifact_of_split split]

theorem featureFile_eq (site : Site) (project : Project) (feature : Feature) :
    site.featureFile project feature =
      { site.splitDirectory project with
        parts := (site.splitDirectory project).parts ++ [Text.ofString feature.fileName] } := by
  rw [featureFile, Feature.ofText_fileName]
  rfl

theorem target_featureFile (site : Site) (project : Project) (feature : Feature) (disk : Disk) :
    disk.target (site.featureFile project feature) =
      disk.target (site.splitDirectory project) ++ [Text.ofString feature.fileName] := by
  rw [featureFile_eq, Feature.target_fileName]

theorem ways_featureFile (site : Site) (project : Project) (feature : Feature) (disk : Disk) :
    disk.ways (site.featureFile project feature) = disk.reach (site.splitDirectory project) := by
  rw [Disk.ways_eq_reach_parent (by simp [featureFile_eq]), featureFile_eq, Path.parent]
  simp

theorem target_prefix_of_mem_files {path : Path} (part : path ∈ site.files project)
    (disk : Disk) : site.artifactLocation project disk <+: disk.target path := by
  unfold files at part
  cases layout : project.layout with
  | singleFile =>
      rw [layout] at part
      rw [List.mem_singleton.mp part, artifactLocation_of_single layout]
  | splitFiles =>
      rw [layout] at part
      obtain ⟨feature, -, rfl⟩ := List.mem_map.mp part
      rw [artifactLocation_of_split layout, target_featureFile]
      exact List.prefix_append _ _

/-! ## The effects of writing -/

/-- An effect of writing the artifact of a project. -/
inductive Builds (site : Site) (project : Project) (disk : Disk) : Effect → Prop where
  | directory {effect : Effect} (split : project.layout = .splitFiles)
      (making : disk.makingDirectory (site.splitDirectory project) = .ok effect) :
      Builds site project disk effect
  | file {path : Path} {location : Location} (bytes : ByteArray)
      (part : path ∈ site.files project) (opening : disk.openingFile path = .ok location) :
      Builds site project disk (.writeFile location bytes)

theorem Builds.admits (builds : site.Builds project disk effect) (sound : disk.Sound) :
    disk.Admits effect := by
  cases builds with
  | directory split making => exact sound.admits_makingDirectory making
  | file bytes part opening => exact sound.admits_openingFile opening bytes

/-- Writing an artifact creates its directory or one of its files. -/
theorem Builds.location (builds : site.Builds project disk effect) :
    (project.layout = .splitFiles ∧ effect.location = disk.target (site.splitDirectory project)) ∨
      ∃ path ∈ site.files project, effect.location = disk.target path := by
  cases builds with
  | directory split making =>
      obtain ⟨-, -, -, rfl⟩ := Disk.makingDirectory_eq_ok making
      exact .inl ⟨split, rfl⟩
  | @file path location bytes part opening =>
      obtain ⟨-, rfl, -⟩ := Disk.openingFile_eq_ok opening
      exact .inr ⟨path, part, rfl⟩

theorem Builds.target_prefix (builds : site.Builds project disk effect) :
    site.artifactLocation project disk <+: effect.location := by
  rcases builds.location with ⟨split, place⟩ | ⟨path, part, place⟩
  · rw [place, artifactLocation_of_split split]
  · rw [place]
    exact target_prefix_of_mem_files part disk

theorem acts_writeFile {path : Path} (part : path ∈ site.files project) (content : Text) :
    Acts (site.Builds project) (writeFile path content) :=
  acts_mapError _ (Access.acts_writeText content fun _ _ bytes opening _ =>
    .file bytes part opening)

theorem writeSingleFile_eq (site : Site) (project : Project) :
    site.writeSingleFile project =
      (if project.mergedFeatures = [] then
          note .warning
            ("No feature of " ++ listing project.features ++ " applies to a " ++
              project.runtime.name ++ " project; " ++ (site.singleFile project).toText ++
              " will be empty")
        else pure ()) >>= fun _ => site.render project >>= fun text =>
          writeFile (site.singleFile project) text >>= fun _ =>
            note .info ("Wrote " ++ (site.singleFile project).toText) >>= fun _ =>
              pure (site.singleFile project) := by
  unfold writeSingleFile
  split
  · rfl
  · rw [pure_bind]

/-- Creates the split directory, or finds it when it may be there. -/
def prepareDirectory (site : Site) (project : Project) (replace : Bool) : Job Unit := do
  if ← mapError .ofFault (Access.ask (·.pathExists (site.splitDirectory project))) then
    if replace then pure () else throw (.directoryExists (site.splitDirectory project))
  else
    mapError (Failure.refused (site.splitDirectory project) .createDirectory)
      (Access.makeDirectory (site.splitDirectory project))

theorem writeSplitFiles_eq (site : Site) (project : Project) (replace : Bool) :
    site.writeSplitFiles project replace =
      site.prepareDirectory project replace >>= fun _ =>
        project.features.mapM (site.writeFeature project) >>= fun written =>
          note .info ("Wrote " ++ Text.ofNat written.length ++ " file(s) to " ++
            (site.splitDirectory project).toText) >>= fun _ => pure written := by
  unfold writeSplitFiles prepareDirectory
  rw [bind_assoc]
  refine bind_congr fun there => ?_
  cases there with
  | true => cases replace <;> rfl
  | false => rfl

theorem acts_writeArtifact (replace : Bool) :
    Acts (site.Builds project) (site.writeArtifact project replace) := by
  unfold writeArtifact
  cases layout : project.layout with
  | singleFile =>
      have part : site.singleFile project ∈ site.files project := by simp [files, layout]
      simp only [writeSingleFile_eq]
      refine acts_bind (acts_bind ?_ fun _ => acts_bind acts_render fun text =>
        acts_bind (acts_writeFile part text) fun _ => acts_bind (acts_note _ _) fun _ =>
          acts_pure _) fun _ => acts_pure _
      split
      · exact acts_note _ _
      · exact acts_pure _
  | splitFiles =>
      simp only [writeSplitFiles_eq]
      refine acts_bind ?_ fun _ => acts_bind ?_ fun _ => acts_bind (acts_note _ _) fun _ =>
        acts_pure _
      · refine acts_bind (acts_mapError _ (acts_ask _)) fun there => ?_
        cases there with
        | true =>
            cases replace with
            | true => exact acts_pure _
            | false => exact acts_throw _
        | false =>
            exact acts_mapError _ (Access.acts_performing fun _ _ making =>
              .directory layout making)
      · refine acts_mapM fun feature member => acts_bind (Feature.acts_payload feature)
          fun text => acts_bind (acts_writeFile ?_ text) fun _ => acts_pure _
        simp only [files, layout]
        exact List.mem_map_of_mem member

/-! ## What is written -/

/-- A path holds the text that an operation returns, and would return again. -/
def Shows (path : Path) (text : Job Text) (workspace : Workspace) : Prop :=
  ∃ content bytes, text workspace = (.ok content, workspace) ∧ content.encode? = some bytes ∧
    workspace.disk.read path = .ok bytes

/-- Every file of an artifact holds the text it should. -/
def Written (site : Site) (project : Project) (workspace : Workspace) : Prop :=
  match project.layout with
  | .singleFile => Shows (site.singleFile project) (site.render project) workspace
  | .splitFiles =>
      workspace.disk.isDirectory (site.splitDirectory project) = .ok true ∧
        ∀ feature ∈ project.features,
          Shows (site.featureFile project feature) (feature.payload site.templates) workspace

theorem writeFile_eq_ok {path : Path} {content : Text}
    (returned : writeFile path content before = (.ok (), after)) :
    ∃ bytes, before.disk.openingFile path = .ok (before.disk.target path) ∧
      content.encode? = some bytes ∧
      after = before.perform (.writeFile (before.disk.target path) bytes) := by
  obtain ⟨location, bytes, opening, encoded, rfl⟩ :=
    Access.writeText_eq_ok (mapError_eq_ok_iff.mp returned)
  obtain ⟨-, rfl, -⟩ := Disk.openingFile_eq_ok opening
  exact ⟨bytes, opening, encoded, rfl⟩

theorem shows_of_writeFile {path : Path} {text : Job Text} {content : Text}
    (stable : ∀ later : Workspace, later.Recalls before → text later = (.ok content, later))
    (returned : writeFile path content before = (.ok (), after)) : Shows path text after := by
  obtain ⟨bytes, opening, encoded, rfl⟩ := writeFile_eq_ok returned
  exact ⟨content, bytes, stable _ (before.reaches_perform _).recalls, encoded,
    Disk.read_apply_writeFile opening⟩

theorem Shows.of_reaches {path : Path} {text : Job Text} (shows : Shows path text before)
    (stable : ∀ content, text before = (.ok content, before) → text after = (.ok content, after))
    (same : after.disk.status path = before.disk.status path) : Shows path text after := by
  obtain ⟨content, bytes, returned, encoded, read⟩ := shows
  refine ⟨content, bytes, stable content returned, encoded, ?_⟩
  rw [Disk.read, same, ← Disk.read]
  exact read

theorem writeSingleFile_eq_ok {path : Path}
    (returned : site.writeSingleFile project before = (.ok path, after)) :
    Shows (site.singleFile project) (site.render project) after := by
  rw [writeSingleFile_eq] at returned
  obtain ⟨_, warned, -, continued⟩ := bind_eq_ok_iff.mp returned
  obtain ⟨content, rendered, rendering, continued⟩ := bind_eq_ok_iff.mp continued
  obtain ⟨_, written, writing, continued⟩ := bind_eq_ok_iff.mp continued
  obtain ⟨_, noted, note, finished⟩ := bind_eq_ok_iff.mp continued
  have shows := shows_of_writeFile
    (fun later recalls => render_of_recalls rendering recalls) writing
  cases note
  cases finished
  refine shows.of_reaches ?_ ?_
  · exact fun content again => render_of_recalls again (written.reaches_note _).recalls
  · rw [(written.reaches_note _).disk]
    rfl

/-- An effect of writing the files of some features. -/
def WritesFeatures (site : Site) (project : Project) (features : List Feature) (disk : Disk)
    (effect : Effect) : Prop :=
  ∃ feature ∈ features, ∃ bytes,
    disk.openingFile (site.featureFile project feature) =
      .ok (disk.target (site.featureFile project feature)) ∧
    effect = .writeFile (disk.target (site.featureFile project feature)) bytes

/-- The files of features are written beside each other: the split directory and what
leads to it stay as they are, and so do the files of other features. -/
theorem WritesFeatures.spares {features : List Feature}
    (writes : site.WritesFeatures project features disk effect) :
    (∀ station ∈ disk.reach (site.splitDirectory project), effect.Spares station) ∧
      ∀ other ∉ features, effect.Spares (disk.target (site.featureFile project other)) := by
  obtain ⟨feature, member, bytes, opening, rfl⟩ := writes
  obtain ⟨opens, -, noDirectory, -⟩ := Disk.openingFile_eq_ok opening
  refine ⟨fun station reached => ⟨id, fun _ same => ?_⟩, fun other absent => ⟨id, fun _ same => ?_⟩⟩
  · have isTarget : station = disk.target (site.featureFile project feature) := same
    rw [isTarget, ← ways_featureFile site project feature] at reached
    exact opens.target_not_mem_ways noDirectory reached
  · have isTarget : disk.target (site.featureFile project other) =
        disk.target (site.featureFile project feature) := same
    rw [target_featureFile, target_featureFile] at isTarget
    have sameName := List.singleton_inj.mp (List.append_cancel_left isTarget)
    exact absurd (Feature.eq_of_ofString_fileName sameName ▸ member) absent

theorem acts_writeFeatures (features : List Feature) :
    Acts (site.WritesFeatures project features)
      (features.mapM (site.writeFeature project)) := by
  refine acts_mapM fun feature member => acts_bind (Feature.acts_payload feature) fun text =>
    acts_bind (acts_mapError _ (Access.acts_writeText text ?_)) fun _ => acts_pure _
  intro disk location bytes opening _
  obtain ⟨-, rfl, -⟩ := Disk.openingFile_eq_ok opening
  exact ⟨feature, member, bytes, opening, rfl⟩

theorem writeFeature_eq_ok {path : Path}
    (returned : site.writeFeature project feature before = (.ok path, after)) :
    Shows (site.featureFile project feature) (feature.payload site.templates) after := by
  obtain ⟨content, read, reading, continued⟩ := bind_eq_ok_iff.mp returned
  obtain ⟨_, written, writing, finished⟩ := bind_eq_ok_iff.mp continued
  cases finished
  exact shows_of_writeFile (fun later recalls => Feature.payload_of_recalls reading recalls) writing

/-- The files of features that were written one after the other all show what they
should. -/
theorem writeFeatures_eq_ok {features : List Feature} {paths : List Path}
    (returned : features.mapM (site.writeFeature project) before = (.ok paths, after)) :
    ∀ feature ∈ features,
      Shows (site.featureFile project feature) (feature.payload site.templates) after := by
  induction features generalizing before paths with
  | nil => simp
  | cons first features induction =>
      obtain ⟨path, between, rest, writing, further, -⟩ := mapM_cons_eq_ok_iff.mp returned
      have acts : Acts (site.WritesFeatures project features)
          (features.mapM (site.writeFeature project)) := acts_writeFeatures features
      obtain ⟨effects, reaches, allows⟩ := acts between
      rw [further] at reaches
      have others := induction further
      rw [List.forall_mem_cons]
      refine ⟨?_, others⟩
      by_cases again : first ∈ features
      · exact others first again
      -- The files of other features are written beside this one.
      refine (writeFeature_eq_ok writing).of_reaches ?_ ?_
      · exact fun content read => Feature.payload_of_recalls read reaches.recalls
      · rw [reaches.disk]
        refine allows.status_eq fun station reached other effect home _ writes => ?_
        rw [Disk.mem_reach_iff, ways_featureFile, ← Disk.target_congr home,
          ← Disk.reach_congr home] at reached
        rcases reached with onTheWay | rfl
        · exact writes.spares.1 station onTheWay
        · exact writes.spares.2 first again

theorem prepareDirectory_eq_ok {replace : Bool}
    (returned : site.prepareDirectory project replace before = (.ok (), after)) :
    (before.disk.pathExists (site.splitDirectory project) = .ok true ∧ replace = true ∧
        after = before) ∨
      ∃ effect, before.disk.makingDirectory (site.splitDirectory project) = .ok effect ∧
        after = before.perform effect := by
  obtain ⟨there, between, asked, prepared⟩ := bind_eq_ok_iff.mp returned
  obtain ⟨answer, rfl⟩ := Access.ask_eq_ok_iff.mp (mapError_eq_ok_iff.mp asked)
  cases there with
  | true =>
      cases replace with
      | true =>
          cases prepared
          exact .inl ⟨answer, rfl, rfl⟩
      | false => cases prepared
  | false =>
      obtain ⟨effect, making, rfl⟩ := Access.performing_eq_ok (mapError_eq_ok_iff.mp prepared)
      exact .inr ⟨effect, making, rfl⟩

theorem opens_of_prepareDirectory {replace : Bool}
    (returned : site.prepareDirectory project replace before = (.ok (), after)) :
    before.disk.Opens (site.splitDirectory project) := by
  rcases prepareDirectory_eq_ok returned with ⟨there, -, -⟩ | ⟨effect, making, -⟩
  · exact (Disk.pathExists_eq_true_iff.mp there).1
  · exact (Disk.makingDirectory_eq_ok making).1

/-- A directory in which a file can be read is there. -/
theorem isDirectory_of_shows {disk : Disk} {text : Job Text} {feature : Feature}
    (opens : disk.Opens (site.splitDirectory project))
    (shows : Shows (site.featureFile project feature) text after) :
    after.disk.isDirectory (site.splitDirectory project) = .ok true := by
  obtain ⟨content, bytes, -, -, read⟩ := shows
  have passable := (Disk.read_eq_ok_iff.mp read).1.passable
  rw [ways_featureFile] at passable
  rw [Disk.isDirectory_eq_true_iff]
  refine ⟨⟨opens.vetted, opens.short, fun way member => passable way ?_⟩,
    passable _ (Disk.target_mem_reach _ _)⟩
  exact Disk.mem_reach_iff.mpr (.inl member)

theorem writeSplitFiles_eq_ok {replace : Bool} {paths : List Path}
    (returned : site.writeSplitFiles project replace before = (.ok paths, after)) :
    after.disk.isDirectory (site.splitDirectory project) = .ok true ∧
      ∀ feature ∈ project.features,
        Shows (site.featureFile project feature) (feature.payload site.templates) after := by
  rw [writeSplitFiles_eq] at returned
  obtain ⟨_, prepared, preparing, continued⟩ := bind_eq_ok_iff.mp returned
  obtain ⟨files, written, writing, continued⟩ := bind_eq_ok_iff.mp continued
  obtain ⟨_, noted, note, finished⟩ := bind_eq_ok_iff.mp continued
  have shows : ∀ feature ∈ project.features,
      Shows (site.featureFile project feature) (feature.payload site.templates) after := by
    intro feature member
    cases note
    cases finished
    refine (writeFeatures_eq_ok writing feature member).of_reaches ?_ ?_
    · exact fun content again => Feature.payload_of_recalls again (written.reaches_note _).recalls
    · rw [(written.reaches_note _).disk]
      rfl
  obtain ⟨feature, member⟩ := List.exists_mem_of_ne_nil _ project.features_ne_nil
  exact ⟨isDirectory_of_shows (opens_of_prepareDirectory preparing) (shows feature member), shows⟩

/-- An artifact that was written consists of files that show what they should. -/
theorem writeArtifact_eq_ok {replace : Bool} {paths : List Path}
    (returned : site.writeArtifact project replace before = (.ok paths, after)) :
    site.Written project after := by
  unfold writeArtifact at returned
  unfold Written
  cases layout : project.layout with
  | singleFile =>
      simp only [layout] at returned
      obtain ⟨path, written, writing, finished⟩ := bind_eq_ok_iff.mp returned
      cases finished
      exact writeSingleFile_eq_ok writing
  | splitFiles =>
      simp only [layout] at returned
      exact writeSplitFiles_eq_ok returned

theorem Written.occupied (written : site.Written project after) :
    after.disk.entries (site.artifactLocation project after.disk) ≠ none := by
  unfold Written at written
  cases layout : project.layout with
  | singleFile =>
      rw [layout] at written
      obtain ⟨content, bytes, -, -, read⟩ := written
      rw [artifactLocation_of_single layout, (Disk.read_eq_ok_iff.mp read).2]
      simp
  | splitFiles =>
      rw [layout] at written
      rw [artifactLocation_of_split layout, (Disk.isDirectory_eq_true_iff.mp written.1).2]
      simp

end Site

end HelperKit
