import HelperKit.Proofs.Artifact.Genuine
import HelperKit.Proofs.Artifact.Interruption

/-!
# Where payloads come from

At any time a workspace has a text for a feature: the one that it remembers, or else the one
in the file of the feature's template.  An operation may write over that file, but only once
the text is remembered, so that every payload that is read while an artifact is written is
the text that the workspace had at the start.
-/

namespace HelperKit

open Attempt

namespace Feature

/-- The file of the template of a feature. -/
def templateFile (folder : Path) (feature : Feature) : Path :=
  { folder with parts := folder.parts ++ [Text.ofString feature.fileName] }

/-- The text of the template of a feature, as far as it can be read where the template lies. -/
def template? (folder : TemplateFolder) (disk : Disk) (feature : Feature) : Option Text :=
  match folder with
  | .shipped => Template.shippedText? [Text.ofString feature.fileName]
  | .directory path =>
      match disk.entries (disk.target (feature.templateFile path)) with
      | some (.file bytes) => (Text.ofFile? bytes).map Text.ofChars
      | _ => none

/-- The text that a workspace remembers for a feature. -/
def remembered? (workspace : Workspace) (feature : Feature) : Option Text :=
  workspace.cache.lookup (Text.ofString feature.fileName)

/-- The text that a workspace has for a feature. -/
def text? (folder : TemplateFolder) (workspace : Workspace) (feature : Feature) : Option Text :=
  (feature.remembered? workspace).or (feature.template? folder workspace.disk)

variable {folder : TemplateFolder} {disk : Disk} {feature other : Feature} {text : Text}

theorem pieces?_fileName (feature : Feature) :
    Template.pieces? feature.fileName = some [Text.ofString feature.fileName] := by
  cases feature <;> decide

theorem target_templateFile (folder : Path) (feature : Feature) (disk : Disk) :
    disk.target (feature.templateFile folder) =
      disk.target folder ++ [Text.ofString feature.fileName] :=
  feature.target_fileName folder disk

theorem entries_of_fileIn? {path : Path} {bytes : ByteArray}
    (found : Template.fileIn? disk path [Text.ofString feature.fileName] = some bytes) :
    disk.entries (disk.target (feature.templateFile path)) = some (.file bytes) := by
  unfold Template.fileIn? at found
  split at found
  · rename_i content known
    cases found
    exact (Disk.status_eq_ok_iff.mp known).2
  · cases found

/-- A template that is read is in its file. -/
theorem template?_of_current
    (read : Template.current folder disk feature.fileName = .ok text) :
    feature.template? folder disk = some text := by
  unfold Template.current at read
  rw [pieces?_fileName] at read
  unfold template?
  cases folder with
  | shipped =>
      simp only at read ⊢
      cases known : Template.shippedText? [Text.ofString feature.fileName] with
      | none =>
          rw [known] at read
          cases read
      | some found =>
          rw [known] at read
          cases read
          rfl
  | directory path =>
      simp only at read ⊢
      cases found : Template.fileIn? disk path [Text.ofString feature.fileName] with
      | none =>
          rw [found] at read
          cases read
      | some bytes =>
          rw [found] at read
          rw [entries_of_fileIn? found]
          simp only at read ⊢
          cases characters : Text.ofFile? bytes with
          | none =>
              rw [characters] at read
              cases read
          | some characters =>
              rw [characters] at read
              cases read
              rfl

/-- An effect writes over the file of the template of a feature. -/
def Overwrites (folder : TemplateFolder) (disk : Disk) (feature : Feature) (effect : Effect) :
    Prop :=
  ∃ path bytes, folder = .directory path ∧
    effect = .writeFile (disk.target (feature.templateFile path)) bytes

/-- A template that is there after an effect was there before, unless it was written over. -/
theorem template?_of_apply {effect : Effect} (harmless : ¬ Overwrites folder disk feature effect)
    (there : feature.template? folder (disk.apply effect) = some text) :
    feature.template? folder disk = some text := by
  cases folder with
  | shipped => exact there
  | directory path =>
      simp only [template?, Disk.target_congr (disk.apply_home effect)] at there ⊢
      by_cases spares : effect.Spares (disk.target (feature.templateFile path))
      · rw [Disk.entries_apply_of_spares spares] at there
        exact there
      · -- What is not spared is taken away or created, and no file is created here.
        by_cases removes : effect.Removes (disk.target (feature.templateFile path))
        · rw [Disk.entries_apply_of_removes removes] at there
          cases there
        · simp only [Effect.Spares, removes, not_false_eq_true, true_and, not_forall,
            not_not] at spares
          obtain ⟨created, here⟩ := spares
          rw [here] at there
          cases effect with
          | makeDirectory place =>
              rw [Disk.entries_apply_of_created rfl] at there
              cases there
          | writeFile place bytes =>
              have isPlace : disk.target (feature.templateFile path) = place := here
              exact absurd ⟨path, bytes, rfl, by rw [isPlace]⟩ harmless
          | removeFile place => exact absurd rfl created
          | removeTree place => exact absurd rfl created
          | emptyDirectory place => exact absurd rfl created

theorem template?_of_applyAll {effects : List Effect}
    (harmless : disk.Allows (fun disk effect => ¬ Overwrites folder disk feature effect) effects)
    (there : feature.template? folder (disk.applyAll effects) = some text) :
    feature.template? folder disk = some text :=
  harmless.applyAll (fun later => feature.template? folder later = some text →
    feature.template? folder disk = some text) id
    (fun _ _ earlier harmless later => earlier (template?_of_apply harmless later)) there

end Feature

/-! ## Following -/

/-- Whatever text a workspace has for a feature, the origin has had it. -/
structure Workspace.Follows (folder : TemplateFolder) (origin workspace : Workspace) : Prop where
  home : workspace.disk.home = origin.disk.home
  remembered : ∀ (feature : Feature) text, feature.remembered? workspace = some text →
    feature.text? folder origin = some text
  unread : ∀ feature : Feature, feature.remembered? workspace = none →
    feature.remembered? origin = none ∧ ∀ text,
      feature.template? folder workspace.disk = some text →
        feature.template? folder origin.disk = some text

/-- No template that a workspace has still to read lies where the settings document does, nor
where the merged file of a project does that has one. -/
def Site.SparesTemplates (site : Site) (project : Project) (origin : Workspace) : Prop :=
  ∀ folder, site.templates = .directory folder →
    ∀ feature : Feature, feature.remembered? origin = none →
      origin.disk.target (feature.templateFile folder) ≠ site.documentLocation origin.disk ∧
        (project.layout = .singleFile →
          origin.disk.target (feature.templateFile folder) ≠
            site.artifactLocation project origin.disk)

theorem Workspace.steady_cache (cache : List (Text × Text)) :
    Workspace.Steady fun workspace => workspace.cache = cache where
  perform := fun _ _ same => same
  note := by
    intro workspace record same
    unfold Workspace.note
    split
    · exact same
    · exact same

namespace Workspace.Follows

variable {site : Site} {project : Project} {folder : TemplateFolder}
  {origin before after : Workspace} {feature : Feature} {effects : List Effect}

theorem refl (folder : TemplateFolder) (origin : Workspace) :
    Workspace.Follows folder origin origin where
  home := rfl
  remembered := by
    intro feature text known
    rw [Feature.text?, known, Option.some_or]
  unread := fun feature unknown => ⟨unknown, fun text there => there⟩

/-- A payload that is read is the text of the origin, and is remembered. -/
theorem payload {text : Text} (follows : Workspace.Follows folder origin before)
    (returned : feature.payload folder before = (.ok text, after)) :
    feature.text? folder origin = some text ∧ Workspace.Follows folder origin after ∧
      feature.remembered? after = some text := by
  have known := Template.remembered_of_source returned
  change Template.source folder feature.fileName before = (.ok text, after) at returned
  rw [Template.source_apply] at returned
  cases remembered : before.cache.lookup (Text.ofString feature.fileName) with
  | some old =>
      rw [remembered] at returned
      cases returned
      exact ⟨follows.remembered feature text remembered, follows, known⟩
  | none =>
      rw [remembered] at returned
      cases read : Template.current folder before.disk feature.fileName with
      | error failure =>
          rw [read] at returned
          cases returned
      | ok found =>
          rw [read] at returned
          cases returned
          -- The feature was never read before, so that its text is still the one of the origin.
          obtain ⟨fresh, earlier⟩ := follows.unread feature remembered
          have had : feature.text? folder origin = some text := by
            rw [Feature.text?, fresh, Option.none_or]
            exact earlier text (Feature.template?_of_current read)
          refine ⟨had, ⟨follows.home, ?_, ?_⟩, known⟩
          · intro other old looked
            rw [Feature.remembered?, List.lookup_cons] at looked
            split at looked
            · rename_i same
              cases looked
              rw [Feature.eq_of_ofString_fileName (eq_of_beq same)]
              exact had
            · exact follows.remembered other old looked
          · intro other unknown
            rw [Feature.remembered?, List.lookup_cons] at unknown
            split at unknown
            · cases unknown
            · exact follows.unread other unknown

theorem payloads {features : List Feature} {texts : List Text}
    (follows : Workspace.Follows folder origin before)
    (returned : features.mapM (Feature.payload folder) before = (.ok texts, after)) :
    features.mapM (Feature.text? folder origin) = some texts ∧
      Workspace.Follows folder origin after := by
  induction features generalizing before texts with
  | nil =>
      cases returned
      exact ⟨rfl, follows⟩
  | cons feature features induction =>
      obtain ⟨text, between, rest, first, further, rfl⟩ := mapM_cons_eq_ok_iff.mp returned
      obtain ⟨known, next, -⟩ := follows.payload first
      obtain ⟨others, last⟩ := induction next further
      refine ⟨?_, last⟩
      rw [List.mapM_cons, known, others]
      rfl

/-- Effects that write over no template that is still to be read do not matter. -/
theorem of_reaches (follows : Workspace.Follows folder origin before)
    (reaches : before.Reaches effects after) (sameCache : after.cache = before.cache)
    (harmless : ∀ feature : Feature, feature.remembered? before = none →
      before.disk.Allows (fun disk effect => ¬ feature.Overwrites folder disk effect) effects) :
    Workspace.Follows folder origin after := by
  have same : ∀ feature : Feature, feature.remembered? after = feature.remembered? before := by
    intro feature
    rw [Feature.remembered?, sameCache, Feature.remembered?]
  refine ⟨reaches.home.trans follows.home, ?_, ?_⟩
  · intro feature text known
    rw [same] at known
    exact follows.remembered feature text known
  · intro feature unknown
    rw [same] at unknown
    obtain ⟨fresh, earlier⟩ := follows.unread feature unknown
    refine ⟨fresh, fun text there => earlier text ?_⟩
    rw [reaches.disk] at there
    exact Feature.template?_of_applyAll (harmless feature unknown) there

/-- An operation that reads no template, and writes over none that is still to be read. -/
theorem of_acts {ε α : Type} {operation : Attempt ε α} {allowed : Disk → Effect → Prop}
    {result : Except ε α} (follows : Workspace.Follows folder origin before)
    (acts : ActsOn allowed operation before)
    (keepsCache : Preserves (fun workspace => workspace.cache = before.cache) operation)
    (ended : operation before = (result, after))
    (harmless : ∀ feature : Feature, feature.remembered? before = none →
      ∀ disk effect, disk.home = before.disk.home → allowed disk effect →
        ¬ feature.Overwrites folder disk effect) :
    Workspace.Follows folder origin after := by
  obtain ⟨effects, reaches, allows⟩ := acts
  have sameCache := keepsCache before rfl
  rw [ended] at reaches sameCache
  refine follows.of_reaches reaches sameCache fun feature unknown => ?_
  exact allows.of_invariant (fun disk => disk.home = before.disk.home) rfl
    fun disk effect home permitted => ⟨harmless feature unknown disk effect home permitted,
      (disk.apply_home effect).trans home⟩

/-! ## Writing -/

theorem recreateDirectory (follows : Workspace.Follows folder origin before)
    (split : project.layout = .splitFiles)
    (returned : Site.recreateDirectory (site.splitDirectory project) before = (.ok (), after)) :
    Workspace.Follows folder origin after := by
  have clears : ClearsFirst (fun _ effect => ∀ place bytes, effect ≠ .writeFile place bytes)
      (fun _ effect => ∀ place bytes, effect ≠ .writeFile place bytes)
      (Site.recreateDirectory (site.splitDirectory project)) before := by
    refine Site.clearsFirst_recreateDirectory (fun disk effect clears => ?_)
      (fun disk effect paves => ?_) split
    · cases clears with
      | file single removing =>
          obtain ⟨-, -, rfl⟩ := Disk.removingFile_eq_ok removing
          simp
      | tree split removing =>
          obtain ⟨-, -, ⟨rfl, -⟩ | ⟨rfl, -⟩⟩ := Disk.removingTree_eq_ok removing <;> simp
    · obtain ⟨-, names, -, making⟩ := paves
      obtain ⟨-, -, -, rfl⟩ := Disk.makingDirectory_eq_ok making
      simp
  refine follows.of_acts clears.actsOn
    (Site.preserves_recreateDirectory (Workspace.steady_cache _) _) returned ?_
  rintro feature - disk effect - harmless ⟨path, bytes, -, rfl⟩
  exact harmless _ _ rfl

theorem prepareDirectory {replace : Bool} (follows : Workspace.Follows folder origin before)
    (returned : site.prepareDirectory project replace before = (.ok (), after)) :
    Workspace.Follows folder origin after := by
  rcases Site.prepareDirectory_eq_ok returned with ⟨-, -, rfl⟩ | ⟨effect, making, rfl⟩
  · exact follows
  · obtain ⟨-, -, -, rfl⟩ := Disk.makingDirectory_eq_ok making
    refine follows.of_reaches (before.reaches_perform _) rfl fun feature _ => ⟨?_, trivial⟩
    rintro ⟨path, bytes, -, impossible⟩
    cases impossible

/-- A file of an artifact is written over no template that is still to be read, since the
template of its own feature has been read by then. -/
theorem writeFeature {path : Path} (follows : Workspace.Follows site.templates origin before)
    (returned : site.writeFeature project feature before = (.ok path, after)) :
    Workspace.Follows site.templates origin after := by
  obtain ⟨content, read, reading, continued⟩ := bind_eq_ok_iff.mp returned
  obtain ⟨_, written, writing, finished⟩ := bind_eq_ok_iff.mp continued
  cases finished
  obtain ⟨-, next, known⟩ := follows.payload reading
  obtain ⟨bytes, -, -, rfl⟩ := Site.writeFile_eq_ok writing
  refine next.of_reaches (read.reaches_perform _) rfl fun other unknown => ⟨?_, trivial⟩
  rintro ⟨folder, content, -, same⟩
  have place := (Effect.writeFile.inj same).1
  rw [Site.target_featureFile, Feature.target_templateFile] at place
  have sameName := List.singleton_inj.mp (List.append_inj' place rfl).2
  rw [← Feature.eq_of_ofString_fileName sameName, known] at unknown
  cases unknown

theorem writeFeatures {features : List Feature} {paths : List Path}
    (follows : Workspace.Follows site.templates origin before)
    (returned : features.mapM (site.writeFeature project) before = (.ok paths, after)) :
    Workspace.Follows site.templates origin after := by
  induction features generalizing before paths with
  | nil =>
      cases returned
      exact follows
  | cons feature features induction =>
      obtain ⟨path, between, rest, first, further, -⟩ := mapM_cons_eq_ok_iff.mp returned
      exact induction (follows.writeFeature first) further

theorem note {level : Level} {message : Text} (follows : Workspace.Follows folder origin before)
    (returned : (Attempt.note level message : Job Unit) before = (.ok (), after)) :
    Workspace.Follows folder origin after := by
  have sameCache := (Workspace.steady_cache before.cache).note before ⟨level, message⟩ rfl
  cases returned
  exact follows.of_reaches (before.reaches_note _) sameCache fun _ _ => trivial

theorem writeSplitFiles {replace : Bool} {paths : List Path}
    (follows : Workspace.Follows site.templates origin before)
    (returned : site.writeSplitFiles project replace before = (.ok paths, after)) :
    Workspace.Follows site.templates origin after := by
  rw [Site.writeSplitFiles_eq] at returned
  obtain ⟨_, prepared, preparing, continued⟩ := bind_eq_ok_iff.mp returned
  obtain ⟨files, written, writing, continued⟩ := bind_eq_ok_iff.mp continued
  obtain ⟨_, noted, note, finished⟩ := bind_eq_ok_iff.mp continued
  cases finished
  exact ((follows.prepareDirectory preparing).writeFeatures writing).note note

/-! ## Templates that are not written over -/

theorem writeSingleFile {path : Path} (follows : Workspace.Follows site.templates origin before)
    (single : project.layout = .singleFile)
    (sparesTemplates : site.SparesTemplates project origin)
    (returned : site.writeSingleFile project before = (.ok path, after)) :
    Workspace.Follows site.templates origin after := by
  rw [Site.writeSingleFile_eq] at returned
  obtain ⟨_, warned, warning, continued⟩ := bind_eq_ok_iff.mp returned
  obtain ⟨content, rendered, rendering, continued⟩ := bind_eq_ok_iff.mp continued
  obtain ⟨_, written, writing, continued⟩ := bind_eq_ok_iff.mp continued
  obtain ⟨_, noted, note, finished⟩ := bind_eq_ok_iff.mp continued
  cases finished
  have start : Workspace.Follows site.templates origin warned := by
    split at warning
    · exact follows.note warning
    · cases warning
      exact follows
  obtain ⟨payloads, _, reading, merged⟩ := bind_eq_ok_iff.mp rendering
  cases merged
  have next := (start.payloads reading).2
  obtain ⟨bytes, -, -, rfl⟩ := Site.writeFile_eq_ok writing
  refine (next.of_reaches (rendered.reaches_perform _) rfl fun feature unread =>
    ⟨?_, trivial⟩).note note
  rintro ⟨folder, content, fromFolder, same⟩
  refine (sparesTemplates folder fromFolder feature (next.unread feature unread).1).2 single ?_
  rw [Site.artifactLocation_of_single single, ← Disk.target_congr next.home,
    ← Disk.target_congr next.home]
  exact (Effect.writeFile.inj same).1.symm

theorem writeArtifact {replace : Bool} {paths : List Path}
    (follows : Workspace.Follows site.templates origin before)
    (sparesTemplates : site.SparesTemplates project origin)
    (returned : site.writeArtifact project replace before = (.ok paths, after)) :
    Workspace.Follows site.templates origin after := by
  unfold Site.writeArtifact at returned
  cases layout : project.layout with
  | singleFile =>
      simp only [layout] at returned
      obtain ⟨path, written, writing, finished⟩ := bind_eq_ok_iff.mp returned
      cases finished
      exact follows.writeSingleFile layout sparesTemplates writing
  | splitFiles =>
      simp only [layout] at returned
      exact follows.writeSplitFiles returned

theorem save (follows : Workspace.Follows site.templates origin before)
    (sparesTemplates : site.SparesTemplates project origin)
    (returned : site.store.save project before = (.ok (), after)) :
    Workspace.Follows site.templates origin after := by
  refine follows.of_acts (site.store.acts_save project before)
    (site.store.preserves_save (Workspace.steady_cache _) project) returned ?_
  rintro feature unread disk effect home keeps ⟨folder, bytes, fromFolder, rfl⟩
  have atDocument : disk.target (feature.templateFile folder) = disk.target site.store.path := by
    cases keeps with
    | way shorter making =>
        obtain ⟨-, -, -, impossible⟩ := Disk.makingDirectory_eq_ok making
        cases impossible
    | write opening fitting =>
        obtain ⟨-, same, -⟩ := Disk.openingFile_eq_ok opening
        exact same
    | remove removing =>
        obtain ⟨-, -, impossible⟩ := Disk.removingFile_eq_ok removing
        cases impossible
  refine (sparesTemplates folder fromFolder feature (follows.unread feature unread).1).1 ?_
  have sameHome := home.trans follows.home
  rw [Disk.target_congr sameHome, Disk.target_congr sameHome] at atDocument
  exact atDocument

end Workspace.Follows

end HelperKit
