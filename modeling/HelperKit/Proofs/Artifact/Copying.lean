import HelperKit.Proofs.Artifact.Interruption
import HelperKit.Proofs.Artifact.Merging
import HelperKit.Proofs.Artifact.Sources

/-!
# Copies of templates

In a split directory the file of a feature is a copy of the file of its template, character by
character, except that every line end becomes a line feed.  The two files have the same bytes
just if the template has no carriage return.
-/

namespace HelperKit

open Attempt

namespace Text

theorem notMem_unifyLineEnds (characters : List Char) : '\r' ∉ unifyLineEnds characters := by
  induction characters using unifyLineEnds.induct with
  | case1 => simp [unifyLineEnds]
  | case2 rest induction => simpa [unifyLineEnds] using induction
  | case3 rest single induction => simpa [unifyLineEnds] using induction
  | case4 character rest single double induction =>
      rw [unifyLineEnds, List.mem_cons, not_or]
      · exact ⟨fun same => double same.symm, induction⟩
      · exact single
      · exact double

theorem unifyLineEnds_eq_self_iff {characters : List Char} :
    unifyLineEnds characters = characters ↔ '\r' ∉ characters := by
  constructor
  · intro same
    rw [← same]
    exact notMem_unifyLineEnds characters
  · exact unifyLineEnds_eq_self

theorem encode?_ofChars (characters : List Char) :
    (ofChars characters).encode? = some (String.ofList characters).toUTF8 := by
  rw [encode?, toChars?_eq_some_iff.mpr rfl]
  rfl

/-- A text with other line ends has the same bytes just if it had none. -/
theorem encode?_unifyLineEnds_iff {original copy : ByteArray} {characters : List Char}
    (decoded : decode? original = some characters)
    (encoded : (ofChars (unifyLineEnds characters)).encode? = some copy) :
    copy = original ↔ '\r' ∉ characters := by
  rw [← unifyLineEnds_eq_self_iff]
  constructor
  · rintro rfl
    have reread := decode?_of_encode? encoded
    rw [decoded, toChars?_eq_some_iff.mpr rfl] at reread
    exact (Option.some.inj reread).symm
  · intro same
    rw [same, encode?_ofChars] at encoded
    rw [eq_toUTF8_of_decode? decoded]
    exact (Option.some.inj encoded).symm

end Text

/-- The text of a template in a folder is that of its file, with line feeds for line ends. -/
theorem Feature.template?_directory {folder : Path} {disk : Disk} {feature : Feature} {text : Text}
    (there : feature.template? (.directory folder) disk = some text) :
    ∃ original characters,
      disk.entries (disk.target (feature.templateFile folder)) = some (.file original) ∧
        Text.decode? original = some characters ∧
          text = Text.ofChars (Text.unifyLineEnds characters) := by
  simp only [template?] at there
  split at there
  · rename_i original file
    obtain ⟨unified, read, rfl⟩ := Option.map_eq_some_iff.mp there
    obtain ⟨characters, decoded, rfl⟩ := Option.map_eq_some_iff.mp read
    exact ⟨original, characters, file, decoded, rfl⟩
  · cases there

namespace Site

variable {site : Site} {project : Project} {origin before after : Workspace}

/-- A file of the split directory holds the text of its feature, unless it is the settings
document at the same time. -/
theorem read_of_materialize {replace : Bool} {paths : List Path}
    (split : project.layout = .splitFiles)
    (follows : Workspace.Follows site.templates origin before)
    (returned : site.materialize project replace before = (.ok paths, after)) :
    ∀ feature ∈ project.features, ∃ text bytes,
      feature.text? site.templates origin = some text ∧ text.encode? = some bytes ∧
        (origin.disk.target (site.featureFile project feature) ≠
            site.documentLocation origin.disk →
          after.disk.read (site.featureFile project feature) = .ok bytes) := by
  intro feature member
  obtain ⟨between, writing, saving⟩ := materialize_eq_ok returned
  have written := writeArtifact_eq_ok writing
  rw [Written, split] at written
  obtain ⟨text, bytes, reading, encoded, read⟩ := written.2 feature member
  simp only [writeArtifact, split] at writing
  have next := follows.writeSplitFiles writing
  refine ⟨text, bytes, (next.payload reading).1, encoded, fun elsewhere => ?_⟩
  obtain ⟨effects, reaches, keeps⟩ := site.store.acts_save project between
  rw [saving] at reaches
  rw [reaches.disk]
  refine keeps.read_eq_of_keeps read ?_
  rw [Disk.target_congr next.home, Disk.target_congr next.home]
  exact elsewhere

theorem read_of_renew (split : project.layout = .splitFiles)
    (returned : site.renew project before = (.ok (), after)) :
    ∀ feature ∈ project.features, ∃ text bytes,
      feature.text? site.templates before = some text ∧ text.encode? = some bytes ∧
        (before.disk.target (site.featureFile project feature) ≠
            site.documentLocation before.disk →
          after.disk.read (site.featureFile project feature) = .ok bytes) := by
  obtain ⟨paths, between, cleared, writing⟩ := renew_eq_ok returned
  have follows : Workspace.Follows site.templates before between := by
    cases cleared with
    | single _ => exact .refl site.templates before
    | split _ recreating =>
        exact (Workspace.Follows.refl site.templates before).recreateDirectory split recreating
  exact read_of_materialize split follows writing

/-- A call that writes a split directory copies the template of every feature: the file holds
the characters of the template with every line end turned into a line feed, and thus the same
bytes just if the template has no carriage return.  This is so for any runtime, and for the
templates as they are before the call; a file that is the settings document at the same time
holds that in the end. -/
theorem call_copies_templates (site : Site) (folder : Path) (call : ArtifactCall)
    (project : Project) (before after : Workspace)
    (fromFolder : site.templates = .directory folder)
    (split : call.project.layout = .splitFiles)
    (faithful : ∀ (feature : Feature) text, feature.remembered? before = some text →
      feature.template? site.templates before.disk = some text)
    (returned : call.run site before = (.ok (.wrote project), after)) :
    ∀ feature ∈ project.features, ∃ original characters copy,
      before.disk.entries (before.disk.target (feature.templateFile folder)) =
        some (.file original) ∧
      Text.decode? original = some characters ∧
      (Text.ofChars (Text.unifyLineEnds characters)).encode? = some copy ∧
      (copy = original ↔ '\r' ∉ characters) ∧
      (before.disk.target (site.featureFile project feature) ≠
          site.documentLocation before.disk →
        after.disk.read (site.featureFile project feature) = .ok copy) := by
  intro feature member
  have read : ∃ text bytes,
      feature.text? site.templates before = some text ∧ text.encode? = some bytes ∧
        (before.disk.target (site.featureFile project feature) ≠
            site.documentLocation before.disk →
          after.disk.read (site.featureFile project feature) = .ok bytes) := by
    cases ArtifactCall.did_of_run returned with
    | wrote same writing =>
        subst same
        exact read_of_materialize split (.refl site.templates before) writing feature member
    | @renewed selection renewing =>
        have layout : { call.project with selection }.layout = .splitFiles := split
        exact read_of_renew layout renewing feature member
  obtain ⟨text, copy, known, encoded, holds⟩ := read
  have there : feature.template? site.templates before.disk = some text := by
    unfold Feature.text? at known
    cases remembered : feature.remembered? before with
    | none =>
        rw [remembered, Option.none_or] at known
        exact known
    | some old =>
        rw [remembered, Option.some_or] at known
        exact faithful feature text (remembered.trans known)
  rw [fromFolder] at there
  obtain ⟨original, characters, file, decoded, rfl⟩ := Feature.template?_directory there
  exact ⟨original, characters, copy, file, decoded, encoded,
    Text.encode?_unifyLineEnds_iff decoded encoded, holds⟩

/-- A project with both features of a folder of templates in a directory of their own. -/
def splitPair : Project :=
  ⟨.nodeJs, ".", .custom [.option, .core] (by decide) (by decide), .splitFiles⟩

/-- One template has a byte order mark and an import, the other one a carriage return: the first
one is copied as it is, the second one is not. -/
theorem call_copies_templates_pair :
    let folder := Path.ofText "tpl"
    let site : Site := ⟨.standard, .directory folder⟩
    let before := Workspace.on (templateDisk "\ufeffimport x\n" "a\rb") .warning
    ∃ after core option copy,
      (ArtifactCall.materialize splitPair false).run site before =
        (.ok (.wrote splitPair), after) ∧
      before.disk.read (Feature.core.templateFile folder) = .ok core ∧
      before.disk.read (Feature.option.templateFile folder) = .ok option ∧
      after.disk.read (site.featureFile splitPair .core) = .ok core ∧
      after.disk.read (site.featureFile splitPair .option) = .ok copy ∧ copy ≠ option := by
  intro folder site before
  have ran : ((ArtifactCall.materialize splitPair false).run site before).1 =
      .ok (.wrote splitPair) := by decide +kernel
  have coreRead : before.disk.read (Feature.core.templateFile folder) =
      .ok "\ufeffimport x\n".toUTF8 := by decide +kernel
  have optionRead : before.disk.read (Feature.option.templateFile folder) =
      .ok "a\rb".toUTF8 := by decide +kernel
  obtain ⟨after, returned⟩ := exists_eq_mk ran
  have copies := call_copies_templates site folder (.materialize splitPair false) splitPair before
    after rfl rfl (fun feature text known => by cases known) returned
  have elsewhere : ∀ feature ∈ splitPair.features,
      before.disk.target (site.featureFile splitPair feature) ≠
        site.documentLocation before.disk := by decide +kernel
  -- The template of a feature is the file that was read.
  have copied : ∀ (feature : Feature) (text : String), feature ∈ splitPair.features →
      before.disk.read (feature.templateFile folder) = .ok text.toUTF8 →
        ∃ copy, after.disk.read (site.featureFile splitPair feature) = .ok copy ∧
          (copy = text.toUTF8 ↔ '\r' ∉ text.toList) := by
    intro feature text member read
    obtain ⟨original, characters, copy, file, decoded, -, same, holds⟩ := copies feature member
    rw [(Disk.read_eq_ok_iff.mp read).2] at file
    cases file
    rw [Text.decode?_toUTF8] at decoded
    cases decoded
    exact ⟨copy, holds (elsewhere feature member), same⟩
  obtain ⟨core, coreHolds, coreSame⟩ := copied .core _ (by decide) coreRead
  obtain ⟨copy, optionHolds, optionSame⟩ := copied .option _ (by decide) optionRead
  rw [coreSame.mpr (by decide)] at coreHolds
  exact ⟨after, _, _, copy, returned, coreRead, optionRead, coreHolds, optionHolds,
    fun same => optionSame.mp same (by decide)⟩

/-- A template with a carriage return is not copied byte for byte. -/
theorem carriage_return_lost :
    let folder := Path.ofText "tpl"
    let site : Site := ⟨.standard, .directory folder⟩
    let before := Workspace.on (templateDisk "a\r\nb" "") .warning
    let project : Project := ⟨.deno, ".", .preset .core, .splitFiles⟩
    let ended := (ArtifactCall.materialize project false).run site before
    ended.1 = .ok (.wrote project) ∧
      ended.2.disk.read (site.featureFile project .core) ≠
        before.disk.read (Feature.core.templateFile folder) := by
  decide +kernel

end Site

end HelperKit
