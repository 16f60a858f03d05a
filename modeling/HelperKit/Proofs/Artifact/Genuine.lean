import HelperKit.Proofs.Artifact.InStep
import HelperKit.Proofs.Workspace.Preserving

/-!
# Shipped templates

A workspace may remember the text of templates.  What one remembers that began with nothing
remembered is what is shipped, whatever it did, so that the files that it wrote are those that
any later one would write.
-/

namespace HelperKit

open Attempt

/-- What a workspace remembers of templates is what is shipped. -/
def Workspace.Genuine (workspace : Workspace) : Prop :=
  ∀ name text, workspace.cache.lookup name = some text →
    ∀ disk, Template.current .shipped disk name = .ok text

variable {before between after other : Workspace} {α β : Type}

theorem Workspace.genuine_on (disk : Disk) (threshold : Level) :
    (Workspace.on disk threshold).Genuine := by
  intro name text known
  cases known

theorem Workspace.steady_genuine : Workspace.Steady Workspace.Genuine where
  perform := fun _ _ genuine => genuine
  note := by
    intro workspace record genuine
    unfold Workspace.note
    split
    · exact genuine
    · exact genuine

namespace Template

theorem current_shipped_congr (disk other : Disk) (name : Text) :
    current .shipped disk name = current .shipped other name := by
  unfold current
  cases pieces? name <;> rfl

theorem source_shipped (genuine : before.Genuine) (disk : Disk) (name : Text) :
    (source .shipped name before).1 = current .shipped disk name := by
  rw [source_apply]
  cases remembered : before.cache.lookup name with
  | some text => exact (genuine name text remembered disk).symm
  | none =>
      rw [current_shipped_congr before.disk disk]
      cases current .shipped disk name <;> rfl

theorem preserves_source (name : Text) : Preserves Workspace.Genuine (source .shipped name) := by
  intro workspace genuine
  rw [source_apply]
  cases remembered : workspace.cache.lookup name with
  | some text => exact genuine
  | none =>
      cases read : current .shipped workspace.disk name with
      | error failure => exact genuine
      | ok text =>
          intro asked known found disk
          change List.lookup asked ((name, text) :: workspace.cache) = some known at found
          rw [List.lookup_cons] at found
          split at found
          · rename_i same
            cases found
            rw [eq_of_beq same, ← read]
            exact current_shipped_congr _ _ _
          · exact genuine asked known found disk

end Template

/-- An operation has the same result in all workspaces that remember what is shipped. -/
def Alike (operation : Job α) : Prop :=
  ∀ ⦃before other : Workspace⦄, before.Genuine → other.Genuine →
    (operation before).1 = (operation other).1

theorem alike_pure (value : α) : Alike (pure value : Job α) :=
  fun _ _ _ _ => rfl

theorem Alike.bind {first : Job α} {next : α → Job β} (firstAlike : Alike first)
    (firstKeeps : Preserves Workspace.Genuine first) (nextAlike : ∀ value, Alike (next value)) :
    Alike (first >>= next) := by
  intro before other genuine otherGenuine
  have same := firstAlike genuine otherGenuine
  have left := firstKeeps before genuine
  have right := firstKeeps other otherGenuine
  rw [bind_apply, bind_apply]
  cases reached : first before with
  | mk result between =>
      cases reachedOther : first other with
      | mk otherResult otherBetween =>
          rw [reached] at same left
          rw [reachedOther] at same right
          cases same
          cases result with
          | error failure => rfl
          | ok value => exact nextAlike value left right

namespace Feature

theorem preserves_payload (feature : Feature) :
    Preserves Workspace.Genuine (feature.payload .shipped) :=
  Template.preserves_source _

theorem alike_payload (feature : Feature) : Alike (feature.payload .shipped) := by
  intro before other genuine otherGenuine
  exact (Template.source_shipped genuine before.disk _).trans
    (Template.source_shipped otherGenuine before.disk _).symm

theorem alike_payloads (features : List Feature) :
    Alike (features.mapM (Feature.payload .shipped)) := by
  induction features with
  | nil => exact alike_pure []
  | cons feature features induction =>
      rw [List.mapM_cons]
      refine (alike_payload feature).bind feature.preserves_payload fun text => ?_
      exact induction.bind (preserves_mapM fun feature _ => feature.preserves_payload)
        fun texts => alike_pure _

end Feature

namespace Site

variable {site : Site} {project : Project} {disk : Disk}

/-- What can be read at a path is the text that an operation returns. -/
def ReadsAs (path : Path) (text : Job Text) (workspace : Workspace) : Prop :=
  ∃ content bytes, (text workspace).1 = .ok content ∧ content.encode? = some bytes ∧
    workspace.disk.read path = .ok bytes

/-- A disk has the record of a project, and at its artifact exactly what the artifact consists
of: the merged file with the text that is rendered, or the directory with the payload of every
feature. -/
structure Installed (site : Site) (project : Project) (disk : Disk) : Prop where
  recorded : (site.store.load (.on disk .warning)).1 = .ok (some project)
  contents : ∀ location, site.artifactLocation project disk <+: location →
    (disk.entries location ≠ none ↔
      ∃ path ∈ site.destinations project, location = disk.target path)
  files : match project.layout with
    | .singleFile => ReadsAs (site.singleFile project) (site.render project) (.on disk .warning)
    | .splitFiles =>
        disk.isDirectory (site.splitDirectory project) = .ok true ∧
          ∀ feature ∈ project.features,
            ReadsAs (site.featureFile project feature) (feature.payload site.templates)
              (.on disk .warning)

theorem readsAs_of_shows {path : Path} {text : Job Text} (alike : Alike text)
    (genuine : after.Genuine) (shows : Shows path text after) :
    ReadsAs path text (.on after.disk .warning) := by
  obtain ⟨content, bytes, returned, encoded, read⟩ := shows
  refine ⟨content, bytes, ?_, encoded, read⟩
  rw [← alike genuine (Workspace.genuine_on after.disk .warning), returned]

theorem alike_render (shipped : site.templates = .shipped) : Alike (site.render project) := by
  unfold render
  rw [shipped]
  exact (Feature.alike_payloads _).bind
    (preserves_mapM fun feature _ => feature.preserves_payload) fun payloads => alike_pure _

/-- What a workspace has in step is there for every later one. -/
theorem installed_of_inStep (shipped : site.templates = .shipped) (genuine : after.Genuine)
    (inStep : site.InStep project after) : site.Installed project after.disk := by
  obtain ⟨recorded, written, contents⟩ := inStep
  refine ⟨(Store.load_on _ after).trans recorded, contents, ?_⟩
  unfold Written at written
  cases layout : project.layout with
  | singleFile =>
      rw [layout] at written
      exact readsAs_of_shows (alike_render shipped) genuine written
  | splitFiles =>
      rw [layout] at written
      refine ⟨written.1, fun feature member => ?_⟩
      refine readsAs_of_shows ?_ genuine (written.2 feature member)
      rw [shipped]
      exact feature.alike_payload

/-! ## What is remembered while writing -/

section Steady

variable {kept : Workspace → Prop} (steady : Workspace.Steady kept)

include steady

theorem preserves_writeFile (path : Path) (content : Text) :
    Preserves kept (writeFile path content) :=
  preserves_mapError _ (Access.preserves_writeText steady path content)

theorem preserves_prepareDirectory (replace : Bool) :
    Preserves kept (site.prepareDirectory project replace) := by
  refine preserves_bind (preserves_mapError _ (Access.preserves_ask _)) fun there => ?_
  cases there with
  | true =>
      cases replace with
      | true => exact preserves_pure _
      | false => exact preserves_throw _
  | false =>
      exact preserves_mapError _ (preserves_bind (Access.preserves_ask _) fun effect =>
        preserves_perform steady effect)

theorem preserves_recreateDirectory (path : Path) :
    Preserves kept (recreateDirectory path) := by
  refine preserves_bind (preserves_mapError _ ?_) fun _ => preserves_note steady _ _
  rw [clearDirectory_eq]
  refine preserves_bind (Access.preserves_ask _) fun there => preserves_bind ?_ fun _ =>
    Access.preserves_makeDirectories steady _ _
  split
  · exact Access.preserves_removeTree steady _
  · exact preserves_pure _

end Steady

theorem preserves_writeArtifact (shipped : site.templates = .shipped) (replace : Bool) :
    Preserves Workspace.Genuine (site.writeArtifact project replace) := by
  have steady := Workspace.steady_genuine
  have payload : ∀ feature : Feature,
      Preserves Workspace.Genuine (feature.payload site.templates) := by
    intro feature
    rw [shipped]
    exact feature.preserves_payload
  unfold writeArtifact
  cases project.layout with
  | singleFile =>
      simp only [writeSingleFile_eq]
      refine preserves_bind (preserves_bind ?_ fun _ => preserves_bind ?_ fun text =>
        preserves_bind (preserves_writeFile steady _ _) fun _ =>
          preserves_bind (preserves_note steady _ _) fun _ => preserves_pure _)
        fun _ => preserves_pure _
      · split
        · exact preserves_note steady _ _
        · exact preserves_pure _
      · exact preserves_bind (preserves_mapM fun feature _ => payload feature)
          fun _ => preserves_pure _
  | splitFiles =>
      simp only [writeSplitFiles_eq]
      exact preserves_bind (preserves_prepareDirectory steady replace) fun _ =>
        preserves_bind (preserves_mapM fun feature _ => preserves_bind (payload feature) fun _ =>
          preserves_bind (preserves_writeFile steady _ _) fun _ => preserves_pure _) fun _ =>
            preserves_bind (preserves_note steady _ _) fun _ => preserves_pure _

theorem preserves_materialize (shipped : site.templates = .shipped) (project : Project)
    (replace : Bool) :
    Preserves Workspace.Genuine (site.materialize project replace) :=
  preserves_bind (preserves_writeArtifact shipped replace) fun _ =>
    preserves_bind (Store.preserves_save site.store Workspace.steady_genuine project) fun _ =>
      preserves_pure _

theorem preserves_renew (shipped : site.templates = .shipped) (project : Project) :
    Preserves Workspace.Genuine (site.renew project) := by
  have writes : Preserves Workspace.Genuine
      (discard (site.materialize project true) : Job PUnit) :=
    preserves_bind (preserves_materialize shipped project true) fun _ => preserves_pure _
  unfold renew
  cases project.layout with
  | singleFile => exact writes
  | splitFiles =>
      exact preserves_bind (preserves_recreateDirectory Workspace.steady_genuine _) fun _ => writes

theorem genuine_of_materialize {replace : Bool} {paths : List Path}
    (shipped : site.templates = .shipped) (genuine : before.Genuine)
    (returned : site.materialize project replace before = (.ok paths, after)) : after.Genuine := by
  have kept := preserves_materialize shipped project replace before genuine
  rwa [returned] at kept

theorem genuine_of_renew (shipped : site.templates = .shipped) (genuine : before.Genuine)
    (returned : site.renew project before = (.ok (), after)) : after.Genuine := by
  have kept := preserves_renew shipped project before genuine
  rwa [returned] at kept

end Site

end HelperKit
