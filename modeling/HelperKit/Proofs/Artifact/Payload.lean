import HelperKit.Artifact
import HelperKit.Proofs.Workspace.Operation

/-!
# Payloads are remembered

Reading a template has no effect on the disk, and what was read is read again by every
later operation, whatever becomes of the disk.
-/

namespace HelperKit

open Attempt

variable {folder : TemplateFolder} {name text : Text} {before between after : Workspace}
  {allowed : Disk → Effect → Prop}

/-- Whatever one workspace remembers, another one remembers too. -/
def Workspace.Recalls (later earlier : Workspace) : Prop :=
  ∀ name text, earlier.cache.lookup name = some text → later.cache.lookup name = some text

theorem Workspace.Reaches.recalls {effects : List Effect} (reaches : before.Reaches effects after) :
    after.Recalls before :=
  reaches.remembered

theorem Workspace.Recalls.trans (later : after.Recalls between) (earlier : between.Recalls before) :
    after.Recalls before :=
  fun name text known => later name text (earlier name text known)

namespace Template

theorem source_apply (folder : TemplateFolder) (name : Text) (before : Workspace) :
    source folder name before =
      match before.cache.lookup name with
      | some text => (.ok text, before)
      | none =>
          match current folder before.disk name with
          | .error failure => (.error failure, before)
          | .ok text => (.ok text, { before with cache := (name, text) :: before.cache }) := by
  have unfolded : source folder name before = (match before.cache.lookup name with
      | some text => (pure text : Job Text)
      | none =>
          match current folder before.disk name with
          | .error failure => throw failure
          | .ok text => do
              set { before with cache := (name, text) :: before.cache }
              pure text) before := rfl
  rw [unfolded]
  cases before.cache.lookup name with
  | some text => rfl
  | none =>
      cases current folder before.disk name with
      | error failure => rfl
      | ok text => rfl

theorem source_of_remembered (remembered : before.cache.lookup name = some text) :
    source folder name before = (.ok text, before) := by
  rw [source_apply, remembered]

/-- Reading a template leaves the disk as it is. -/
theorem reaches_source (folder : TemplateFolder) (name : Text) (before : Workspace) :
    before.Reaches [] (source folder name before).2 := by
  rw [source_apply]
  cases remembered : before.cache.lookup name with
  | some text => exact .refl before
  | none =>
      cases current folder before.disk name with
      | error failure => exact .refl before
      | ok text =>
          refine ⟨(List.append_nil _).symm, rfl, fun other old known => ?_⟩
          have differ : (other == name) = false := by
            rw [beq_eq_false_iff_ne]
            rintro rfl
            rw [remembered] at known
            cases known
          change List.lookup other ((name, text) :: before.cache) = some old
          rw [List.lookup_cons, differ]
          exact known

/-- A template that was read is remembered. -/
theorem remembered_of_source (returned : source folder name before = (.ok text, after)) :
    after.cache.lookup name = some text := by
  rw [source_apply] at returned
  cases remembered : before.cache.lookup name with
  | some known =>
      rw [remembered] at returned
      cases returned
      exact remembered
  | none =>
      rw [remembered] at returned
      cases read : current folder before.disk name with
      | error failure =>
          rw [read] at returned
          cases returned
      | ok found =>
          rw [read] at returned
          cases returned
          exact List.lookup_cons_self

end Template

namespace Feature

variable {feature : Feature} {features : List Feature} {payloads : List Text}

theorem acts_payload (feature : Feature) : Acts allowed (feature.payload folder) :=
  fun before => ⟨[], Template.reaches_source folder _ before, trivial⟩

theorem reaches_payload (returned : feature.payload folder before = (.ok text, after)) :
    before.Reaches [] after := by
  have reaches := Template.reaches_source folder feature.fileName before
  change before.Reaches [] (feature.payload folder before).2 at reaches
  rw [returned] at reaches
  exact reaches

theorem payload_of_recalls (returned : feature.payload folder before = (.ok text, between))
    (recalls : after.Recalls between) : feature.payload folder after = (.ok text, after) :=
  Template.source_of_remembered (recalls _ _ (Template.remembered_of_source returned))

theorem reaches_payloads
    (returned : features.mapM (payload folder) before = (.ok payloads, after)) :
    before.Reaches [] after := by
  induction features generalizing before payloads with
  | nil =>
      cases returned
      exact .refl _
  | cons feature features induction =>
      obtain ⟨text, between, rest, first, further, -⟩ := mapM_cons_eq_ok_iff.mp returned
      exact (reaches_payload first).trans (induction further)

theorem payloads_of_recalls
    (returned : features.mapM (payload folder) before = (.ok payloads, between))
    (recalls : after.Recalls between) :
    features.mapM (payload folder) after = (.ok payloads, after) := by
  induction features generalizing before payloads with
  | nil =>
      cases returned
      rfl
  | cons feature features induction =>
      obtain ⟨text, reached, rest, first, further, rfl⟩ := mapM_cons_eq_ok_iff.mp returned
      have later := recalls.trans (reaches_payloads further).recalls
      exact mapM_cons_eq_ok_iff.mpr
        ⟨text, after, rest, payload_of_recalls first later, induction further, rfl⟩

end Feature

namespace Site

variable {site : Site} {project : Project}

theorem acts_render : Acts allowed (site.render project) :=
  acts_bind (acts_mapM fun feature _ => Feature.acts_payload feature) fun _ => acts_pure _

theorem render_of_recalls (returned : site.render project before = (.ok text, between))
    (recalls : after.Recalls between) : site.render project after = (.ok text, after) := by
  obtain ⟨payloads, reached, read, rendered⟩ := bind_eq_ok_iff.mp returned
  cases rendered
  exact bind_eq_ok_iff.mpr ⟨payloads, after, Feature.payloads_of_recalls read recalls, rfl⟩

end Site

end HelperKit
