import HelperKit.Proofs.Artifact.Renewal
import HelperKit.Proofs.Settings.Furnishing

/-!
# Before the record is touched

Every call on an artifact does its work on the artifact first and turns to the record only when
that is done.  Work that fails is the end of the call, and has changed nothing but the artifact
and, where a split directory was to be made anew, the way to it.
-/

namespace HelperKit

open Attempt

namespace Site

variable {site : Site} {project : Project}

/-- Removes the artifact of a project, unless it is gone already. -/
def demolish (site : Site) (project : Project) : Job Bool :=
  outcome (site.removeArtifact project) >>= site.judgeRemoval project

theorem delete_eq_demolish (site : Site) (project : Project) :
    site.delete project = site.demolish project >>= fun removed =>
      site.store.forget >>= fun _ => pure removed := by
  rw [delete_eq, demolish, bind_assoc]

theorem materialize_eq (site : Site) (project : Project) (replace : Bool) :
    site.materialize project replace = site.writeArtifact project replace >>= fun written =>
      site.store.save project >>= fun _ => pure written :=
  rfl

/-- Renewing is rebuilding the artifact and saving the project, if that does not fail. -/
theorem renew_eq (site : Site) (project : Project) :
    site.renew project = site.rebuild project >>= fun _ => site.store.save project := by
  have writing : (discard (site.materialize project true) : Job PUnit) =
      site.writeArtifact project true >>= fun _ => site.store.save project := by
    have discarded : (discard (site.materialize project true) : Job PUnit) =
        site.materialize project true >>= fun _ => pure ⟨⟩ := rfl
    rw [discarded, materialize_eq]
    simp only [bind_assoc, pure_bind, bind_pure_unit]
  unfold renew rebuild
  cases project.layout with
  | singleFile => exact writing
  | splitFiles =>
      simp only [bind_assoc]
      rw [writing]

end Site

/-- What is left to do when the work on an artifact is done: the project is recorded, or its
record is taken away, or there was nothing to do at all. -/
inductive Ending where
  | record (project : Project)
  | erase (project : Project)
  | keep (project : Project)
  deriving DecidableEq

namespace ArtifactCall

variable {site : Site} {call : ArtifactCall} {before : Workspace}

/-- The work of a call on the artifact. -/
def groundwork (site : Site) : ArtifactCall → Job Ending
  | .materialize project replace =>
      site.writeArtifact project replace >>= fun _ => pure (.record project)
  | .add project requested =>
      if nothing : project.additions requested = [] then
        note .info "No new features to add" >>= fun _ => pure (.keep project)
      else
        let updated := project.withFeatures (project.features ++ project.additions requested)
          (List.append_ne_nil_of_right_ne_nil _ nothing)
        site.rebuild updated >>= fun _ => pure (.record updated)
  | .remove project dropped answer =>
      if (project.remainder dropped).length = project.features.length then
        note .info "None of the selected features are present" >>= fun _ => pure (.keep project)
      else if nothing : project.remainder dropped = [] then
        match answer with
        | .error failure => throw failure
        | .ok true => site.demolish project >>= fun _ => pure (.erase project)
        | .ok false =>
            note .info "Removal aborted, artifact left as is" >>= fun _ => pure (.keep project)
      else
        let updated := project.withFeatures (project.remainder dropped) nothing
        site.rebuild updated >>= fun _ => pure (.record updated)
  | .delete project => site.demolish project >>= fun _ => pure (.erase project)

/-- What a call does once its work on the artifact is done. -/
def settle (site : Site) : Ending → Job Report
  | .record project => site.store.save project >>= fun _ => pure (.wrote project)
  | .erase project => site.store.forget >>= fun _ => pure (.deleted project)
  | .keep project => pure (.kept project)

/-- A call is its work on the artifact, and then what is left to do with the record. -/
theorem run_eq_settle (site : Site) (call : ArtifactCall) :
    call.run site = call.groundwork site >>= settle site := by
  cases call with
  | materialize project replace =>
      simp only [run, groundwork, Site.materialize_eq, bind_assoc, pure_bind, settle]
  | add project requested =>
      simp only [run, groundwork, Site.addFeatures]
      by_cases nothing : project.additions requested = []
      · simp only [nothing, dite_true, if_true, bind_assoc, pure_bind, settle]
      · simp only [nothing, dite_false, if_false, bind_assoc, pure_bind, settle, Site.renew_eq]
  | remove project dropped answer =>
      rw [run_remove]
      unfold Site.answeredRemoval
      simp only [groundwork]
      by_cases same : (project.remainder dropped).length = project.features.length
      · rw [if_pos same, if_pos same]
        simp only [bind_assoc, pure_bind, settle, reportOf]
      · rw [if_neg same, if_neg same]
        by_cases nothing : project.remainder dropped = []
        · rw [dif_pos nothing, dif_pos nothing]
          cases answer with
          | error failure => rfl
          | ok agreed =>
              cases agreed <;>
                simp only [Site.delete_eq_demolish, bind_assoc, pure_bind, settle, reportOf]
        · rw [dif_neg nothing, dif_neg nothing]
          simp only [Site.renew_eq, bind_assoc, pure_bind, settle, reportOf]
  | delete project =>
      simp only [run, groundwork, Site.delete_eq_demolish, bind_assoc, pure_bind, settle]

/-! ## What the work changes -/

/-- A call may make the way to the artifact: it renews a split directory. -/
def MayPave : ArtifactCall → Prop
  | .add project _ => project.layout = .splitFiles
  | .remove project _ _ => project.layout = .splitFiles
  | _ => False

/-- An effect of the work of a call: it concerns the artifact and what lies below it, or makes a
directory on the way there, if the call may do so. -/
inductive Works (site : Site) (call : ArtifactCall) (disk : Disk) : Effect → Prop where
  | inside {effect : Effect} (inside : ∀ location, ¬ effect.Spares location →
      site.artifactLocation call.project disk <+: location) : Works site call disk effect
  | way {place : Location} (mayPave : call.MayPave) (vacant : disk.entries place = none) :
      Works site call disk (.makeDirectory place)

/-- Rebuilding the artifact of the project, whatever its features are now. -/
theorem acts_rebuild (call : ArtifactCall) {selection : Selection}
    (mayPave : call.project.layout = .splitFiles → call.MayPave) :
    Acts (call.Works site) (site.rebuild { call.project with selection }) := by
  intro before
  obtain ⟨effects, reaches, touches⟩ :
    ActsOn (site.Touches { call.project with selection }) _ before := Site.actsOn_rebuild
  refine ⟨effects, reaches, touches.mono fun disk effect touches => ?_⟩
  cases touches with
  | clears clears => exact .inside fun location touched => clears.inside touched
  | builds builds => exact .inside fun location touched => builds.inside touched
  | paves paves =>
      obtain ⟨split, names, -, making⟩ := paves
      obtain ⟨-, -, vacant, rfl⟩ := Disk.makingDirectory_eq_ok making
      exact .way (mayPave split) vacant

theorem acts_demolish (call : ArtifactCall) : Acts (call.Works site) (site.demolish call.project) := by
  intro before
  have clears : ClearsFirst (call.Works site) (call.Works site)
      (site.removeArtifact call.project) before :=
    Site.clearsFirst_removeArtifact fun disk effect clears =>
      .inside fun location touched => clears.inside touched
  exact actsOn_bind clears.outcome.actsOn fun result between _ =>
    Site.acts_judgeRemoval result between

theorem acts_groundwork : Acts (call.Works site) (call.groundwork site) := by
  cases call with
  | materialize project replace =>
      refine acts_bind (fun before => ?_) fun _ => acts_pure _
      obtain ⟨effects, reaches, builds⟩ :
        ActsOn (site.Builds project) _ before := Site.acts_writeArtifact replace before
      exact ⟨effects, reaches, builds.mono fun disk effect builds =>
        .inside fun location touched => builds.inside touched⟩
  | add project requested =>
      simp only [groundwork]
      split
      · exact acts_bind (acts_note _ _) fun _ => acts_pure _
      · exact acts_bind (acts_rebuild (.add project requested) id) fun _ => acts_pure _
  | remove project dropped answer =>
      simp only [groundwork]
      split
      · exact acts_bind (acts_note _ _) fun _ => acts_pure _
      · split
        · cases answer with
          | error failure => exact acts_throw failure
          | ok agreed =>
              cases agreed with
              | true =>
                  exact acts_bind (acts_demolish (.remove project dropped (.ok true)))
                    fun _ => acts_pure _
              | false => exact acts_bind (acts_note _ _) fun _ => acts_pure _
        · exact acts_bind (acts_rebuild (.remove project dropped answer) id)
            fun _ => acts_pure _
  | delete project =>
      exact acts_bind (acts_demolish (.delete project)) fun _ => acts_pure _

/-- What is neither at the artifact nor below it is as before when the work has ended, but for
new directories, which only some calls make. -/
theorem furnished_of_groundwork {location : Location}
    (outside : ¬ site.artifactLocation call.project before.disk <+: location) :
    Disk.FurnishedAt before.disk (call.groundwork site before).2.disk location ∧
      (¬ call.MayPave →
        (call.groundwork site before).2.disk.entries location = before.disk.entries location) := by
  obtain ⟨effects, reaches, works⟩ :
    ActsOn (call.Works site) (call.groundwork site) before := acts_groundwork before
  rw [reaches.disk]
  -- The invariant of a single effect: it is inside the artifact, or paves the way at a free place.
  have step : ∀ disk effect, disk.home = before.disk.home ∧
      Disk.FurnishedAt before.disk disk location ∧
        (¬ call.MayPave → disk.entries location = before.disk.entries location) →
      call.Works site disk effect → (disk.apply effect).home = before.disk.home ∧
      Disk.FurnishedAt before.disk (disk.apply effect) location ∧
        (¬ call.MayPave → (disk.apply effect).entries location = before.disk.entries location) := by
    rintro disk effect ⟨home, furnished, kept⟩ works
    refine ⟨(disk.apply_home effect).trans home, ?_⟩
    by_cases spares : effect.Spares location
    · unfold Disk.FurnishedAt
      rw [Disk.entries_apply_of_spares spares]
      exact ⟨furnished, kept⟩
    · cases works with
      | inside inside =>
          have below := inside location spares
          rw [Site.artifactLocation_congr home] at below
          exact absurd below outside
      | @way place mayPave vacant =>
          have here : location = place := by
            by_contra elsewhere
            exact spares ⟨id, fun _ => elsewhere⟩
          subst here
          refine ⟨.inr ⟨?_, Disk.entries_apply_of_created rfl⟩, fun none => absurd mayPave none⟩
          rcases furnished with same | ⟨absent, directory⟩
          · rw [← same, vacant]
          · exact absent
  exact (works.applyAll (fun disk => disk.home = before.disk.home ∧
    Disk.FurnishedAt before.disk disk location ∧
      (¬ call.MayPave → disk.entries location = before.disk.entries location))
    ⟨rfl, .inl rfl, fun _ => rfl⟩ step).2

end ArtifactCall

end HelperKit
