import HelperKit.Proofs.Artifact.Calls
import HelperKit.Proofs.Disk.Absence

/-!
# Removing an artifact

An artifact is removed by one effect, and one that was not there counts as removed already.  So
does a split directory whose path leads through what is in it: when it was emptied, the way to it
is gone, too, and the directory itself is not found any more.
-/

namespace HelperKit

open Attempt

namespace Site

variable {site : Site} {project : Project} {disk left : Disk} {before between after : Workspace}
  {removed : Bool}

/-- The path of a split directory leads through what is in it. -/
def LosesWay (site : Site) (project : Project) (disk : Disk) : Prop :=
  project.layout = .splitFiles ∧
    (disk.apply (.emptyDirectory (site.artifactLocation project disk))).wayRemains
      (site.artifact project) = false

/-- What the removal of an artifact answers, and the disk that it leaves. -/
inductive Demolishes (site : Site) (project : Project) (disk : Disk) : Bool → Disk → Prop where
  | removed (clears : site.Clears project disk (site.clearing project disk)) :
      Demolishes site project disk true (disk.apply (site.clearing project disk))
  | emptied (there : disk.pathExists (site.artifact project) = .ok true)
      (loses : site.LosesWay project disk) :
      Demolishes site project disk false
        (disk.apply (.emptyDirectory (site.artifactLocation project disk)))
  | absent (absent : disk.Absent (site.artifact project)) :
      Demolishes site project disk false disk

theorem Clears.there {effect : Effect} (clears : site.Clears project disk effect) :
    disk.pathExists (site.artifact project) = .ok true := by
  rw [Disk.pathExists_eq_true_iff]
  cases clears with
  | file single removing =>
      obtain ⟨opens, ⟨bytes, file⟩, -⟩ := Disk.removingFile_eq_ok removing
      exact ⟨opens, by simp [file]⟩
  | tree split removing =>
      obtain ⟨opens, directory, -⟩ := Disk.removingTree_eq_ok removing
      exact ⟨opens, by simp [directory]⟩

/-- The way to a directory that was removed did not lead through it. -/
theorem not_losesWay_of_clears
    (clears : site.Clears project disk (site.clearing project disk)) :
    ¬ site.LosesWay project disk := by
  rintro ⟨split, lost⟩
  unfold clearing at clears
  rw [split] at clears
  cases clears with
  | file single removing => cases split.symm.trans single
  | tree _ removing =>
      obtain ⟨-, -, ⟨-, -, -, remains⟩ | ⟨impossible, -⟩⟩ := Disk.removingTree_eq_ok removing
      · exact Bool.noConfusion (remains.symm.trans lost)
      · cases impossible

/-- A removal that misses something has found no artifact, or has emptied a directory to which the
way was lost. -/
theorem demolishes_of_missing {report : SystemFault}
    (returned : site.removeArtifact project before = (.error (.system report), after))
    (missing : report.errno = .noEntry) :
    site.Demolishes project before.disk false after.disk := by
  unfold removeArtifact at returned
  cases layout : project.layout with
  | singleFile =>
      simp only [layout, Access.removeFile] at returned
      rw [bind_apply, Access.ask_apply] at returned
      cases removing : before.disk.removingFile (site.artifact project) with
      | ok effect =>
          rw [removing] at returned
          cases returned
      | error fault =>
          rw [removing] at returned
          cases returned
          exact .absent (Disk.absent_of_removingFile removing missing)
  | splitFiles =>
      simp only [layout] at returned
      rw [Access.removeTree_apply] at returned
      cases removing : before.disk.removingTree (site.artifact project) with
      | error fault =>
          rw [removing] at returned
          cases returned
          exact .absent (Disk.absent_of_removingTree removing missing)
      | ok answer =>
          obtain ⟨effect, remaining⟩ := answer
          rw [removing] at returned
          cases remaining with
          | none => cases returned
          | some fault =>
              cases returned
              obtain ⟨-, rfl, lost⟩ := Disk.removingTree_lost removing missing
              exact .emptied (Clears.tree layout removing).there ⟨layout, lost⟩

theorem demolishes_of_delete (returned : site.delete project before = (.ok removed, after)) :
    ∃ judged, site.Demolishes project before.disk removed judged.disk ∧
      site.store.forget judged = (.ok (), after) := by
  obtain ⟨result, between, judged, removing, judging, forgetting⟩ := delete_eq_ok returned
  refine ⟨judged, ?_, forgetting⟩
  obtain ⟨same, ⟨rfl, rfl⟩ | ⟨rfl, report, rfl, missing⟩⟩ := judgeRemoval_eq_ok judging
  · obtain ⟨clears, rfl⟩ := removeArtifact_eq_ok removing
    rw [same]
    exact .removed clears
  · rw [same]
    exact demolishes_of_missing removing missing

theorem Demolishes.gone (demolishes : site.Demolishes project disk removed left) :
    left.Absent (site.artifact project) := by
  cases demolishes with
  | removed clears =>
      refine Disk.absent_of_removed (Disk.pathExists_eq_true_iff.mp clears.there).1 ?_
        (site.clearing_removes project disk)
      unfold clearing
      cases project.layout <;> rfl
  | emptied there loses =>
      exact Disk.absent_of_emptied (Disk.pathExists_eq_true_iff.mp there).1 loses.2
  | absent absent => exact absent

/-- After a deletion neither the artifact nor the record is there. -/
theorem gone_of_delete (returned : site.delete project before = (.ok removed, after)) :
    (site.store.load after).1 = .ok none ∧ after.disk.Absent (site.artifact project) := by
  obtain ⟨judged, demolishes, forgetting⟩ := demolishes_of_delete returned
  obtain ⟨leaves, -⟩ := Store.forget_eq_ok forgetting
  exact ⟨Store.load_of_forget forgetting,
    demolishes.gone.of_kept leaves.home fun location noFile => leaves.entries_eq noFile⟩

/-! ## Artifacts that are not found -/

theorem removeArtifact_of_status_error {fault : Fault}
    (unknown : before.disk.status (site.artifact project) = .error fault) :
    site.removeArtifact project before = (.error fault, before) := by
  unfold removeArtifact
  cases project.layout with
  | singleFile =>
      simp only [Access.removeFile]
      rw [bind_apply, Access.ask_apply, Disk.removingFile_of_status_error unknown]
  | splitFiles =>
      simp only
      rw [Access.removeTree_apply, Disk.removingTree_of_status_error unknown]

theorem delete_of_absent (absent : before.disk.Absent (site.artifact project)) :
    ∃ noted, before.Reaches [] noted ∧
      ∀ after, site.store.forget noted = (.ok (), after) →
        site.delete project before = (.ok false, after) := by
  refine ⟨_, before.reaches_note ⟨.warning,
    (site.artifact project).toText ++ " was already removed, clearing settings only"⟩,
    fun after forgetting => ?_⟩
  rw [delete_eq, bind_apply, outcome_apply, removeArtifact_of_status_error absent]
  simp only
  rw [bind_apply, judgeRemoval]
  simp only [if_true]
  rw [bind_apply, note_apply]
  simp only [pure_apply]
  rw [bind_apply, forgetting]
  rfl

/-- An artifact that is not found for another reason than that it is absent is not deleted. -/
theorem delete_of_status_error {fault : Fault}
    (unknown : before.disk.status (site.artifact project) = .error fault)
    (other : ¬ before.disk.Absent (site.artifact project)) :
    site.delete project before =
      (.error (.refused (site.artifact project) .delete fault), before) := by
  have judged : site.judgeRemoval project (.error fault) before =
      (.error (.refused (site.artifact project) .delete fault), before) := by
    unfold judgeRemoval
    cases fault with
    | system report =>
        have present : report.errno ≠ .noEntry :=
          fun missing => other (Disk.absent_of_status_error unknown missing)
        simp only [if_neg present]
        rfl
    | embeddedNull => rfl
    | unencodable => rfl
    | tooDeep => rfl
  rw [delete_eq, bind_apply, outcome_apply, removeArtifact_of_status_error unknown]
  simp only
  rw [bind_apply, judged]

end Site

end HelperKit
