import HelperKit.Artifact.Writing
import HelperKit.Errand

/-!
# Changing the features of an artifact

Features are added to a project and removed from it by working out the new list
and renewing the whole artifact.  A list that would be empty is never written;
its artifact is deleted instead, if the caller agrees.
-/

namespace HelperKit

namespace Project

/-- The requested features that a project does not have, in catalog order. -/
def additions (project : Project) (requested : List Feature) : List Feature :=
  (Feature.complement project.features).filter fun feature => feature ∈ requested

/-- The features of a project that are not dropped. -/
def remainder (project : Project) (dropped : List Feature) : List Feature :=
  project.features.filter fun feature => feature ∉ dropped

end Project

/-- What became of a request to remove features. -/
inductive Removal where
  | updated (project : Project)
  | deleted
  | aborted (project : Project)
  | unchanged (project : Project)
  deriving DecidableEq

namespace Removal

/-- The name of an outcome. -/
def name : Removal → String
  | .updated _ => "updated"
  | .deleted => "deleted"
  | .aborted _ => "aborted"
  | .unchanged _ => "unchanged"

/-- The project that is left. -/
def project? : Removal → Option Project
  | .updated project => some project
  | .deleted => none
  | .aborted project => some project
  | .unchanged project => some project

end Removal

namespace Site

/-- Adds features to a project and renews its artifact.  The result lists the
old features first; it is the project itself when there is nothing to add. -/
def addFeatures (site : Site) (project : Project) (requested : List Feature) : Job Project := do
  let additions := project.additions requested
  if nothing : additions = [] then
    Attempt.note .info "No new features to add"
    pure project
  else
    let updated := project.withFeatures (project.features ++ additions) (by simp [nothing])
    site.renew updated
    pure updated

/-- Removes features from a project and renews its artifact.  An artifact
without features is not written: when nothing remains, `confirm` decides whether
the whole artifact is deleted. -/
def removeFeatures {σ : Type} (site : Site) (project : Project) (dropped : List Feature)
    (confirm : σ → Except Failure Bool × σ) : Errand σ Removal := do
  let remainder := project.remainder dropped
  if remainder.length = project.features.length then
    Errand.onDisk (Attempt.note .info "None of the selected features are present")
    pure (.unchanged project)
  else if nothing : remainder = [] then
    if ← Errand.onCaller confirm then
      discard (Errand.onDisk (site.delete project))
      pure .deleted
    else
      Errand.onDisk (Attempt.note .info "Removal aborted, artifact left as is")
      pure (.aborted project)
  else
    let updated := project.withFeatures remainder nothing
    Errand.onDisk (site.renew updated)
    pure (.updated updated)

end Site

end HelperKit
