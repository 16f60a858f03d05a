import HelperKit.Artifact

/-!
# Writing and deleting artifacts

Whatever writes an artifact writes the record of its project last, so that a run
that is cut short leaves at worst an artifact whose record is out of date.
Deleting goes the other way round: first the artifact, then the record.
-/

namespace HelperKit

namespace Site

/-- Names of features, separated by commas. -/
def listing (features : List Feature) : Text :=
  Text.join ", " (features.map fun feature => Text.ofString feature.name)

/-- Writes a file of the artifact. -/
def writeFile (path : Path) (content : Text) : Job Unit :=
  Attempt.mapError (Failure.refused path .write) (Access.writeText path content)

/-- Writes the merged file. -/
def writeSingleFile (site : Site) (project : Project) : Job Path := do
  let target := site.singleFile project
  if project.mergedFeatures = [] then
    Attempt.note .warning
      ("No feature of " ++ listing project.features ++ " applies to a " ++
        project.runtime.name ++ " project; " ++ target.toText ++ " will be empty")
  let text ← site.render project
  writeFile target text
  Attempt.note .info ("Wrote " ++ target.toText)
  pure target

/-- Writes the file of one feature. -/
def writeFeature (site : Site) (project : Project) (feature : Feature) : Job Path := do
  let target := site.featureFile project feature
  let text ← feature.payload site.templates
  writeFile target text
  pure target

/-- Writes the split directory.  Unless `replace` is set, nothing may be there
yet. -/
def writeSplitFiles (site : Site) (project : Project) (replace : Bool) : Job (List Path) := do
  let directory := site.splitDirectory project
  if ← Attempt.mapError .ofFault (Access.ask (·.pathExists directory)) then
    if !replace then throw (.directoryExists directory)
  else
    Attempt.mapError (Failure.refused directory .createDirectory)
      (Access.makeDirectory directory)
  let written ← project.features.mapM (site.writeFeature project)
  Attempt.note .info
    ("Wrote " ++ Text.ofNat written.length ++ " file(s) to " ++ directory.toText)
  pure written

/-- Writes the files of the artifact. -/
def writeArtifact (site : Site) (project : Project) (replace : Bool) : Job (List Path) :=
  match project.layout with
  | .singleFile => do
      let target ← site.writeSingleFile project
      pure [target]
  | .splitFiles => site.writeSplitFiles project replace

/-- Writes the artifact of a project and then its record.  The files written are
returned. -/
def materialize (site : Site) (project : Project) (replace : Bool) : Job (List Path) := do
  let written ← site.writeArtifact project replace
  site.store.save project
  pure written

/-- Removes what is at a path, a directory, and creates it anew. -/
def clearDirectory (path : Path) : Access Unit := do
  if ← Access.ask (·.pathExists path) then Access.removeTree path
  Access.makeDirectories false path

/-- Makes a directory an empty one. -/
def recreateDirectory (path : Path) : Job Unit := do
  Attempt.mapError (Failure.refused path .recreateDirectory) (clearDirectory path)
  Attempt.note .debug ("Recreated " ++ path.toText)

/-- Removes the files of the artifact. -/
def removeArtifact (site : Site) (project : Project) : Access Unit :=
  match project.layout with
  | .singleFile => Access.removeFile (site.artifact project)
  | .splitFiles => Access.removeTree (site.artifact project)

/-- Removes the artifact and the record of a project.  An artifact that is gone
already counts as removed; the answer says whether it was there. -/
def delete (site : Site) (project : Project) : Job Bool := do
  let target := site.artifact project
  let removed ←
    match ← Attempt.outcome (site.removeArtifact project) with
    | .ok () => pure true
    | .error fault =>
        match fault with
        | .system report =>
            if report.errno = .noEntry then do
              Attempt.note .warning
                (target.toText ++ " was already removed, clearing settings only")
              pure false
            else throw (.refused target .delete fault)
        | _ => throw (.refused target .delete fault)
  site.store.forget
  pure removed

/-- Writes the artifact of a project over the one that is there. -/
def renew (site : Site) (project : Project) : Job Unit := do
  match project.layout with
  | .splitFiles => recreateDirectory (site.splitDirectory project)
  | .singleFile => pure ()
  discard (site.materialize project true)

end Site

end HelperKit
