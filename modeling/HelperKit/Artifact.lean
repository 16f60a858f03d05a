import HelperKit.Artifact.Merge
import HelperKit.Catalog
import HelperKit.Settings

/-!
# Artifacts

The artifact of a project is one merged file, or a directory with the untouched
payload of every feature.  This module says where an artifact lies and what the
merged file holds.
-/

namespace HelperKit

/-- What the artifacts of one run are made with: the configuration, and where
the templates come from. -/
structure Site where
  config : Config
  templates : TemplateFolder
  deriving DecidableEq

namespace Site

/-- The store that records are kept in. -/
def store (site : Site) : Store :=
  .ofConfig site.config

/-- The merged file of a project. -/
def singleFile (site : Site) (project : Project) : Path :=
  (Path.ofText project.directory).join (.ofText site.config.singleFileName)

/-- The split directory of a project. -/
def splitDirectory (site : Site) (project : Project) : Path :=
  (Path.ofText project.directory).join (.ofText site.config.splitDirectoryName)

/-- The merged file or the split directory, by the layout of the project. -/
def artifact (site : Site) (project : Project) : Path :=
  match project.layout with
  | .singleFile => site.singleFile project
  | .splitFiles => site.splitDirectory project

/-- The file of a feature in the split directory. -/
def featureFile (site : Site) (project : Project) (feature : Feature) : Path :=
  (site.splitDirectory project).join (.ofText feature.fileName)

/-- All paths that the artifact of a project consists of. -/
def destinations (site : Site) (project : Project) : List Path :=
  match project.layout with
  | .singleFile => [site.singleFile project]
  | .splitFiles =>
      site.splitDirectory project :: project.features.map (site.featureFile project)

end Site

/-- The features that are merged: under other runtimes than Deno, those that do
not need Deno. -/
def Project.mergedFeatures (project : Project) : List Feature :=
  if project.runtime = .deno then project.features
  else project.features.filter fun feature => !feature.isDenoOnly

/-- The text of the merged file. -/
def Site.render (site : Site) (project : Project) : Job Text := do
  let payloads ← project.mergedFeatures.mapM (Feature.payload site.templates)
  pure (Merge.render project.runtime payloads)

end HelperKit
