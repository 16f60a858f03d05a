import HelperKit.CommandLine
import HelperKit.Disk.Reach

/-!
# What a run looks at

A run looks at its settings file, and at the artifacts of the directory that is
stored there or typed as an answer.  A program that carries out runs on a real
file system only has to know what is there.
-/

namespace HelperKit.CommandLine

/-- The paths that the artifacts of a directory may consist of. -/
def territory (site : Site) (directory : Text) : List Path :=
  let folder := Path.ofText directory
  let split := folder.join (.ofText site.config.splitDirectoryName)
  folder :: folder.join (.ofText site.config.singleFileName) :: split ::
    Feature.all.map fun feature => split.join (.ofText feature.fileName)

/-- The directory of the stored project. -/
def storedDirectory? (site : Site) (disk : Disk) : Option Text :=
  match (site.store.load (.on disk .warning)).1 with
  | .ok (some project) => some project.directory
  | _ => none

/-- The text that an answer may name a directory with. -/
def typedDirectory? : Answer → Option Text
  | .line text => some text.strip
  | .interrupt => none

/-- The paths that a run with a configuration looks at. -/
def pathsOf (site : Site) (disk : Disk) (answers : List Answer) : List Path :=
  site.config.settingsFile ::
    ((storedDirectory? site disk).toList ++ answers.filterMap typedDirectory?).flatMap
      (territory site)

/-- The locations that an invocation with answers looks at, as far as the disk
is known.  A configuration that is rejected looks at nothing. -/
def survey (invocation : Invocation) (disk : Disk) (answers : List Answer) : List Location :=
  match ofArguments invocation.arguments with
  | .ok (.run settingsFile _) =>
      match invocation.site settingsFile with
      | .ok site => (pathsOf site disk answers).flatMap disk.reach
      | .error _ => []
  | _ => []

end HelperKit.CommandLine
