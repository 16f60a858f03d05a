import HelperKit.Text.Blank
import HelperKit.Project

/-!
# Merging payloads

The merged file holds the payloads of a project one after the other.  Lines with
an import are taken out of the payloads and put in front, except that imports
from an address are kept under Deno alone and imports of a neighbouring file are
never kept, because that file has been merged in.
-/

namespace HelperKit.Merge

/-- Whether a line imports something. -/
def isImport (line : Text) : Bool :=
  line.strip.startsWith "import"

/-- Whether a line mentions an address on the network. -/
def isRemote (line : Text) : Bool :=
  line.contains "http"

/-- Whether a line mentions a neighbouring file. -/
def isLocal (line : Text) : Bool :=
  line.contains "\"./"

/-- The import lines of a payload. -/
def imports (payload : Text) : List Text :=
  payload.lines.filter isImport

/-- A payload without its import lines. -/
def body (payload : Text) : Text :=
  Text.unlines (payload.lines.filter fun line => !isImport line)

/-- Whether an import line is kept under a runtime. -/
def isKept (runtime : Runtime) (line : Text) : Bool :=
  (runtime = .deno || !isRemote line) && !isLocal line

/-- The import lines at the head of the merged file. -/
def importBlock (runtime : Runtime) (payloads : List Text) : List Text :=
  (payloads.flatMap imports).filter (isKept runtime)

/-- The payloads without their import lines, one after the other. -/
def bodies (payloads : List Text) : Text :=
  payloads.flatMap body

/-- The head of the merged file; an empty line follows the imports, if any. -/
def header (lines : List Text) : Text :=
  let block := Text.unlines lines
  if block.strip = [] then [] else block ++ "\n\n"

/-- The merged file. -/
def render (runtime : Runtime) (payloads : List Text) : Text :=
  header (importBlock runtime payloads) ++ (bodies payloads).strip

end HelperKit.Merge
