import HelperKit.Feature
import HelperKit.Template

/-!
# The catalog

The catalog gives every feature the name of its file and, through the template
of that name, the text that is copied.
-/

namespace HelperKit.Feature

/-- The name of the file that a feature is kept in. -/
def fileName : Feature → String
  | .core => "core.ts"
  | .example => "example.ts"
  | .option => "option.ts"
  | .result => "result.ts"
  | .parsers => "parsers.ts"

/-- Whether a feature runs under Deno alone, since it imports a module by its
address. -/
def isDenoOnly (feature : Feature) : Bool :=
  feature.fileName = parsers.fileName

/-- The features that are not among the given ones, in catalog order. -/
def complement (included : List Feature) : List Feature :=
  all.filter fun feature => feature ∉ included

/-- The text of a feature. -/
def payload (folder : TemplateFolder) (feature : Feature) : Job Text :=
  Template.source folder feature.fileName

theorem mem_complement {included : List Feature} {feature : Feature} :
    feature ∈ complement included ↔ feature ∉ included := by
  simp [complement, mem_all]

/-- Features with the same file name are the same. -/
theorem fileName_injective {left right : Feature} (same : left.fileName = right.fileName) :
    left = right := by
  cases left <;> cases right <;> first | rfl | simp [fileName] at same

end HelperKit.Feature
