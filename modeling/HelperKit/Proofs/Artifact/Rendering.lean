import HelperKit.Proofs.Artifact.Merging
import HelperKit.Proofs.Artifact.Writing

/-!
# What the merged file is made of

What a workspace gives for a feature does not depend on which payloads were read before.  The
merged file is therefore a function of what is given at the start for every merged feature.  It
consists of a block of imports and a body; both are cut out of every payload alone, and only
the two ends of the body are looked at as a whole.
-/

namespace HelperKit

open Attempt

namespace Feature

variable {folder : TemplateFolder} {before : Workspace} {feature other : Feature}
  {features : List Feature} {texts : Feature → Text}

/-- What a workspace gives for a feature: the payload, or the failure to read it. -/
def given (folder : TemplateFolder) (workspace : Workspace) (feature : Feature) :
    Except Failure Text :=
  (feature.payload folder workspace).1

theorem given_eq (folder : TemplateFolder) (workspace : Workspace) (feature : Feature) :
    feature.given folder workspace =
      match workspace.cache.lookup (Text.ofString feature.fileName) with
      | some text => .ok text
      | none => Template.current folder workspace.disk feature.fileName := by
  unfold given payload
  rw [Template.source_apply]
  cases workspace.cache.lookup (Text.ofString feature.fileName) with
  | some text => rfl
  | none => cases Template.current folder workspace.disk feature.fileName <;> rfl

theorem given_congr {otherwise : Workspace} (sameCache : otherwise.cache = before.cache)
    (sameDisk : otherwise.disk = before.disk) : given folder otherwise = given folder before := by
  funext feature
  rw [given_eq, given_eq, sameCache, sameDisk]

/-- Reading a payload makes no difference to what is given. -/
theorem given_after_payload (folder : TemplateFolder) (before : Workspace)
    (feature other : Feature) :
    other.given folder (feature.payload folder before).2 = other.given folder before := by
  unfold payload
  rw [Template.source_apply]
  cases remembered : before.cache.lookup (Text.ofString feature.fileName) with
  | some text => rfl
  | none =>
      cases read : Template.current folder before.disk feature.fileName with
      | error failure => rfl
      | ok text =>
          rw [given_eq, given_eq]
          simp only [List.lookup_cons]
          by_cases same : Text.ofString other.fileName = Text.ofString feature.fileName
          · -- What is now remembered is what the template gave.
            rw [eq_of_ofString_fileName same, remembered, beq_self_eq_true]
            exact read.symm
          · rw [beq_eq_false_iff_ne.mpr same]

/-- Payloads that are read one after the other are those that are given at the start. -/
theorem payloads_result (folder : TemplateFolder) (features : List Feature) (before : Workspace) :
    (features.mapM (payload folder) before).1 = features.mapM (given folder before) := by
  induction features generalizing before with
  | nil => rfl
  | cons feature features induction =>
      have rest := induction (feature.payload folder before).2
      rw [funext (given_after_payload folder before feature)] at rest
      rw [List.mapM_cons, List.mapM_cons, bind_apply]
      cases read : feature.payload folder before with
      | mk result between =>
          have first : feature.given folder before = result := congrArg Prod.fst read
          rw [read] at rest
          rw [first]
          cases result with
          | error failure => rfl
          | ok text =>
              change ((features.mapM (payload folder) >>= fun others =>
                pure (text :: others) : Job (List Text)) between).1 = _
              rw [bind_apply]
              change (features.mapM (payload folder) between).1 = _ at rest
              cases others : features.mapM (payload folder) between with
              | mk results after =>
                  rw [others] at rest
                  change results = _ at rest
                  rw [← rest]
                  cases results <;> rfl

theorem mapM_given (given : ∀ feature ∈ features, feature.given folder before = .ok (texts feature)) :
    features.mapM (Feature.given folder before) = .ok (features.map texts) := by
  induction features with
  | nil => rfl
  | cons feature features induction =>
      rw [List.forall_mem_cons] at given
      rw [List.mapM_cons, given.1, induction given.2]
      rfl

/-- What is given for more features is what is given for the first ones and for the others. -/
theorem mapM_given_append {others : List Feature} {payloads : List Text}
    (given : (features ++ others).mapM (Feature.given folder before) = .ok payloads) :
    ∃ old new, features.mapM (Feature.given folder before) = .ok old ∧
      others.mapM (Feature.given folder before) = .ok new ∧ payloads = old ++ new := by
  rw [List.mapM_append] at given
  cases first : features.mapM (Feature.given folder before) with
  | error failure =>
      rw [first] at given
      cases given
  | ok old =>
      cases second : others.mapM (Feature.given folder before) with
      | error failure =>
          rw [first, second] at given
          cases given
      | ok new =>
          rw [first, second] at given
          cases given
          exact ⟨old, new, rfl, rfl, rfl⟩

theorem mapM_given_congr {elsewhere : TemplateFolder} {otherwise : Workspace}
    (agree : ∀ feature ∈ features,
      feature.given folder before = feature.given elsewhere otherwise) :
    features.mapM (given folder before) = features.mapM (given elsewhere otherwise) := by
  induction features with
  | nil => rfl
  | cons feature features induction =>
      rw [List.forall_mem_cons] at agree
      rw [List.mapM_cons, List.mapM_cons, agree.1, induction agree.2]

/-- Whether a feature is merged under a runtime. -/
def isMerged (runtime : Runtime) (feature : Feature) : Bool :=
  runtime = .deno || !feature.isDenoOnly

theorem isDenoOnly_iff : feature.isDenoOnly = true ↔ feature = .parsers := by
  cases feature <;> decide

end Feature

theorem Project.mergedFeatures_eq (project : Project) :
    project.mergedFeatures = project.features.filter (Feature.isMerged project.runtime) := by
  unfold Project.mergedFeatures Feature.isMerged
  split
  · rename_i deno
    simp [deno]
  · rename_i other
    simp [other]

namespace Merge

variable {line : Text} {block : List Text} {payloads : List Text} {runtime : Runtime}

/-- A block of imports and a body, with an empty line in between if there are imports. -/
def assemble (block : List Text) (body : Text) : Text :=
  if block = [] then body else Text.unlines block ++ "\n\n" ++ body

theorem not_isBlank_of_isImport (isImport : isImport line = true) : line.isBlank = false := by
  rw [← Bool.not_eq_true, ← Text.strip_eq_nil_iff]
  intro empty
  rw [Merge.isImport, empty] at isImport
  exact absurd isImport (by decide)

theorem header_eq_nil_iff (imports : ∀ line ∈ block, isImport line = true) :
    (Text.unlines block).strip = [] ↔ block = [] := by
  constructor
  · intro empty
    induction block using List.reverseRecOn with
    | nil => rfl
    | append_singleton lines line =>
        rw [Text.unlines_concat, Text.strip_eq_nil_iff, Text.isBlank, List.all_append,
          Bool.and_eq_true] at empty
        have solid := not_isBlank_of_isImport (imports line (by simp))
        rw [Text.isBlank, empty.2] at solid
        cases solid
  · rintro rfl
    rfl

theorem isImport_of_mem_importBlock (member : line ∈ importBlock runtime payloads) :
    isImport line = true := by
  obtain ⟨payload, -, found⟩ := List.mem_flatMap.mp (List.mem_filter.mp member).1
  exact (List.mem_filter.mp found).2

/-- The merged file is a block of imports and a body. -/
theorem render_eq_assemble (runtime : Runtime) (payloads : List Text) :
    render runtime payloads =
      assemble (importBlock runtime payloads) (bodies payloads).strip := by
  have empty := header_eq_nil_iff fun line (member : line ∈ importBlock runtime payloads) =>
    isImport_of_mem_importBlock member
  unfold render header assemble
  simp only
  split
  · rename_i none
    rw [if_pos (empty.mp none)]
    rfl
  · rename_i some
    rw [if_neg (mt empty.mpr some)]

end Merge

theorem Site.render_result (site : Site) (project : Project) (before : Workspace) :
    (site.render project before).1 =
      (project.mergedFeatures.mapM (Feature.given site.templates before)).map
        (Merge.render project.runtime) := by
  rw [← Feature.payloads_result]
  unfold Site.render
  rw [bind_apply]
  cases project.mergedFeatures.mapM (Feature.payload site.templates) before with
  | mk result after => cases result <;> rfl

end HelperKit
