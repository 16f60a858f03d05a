import HelperKit.Project.Record
import HelperKit.Proofs.Json.Readable

/-!
# Records of projects

The record of a project describes that project again, and a document can hold it.
-/

namespace HelperKit

/-- A vocabulary in which a member is found by its name. -/
class LawfulVocabulary (α : Type) [Vocabulary α] : Prop where
  ofName?_name : ∀ member : α,
    Vocabulary.ofName? (Text.ofString (Vocabulary.name member)) = some member

instance : LawfulVocabulary Feature where
  ofName?_name member := by cases member <;> rfl

instance : LawfulVocabulary Preset where
  ofName?_name member := by cases member <;> rfl

instance : LawfulVocabulary Runtime where
  ofName?_name member := by cases member <;> rfl

instance : LawfulVocabulary Layout where
  ofName?_name member := by cases member <;> rfl

namespace Json

theorem toMember_name {α : Type} [Vocabulary α] [LawfulVocabulary α] (member : α) :
    toMember α (.string (Text.ofString (Vocabulary.name member))) = .ok member := by
  rw [toMember, LawfulVocabulary.ofName?_name]

end Json

theorem Preset.features_ne_nil (bundle : Preset) : bundle.features ≠ [] := by
  cases bundle <;> decide

theorem Preset.nodup_features (bundle : Preset) : bundle.features.Nodup := by
  cases bundle <;> decide

theorem Selection.features_ne_nil (selection : Selection) : selection.features ≠ [] := by
  cases selection with
  | preset bundle => exact bundle.features_ne_nil
  | custom features nonempty nodup => exact nonempty

theorem Selection.nodup_features (selection : Selection) : selection.features.Nodup := by
  cases selection with
  | preset bundle => exact bundle.nodup_features
  | custom features nonempty nodup => exact nodup

theorem Project.features_ne_nil (project : Project) : project.features ≠ [] :=
  project.selection.features_ne_nil

theorem Project.nodup_features (project : Project) : project.features.Nodup :=
  project.selection.nodup_features

namespace Selection

theorem each_toMember_names (features : List Feature) (index : Nat) :
    Examined.each (·.toMember Feature) index
      (features.map fun feature => .string (Text.ofString feature.name)) = .ok features := by
  induction features generalizing index with
  | nil => rfl
  | cons feature features induction =>
      have named : Json.toMember Feature (.string (Text.ofString feature.name)) = .ok feature :=
        Json.toMember_name feature
      rw [List.map_cons, Examined.each, named, induction]
      rfl

theorem ofFeatures_eq_custom {features : List Feature} (nonempty : features ≠ [])
    (nodup : features.Nodup) : ofFeatures features nonempty = .custom features nonempty nodup := by
  simp only [ofFeatures, distinct_eq_self nodup]

/-- The record of a selection describes it. -/
theorem ofRecord_toRecord (selection : Selection) : ofRecord selection.toRecord = .ok selection := by
  cases selection with
  | preset bundle =>
      have named : Json.toMember Preset (.string (Text.ofString bundle.name)) = .ok bundle :=
        Json.toMember_name bundle
      change ofPresetName (.string (Text.ofString bundle.name)) = _
      rw [ofPresetName, named]
      · rfl
      · simp
  | custom features nonempty nodup =>
      change ofFeatureNames (features.map fun feature => .string (Text.ofString feature.name)) = _
      rw [ofFeatureNames, each_toMember_names]
      simp only [Examined.within, Except.mapError, dif_pos nonempty,
        ofFeatures_eq_custom nonempty nodup]

end Selection

namespace Project

/-- The record of a project describes it. -/
theorem ofRecord_toRecord (project : Project) : ofRecord project.toRecord = .ok project := by
  have runtime : Json.toMember Runtime (.string (Text.ofString project.runtime.name)) =
      .ok project.runtime := Json.toMember_name project.runtime
  have layout : Json.toMember Layout (.string (Text.ofString project.layout.name)) =
      .ok project.layout := Json.toMember_name project.layout
  have selection := project.selection.ofRecord_toRecord
  set record : Members :=
    [(Text.ofString "runtime", .string project.runtime.name),
     (Text.ofString "chosen_directory", .string project.directory),
     (Text.ofString "feature_set", project.selection.toRecord),
     (Text.ofString "modularity", .string project.layout.name)] with recordEq
  have first : field record "runtime" (·.toMember Runtime) = .ok project.runtime := by
    change Examined.within _ (Json.toMember Runtime (.string project.runtime.name)) = _
    rw [runtime]
    rfl
  have second : field record "chosen_directory" Json.toText = .ok project.directory := rfl
  have third : field record "feature_set" Selection.ofRecord = .ok project.selection := by
    change Examined.within _ (Selection.ofRecord project.selection.toRecord) = _
    rw [selection]
    rfl
  have fourth : field record "modularity" (·.toMember Layout) = .ok project.layout := by
    change Examined.within _ (Json.toMember Layout (.string project.layout.name)) = _
    rw [layout]
    rfl
  change ofMembers record = _
  rw [ofMembers, first, second, third, fourth]
  rfl

/-- A document can hold the record of a project. -/
theorem readable_toRecord (project : Project) (depth : Nat) :
    Json.Readable (depth + 4) project.toRecord := by
  have selection : Json.Readable (depth + 3) project.selection.toRecord := by
    cases project.selection with
    | preset bundle =>
        simp [Selection.toRecord, Json.Readable, Json.ReadableMembers, Members.Distinct,
          Members.names]
    | custom features nonempty nodup =>
        have items : Json.ReadableItems depth
            (features.map fun feature => .string (Text.ofString feature.name)) := by
          clear nonempty nodup
          induction features with
          | nil => trivial
          | cons feature features induction => exact ⟨trivial, induction⟩
        simp [Selection.toRecord, Json.Readable, Json.ReadableMembers, Members.Distinct,
          Members.names, items]
  refine ⟨Nat.succ_pos _, ?_, trivial, trivial, selection, trivial, trivial⟩
  change (["runtime", "chosen_directory", "feature_set", "modularity"].map Text.ofString).Nodup
  decide

end Project

end HelperKit
