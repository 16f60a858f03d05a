import HelperKit.Feature

/-!
# Projects

A project is what was chosen for one artifact: the runtime, the directory, the
features and the layout.  The features are those of a preset, or a list made by
hand; such a list is never empty and names no feature twice.
-/

namespace HelperKit

/-- The elements of a list without those that were there before, written
backwards in `seen`. -/
def distinctAfter {α : Type} [DecidableEq α] (seen : List α) : List α → List α
  | [] => []
  | item :: items =>
      if item ∈ seen then distinctAfter seen items
      else item :: distinctAfter (item :: seen) items

/-- A list without the repetitions of its elements. -/
def distinct {α : Type} [DecidableEq α] (items : List α) : List α :=
  distinctAfter [] items

section Distinct

variable {α : Type} [DecidableEq α]

theorem mem_distinctAfter {seen items : List α} {item : α} :
    item ∈ distinctAfter seen items ↔ item ∈ items ∧ item ∉ seen := by
  induction items generalizing seen with
  | nil => simp [distinctAfter]
  | cons first rest induction =>
      by_cases known : first ∈ seen
      · simp only [distinctAfter, known, if_true, induction, List.mem_cons]
        constructor
        · exact fun ⟨member, fresh⟩ => ⟨.inr member, fresh⟩
        · rintro ⟨same | member, fresh⟩
          · exact absurd (same ▸ known) fresh
          · exact ⟨member, fresh⟩
      · simp only [distinctAfter, known, if_false, List.mem_cons, induction, not_or]
        constructor
        · rintro (same | ⟨member, _, fresh⟩)
          · exact ⟨.inl same, same ▸ known⟩
          · exact ⟨.inr member, fresh⟩
        · rintro ⟨same | member, fresh⟩
          · exact .inl same
          · by_cases same : item = first
            · exact .inl same
            · exact .inr ⟨member, same, fresh⟩

/-- Taking repetitions away keeps every element. -/
@[simp]
theorem mem_distinct {items : List α} {item : α} : item ∈ distinct items ↔ item ∈ items := by
  simp [distinct, mem_distinctAfter]

theorem nodup_distinctAfter (seen items : List α) : (distinctAfter seen items).Nodup := by
  induction items generalizing seen with
  | nil => simp [distinctAfter]
  | cons first rest induction =>
      by_cases known : first ∈ seen
      · simpa [distinctAfter, known] using induction seen
      · simp [distinctAfter, known, mem_distinctAfter, induction]

/-- What is left names no element twice. -/
theorem nodup_distinct (items : List α) : (distinct items).Nodup :=
  nodup_distinctAfter [] items

theorem distinct_ne_nil {items : List α} (nonempty : items ≠ []) : distinct items ≠ [] := by
  cases items with
  | nil => exact absurd rfl nonempty
  | cons item rest =>
      intro empty
      have member : item ∈ distinct (item :: rest) := by simp
      simp [empty] at member

theorem distinctAfter_eq_self {seen items : List α} (nodup : items.Nodup)
    (fresh : ∀ item ∈ items, item ∉ seen) : distinctAfter seen items = items := by
  induction items generalizing seen with
  | nil => rfl
  | cons first rest induction =>
      have unseen : first ∉ seen := fresh first (by simp)
      rw [List.nodup_cons] at nodup
      simp only [distinctAfter, unseen, if_false, List.cons.injEq, true_and]
      refine induction nodup.2 fun item member => ?_
      simp only [List.mem_cons, not_or]
      refine ⟨fun same => nodup.1 (same ▸ member), fresh item (by simp [member])⟩

/-- A list without repetitions stays as it is. -/
theorem distinct_eq_self {items : List α} (nodup : items.Nodup) : distinct items = items :=
  distinctAfter_eq_self nodup (by simp)

end Distinct

/-- The features of a project: those of a preset, or a list made by hand. -/
inductive Selection where
  | preset (bundle : Preset)
  | custom (features : List Feature) (nonempty : features ≠ []) (nodup : features.Nodup)
  deriving DecidableEq

namespace Selection

/-- A selection made by hand.  Repeated features count once. -/
def ofFeatures (features : List Feature) (nonempty : features ≠ []) : Selection :=
  .custom (distinct features) (distinct_ne_nil nonempty) (nodup_distinct features)

/-- Whether a selection is a preset. -/
def isPreset : Selection → Bool
  | .preset _ => true
  | .custom .. => false

/-- The features that a selection stands for, in order. -/
def features : Selection → List Feature
  | .preset bundle => bundle.features
  | .custom features _ _ => features

end Selection

/-- What was chosen for one artifact. -/
structure Project where
  runtime : Runtime
  directory : Text
  selection : Selection
  layout : Layout
  deriving DecidableEq

namespace Project

/-- The features of a project, in order. -/
def features (project : Project) : List Feature :=
  project.selection.features

/-- The project with other features. -/
def withFeatures (project : Project) (features : List Feature) (nonempty : features ≠ []) :
    Project :=
  { project with selection := .ofFeatures features nonempty }

end Project

end HelperKit
