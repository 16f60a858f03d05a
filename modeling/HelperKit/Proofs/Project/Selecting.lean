import HelperKit.Proofs.Project.Codec

/-!
# What a selection is

A selection is accepted in its tagged form alone, and it is the preset or the list that the form
names.  However a selection comes about, it stands for features without repetition, at least one
of them, and the list of these features makes a selection of the same features again.
-/

namespace HelperKit

section Distinct

variable {α : Type} [DecidableEq α]

theorem distinctAfter_eq_eraseDups (seen items : List α) :
    distinctAfter seen items = (items.filter (· ∉ seen)).eraseDups := by
  induction items generalizing seen with
  | nil => rfl
  | cons first rest induction =>
      by_cases known : first ∈ seen
      · simp only [distinctAfter, known, if_true, induction]
        simp [known]
      · have fresh : (rest.filter (· ∉ seen)).filter (fun item => !item == first) =
            rest.filter (· ∉ first :: seen) := by
          rw [List.filter_filter]
          refine List.filter_congr fun item _ => ?_
          simp [Bool.beq_eq_decide_eq]
        simp only [distinctAfter, known, if_false, induction]
        rw [List.filter_cons_of_pos (by simpa using known), List.eraseDups_cons, fresh]

theorem distinct_eq_eraseDups (items : List α) : distinct items = items.eraseDups := by
  rw [distinct, distinctAfter_eq_eraseDups]
  simp

end Distinct

namespace Selection

variable {selection : Selection}

/-- The preset that a selection is. -/
def preset? : Selection → Option Preset
  | .preset bundle => some bundle
  | .custom .. => none

/-- The list that a selection is. -/
def listed? : Selection → Option (List Feature)
  | .preset _ => none
  | .custom features _ _ => some features

/-- The selection made of a preset, through the record that names it. -/
def fromPreset (bundle : Preset) : Examined Selection :=
  ofRecord (.object [("Preset", .object [("preset_name", .string bundle.name)])])

/-- The selection made of a list of features, through the record that lists them. -/
def fromList (features : List Feature) : Examined Selection :=
  ofRecord (.object [("Custom", .object
    [("features", .array (features.map fun feature => .string feature.name))])])

/-- How a selection comes about. -/
inductive Built : Selection → Prop where
  | validated {record : Json} {selection : Selection} (accepted : ofRecord record = .ok selection) :
      Built selection
  | preset {bundle : Preset} {selection : Selection} (accepted : fromPreset bundle = .ok selection) :
      Built selection
  | list {features : List Feature} {selection : Selection}
      (accepted : fromList features = .ok selection) : Built selection
  | replaced (project : Project) (features : List Feature) (nonempty : features ≠ []) :
      Built (project.withFeatures features nonempty).selection

/-- A list of features is accepted unless it is empty. -/
theorem fromList_eq_ok_iff {features : List Feature} : fromList features = .ok selection ↔
    ∃ nonempty : features ≠ [], .ofFeatures features nonempty = selection := by
  by_cases nonempty : features ≠ []
  · have accepted : fromList features = .ok (.ofFeatures features nonempty) :=
      ofRecord_eq_ok_iff.mpr (.custom nonempty rfl)
    simp [accepted, nonempty]
  · rw [not_not] at nonempty
    subst nonempty
    constructor
    · intro accepted
      cases accepted
    · rintro ⟨nonempty, -⟩
      exact absurd rfl nonempty

theorem fromPreset_eq_ok_iff {bundle : Preset} :
    fromPreset bundle = .ok selection ↔ .preset bundle = selection := by
  have accepted : fromPreset bundle = .ok (.preset bundle) := ofRecord_eq_ok_iff.mpr (.preset rfl)
  simp [accepted]

theorem features_ofFeatures (features : List Feature) (nonempty : features ≠ []) :
    (ofFeatures features nonempty).features = features.eraseDups :=
  distinct_eq_eraseDups features

theorem ofFeatures_features (selection : Selection) :
    (ofFeatures selection.features selection.features_ne_nil).features = selection.features :=
  distinct_eq_self selection.nodup_features

theorem described_iff {value : Json} : Described value selection ↔
    (∃ (body : Members) (bundle : Preset), value = .object [("Preset", .object body)] ∧
      body.get? "preset_name" = some (.string bundle.name) ∧ .preset bundle = selection) ∨
    ∃ (body : Members) (features : List Feature) (nonempty : features ≠ []),
      value = .object [("Custom", .object body)] ∧
      body.get? "features" = some (.array (features.map fun feature => .string feature.name)) ∧
      .ofFeatures features nonempty = selection := by
  constructor
  · intro described
    cases described with
    | preset named => exact .inl ⟨_, _, rfl, named, rfl⟩
    | custom nonempty listed => exact .inr ⟨_, _, nonempty, rfl, listed, rfl⟩
  · rintro (⟨body, bundle, rfl, named, rfl⟩ | ⟨body, features, nonempty, rfl, listed, rfl⟩)
    · exact .preset named
    · exact .custom nonempty listed

theorem preset?_eq_some_iff {bundle : Preset} :
    selection.preset? = some bundle ↔ .preset bundle = selection := by
  cases selection <;> simp [preset?, eq_comm]

theorem listed?_eq_some_iff {features : List Feature} (nonempty : features ≠ []) :
    selection.listed? = some features.eraseDups ↔ .ofFeatures features nonempty = selection := by
  cases selection <;> simp [listed?, ofFeatures, distinct_eq_eraseDups, eq_comm]

/-- A value is accepted exactly if it is an object with one member, which names a preset or lists
features, at least one of them; what else lies beside the name or the list is ignored.  The
selection is that preset, or the list without the repetitions behind a first occurrence. -/
theorem accepts_tagged_form :
    (∀ (value : Json) (selection : Selection), ofRecord value = .ok selection ↔
      (∃ (body : Members) (bundle : Preset), value = .object [("Preset", .object body)] ∧
        body.get? "preset_name" = some (.string bundle.name) ∧
        selection.preset? = some bundle ∧ selection.features = bundle.features) ∨
      ∃ (body : Members) (features : List Feature), value = .object [("Custom", .object body)] ∧
        features ≠ [] ∧
        body.get? "features" =
          some (.array (features.map fun feature => .string feature.name)) ∧
        selection.listed? = some features.eraseDups ∧
        selection.features = features.eraseDups) ∧
    (∀ selection, Built selection →
      ((∃ bundle, selection.preset? = some bundle ∧ selection.listed? = none) ∨
        ∃ features, selection.listed? = some features ∧ selection.preset? = none) ∧
      selection.features ≠ [] ∧ selection.features.Nodup ∧
      ∃ again, fromList selection.features = .ok again ∧ again.features = selection.features) ∧
    (∀ bundle, ∃ selection, fromPreset bundle = .ok selection ∧
      selection.features = bundle.features) ∧
    (∀ features, (∃ selection, fromList features = .ok selection) ↔ features ≠ []) ∧
    (∀ features selection, fromList features = .ok selection →
      ∀ feature, feature ∈ selection.features ↔ feature ∈ features) ∧
    ∀ (project : Project) (features : List Feature) (nonempty : features ≠ []),
      fromList features = .ok (project.withFeatures features nonempty).selection := by
  refine ⟨fun value selection => ?_, fun selection _ => ⟨?_, ?_, ?_, ?_⟩, ?_, ?_, ?_, ?_⟩
  · rw [ofRecord_eq_ok_iff, described_iff]
    refine or_congr ?_ ?_
    · refine exists_congr fun body => exists_congr fun bundle => and_congr_right fun _ =>
        and_congr_right fun _ => ?_
      rw [preset?_eq_some_iff, iff_self_and]
      rintro rfl
      rfl
    · refine exists_congr fun body => exists_congr fun features => ?_
      constructor
      · rintro ⟨nonempty, same, listed, made⟩
        refine ⟨same, nonempty, listed, (listed?_eq_some_iff nonempty).mpr made, ?_⟩
        rw [← made, features_ofFeatures]
      · rintro ⟨same, nonempty, listed, made, -⟩
        exact ⟨nonempty, same, listed, (listed?_eq_some_iff nonempty).mp made⟩
  · cases selection with
    | preset bundle => exact .inl ⟨bundle, rfl, rfl⟩
    | custom features nonempty nodup => exact .inr ⟨features, rfl, rfl⟩
  · exact selection.features_ne_nil
  · exact selection.nodup_features
  · exact ⟨_, fromList_eq_ok_iff.mpr ⟨selection.features_ne_nil, rfl⟩, selection.ofFeatures_features⟩
  · exact fun bundle => ⟨_, fromPreset_eq_ok_iff.mpr rfl, rfl⟩
  · intro features
    simp [fromList_eq_ok_iff]
  · intro features selection accepted feature
    obtain ⟨nonempty, rfl⟩ := fromList_eq_ok_iff.mp accepted
    rw [features_ofFeatures, List.mem_eraseDups]
  · exact fun project features nonempty => fromList_eq_ok_iff.mpr ⟨nonempty, rfl⟩

/-- A list with a feature named twice, and a member that says nothing beside it. -/
def repeatedFeatures : Json :=
  .object [("Custom", .object
    [("note", .null), ("features", .array [.string "Option", .string "Core", .string "Option"])])]

/-- The feature that is named twice counts where it is named first. -/
theorem accepts_tagged_form_repeated :
    let selection : Selection := .custom [.option, .core] (by decide) (by decide)
    ofRecord repeatedFeatures = .ok selection ∧ selection.preset? = none ∧
      ∃ again, fromList [.option, .core] = .ok again ∧ again.features = [.option, .core] := by
  intro selection
  have read : ofRecord repeatedFeatures = .ok selection :=
    (accepts_tagged_form.1 repeatedFeatures selection).mpr
      (.inr ⟨_, [.option, .core, .option], rfl, by decide, rfl, by decide, by decide⟩)
  obtain ⟨variants, -, -, again⟩ := accepts_tagged_form.2.1 selection (.validated read)
  refine ⟨read, ?_, again⟩
  rcases variants with ⟨bundle, preset, -⟩ | ⟨features, -, unset⟩
  · cases preset
  · exact unset

end Selection

end HelperKit
