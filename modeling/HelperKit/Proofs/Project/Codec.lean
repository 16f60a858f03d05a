import HelperKit.Proofs.Project.Record

/-!
# Which records hold which projects

A record holds a project if its members say so: the order of the members, further members
and repeated features do not matter.  Among all records that hold a project, the one that
is stored is the normal form.  It holds the project again, and two projects have the same
normal form only if they are the same.
-/

namespace HelperKit

namespace Examined

variable {α β : Type} {step : Step} {examined : Examined α} {value : α}

theorem within_eq_ok_iff : within step examined = .ok value ↔ examined = .ok value := by
  cases examined <;> simp [within, Except.mapError]

theorem map_eq_ok_iff {convert : α → β} {result : β} :
    examined.map convert = .ok result ↔ ∃ value, examined = .ok value ∧ convert value = result := by
  cases examined <;> simp [Except.map]

theorem both_eq_ok_iff {first : Examined α} {second : Examined β} {pair : α × β} :
    both first second = .ok pair ↔ first = .ok pair.1 ∧ second = .ok pair.2 := by
  obtain ⟨left, right⟩ := pair
  cases first <;> cases second <;> simp [both]

end Examined

namespace Json

/-- A value names a member of a vocabulary if it is the text of its name. -/
theorem toMember_eq_ok_iff {α : Type} [Vocabulary α] [LawfulVocabulary α] {value : Json}
    {member : α} :
    toMember α value = .ok member ↔ value = .string (Text.ofString (Vocabulary.name member)) := by
  constructor
  · intro named
    cases value with
    | string text =>
        rw [toMember] at named
        split at named
        · rename_i found known
          cases named
          have same := List.find?_some known
          rw [decide_eq_true_eq] at same
          rw [same]
        · split at named <;> cases named
    | _ => cases named
  · rintro rfl
    exact toMember_name member

theorem toText_eq_ok_iff {value : Json} {text : Text} :
    toText value = .ok text ↔ value = .string text := by
  cases value <;> simp [toText, Examined.refuse]

end Json

namespace Selection

/-- A record of a selection has one member, tagged by the variant.  Features may be repeated. -/
inductive Described : Json → Selection → Prop where
  | preset {body : Members} {bundle : Preset}
      (named : body.get? "preset_name" = some (.string bundle.name)) :
      Described (.object [("Preset", .object body)]) (.preset bundle)
  | custom {body : Members} {features : List Feature} (nonempty : features ≠ [])
      (listed : body.get? "features" =
        some (.array (features.map fun feature => .string feature.name))) :
      Described (.object [("Custom", .object body)]) (.ofFeatures features nonempty)

theorem each_toMember_eq_ok_iff {values : List Json} {features : List Feature} {index : Nat} :
    Examined.each (·.toMember Feature) index values = .ok features ↔
      values = features.map fun feature => .string (Text.ofString feature.name) := by
  constructor
  · intro examined
    induction values generalizing index features with
    | nil =>
        cases examined
        rfl
    | cons value values induction =>
        obtain ⟨⟨feature, rest⟩, both, rfl⟩ := Examined.map_eq_ok_iff.mp examined
        obtain ⟨first, others⟩ := Examined.both_eq_ok_iff.mp both
        rw [Examined.within_eq_ok_iff, Json.toMember_eq_ok_iff] at first
        rw [List.map_cons, ← induction others, first]
        rfl
  · rintro rfl
    exact each_toMember_names features index

theorem ofPresetName_eq_ok_iff {value : Json} {selection : Selection} :
    ofPresetName value = .ok selection ↔
      ∃ bundle : Preset, value = .string (Text.ofString bundle.name) ∧
        .preset bundle = selection := by
  have named : (Examined.within (.name "preset") (value.toMember Preset)).map .preset =
      .ok selection ↔ ∃ bundle : Preset, value = .string (Text.ofString bundle.name) ∧
        .preset bundle = selection := by
    simp only [Examined.map_eq_ok_iff, Examined.within_eq_ok_iff, Json.toMember_eq_ok_iff]
    rfl
  cases value <;> first | exact named | simp [ofPresetName, Examined.refuse]

theorem ofFeatureNames_eq_ok_iff {values : List Json} {selection : Selection} :
    ofFeatureNames values = .ok selection ↔
      ∃ (features : List Feature) (nonempty : features ≠ []),
        values = features.map (fun feature => .string (Text.ofString feature.name)) ∧
          .ofFeatures features nonempty = selection := by
  unfold ofFeatureNames
  constructor
  · intro made
    split at made
    · cases made
    · rename_i features examined
      rw [Examined.within_eq_ok_iff, each_toMember_eq_ok_iff] at examined
      split at made
      · rename_i nonempty
        cases made
        exact ⟨features, nonempty, examined, rfl⟩
      · cases made
  · rintro ⟨features, nonempty, rfl, rfl⟩
    rw [each_toMember_names]
    simp only [Examined.within, Except.mapError, dif_pos nonempty]

/-- Reading a record finds the selection that it describes. -/
theorem ofRecord_eq_ok_iff {record : Json} {selection : Selection} :
    ofRecord record = .ok selection ↔ Described record selection := by
  constructor
  · intro read
    -- The reader gets through to two places only, one for each kind of selection.
    unfold ofRecord at read
    split at read
    · split at read
      · rename_i same
        subst same
        split at read
        · split at read
          · rename_i known
            obtain ⟨bundle, rfl, rfl⟩ := ofPresetName_eq_ok_iff.mp read
            exact .preset known
          · cases read
        · cases read
      · split at read
        · rename_i same
          subst same
          split at read
          · split at read
            · rename_i known
              obtain ⟨features, nonempty, rfl, rfl⟩ := ofFeatureNames_eq_ok_iff.mp read
              exact .custom nonempty known
            · cases read
          · cases read
        · cases read
    · cases read
    · cases read
  · intro described
    cases described with
    | preset named =>
        rw [ofRecord, if_pos rfl]
        simp only [named]
        exact ofPresetName_eq_ok_iff.mpr ⟨_, rfl, rfl⟩
    | custom nonempty listed =>
        rw [ofRecord, if_neg (by decide), if_pos rfl]
        simp only [listed]
        exact ofFeatureNames_eq_ok_iff.mpr ⟨_, nonempty, rfl, rfl⟩

end Selection

namespace Project

/-- The members of a record say what a project is. -/
structure DescribedBy (members : Members) (project : Project) : Prop where
  runtime : members.get? "runtime" = some (.string project.runtime.name)
  directory : members.get? "chosen_directory" = some (.string project.directory)
  selection : ∃ value, members.get? "feature_set" = some value ∧
    Selection.Described value project.selection
  layout : members.get? "modularity" = some (.string project.layout.name)

theorem field_eq_ok_iff {α : Type} {record : Members} {name : Text} {examine : Json → Examined α}
    {result : α} : field record name examine = .ok result ↔
      ∃ value, record.get? name = some value ∧ examine value = .ok result := by
  rw [field, Examined.within_eq_ok_iff]
  cases record.get? name <;> simp [Examined.refuse]

theorem ofMembers_eq_ok_iff {record : Members} {project : Project} :
    ofMembers record = .ok project ↔ DescribedBy record project := by
  obtain ⟨runtime, directory, selection, layout⟩ := project
  simp only [ofMembers, Examined.map_eq_ok_iff, Prod.exists, Examined.both_eq_ok_iff,
    field_eq_ok_iff, Json.toMember_eq_ok_iff, Json.toText_eq_ok_iff, Selection.ofRecord_eq_ok_iff,
    exists_eq_right, Project.mk.injEq]
  constructor
  · rintro ⟨_, _, _, _, ⟨first, second, third, fourth⟩, rfl, rfl, rfl, rfl⟩
    exact ⟨first, second, third, fourth⟩
  · rintro ⟨first, second, third, fourth⟩
    exact ⟨_, _, _, _, ⟨first, second, third, fourth⟩, rfl, rfl, rfl, rfl⟩

/-- The names of the members of a stored record, in order. -/
def recordNames : List Text :=
  ["runtime", "chosen_directory", "feature_set", "modularity"]

/-- A project is read back from its record.  A value holds a project if its members describe
it, and then the record of the project is its normal form: it has four members in a fixed
order, it holds the same project, and another value that holds a project has the same normal
form just if that is the same project. -/
theorem record_normal_form :
    (∀ project : Project, ofRecord project.toRecord = .ok project) ∧
    ∀ (value : Json) (project : Project),
      (ofRecord value = .ok project ↔
        ∃ members, value = .object members ∧ DescribedBy members project) ∧
      (ofRecord value = .ok project →
        (∃ members : Members, project.toRecord = .object members ∧ members.names = recordNames) ∧
        (∀ again, ofRecord project.toRecord = .ok again →
          again = project ∧ again.toRecord = project.toRecord) ∧
        ∀ (other : Json) (second : Project), ofRecord other = .ok second →
          (second.toRecord = project.toRecord ↔ second = project)) := by
  have injective : ∀ first second : Project, first.toRecord = second.toRecord → first = second := by
    intro first second same
    have read := first.ofRecord_toRecord
    rw [same, second.ofRecord_toRecord] at read
    exact (Except.ok.inj read).symm
  refine ⟨ofRecord_toRecord, fun value project => ⟨?_, fun read => ⟨⟨_, rfl, rfl⟩, ?_, ?_⟩⟩⟩
  · cases value with
    | object members => simp only [ofRecord, ofMembers_eq_ok_iff, Json.object.injEq, exists_eq_left']
    | _ => simp [ofRecord, Examined.refuse]
  · intro again reread
    rw [project.ofRecord_toRecord] at reread
    cases reread
    exact ⟨rfl, rfl⟩
  · intro other second held
    exact ⟨injective second project, fun same => by rw [same]⟩

/-- A record with its members in another order, two that say nothing, and a feature named
twice. -/
def looseRecord : Json :=
  .object
    [("modularity", .string "SplitFiles"), ("version", .integer 2),
     ("feature_set", .object [("Custom", .object
       [("features", .array [.string "Option", .string "Core", .string "Option"]),
        ("note", .null)])]),
     ("chosen_directory", .string "src"), ("runtime", .string "NodeJs")]

/-- The normal form of that record holds the two features once, in the order given, and is not
that of the project in one file. -/
theorem record_normal_form_loose :
    let project : Project :=
      ⟨.nodeJs, "src", .custom [.option, .core] (by decide) (by decide), .splitFiles⟩
    let merged : Project := { project with layout := .singleFile }
    ofRecord looseRecord = .ok project ∧ ofRecord project.toRecord = .ok project ∧
      (∃ members : Members, project.toRecord = .object members ∧ members.names = recordNames) ∧
      merged.toRecord ≠ project.toRecord := by
  intro project merged
  have read : ofRecord looseRecord = .ok project := rfl
  obtain ⟨shape, -, told⟩ := (record_normal_form.2 looseRecord project).2 read
  have differ : merged ≠ project := by decide
  exact ⟨read, record_normal_form.1 project, shape, fun same =>
    differ ((told merged.toRecord merged (record_normal_form.1 merged)).mp same)⟩

end Project

end HelperKit
