import HelperKit.Proofs.Project.Codec
import HelperKit.Proofs.Json.Members

/-!
# What is told about a record

An examination of a record tells everything that is wrong with it.  The complaints about its
four fields are put one behind the other, and those about one field are what is told when that
field is examined alone, so no fault hides another one.  A record without complaints is accepted,
and nothing but the four fields counts.
-/

namespace HelperKit

/-- A complaint about a part of a value, seen from the whole. -/
def Complaint.under (step : Step) (complaint : Complaint) : Complaint :=
  { complaint with place := step :: complaint.place }

namespace Examined

variable {α β : Type} {examined : Examined α}

/-- The complaints of an examination, none if it finds a value. -/
def complaints : Examined α → List Complaint
  | .ok _ => []
  | .error complaints => complaints

@[simp]
theorem complaints_ok (value : α) : complaints (.ok value : Examined α) = [] := rfl

@[simp]
theorem complaints_error (told : List Complaint) :
    complaints (.error told : Examined α) = told := rfl

@[simp]
theorem complaints_refuse (defect : Defect) :
    complaints (refuse defect : Examined α) = [⟨[], defect⟩] := rfl

@[simp]
theorem complaints_within (step : Step) (examined : Examined α) :
    complaints (within step examined) = examined.complaints.map (.under step) := by
  cases examined <;> rfl

@[simp]
theorem complaints_map (convert : α → β) (examined : Examined α) :
    complaints (examined.map convert) = examined.complaints := by
  cases examined <;> rfl

@[simp]
theorem complaints_both (first : Examined α) (second : Examined β) :
    complaints (both first second) = first.complaints ++ second.complaints := by
  cases first <;> cases second <;> simp [both]

theorem complaints_each (examine : Json → Examined α) (index : Nat) (items : List Json) :
    complaints (each examine index items) =
      (items.zipIdx index).flatMap fun (item, index) =>
        (examine item).complaints.map (.under (.index index)) := by
  induction items generalizing index with
  | nil => rfl
  | cons item items induction =>
      simp only [each, complaints_map, complaints_both, complaints_within, induction,
        List.zipIdx_cons, List.flatMap_cons]

/-! ## Failures are told -/

/-- An examination does not fail without a complaint. -/
def Telling (examined : Examined α) : Prop :=
  examined ≠ .error []

theorem Telling.accepted_iff (telling : Telling examined) :
    (∃ value, examined = .ok value) ↔ examined.complaints = [] := by
  cases examined with
  | ok value => simp
  | error told =>
      have nonempty : told ≠ [] := fun empty => telling (by rw [empty])
      simp [nonempty]

theorem telling_ok (value : α) : Telling (.ok value : Examined α) := by
  simp [Telling]

theorem telling_refuse (defect : Defect) : Telling (refuse defect : Examined α) := by
  simp [Telling, refuse]

theorem Telling.within (telling : Telling examined) (step : Step) :
    Telling (within step examined) := by
  cases examined with
  | ok value => exact telling_ok value
  | error told => simpa [Telling, Examined.within, Except.mapError] using telling

theorem Telling.map (telling : Telling examined) (convert : α → β) :
    Telling (examined.map convert) := by
  cases examined with
  | ok value => exact telling_ok _
  | error told => simpa [Telling, Except.map] using telling

theorem Telling.both {other : Examined β} (telling : Telling examined) (second : Telling other) :
    Telling (both examined other) := by
  cases examined <;> cases other <;> simp_all [Telling, Examined.both]

theorem telling_each {examine : Json → Examined α} (telling : ∀ item, Telling (examine item))
    (index : Nat) (items : List Json) : Telling (each examine index items) := by
  induction items generalizing index with
  | nil => exact telling_ok []
  | cons item items induction =>
      exact (((telling item).within _).both (induction (index + 1))).map _

end Examined

namespace Json

open Examined

/-- What is wrong with a value that has to name a member of a vocabulary. -/
def misnaming? (α : Type) [Vocabulary α] : Json → Option Defect
  | .string text =>
      if ∃ member ∈ (Vocabulary.members : List α), Text.ofString (Vocabulary.name member) = text then
        none
      else if text.isUnicode then some (.notMember (Vocabulary.names α))
      else some .notUnicode
  | _ => some (.notMember (Vocabulary.names α))

/-- What is wrong with a value that has to be a text. -/
def mistyping? : Json → Option Defect
  | .string _ => none
  | _ => some .notString

/-- The complaints about a value that has no parts. -/
def aboutScalar (fault? : Json → Option Defect) (value : Json) : List Complaint :=
  (fault? value).toList.map fun defect => ⟨[], defect⟩

theorem complaints_toMember {α : Type} [Vocabulary α] (value : Json) :
    complaints (toMember α value) = aboutScalar (misnaming? α) value := by
  cases value with
  | string text =>
      simp only [toMember, aboutScalar, misnaming?, Vocabulary.ofName?]
      cases known : (Vocabulary.members : List α).find?
          fun member => Text.ofString (Vocabulary.name member) = text with
      | some member =>
          have named := List.find?_some known
          rw [decide_eq_true_eq] at named
          have listed : ∃ member ∈ (Vocabulary.members : List α),
              Text.ofString (Vocabulary.name member) = text :=
            ⟨member, List.mem_of_find?_eq_some known, named⟩
          rw [if_pos listed]
          rfl
      | none =>
          have unnamed : ¬ ∃ member ∈ (Vocabulary.members : List α),
              Text.ofString (Vocabulary.name member) = text := by
            simpa using List.find?_eq_none.mp known
          rw [if_neg unnamed]
          cases text.isUnicode <;> rfl
  | _ => rfl

theorem complaints_toText (value : Json) :
    complaints (toText value) = aboutScalar mistyping? value := by
  cases value <;> rfl

theorem telling_toMember {α : Type} [Vocabulary α] (value : Json) : Telling (toMember α value) := by
  unfold toMember
  split
  · split
    · exact telling_ok _
    · split <;> exact telling_refuse _
  · exact telling_refuse _

theorem telling_toText (value : Json) : Telling (toText value) := by
  unfold toText
  split
  · exact telling_ok _
  · exact telling_refuse _

end Json

namespace Selection

open Examined

/-- The complaints about the elements of a list by hand: one about every element that names no
feature, with its index. -/
def aboutFeatures (items : List Json) : List Complaint :=
  items.zipIdx.filterMap fun (item, index) =>
    (item.misnaming? Feature).map fun defect => ⟨[.name "features", .index index], defect⟩

theorem complaints_features (items : List Json) :
    complaints (within (.name "features") (each (·.toMember Feature) 0 items)) =
      aboutFeatures items := by
  rw [complaints_within, complaints_each, aboutFeatures, List.map_flatMap,
    List.filterMap_eq_flatMap_toList]
  refine congrArg (List.flatMap · items.zipIdx) (funext fun (item, index) => ?_)
  simp only [Json.complaints_toMember, Json.aboutScalar]
  cases item.misnaming? Feature <;> rfl

/-- A list by hand is complained of for its elements, or for being empty. -/
theorem complaints_ofFeatureNames (items : List Json) :
    complaints (ofFeatureNames items) =
      if items = [] then [⟨[], .noFeature⟩] else aboutFeatures items := by
  rw [← complaints_features]
  cases known : within (.name "features") (each (·.toMember Feature) 0 items) with
  | error told =>
      have nonempty : items ≠ [] := by
        rintro rfl
        cases known
      rw [if_neg nonempty]
      simp only [ofFeatureNames, known]
      rfl
  | ok features =>
      have listed := each_toMember_eq_ok_iff.mp (within_eq_ok_iff.mp known)
      simp only [ofFeatureNames, known]
      by_cases empty : features = []
      · rw [dif_neg (not_not.mpr empty), if_pos (by rw [listed, empty]; rfl)]
        rfl
      · rw [dif_pos empty, if_neg (by simpa [listed] using empty)]
        rfl

theorem telling_ofFeatureNames (items : List Json) : Telling (ofFeatureNames items) := by
  unfold ofFeatureNames
  split
  · rename_i told refused
    have telling : Telling (within (.name "features") (each (·.toMember Feature) 0 items)) :=
      (telling_each (fun item => Json.telling_toMember item) 0 items).within _
    rw [refused] at telling
    simpa [Telling] using telling
  · split
    · exact telling_ok _
    · exact telling_refuse _

theorem telling_ofPresetName (value : Json) : Telling (ofPresetName value) := by
  unfold ofPresetName
  split
  · exact telling_refuse _
  · exact ((Json.telling_toMember _).within _).map _

theorem telling_ofRecord (value : Json) : Telling (ofRecord value) := by
  unfold ofRecord
  repeat' split
  all_goals first
    | exact telling_refuse _
    | exact telling_ofPresetName _
    | exact telling_ofFeatureNames _

end Selection

namespace Project

open Examined

/-- The complaints about a field of a record that is examined alone. -/
def alone (record : Members) (name : Text) (about : Json → List Complaint) : List Complaint :=
  match record.get? name with
  | none => [⟨[.name name], .missing⟩]
  | some value => (about value).map (.under (.name name))

theorem complaints_field {α : Type} (record : Members) (name : Text) (examine : Json → Examined α) :
    complaints (field record name examine) =
      alone record name fun value => complaints (examine value) := by
  unfold field alone
  cases record.get? name with
  | none => rfl
  | some value => exact complaints_within _ _

theorem telling_field {α : Type} {examine : Json → Examined α}
    (telling : ∀ value, Telling (examine value)) (record : Members) (name : Text) :
    Telling (field record name examine) := by
  unfold field
  refine Telling.within ?_ _
  split
  · exact telling _
  · exact telling_refuse _

theorem telling_ofMembers (record : Members) : Telling (ofMembers record) :=
  ((telling_field Json.telling_toMember record _).both
    ((telling_field Json.telling_toText record _).both
      ((telling_field Selection.telling_ofRecord record _).both
        (telling_field Json.telling_toMember record _)))).map _

theorem ofMembers_congr {record others : Members}
    (same : ∀ name ∈ recordNames, others.get? name = record.get? name) :
    ofMembers others = ofMembers record := by
  have fields : ∀ {α : Type} {name : Text} (examine : Json → Examined α), name ∈ recordNames →
      field others name examine = field record name examine := by
    intro α name examine known
    rw [field, field, same name known]
  simp only [ofMembers]
  rw [fields _ (by decide), fields _ (by decide), fields _ (by decide), fields _ (by decide)]

/-- The complaints about a record are those about its four fields, each examined alone, in a fixed
order; a list by hand is complained of once for every element that names no feature.  A record is
accepted exactly if there are none, and it does not matter which other members there are, nor in
what order the members are. -/
theorem complaints_of_fields (record : Members) :
    complaints (ofRecord (.object record)) =
      alone record "runtime" (Json.aboutScalar (Json.misnaming? Runtime)) ++
      alone record "chosen_directory" (Json.aboutScalar Json.mistyping?) ++
      alone record "feature_set" (fun value => complaints (Selection.ofRecord value)) ++
      alone record "modularity" (Json.aboutScalar (Json.misnaming? Layout)) ∧
    (∀ (body : Members) (items : List Json), body.get? "features" = some (.array items) →
      complaints (Selection.ofRecord (.object [("Custom", .object body)])) =
        if items = [] then [⟨[], .noFeature⟩] else Selection.aboutFeatures items) ∧
    ((∃ project, ofRecord (.object record) = .ok project) ↔
      complaints (ofRecord (.object record)) = []) ∧
    ∀ others : Members, record.Distinct → others.Distinct →
      (∀ member : Text × Json, member.1 ∈ recordNames → (member ∈ others ↔ member ∈ record)) →
      ofRecord (.object others) = ofRecord (.object record) := by
  refine ⟨?_, fun body items listed => ?_, (telling_ofMembers record).accepted_iff, ?_⟩
  · simp only [ofRecord, ofMembers, complaints_map, complaints_both, complaints_field,
      Json.complaints_toMember, Json.complaints_toText, List.append_assoc]
  · rw [← Selection.complaints_ofFeatureNames]
    simp only [Selection.ofRecord, if_pos, listed]
    rw [if_neg (by decide)]
  · intro others distinct distinctOthers same
    refine ofMembers_congr fun name known => Option.ext fun value => ?_
    rw [distinctOthers.get?_eq_some_iff, distinct.get?_eq_some_iff]
    exact same (name, value) known

/-- Half of a surrogate pair. -/
def loneSurrogate : Text :=
  [.surrogate 0]

/-- A record that is complete but for a feature that half of a surrogate pair stands for. -/
def surrogateRecord : Members :=
  [("runtime", .string "Deno"), ("chosen_directory", .string "."),
   ("feature_set", .object [("Custom", .object [("features", .array [.string loneSurrogate])])]),
   ("modularity", .string "SingleFile")]

/-- The element is complained of for the text that it is, and not for naming no feature. -/
theorem lone_surrogate_no_text :
    complaints (ofRecord (.object surrogateRecord)) =
        [⟨[.name "feature_set", .name "features", .index 0], .notUnicode⟩] ∧
      complaints (ofRecord (.object surrogateRecord)) ≠
        [⟨[.name "feature_set", .name "features", .index 0],
          .notMember (Vocabulary.names Feature)⟩] := by
  decide

/-- A list by hand with two elements that name no feature. -/
def faultyElements : List Json :=
  [.string loneSurrogate, .string "Core", .integer 7]

/-- A record with a fault in every field. -/
def faultyRecord : Members :=
  [("version", .integer 2), ("modularity", .null),
   ("feature_set", .object [("Custom", .object [("features", .array faultyElements)])]),
   ("chosen_directory", .integer 3)]

/-- The same faults, with the members in another order and without the one that says nothing. -/
def reorderedRecord : Members :=
  [("chosen_directory", .integer 3),
   ("feature_set", .object [("Custom", .object [("features", .array faultyElements)])]),
   ("modularity", .null)]

/-- All of the faults are told, in the order of the fields. -/
theorem complaints_of_fields_faulty :
    complaints (ofRecord (.object faultyRecord)) =
        [⟨[.name "runtime"], .missing⟩, ⟨[.name "chosen_directory"], .notString⟩,
         ⟨[.name "feature_set", .name "features", .index 0], .notUnicode⟩,
         ⟨[.name "feature_set", .name "features", .index 2],
           .notMember (Vocabulary.names Feature)⟩,
         ⟨[.name "modularity"], .notMember (Vocabulary.names Layout)⟩] ∧
      complaints (Selection.ofRecord
          (.object [("Custom", .object [("features", .array faultyElements)])])) =
        Selection.aboutFeatures faultyElements ∧
      (¬ ∃ project, ofRecord (.object faultyRecord) = .ok project) ∧
      ofRecord (.object reorderedRecord) = ofRecord (.object faultyRecord) := by
  obtain ⟨fields, elements, accepted, unordered⟩ := complaints_of_fields faultyRecord
  have listed := elements [("features", .array faultyElements)] faultyElements rfl
  have told : complaints (ofRecord (.object faultyRecord)) ≠ [] := by decide
  refine ⟨fields.trans (by decide), listed, fun project => told (accepted.mp project), ?_⟩
  refine unordered reorderedRecord (by unfold Members.Distinct; decide)
    (by unfold Members.Distinct; decide) fun member known => ?_
  have counts : member ≠ (Text.ofString "version", .integer 2) := by
    rintro rfl
    exact absurd known (by decide)
  simp only [reorderedRecord, faultyRecord, List.mem_cons, List.not_mem_nil, or_false, counts,
    false_or]
  tauto

end Project

end HelperKit
