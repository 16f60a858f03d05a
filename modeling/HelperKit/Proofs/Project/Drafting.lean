import HelperKit.Project.Draft
import Mathlib.Data.List.Basic

/-!
# What a draft keeps

A draft keeps the value that was given last for each choice, and nothing else.  Whatever is done
to it, finishing it reports the first choice that stands unmade, or else gives what the record of
the four values is examined to; finishing leaves the draft as it was, and the order in which
different choices were made makes no difference.
-/

namespace HelperKit

namespace Draft

/-- The choices in the order in which they are demanded. -/
def Field.all : List Field := [.runtime, .directory, .selection, .layout]

/-- What is done to a draft: a choice is made anew, or the draft is finished. -/
inductive Call where
  | set (field : Field) (value : Json)
  | finish

/-- The value that a call gives for a choice. -/
def Call.given? (field : Field) : Call → Option Json
  | .set other value => if other = field then some value else none
  | .finish => none

/-- The results of a draft that is finished again and again between other calls, in order. -/
def results (draft : Draft) : List Call → List (Except Failure Project)
  | [] => []
  | .set field value :: calls => (draft.set field value).results calls
  | .finish :: calls => draft.finish :: draft.results calls

/-- The value that calls give last for a choice. -/
def last? (calls : List Call) (field : Field) : Option Json :=
  (calls.filterMap (Call.given? field)).getLast?

/-- A choice stands unmade: no value was given for it, or the last one is null. -/
def Unmade (calls : List Call) (field : Field) : Prop :=
  last? calls field = none ∨ last? calls field = some .null

/-- The record of four values. -/
def recordOf (runtime directory selection layout : Json) : Json :=
  .object [("runtime", runtime), ("chosen_directory", directory), ("feature_set", selection),
    ("modularity", layout)]

/-- What comes of finishing a draft after calls: the first choice that stands unmade is reported,
or the record of the last values is examined. -/
inductive Finishes (calls : List Call) : Except Failure Project → Prop where
  | missing (front : List Field) {back : List Field} {field : Field}
      (ordered : Field.all = front ++ field :: back) (unmade : Unmade calls field)
      (made : ∀ earlier ∈ front, ¬ Unmade calls earlier) :
      Finishes calls (.error (.missingField field.name))
  | examined {runtime directory selection layout : Json}
      (made : ∀ field, ¬ Unmade calls field)
      (lastRuntime : last? calls .runtime = some runtime)
      (lastDirectory : last? calls .directory = some directory)
      (lastSelection : last? calls .selection = some selection)
      (lastLayout : last? calls .layout = some layout) :
      Finishes calls
        ((Project.ofRecord (recordOf runtime directory selection layout)).mapError .rejected)

/-! ## What a draft holds -/

/-- The value that a draft holds for a choice. -/
def held? (draft : Draft) : Field → Option Json
  | .runtime => draft.runtime
  | .directory => draft.directory
  | .selection => draft.selection
  | .layout => draft.layout

theorem held?_set (draft : Draft) (made field : Field) (value : Json) :
    (draft.set made value).held? field =
      if made = field then chosen value else draft.held? field := by
  cases made <;> cases field <;> rfl

/-- A draft holds nothing but the values of the choices. -/
theorem eq_of_held? {draft other : Draft} (same : ∀ field, draft.held? field = other.held? field) :
    draft = other := by
  cases draft
  cases other
  rw [mk.injEq]
  exact ⟨same .runtime, same .directory, same .selection, same .layout⟩

/-- The draft after calls. -/
def after (draft : Draft) : List Call → Draft
  | [] => draft
  | .set field value :: calls => (draft.set field value).after calls
  | .finish :: calls => draft.after calls

theorem results_append (draft : Draft) (calls later : List Call) :
    draft.results (calls ++ later) = draft.results calls ++ (draft.after calls).results later := by
  induction calls generalizing draft with
  | nil => rfl
  | cons call calls induction =>
      cases call with
      | set field value => exact induction _
      | finish => exact congrArg (draft.finish :: ·) (induction draft)

/-- After calls a draft holds the last value, unless that is null. -/
theorem held?_after (draft : Draft) (calls : List Call) (field : Field) :
    (draft.after calls).held? field =
      match last? calls field with
      | none => draft.held? field
      | some value => chosen value := by
  induction calls generalizing draft with
  | nil => rfl
  | cons call calls induction =>
      cases call with
      | finish => exact induction draft
      | set made value =>
          rw [after, induction, held?_set]
          by_cases same : made = field
          · have given : last? (.set made value :: calls) field =
                some ((last? calls field).getD value) := by
              rw [last?, List.filterMap_cons, Call.given?, if_pos same]
              exact List.getLast?_cons
            rw [given, if_pos same]
            cases last? calls field <;> rfl
          · have given : last? (.set made value :: calls) field = last? calls field := by
              rw [last?, List.filterMap_cons, Call.given?, if_neg same]
              rfl
            rw [given, if_neg same]

theorem chosen_eq_none_iff {value : Json} : chosen value = none ↔ value = .null := by
  unfold chosen
  split
  · exact ⟨fun _ => rfl, fun _ => rfl⟩
  · rename_i filled
    exact ⟨fun impossible => (Option.some_ne_none _ impossible).elim,
      fun null => (filled null).elim⟩

theorem chosen_of_ne {value : Json} (filled : value ≠ .null) : chosen value = some value := by
  unfold chosen
  split
  · exact (filled rfl).elim
  · rfl

/-- The draft to which some calls were made. -/
def made (calls : List Call) : Draft :=
  ({} : Draft).after calls

theorem held?_made (calls : List Call) (field : Field) :
    (made calls).held? field = (last? calls field).bind chosen := by
  rw [made, held?_after]
  cases last? calls field with
  | none => cases field <;> rfl
  | some value => rfl

theorem held?_eq_none_iff {calls : List Call} {field : Field} :
    (made calls).held? field = none ↔ Unmade calls field := by
  rw [held?_made, Unmade]
  cases last? calls field with
  | none => simp
  | some value => simp [chosen_eq_none_iff]

theorem held?_of_last {calls : List Call} {field : Field} {value : Json}
    (stands : ¬ Unmade calls field) (last : last? calls field = some value) :
    (made calls).held? field = some value := by
  rw [held?_made, last]
  exact chosen_of_ne fun null => stands (.inr (null ▸ last))

/-- A choice that was made has a last value, which the draft holds. -/
theorem exists_of_held? {calls : List Call} {field : Field} (stands : ¬ Unmade calls field) :
    ∃ value, last? calls field = some value ∧ (made calls).held? field = some value := by
  cases last : last? calls field with
  | none => exact (stands (.inl last)).elim
  | some value => exact ⟨value, rfl, held?_of_last stands last⟩

/-! ## Finishing -/

/-- Finishing reports the first choice that is not there. -/
theorem finish_eq (draft : Draft) : draft.finish =
    match draft.held? .runtime, draft.held? .directory, draft.held? .selection,
      draft.held? .layout with
    | none, _, _, _ => .error (.missingField (Field.name .runtime))
    | some _, none, _, _ => .error (.missingField (Field.name .directory))
    | some _, some _, none, _ => .error (.missingField (Field.name .selection))
    | some _, some _, some _, none => .error (.missingField (Field.name .layout))
    | some runtime, some directory, some selection, some layout =>
        (Project.ofRecord (recordOf runtime directory selection layout)).mapError .rejected := by
  obtain ⟨runtime, directory, selection, layout⟩ := draft
  cases runtime with
  | none => rfl
  | some runtime =>
      cases directory with
      | none => rfl
      | some directory =>
          cases selection with
          | none => rfl
          | some selection => cases layout <;> rfl

theorem finishes_made (calls : List Call) : Finishes calls (made calls).finish := by
  rw [finish_eq]
  by_cases noRuntime : Unmade calls .runtime
  · rw [held?_eq_none_iff.mpr noRuntime]
    exact .missing [] rfl noRuntime (by simp)
  obtain ⟨runtime, lastRuntime, heldRuntime⟩ := exists_of_held? noRuntime
  by_cases noDirectory : Unmade calls .directory
  · rw [heldRuntime, held?_eq_none_iff.mpr noDirectory]
    exact .missing [.runtime] rfl noDirectory (by simp [noRuntime])
  obtain ⟨directory, lastDirectory, heldDirectory⟩ := exists_of_held? noDirectory
  by_cases noSelection : Unmade calls .selection
  · rw [heldRuntime, heldDirectory, held?_eq_none_iff.mpr noSelection]
    exact .missing [.runtime, .directory] rfl noSelection
      (by simp [noRuntime, noDirectory])
  obtain ⟨selection, lastSelection, heldSelection⟩ := exists_of_held? noSelection
  by_cases noLayout : Unmade calls .layout
  · rw [heldRuntime, heldDirectory, heldSelection, held?_eq_none_iff.mpr noLayout]
    exact .missing [.runtime, .directory, .selection] rfl noLayout
      (by simp [noRuntime, noDirectory, noSelection])
  obtain ⟨layout, lastLayout, heldLayout⟩ := exists_of_held? noLayout
  rw [heldRuntime, heldDirectory, heldSelection, heldLayout]
  refine .examined (fun field => ?_) lastRuntime lastDirectory lastSelection lastLayout
  cases field with
  | runtime => exact noRuntime
  | directory => exact noDirectory
  | selection => exact noSelection
  | layout => exact noLayout

/-- Calls that give the same last values make the same draft. -/
theorem made_eq_of_last {calls others : List Call}
    (same : ∀ field, last? calls field = last? others field) : made calls = made others :=
  eq_of_held? fun field => by rw [held?_made, held?_made, same field]

/-- Whatever is done to a draft, each time that it is finished the first choice that stands unmade
is reported, or the record of the last values is examined, whatever came of finishing it before.
Calls that give each choice the same last value, in whatever order and however often the draft is
finished in between, leave a draft with which everything later gives the same. -/
theorem finishing_examines_last_values (calls later : List Call) :
    (∃ result rest, Finishes calls result ∧
      results {} (calls ++ .finish :: later) = results {} calls ++ result :: rest) ∧
    ∀ others : List Call,
      (∀ field, last? calls field = last? others field) →
      ∃ rest, results {} (calls ++ later) = results {} calls ++ rest ∧
        results {} (others ++ later) = results {} others ++ rest := by
  constructor
  · refine ⟨(made calls).finish, (made calls).results later, finishes_made calls, ?_⟩
    exact results_append {} calls (.finish :: later)
  · intro others same
    refine ⟨(made calls).results later, results_append {} calls later, ?_⟩
    have alike : made others = made calls :=
      made_eq_of_last fun field => (same field).symm
    rw [← alike]
    exact results_append {} others later

/-- The directory is unset and set anew, the layout is set to the empty text, and the draft is
finished between and at the end. -/
example : results {} [.set .runtime (.string "Deno"), .set .directory (.string "a"),
    .set .directory .null, .finish, .set .layout (.string ""), .set .selection (.boolean false),
    .set .directory (.string ""), .finish] =
      [.error (.missingField "chosen_directory"),
       (Project.ofRecord (recordOf (.string "Deno") (.string "") (.boolean false)
          (.string ""))).mapError .rejected] := rfl

end Draft

end HelperKit
