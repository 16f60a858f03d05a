import HelperKit.Proofs.Dialogue.Transcript
import HelperKit.Proofs.Project.Record
import HelperKit.Proofs.Upkeep.Handlers

/-!
# What dialogues fail with

Whatever is answered, a dialogue fails because one of its questions is cancelled.  There is one
exception: an answer that should name a directory may be too long for the disk to look for it.
What was asked for makes a project as it stands, so that nothing is refused afterwards.
-/

namespace HelperKit

namespace Dialogue

variable {σ α β : Type} {view : σ → Terminal}

/-- A dialogue returns, or one of its questions is cancelled. -/
inductive Answered : Except Failure α → Prop where
  | returned (value : α) : Answered (.ok value)
  | cancelled (question : Text) : Answered (.error (.cancelled question))

/-- An operation that fails only because a question is cancelled. -/
def TellsAnswered (view : σ → Terminal) (operation : ExceptT Failure (StateM σ) α) : Prop :=
  Tells view (fun result _ => Answered result) operation

theorem tellsAnswered_pure (value : α) :
    TellsAnswered view (pure value : ExceptT Failure (StateM σ) α) :=
  tells_pure (.returned value)

/-- Behind a dialogue that is answered or cancelled another one decides what is told, as long as
that may also be cancelled. -/
theorem TellsAnswered.followed {first : ExceptT Failure (StateM σ) α}
    {next : α → ExceptT Failure (StateM σ) β} {related : Except Failure β → List Exchange → Prop}
    (firstTells : TellsAnswered view first) (nextTells : ∀ value, Tells view related (next value))
    (cancelled : ∀ question added, related (.error (.cancelled question)) added)
    (after : ∀ result added more, related result more → related result (added ++ more)) :
    Tells view related (first >>= next) := by
  refine tells_bind firstTells nextTells (fun failure added answered => ?_)
    fun _ added result more _ => after result added more
  cases answered with
  | cancelled question => exact cancelled question added

theorem TellsAnswered.bind {first : ExceptT Failure (StateM σ) α}
    {next : α → ExceptT Failure (StateM σ) β} (firstTells : TellsAnswered view first)
    (nextTells : ∀ value, TellsAnswered view (next value)) :
    TellsAnswered view (first >>= next) :=
  firstTells.followed nextTells (fun question _ => .cancelled question) fun _ _ _ answered => answered

theorem tellsAnswered_present {text : Except Failure Text} (drawn : ∃ shown, text = .ok shown) :
    TellsAnswered id (present text) := by
  obtain ⟨shown, rfl⟩ := drawn
  exact tells_display (.returned ())

theorem tellsAnswered_ask {prompt question : Text} {judge : Text → Verdict α}
    (cancels : ∀ line failure, judge line = .giveUp failure → failure = .cancelled question) :
    TellsAnswered id (ask prompt question judge) := by
  refine (tells_ask prompt question judge).mono fun result added asked => ?_
  rcases asked.decided with rfl | ⟨line, -, ⟨value, -, rfl⟩ | ⟨failure, judged, rfl⟩⟩
  · exact .cancelled question
  · exact .returned value
  · rw [cancels line failure judged]
    exact .cancelled question

theorem tellsAnswered_showChoices (question : Text) (choices : List (Choice α)) :
    TellsAnswered id (showChoices question choices) := by
  refine (tells_showChoices question choices).mono fun result added shown => ?_
  rw [shown.1]
  exact .returned ()

theorem tellsAnswered_select (question : Text) (choices : List (Choice α)) :
    TellsAnswered id (select question choices) := by
  refine (tellsAnswered_showChoices question choices).bind fun _ =>
    tellsAnswered_ask fun line failure judged => ?_
  unfold judgeOne at judged
  simp only at judged
  split at judged
  · cases judged
    rfl
  · split at judged <;> cases judged

theorem cancelled_of_judgeSeveral {question line : Text} {choices : List (Choice α)}
    {minimum : Nat} {failure : Failure}
    (judged : judgeSeveral question choices minimum line = .giveUp failure) :
    failure = .cancelled question := by
  unfold judgeSeveral at judged
  simp only at judged
  split at judged
  · cases judged
    rfl
  · split at judged
    · cases judged
    · split at judged <;> cases judged

theorem tellsAnswered_multiSelect (question : Text) (choices : List (Choice α)) (minimum : Nat) :
    TellsAnswered id (multiSelect question choices minimum) :=
  (tellsAnswered_showChoices question choices).bind fun _ =>
    tellsAnswered_ask fun _ _ => cancelled_of_judgeSeveral

theorem tellsAnswered_confirm (message : Text) (standard : Bool) :
    TellsAnswered id (confirm message standard) := by
  refine tellsAnswered_ask fun line failure judged => ?_
  unfold judgeConfirm at judged
  simp only at judged
  split at judged <;> cases judged

/-! ## The questions of a first run -/

/-- Choices of which at least one is asked for are not none. -/
theorem tells_multiSelect_one (question : Text) (choices : List (Choice α)) :
    Tells id (fun result _ => Answered result ∧ ∀ selected, result = .ok selected → selected ≠ [])
      (multiSelect question choices 1) := by
  refine (tells_multiSelect question choices 1).mono fun result added offered => ?_
  obtain ⟨table, more, -, asked⟩ := offered
  rcases asked.decided with rfl | ⟨line, -, ⟨value, judged, rfl⟩ | ⟨failure, judged, rfl⟩⟩
  · exact ⟨.cancelled question, fun _ impossible => by cases impossible⟩
  · refine ⟨.returned value, fun selected same nothing => ?_⟩
    cases same
    unfold judgeSeveral at judged
    simp only at judged
    split at judged
    · cases judged
    · split at judged
      · cases judged
      · split at judged
        · cases judged
        · rename_i enough
          cases judged
          rw [nothing] at enough
          exact enough Nat.zero_lt_one
  · rw [cancelled_of_judgeSeveral judged]
    exact ⟨.cancelled question, fun _ impossible => by cases impossible⟩

theorem ofFeatureNames_of_ne_nil {features : List Feature} (nonempty : features ≠ []) :
    Selection.ofFeatureNames (features.map fun feature => .string (Text.ofString feature.name)) =
      .ok (.ofFeatures features nonempty) := by
  rw [Selection.ofFeatureNames, Selection.each_toMember_names]
  simp only [Examined.within, Except.mapError, dif_pos nonempty]

/-- Features that were asked for always make a selection. -/
theorem tellsAnswered_askCustom : TellsAnswered id askCustom := by
  refine tells_bind (tells_multiSelect_one _ _)
    (fun features => (?_ : Tells id (fun result _ => features ≠ [] → Answered result) _))
    (fun failure _ ended => ?_)
    fun features _ _ _ ended concluded => concluded (ended.2 features rfl)
  · by_cases nothing : features = []
    · split
      · exact tells_pure fun something => absurd nothing something
      · exact tells_throw fun something => absurd nothing something
    · rw [ofFeatureNames_of_ne_nil nothing]
      exact tells_pure fun _ => .returned _
  · cases ended.1 with
    | cancelled question => exact .cancelled question

theorem tellsAnswered_askSelection : TellsAnswered id askSelection := by
  refine (tellsAnswered_select _ _).bind fun fromPreset => ?_
  cases fromPreset with
  | true => exact (tellsAnswered_select _ _).bind fun _ => tellsAnswered_pure _
  | false => exact tellsAnswered_askCustom

/-- A directory of a disk is named by an answer that was read. -/
def Names (disk : Disk) (directory : Text) (added : List Exchange) : Prop :=
  ∃ line, .read (some (.line line)) ∈ added ∧ line.strip = directory ∧
    disk.isDirectory (.ofText directory) = .ok true

/-- What a dialogue ends with that involves a directory: the directory is one of the disk, a
question is cancelled, or an answer is too long for the disk to look for it. -/
inductive Located (disk : Disk) (directory : α → Text) :
    Except Failure α → List Exchange → Prop where
  | named {value : α} {added : List Exchange} (names : Names disk (directory value) added) :
      Located disk directory (.ok value) added
  | cancelled (question : Text) (added : List Exchange) :
      Located disk directory (.error (.cancelled question)) added
  | overlong {line : Text} {fault : Fault} {added : List Exchange}
      (read : .read (some (.line line)) ∈ added)
      (overlong : Disk.Overlong (.ofText line.strip) fault) :
      Located disk directory (.error (.ofFault fault)) added

theorem Located.after {disk : Disk} {directory : α → Text} {result : Except Failure α}
    {more : List Exchange} (located : Located disk directory result more) (added : List Exchange) :
    Located disk directory result (added ++ more) := by
  cases located with
  | named names =>
      obtain ⟨line, read, rest⟩ := names
      exact .named ⟨line, List.mem_append_right added read, rest⟩
  | cancelled question => exact .cancelled question _
  | overlong read overlong => exact .overlong (List.mem_append_right added read) overlong

theorem tells_askDirectory (disk : Disk) : Tells id (Located disk id) (askDirectory disk) := by
  refine (tells_ask _ _ _).mono fun result added asked => ?_
  rcases asked.decided with rfl | ⟨line, read, ⟨value, judged, rfl⟩ | ⟨failure, judged, rfl⟩⟩
  · exact .cancelled _ added
  · unfold judgeDirectory at judged
    simp only at judged
    split at judged
    · cases judged
    · split at judged
      · rename_i there
        cases judged
        exact .named ⟨line, read, rfl, there⟩
      · cases judged
      · cases judged
  · unfold judgeDirectory at judged
    simp only at judged
    split at judged
    · cases judged
      exact .cancelled _ added
    · split at judged
      · cases judged
      · cases judged
      · rename_i unknown
        cases judged
        exact .overlong read (Disk.overlong_of_test unknown)

/-- What was asked for makes a project as it stands. -/
theorem askProject_eq (disk : Disk) : askProject disk = (do
    let runtime ← askRuntime
    let directory ← askDirectory disk
    let selection ← askSelection
    let layout ← askLayout
    pure ⟨runtime, directory, selection, layout⟩) := by
  unfold askProject
  refine bind_congr fun runtime => bind_congr fun directory => bind_congr fun selection =>
    bind_congr fun layout => ?_
  have described := congrArg (Except.mapError Failure.rejected)
    (Project.ofRecord_toRecord ⟨runtime, directory, selection, layout⟩)
  have finished : ((((({} : Draft).set .runtime (.string (Text.ofString runtime.name))).set
      .directory (.string directory)).set .selection selection.toRecord).set .layout
        (.string (Text.ofString layout.name))).finish =
      .ok ⟨runtime, directory, selection, layout⟩ := by
    cases selection <;> exact described
  simp only [finished]

/-- What a first run asks ends with a project in a directory of the disk, or it is given up. -/
theorem tells_askProject (disk : Disk) :
    Tells id (Located disk Project.directory) (askProject disk) := by
  have completes : ∀ runtime directory, Tells id
      (fun result _ => ∀ added, Names disk directory added →
        Located disk Project.directory result added) (do
      let selection ← askSelection
      let layout ← askLayout
      pure ⟨runtime, directory, selection, layout⟩ : Dialogue Project) := by
    intro runtime directory
    refine tellsAnswered_askSelection.followed (fun selection => ?_)
      (fun question _ added _ => .cancelled question added) fun _ _ _ located => located
    refine (tellsAnswered_select _ _).followed (fun layout => ?_)
      (fun question _ added _ => .cancelled question added) fun _ _ _ located => located
    exact tells_pure fun added names => .named names
  rw [askProject_eq]
  refine (tellsAnswered_select _ _).followed (fun runtime => ?_)
    (fun question added => .cancelled question added) fun _ added _ located => located.after added
  refine tells_bind (tells_askDirectory disk) (completes runtime) (fun failure added located => ?_)
    fun directory added result more located completed => ?_
  · cases located with
    | cancelled question => exact .cancelled question added
    | overlong read overlong => exact .overlong read overlong
  · cases located with
    | named names =>
        obtain ⟨line, read, rest⟩ := names
        exact completed _ ⟨line, List.mem_append_left more read, rest⟩

end Dialogue

namespace Upkeep

open Dialogue

/-! ## The questions of later runs -/

theorem tellsAnswered_consult (task : Task) (project : Project) :
    TellsAnswered id (consult task project) :=
  consult_closed tellsAnswered_pure (fun first next => TellsAnswered.bind first next)
    (fun text => tellsAnswered_present (Screen.warning_eq_ok text))
    (fun text => tellsAnswered_present (Screen.success_eq_ok text))
    (fun _ _ => tellsAnswered_multiSelect _ _ _) (tellsAnswered_confirm _ _)
    (tellsAnswered_confirm _ _) (tellsAnswered_confirm _ _) task project

end Upkeep

end HelperKit
