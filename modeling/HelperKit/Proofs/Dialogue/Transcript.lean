import HelperKit.Dialogue.Questions
import HelperKit.Errand
import HelperKit.Proofs.Console.Messages
import HelperKit.Proofs.Workspace.Failing

/-!
# What is added to the transcript

A dialogue only adds to the transcript, and so does an errand.  What relates the result and the
addition of its parts relates those of the whole, once it does for a first part that fails, and
for a first part that returns together with the second one.
-/

namespace HelperKit

section Tells

variable {σ α β : Type} {view : σ → Terminal}
  {related wider : Except Failure α → List Exchange → Prop}

/-- The result of an operation that has a terminal in view, and what it adds to the transcript
of that, are always related. -/
def Tells (view : σ → Terminal) (related : Except Failure α → List Exchange → Prop)
    (operation : ExceptT Failure (StateM σ) α) : Prop :=
  ∀ before, ∃ added, (view (operation before).2).transcript = (view before).transcript ++ added ∧
    related (operation before).1 added

theorem Tells.mono {operation : ExceptT Failure (StateM σ) α} (tells : Tells view related operation)
    (weaken : ∀ result added, related result added → wider result added) :
    Tells view wider operation := by
  intro before
  obtain ⟨added, grown, holds⟩ := tells before
  exact ⟨added, grown, weaken _ _ holds⟩

theorem Tells.of_eq {operation : ExceptT Failure (StateM σ) α} (tells : Tells view related operation)
    {before after : σ} {result : Except Failure α} (ended : operation before = (result, after)) :
    ∃ added, (view after).transcript = (view before).transcript ++ added ∧
      related result added := by
  obtain ⟨added, grown, holds⟩ := tells before
  rw [ended] at grown holds
  exact ⟨added, grown, holds⟩

theorem tells_pure {value : α} (holds : related (.ok value) []) :
    Tells view related (pure value : ExceptT Failure (StateM σ) α) :=
  fun _ => ⟨[], (List.append_nil _).symm, holds⟩

theorem tells_throw {failure : Failure} (holds : related (.error failure) []) :
    Tells view related (throw failure : ExceptT Failure (StateM σ) α) :=
  fun _ => ⟨[], (List.append_nil _).symm, holds⟩

theorem tells_bind {first : ExceptT Failure (StateM σ) α}
    {next : α → ExceptT Failure (StateM σ) β}
    {nextRelated : α → Except Failure β → List Exchange → Prop}
    {whole : Except Failure β → List Exchange → Prop} (firstTells : Tells view related first)
    (nextTells : ∀ value, Tells view (nextRelated value) (next value))
    (failed : ∀ failure added, related (.error failure) added → whole (.error failure) added)
    (returned : ∀ value added result more, related (.ok value) added →
      nextRelated value result more → whole result (added ++ more)) :
    Tells view whole (first >>= next) := by
  intro before
  obtain ⟨added, grown, holds⟩ := firstTells before
  have unfolded : (first >>= next) before =
      (fun reached : Except Failure α × σ => ExceptT.bindCont next reached.1 reached.2)
        (first before) := rfl
  rw [unfolded]
  cases reached : first before with
  | mk result between =>
      rw [reached] at grown holds
      cases result with
      | error failure => exact ⟨added, grown, failed failure added holds⟩
      | ok value =>
          obtain ⟨more, further, follows⟩ := nextTells value between
          refine ⟨added ++ more, ?_, returned value added _ more holds follows⟩
          exact further.trans (by rw [grown, List.append_assoc])

/-- A dialogue may end with a result when it has added something. -/
def Spoken (dialogue : Dialogue α) (result : Except Failure α) (added : List Exchange) : Prop :=
  ∃ terminal, (dialogue terminal).1 = result ∧
    (dialogue terminal).2.transcript = terminal.transcript ++ added

theorem Tells.of_spoken {dialogue : Dialogue α} {result : Except Failure α}
    {added : List Exchange} (tells : Tells id related dialogue)
    (spoken : Spoken dialogue result added) : related result added := by
  obtain ⟨terminal, rfl, grown⟩ := spoken
  obtain ⟨other, again, holds⟩ := tells terminal
  rw [id, id, grown] at again
  rwa [← List.append_cancel_left again] at holds

theorem tells_spoken {dialogue : Dialogue α} (tells : Tells id related dialogue) :
    Tells id (Spoken dialogue) dialogue := by
  intro terminal
  obtain ⟨added, grown, -⟩ := tells terminal
  exact ⟨added, grown, terminal, rfl, grown⟩

theorem tells_onCaller {dialogue : Dialogue α} (tells : Tells id related dialogue) :
    Tells Prod.snd related (Errand.onCaller dialogue) :=
  fun before => tells before.2

theorem tells_onDisk {job : Job α} (holds : ∀ before, related (job before).1 []) :
    Tells Prod.snd related (Errand.onDisk job) :=
  fun before => ⟨[], (List.append_nil _).symm, holds before.1⟩

end Tells

namespace Dialogue

variable {α β : Type}

theorem tells_display {related : Except Failure Unit → List Exchange → Prop} {text : Text}
    (holds : related (.ok ()) [.shown text]) : Tells id related (display text) :=
  fun _ => ⟨[.shown text], rfl, holds⟩

theorem tells_present {related : Except Failure Unit → List Exchange → Prop}
    {text : Except Failure Text} (shown : ∀ line, text = .ok line → related (.ok ()) [.shown line])
    (failed : ∀ failure, text = .error failure → related (.error failure) []) :
    Tells id related (present text) := by
  cases text with
  | ok line => exact tells_display (shown line rfl)
  | error failure => exact tells_throw (failed failure rfl)

/-! ## Lines -/

/-- Nothing is read, and everything that is shown ends a line. -/
def Lines (added : List Exchange) : Prop :=
  ∀ event ∈ added, ∃ text : Text, event = .shown (text ++ "\n")

theorem Lines.append {added more : List Exchange} (lines : Lines added) (further : Lines more) :
    Lines (added ++ more) := by
  intro event member
  exact (List.mem_append.mp member).elim (lines event) (further event)

theorem Lines.read_notMem {added : List Exchange} (lines : Lines added) (answer : Option Answer) :
    .read answer ∉ added := by
  intro member
  obtain ⟨text, impossible⟩ := lines _ member
  cases impossible

/-- An operation that adds nothing but lines. -/
def TellsLines {σ : Type} (view : σ → Terminal) (operation : ExceptT Failure (StateM σ) α) : Prop :=
  Tells view (fun _ added => Lines added) operation

section Lines

variable {σ : Type} {view : σ → Terminal}

theorem tellsLines_pure (value : α) :
    TellsLines view (pure value : ExceptT Failure (StateM σ) α) :=
  tells_pure (by simp [Lines])

theorem tellsLines_throw (failure : Failure) :
    TellsLines view (throw failure : ExceptT Failure (StateM σ) α) :=
  tells_throw (by simp [Lines])

theorem tellsLines_onDisk (job : Job α) : TellsLines Prod.snd (Errand.onDisk job) :=
  tells_onDisk fun _ => by simp [Lines]

theorem TellsLines.bind {first : ExceptT Failure (StateM σ) α}
    {next : α → ExceptT Failure (StateM σ) β} (firstTells : TellsLines view first)
    (nextTells : ∀ value, TellsLines view (next value)) : TellsLines view (first >>= next) :=
  tells_bind firstTells nextTells (fun _ _ lines => lines) fun _ _ _ _ lines further =>
    lines.append further

end Lines

theorem tells_displayLine (text : Text) : TellsLines id (display (Screen.line text)) :=
  tells_display fun _ member => ⟨_, List.mem_singleton.mp member⟩

theorem tells_line {text : Except Failure Text}
    (ends : ∀ shown, text = .ok shown → ∃ line : Text, shown = line ++ "\n") :
    TellsLines id (present text) := by
  refine tells_present (fun shown same event member => ?_) fun failure _ => by simp [Lines]
  obtain ⟨line, rfl⟩ := ends shown same
  exact ⟨line, List.mem_singleton.mp member⟩

theorem tells_message (style : String) (text : Text) :
    TellsLines id (present (Screen.message style text)) := by
  refine tells_line fun shown same => ?_
  obtain ⟨styled, -, rfl⟩ := Screen.message_eq_ok_iff.mp same
  exact ⟨_, rfl⟩

theorem tells_success (text : Text) : TellsLines id (present (Screen.success text)) := by
  unfold Screen.success
  exact tells_message "bold green" text

theorem tells_error (text : Text) : TellsLines id (present (Screen.error text)) := by
  unfold Screen.error
  exact tells_message "bold red" text

theorem tells_warning (text : Text) : TellsLines id (present (Screen.warning text)) := by
  unfold Screen.warning
  exact tells_message "bold yellow" text

theorem tells_info (text : Text) : TellsLines id (present (Screen.info text)) := by
  unfold Screen.info
  exact tells_message "cyan" text

/-! ## Questions -/

/-- One round of a question that is not the last one. -/
def round (prompt : Text) (line complaint : Text) : List Exchange :=
  [.shown prompt, .read (some (.line line)), .shown (Screen.line complaint)]

/-- What a question adds: rounds with a complaint, and a last round, in which the question is
settled or nothing is answered. -/
inductive Asked (prompt question : Text) (judge : Text → Verdict α) :
    Except Failure α → List Exchange → Prop where
  | ended : Asked prompt question judge (.error (.cancelled question))
      [.shown prompt, .read none, .shown "\n"]
  | interrupted : Asked prompt question judge (.error (.cancelled question))
      [.shown prompt, .read (some .interrupt), .shown "\n"]
  | accepted {line : Text} {value : α} (judged : judge line = .accept value) :
      Asked prompt question judge (.ok value) [.shown prompt, .read (some (.line line))]
  | givenUp {line : Text} {failure : Failure} (judged : judge line = .giveUp failure) :
      Asked prompt question judge (.error failure) [.shown prompt, .read (some (.line line))]
  | again {line complaint : Text} {result : Except Failure α} {more : List Exchange}
      (judged : judge line = .again complaint) (further : Asked prompt question judge result more) :
      Asked prompt question judge result (round prompt line complaint ++ more)

theorem asked_settle (prompt question : Text) (judge : Text → Verdict α) (answers : List Answer)
    (transcript : List Exchange) : ∃ added,
      (settle prompt question judge answers transcript).2.transcript = transcript ++ added ∧
        Asked prompt question judge (settle prompt question judge answers transcript).1 added := by
  induction answers generalizing transcript with
  | nil => exact ⟨_, rfl, .ended⟩
  | cons answer answers induction =>
      cases answer with
      | interrupt => exact ⟨_, rfl, .interrupted⟩
      | line line =>
          rw [settle]
          cases judged : judge line with
          | accept value => exact ⟨_, rfl, .accepted judged⟩
          | giveUp failure => exact ⟨_, rfl, .givenUp judged⟩
          | again complaint =>
              obtain ⟨more, grown, further⟩ := induction (transcript ++ round prompt line complaint)
              refine ⟨round prompt line complaint ++ more, ?_, .again judged further⟩
              rw [← List.append_assoc]
              exact grown

theorem tells_ask (prompt question : Text) (judge : Text → Verdict α) :
    Tells id (Asked (Screen.plain prompt) question judge) (ask prompt question judge) :=
  fun terminal => asked_settle _ _ _ terminal.answers terminal.transcript

/-- A question whose answers are never complained about has one round. -/
theorem Asked.single {prompt question : Text} {judge : Text → Verdict α}
    {result : Except Failure α} {added : List Exchange}
    (asked : Asked prompt question judge result added)
    (decided : ∀ line complaint, judge line ≠ .again complaint) :
    (∃ failure answer tail, result = .error failure ∧
      added = .shown prompt :: .read answer :: tail ∧ ∀ event ∈ tail, event = .shown "\n") ∨
    ∃ line value, judge line = .accept value ∧ result = .ok value ∧
      added = [.shown prompt, .read (some (.line line))] := by
  cases asked with
  | ended => exact .inl ⟨_, _, _, rfl, rfl, by simp⟩
  | interrupted => exact .inl ⟨_, _, _, rfl, rfl, by simp⟩
  | accepted judged => exact .inr ⟨_, _, judged, rfl, rfl⟩
  | givenUp judged => exact .inl ⟨_, _, _, rfl, rfl, by simp⟩
  | again judged further => exact absurd judged (decided _ _)

/-- A question is cancelled, or an answer to it decides how it ends. -/
theorem Asked.decided {prompt question : Text} {judge : Text → Verdict α}
    {result : Except Failure α} {added : List Exchange}
    (asked : Asked prompt question judge result added) :
    result = .error (.cancelled question) ∨ ∃ line, .read (some (.line line)) ∈ added ∧
      ((∃ value, judge line = .accept value ∧ result = .ok value) ∨
        ∃ failure, judge line = .giveUp failure ∧ result = .error failure) := by
  induction asked with
  | ended => exact .inl rfl
  | interrupted => exact .inl rfl
  | accepted judged => exact .inr ⟨_, by simp, .inl ⟨_, judged, rfl⟩⟩
  | givenUp judged => exact .inr ⟨_, by simp, .inr ⟨_, judged, rfl⟩⟩
  | again judged further induction =>
      refine induction.imp id fun ⟨line, member, decides⟩ => ?_
      exact ⟨line, List.mem_append_right _ member, decides⟩

/-- Whatever holds of the prompt, of complaints and of answers holds of all that a question
adds. -/
theorem Asked.forall_mem {prompt question : Text} {judge : Text → Verdict α}
    {result : Except Failure α} {added : List Exchange} {holds : Exchange → Prop}
    (asked : Asked prompt question judge result added) (prompted : holds (.shown prompt))
    (told : ∀ text : Text, holds (.shown (text ++ "\n"))) (read : ∀ answer, holds (.read answer)) :
    ∀ event ∈ added, holds event := by
  have ended : holds (.shown "\n") := told []
  induction asked with
  | ended => simp [prompted, read, ended]
  | interrupted => simp [prompted, read, ended]
  | accepted judged => simp [prompted, read]
  | givenUp judged => simp [prompted, read]
  | @again line complaint result more judged further induction =>
      have complained : holds (.shown (Screen.line complaint)) := told _
      simpa [round, prompted, read, complained] using induction

/-- What is shown before a question with choices. -/
def tableOf (question table : Text) : List Exchange :=
  [.shown "\n", .shown (Screen.line question), .shown (table ++ "\n")]

theorem showChoices_eq {question table : Text} {choices : List (Choice α)}
    (drawn : Screen.optionTable (choices.map Choice.label) = .ok (table ++ "\n"))
    (terminal : Terminal) : showChoices question choices terminal =
      (.ok (), ⟨terminal.answers, terminal.transcript ++ tableOf question table⟩) := by
  have shown : showChoices question choices terminal =
      present (Screen.optionTable (choices.map Choice.label))
        ((terminal.display "\n").display (Screen.line question)) := rfl
  rw [shown, drawn]
  change (Except.ok (), Terminal.mk terminal.answers (terminal.transcript ++ [_] ++ [_] ++ [_])) = _
  rw [List.append_assoc, List.append_assoc]
  rfl

/-- Choices can always be shown. -/
theorem tells_showChoices (question : Text) (choices : List (Choice α)) :
    Tells id (fun result added => result = .ok () ∧ ∃ table, added = tableOf question table)
      (showChoices question choices) := by
  obtain ⟨table, drawn⟩ := Screen.optionTable_eq_ok (choices.map Choice.label)
  intro terminal
  rw [showChoices_eq drawn]
  exact ⟨tableOf question table, rfl, rfl, table, rfl⟩

/-- What a question with choices adds: it shows them and asks. -/
def Offered {γ : Type} (question prompt : Text) (judge : Text → Verdict γ)
    (result : Except Failure γ) (added : List Exchange) : Prop :=
  ∃ table more, added = tableOf question table ++ more ∧
    Asked (Screen.plain prompt) question judge result more

theorem Offered.forall_mem {γ : Type} {question prompt : Text} {judge : Text → Verdict γ}
    {result : Except Failure γ} {added : List Exchange} {holds : Exchange → Prop}
    (offered : Offered question prompt judge result added)
    (prompted : holds (.shown (Screen.plain prompt)))
    (told : ∀ text : Text, holds (.shown (text ++ "\n"))) (read : ∀ answer, holds (.read answer)) :
    ∀ event ∈ added, holds event := by
  obtain ⟨table, more, rfl, asked⟩ := offered
  have ended : holds (.shown "\n") := told []
  have asks : holds (.shown (Screen.line question)) := told _
  intro event member
  rcases List.mem_append.mp member with shown | later
  · have whole : ∀ event ∈ tableOf question table, holds event := by
      simp [tableOf, ended, asks, told]
    exact whole event shown
  · exact asked.forall_mem prompted told read event later

theorem tells_offered {question prompt : Text} {choices : List (Choice β)}
    {judge : Text → Verdict α} : Tells id (Offered question prompt judge)
      (showChoices question choices >>= fun _ => ask prompt question judge) := by
  refine tells_bind (tells_showChoices question choices) (fun _ => tells_ask prompt question judge)
    (fun failure added shown => ?_) fun value added result more shown asked => ?_
  · cases shown.1
  · obtain ⟨-, table, rfl⟩ := shown
    exact ⟨table, more, rfl, asked⟩

/-- The prompt for one of the choices. -/
def onePrompt : Text := "Enter number or name: "

/-- The prompt for several of the choices. -/
def severalPrompt : Text := "Enter numbers or names, comma separated: "

/-- The prompt for the directory. -/
def directoryPrompt : Text := directoryQuestion ++ " "

theorem tells_select (question : Text) (choices : List (Choice α)) :
    Tells id (Offered question onePrompt (judgeOne question choices)) (select question choices) :=
  tells_offered

theorem tells_multiSelect (question : Text) (choices : List (Choice α)) (minimum : Nat) :
    Tells id (Offered question severalPrompt (judgeSeveral question choices minimum))
      (multiSelect question choices minimum) :=
  tells_offered

end Dialogue

end HelperKit
