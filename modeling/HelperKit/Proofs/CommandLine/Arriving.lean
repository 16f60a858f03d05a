import HelperKit.Proofs.Artifact.Heedless
import HelperKit.Proofs.CommandLine.Parts
import HelperKit.Proofs.Dialogue.Reading
import HelperKit.Proofs.Dialogue.Taking

/-!
# What is done behind some answers

A run that has read some answers has arrived at a part of itself.  If that part comes to the same
with one list of answers and another, so does the whole run, for nothing that follows looks at the
screen or at the log.
-/

namespace HelperKit

open Dialogue Upkeep

/-- States of a run that differ in nothing but what is on the screen and how often a record is in
the log. -/
structure AlikeStates (record : LogRecord) (left right : Workspace × Terminal) : Prop where
  workspaces : left.1.DifferBy record right.1
  answers : left.2.answers = right.2.answers

/-- The same result with states that are alike. -/
def EndAlike {α : Type} (record : LogRecord)
    (left right : Except Failure α × (Workspace × Terminal)) : Prop :=
  left.1 = right.1 ∧ AlikeStates record left.2 right.2

theorem EndAlike.symm {α : Type} {record : LogRecord}
    {left right : Except Failure α × (Workspace × Terminal)} (alike : EndAlike record left right) :
    EndAlike record right left :=
  ⟨alike.1.symm, alike.2.workspaces.symm, alike.2.answers.symm⟩

theorem EndAlike.trans {α : Type} {record : LogRecord}
    {left between right : Except Failure α × (Workspace × Terminal)}
    (first : EndAlike record left between) (second : EndAlike record between right) :
    EndAlike record left right :=
  ⟨first.1.trans second.1, first.2.workspaces.trans second.2.workspaces,
    first.2.answers.trans second.2.answers⟩

namespace Dialogue

variable {α β : Type}

/-- What has been shown has no part in how a question is settled. -/
theorem settle_alike (prompt question : Text) (judge : Text → Verdict α) (answers : List Answer)
    (transcript other : List Exchange) :
    (settle prompt question judge answers transcript).1 =
        (settle prompt question judge answers other).1 ∧
      (settle prompt question judge answers transcript).2.answers =
        (settle prompt question judge answers other).2.answers := by
  induction answers generalizing transcript other with
  | nil => exact ⟨rfl, rfl⟩
  | cons answer answers induction =>
      cases answer with
      | interrupt => exact ⟨rfl, rfl⟩
      | line line =>
          rw [settle, settle]
          cases judge line with
          | accept value => exact ⟨rfl, rfl⟩
          | giveUp failure => exact ⟨rfl, rfl⟩
          | again complaint => exact induction _ _

/-- A dialogue that does not look at what has been shown. -/
abbrev Heedless (dialogue : Dialogue α) : Prop :=
  Respects (fun left right : Terminal => left.answers = right.answers) dialogue

theorem heedless_ask (prompt question : Text) (judge : Text → Verdict α) :
    Heedless (ask prompt question judge) := by
  intro before other same
  unfold ask
  rw [same]
  exact settle_alike _ _ _ _ _ _

theorem heedless_present (text : Except Failure Text) : Heedless (present text) := by
  cases text with
  | ok line => exact fun _ _ same => ⟨rfl, same⟩
  | error failure => exact respects_throw failure

theorem heedless_showChoices (question : Text) (choices : List (Choice α)) :
    Heedless (showChoices question choices) :=
  Respects.bind (fun _ _ same => ⟨rfl, same⟩) fun _ =>
    Respects.bind (fun _ _ same => ⟨rfl, same⟩) fun _ => heedless_present _

theorem heedless_select (question : Text) (choices : List (Choice α)) :
    Heedless (select question choices) :=
  (heedless_showChoices question choices).bind fun _ => heedless_ask _ _ _

theorem heedless_multiSelect (question : Text) (choices : List (Choice α)) (minimum : Nat) :
    Heedless (multiSelect question choices minimum) :=
  (heedless_showChoices question choices).bind fun _ => heedless_ask _ _ _

end Dialogue

namespace CommandLine

variable {site : Site} {known : Disk → Prop} {ignored : LogRecord} {α β γ : Type}
  {before between after there : Workspace}

theorem respects_converse {dialogue : Dialogue α} (heedless : dialogue.Heedless) :
    Respects (AlikeStates ignored) (converse dialogue) := by
  intro before other alike
  obtain ⟨results, answers⟩ := heedless alike.answers
  exact ⟨results, alike.workspaces, answers⟩

theorem respects_onDisk {job : Job α} (heedless : job.Heedless ignored) :
    Respects (AlikeStates ignored) (onDisk job) := by
  intro before other alike
  obtain ⟨results, workspaces⟩ := heedless alike.workspaces
  exact ⟨results, workspaces, alike.answers⟩

/-- Whatever a run is composed of, it looks neither at the screen nor at the log. -/
theorem Composed.respects {errand : Errand Terminal α} (composed : Composed site known errand) :
    Respects (AlikeStates ignored) errand := by
  induction composed with
  | pure value => exact respects_pure value
  | throw failure => exact respects_throw failure
  | bind _ _ first next => exact first.bind next
  | say message => exact respects_converse (heedless_present message)
  | select question choices => exact respects_converse (heedless_select question choices)
  | multiSelect question choices minimum =>
      exact respects_converse (heedless_multiSelect question choices minimum)
  | confirm message standard => exact respects_converse (heedless_ask _ _ _)
  | directory found => exact respects_converse (heedless_ask _ _ _)
  | menu =>
      exact fun before => menu_closed site known
        (fun errand state => RespectsAt (AlikeStates ignored) errand state)
        (fun value => (respects_pure value).respectsAt) (fun _ => RespectsAt.bind)
        (fun question choices => (respects_converse (heedless_select question choices)).respectsAt)
        (fun level message => (respects_onDisk (Attempt.heedless_note level message)).respectsAt)
        before
  | load => exact respects_onDisk (Store.heedless_load _)
  | present => exact respects_onDisk (Store.heedless_present _)
  | disk => exact respects_onDisk Attempt.heedless_disk
  | note level message => exact respects_onDisk (Attempt.heedless_note level message)
  | call call => exact respects_onDisk (ArtifactCall.heedless_run site call)

/-! ## Arriving at a part -/

/-- An errand that begins in a workspace reads some answers, whatever is behind them, returns with
a value and leaves a workspace. -/
def Yields (errand : Errand Terminal α) (before : Workspace) (taken : List Answer) (value : α)
    (after : Workspace) : Prop :=
  ∃ added, readings added = taken.map some ∧ ∀ later transcript,
    errand (before, ⟨taken ++ later, transcript⟩) =
      (.ok value, after, ⟨later, transcript ++ added⟩)

/-- Once it has read some answers, an errand that began in one workspace has arrived at a part
of itself, which begins in another. -/
inductive Arrives (site : Site) : {α β : Type} → Errand Terminal α → Workspace → List Answer →
    Errand Terminal β → Workspace → Prop where
  | here {α : Type} (errand : Errand Terminal α) (before : Workspace) :
      Arrives site errand before [] errand before
  | first {α β γ : Type} {first : Errand Terminal α} {next : α → Errand Terminal β}
      {part : Errand Terminal γ} {before there : Workspace} {front : List Answer}
      (composed : ∀ value, Composed site (fun _ => True) (next value))
      (arrives : Arrives site first before front part there) :
      Arrives site (first >>= next) before front part there
  | next {α β γ : Type} {first : Errand Terminal α} {next : α → Errand Terminal β}
      {part : Errand Terminal γ} {before between there : Workspace} {value : α}
      {taken front : List Answer} (yields : Yields first before taken value between)
      (arrives : Arrives site (next value) between front part there) :
      Arrives site (first >>= next) before (taken ++ front) part there
  | again {α γ : Type} {errand : Errand Terminal α} {before there : Workspace}
      {front : List Answer} {prompt question : Text} {judge : Text → Verdict γ}
      {line complaint : Text}
      (arrives : Arrives site errand before front (converse (ask prompt question judge)) there)
      (rejected : judge line = .again complaint) :
      Arrives site errand before (front ++ [.line line])
        (converse (ask prompt question judge)) there

/-- A line that is rejected makes no difference to a question but on the screen. -/
theorem converse_ask_again {prompt question : Text} {judge : Text → Verdict α}
    {line complaint : Text} (rejected : judge line = .again complaint) (before : Workspace)
    (answers : List Answer) (transcript : List Exchange) :
    converse (ask prompt question judge) (before, ⟨.line line :: answers, transcript⟩) =
      converse (ask prompt question judge)
        (before, ⟨answers, transcript ++ round (Screen.plain prompt) line complaint⟩) := by
  rw [converse_apply, converse_apply]
  unfold ask
  rw [settle_again rejected]

/-- If the part that is arrived at ends alike with two lists of answers, so does the whole. -/
theorem Arrives.endAlike {errand : Errand Terminal α} {part : Errand Terminal β}
    {front : List Answer} (arrives : Arrives site errand before front part there)
    {one other : List Answer}
    (alike : ∀ transcript, EndAlike ignored (part (there, ⟨one, transcript⟩))
      (part (there, ⟨other, transcript⟩))) (transcript : List Exchange) :
    EndAlike ignored (errand (before, ⟨front ++ one, transcript⟩))
      (errand (before, ⟨front ++ other, transcript⟩)) := by
  induction arrives generalizing one other transcript with
  | here errand before => exact alike transcript
  | first composed arrives induction =>
      obtain ⟨results, states⟩ := induction alike transcript
      exact alike_bind results states fun value between _ =>
        (composed value).respects.respectsAt between
  | next yields arrives induction =>
      obtain ⟨added, -, takes⟩ := yields
      rw [Errand.bind_apply, Errand.bind_apply, List.append_assoc, List.append_assoc, takes, takes]
      exact induction alike _
  | again arrives rejected induction =>
      rw [List.append_assoc, List.append_assoc]
      refine induction (fun transcript => ?_) transcript
      rw [List.singleton_append, List.singleton_append, converse_ask_again rejected,
        converse_ask_again rejected]
      exact alike _

/-- A line that a question rejects may as well not be there when the question is arrived at. -/
theorem Arrives.endAlike_rejected {errand : Errand Terminal α} {prompt question : Text}
    {judge : Text → Verdict β} {front : List Answer}
    (arrives : Arrives site errand before front (converse (ask prompt question judge)) there)
    {line complaint : Text} (rejected : judge line = .again complaint) (back : List Answer)
    (transcript : List Exchange) :
    EndAlike ignored (errand (before, ⟨front ++ back, transcript⟩))
      (errand (before, ⟨front ++ .line line :: back, transcript⟩)) := by
  refine arrives.endAlike (fun transcript => ?_) transcript
  rw [converse_ask_again rejected]
  exact respects_converse (heedless_ask prompt question judge) ⟨.refl there, rfl⟩

theorem yields_onDisk {job : Job α} {value : α} (returned : (job before).1 = .ok value) :
    Yields (onDisk job) before [] value (job before).2 := by
  refine ⟨[], rfl, fun later transcript => ?_⟩
  rw [List.append_nil]
  exact Prod.ext returned rfl

theorem yields_say (text : Text) (before : Workspace) :
    Yields (say (.ok text)) before [] () before :=
  ⟨[.shown text], rfl, fun _ _ => rfl⟩

theorem yields_showChoices (text : Text) (choices : List (Choice α)) (before : Workspace) :
    Yields (converse (showChoices text choices)) before [] () before := by
  obtain ⟨table, drawn⟩ := Screen.optionTable_eq_ok (choices.map Choice.label)
  refine ⟨tableOf text table, rfl, fun later transcript => ?_⟩
  rw [converse_apply, showChoices_eq drawn]
  rfl

theorem arrives_choose (text prompt question : Text) (choices : List (Choice α))
    (judge : Text → Verdict β) (before : Workspace) :
    Arrives site (converse (showChoices text choices >>= fun _ => ask prompt question judge)) before
      [] (converse (ask prompt question judge)) before := by
  rw [Upkeep.converse_bind]
  exact .next (yields_showChoices text choices before) (.here _ before)

end CommandLine

end HelperKit
