import HelperKit.Proofs.CommandLine.Parts
import HelperKit.Proofs.Dialogue.Reading

/-!
# Every dialogue ends with its input

A question may be asked again and again, and the menu may be gone back to again and again, but
each time an answer less is left.  So a run reads each of the answers at most once, one behind the
other, and at most the end of the input behind them.
-/

namespace HelperKit

open Dialogue Upkeep

/-- How answers are used up when others are left and some are read: those that are read come
before those that are left, in order, and the end of the input is read behind the last one only.
Nothing is read behind an interruption or the end of the input. -/
structure UsesInput (given left : List Answer) (read : List (Option Answer)) : Prop where
  inOrder : ∃ taken, given = taken ++ left ∧
    (read = taken.map some ∨ left = [] ∧ read = taken.map some ++ [none])
  bounded : read.length ≤ given.length + 1
  lines : ∀ answer ∈ read.dropLast, ∃ line, answer = some (.line line)

/-- What an operation reads, from whatever state it begins in, uses the answers up. -/
def EndsWithInput {σ α : Type} (view : σ → Terminal) (operation : ExceptT Failure (StateM σ) α) :
    Prop :=
  ∀ before, ∃ added, (view (operation before).2).transcript = (view before).transcript ++ added ∧
    UsesInput (view before).answers (view (operation before).2).answers (readings added)

namespace Dialogue

variable {σ α : Type} {view : σ → Terminal} {operation : ExceptT Failure (StateM σ) α}

theorem Draws.usesInput {result : Except Failure α} {given left : List Answer}
    {read : List (Option Answer)} (draws : Draws result given left read) :
    UsesInput given left read := by
  cases draws with
  | lines taken =>
      refine ⟨⟨taken.map .line, rfl, .inl (List.map_map ..).symm⟩, ?_, ?_⟩
      · simp only [List.length_map, List.length_append]
        omega
      · intro answer member
        obtain ⟨line, -, rfl⟩ := List.mem_map.mp (List.mem_of_mem_dropLast member)
        exact ⟨line, rfl⟩
  | interrupted taken =>
      refine ⟨⟨taken.map .line ++ [.interrupt], ?_, .inl ?_⟩, ?_, ?_⟩
      · rw [List.append_assoc]
        rfl
      · rw [List.map_append, List.map_map]
        rfl
      · simp only [List.length_map, List.length_append, List.length_cons, List.length_nil]
        omega
      · intro answer member
        rw [List.dropLast_concat] at member
        obtain ⟨line, -, rfl⟩ := List.mem_map.mp member
        exact ⟨line, rfl⟩
  | ended taken =>
      refine ⟨⟨taken.map .line, (List.append_nil _).symm, .inr ⟨rfl, ?_⟩⟩, ?_, ?_⟩
      · rw [List.map_map]
        rfl
      · simp only [List.length_map, List.length_append, List.length_cons, List.length_nil]
        omega
      · intro answer member
        rw [List.dropLast_concat] at member
        obtain ⟨line, -, rfl⟩ := List.mem_map.mp member
        exact ⟨line, rfl⟩

theorem endsWithInput_of_readsInOrder (reads : ∀ before, ReadsInOrder view operation before) :
    EndsWithInput view operation := by
  intro before
  obtain ⟨added, grown, draws⟩ := reads before
  exact ⟨added, grown, draws.usesInput⟩

end Dialogue

namespace CommandLine

variable {site : Site} {known : Disk → Prop} {α : Type}

/-- Whatever a run is composed of, it reads the answers in order. -/
theorem Composed.readsInOrder {errand : Errand Terminal α} (composed : Composed site known errand)
    (before : Workspace × Terminal) : ReadsInOrder Prod.snd errand before := by
  induction composed generalizing before with
  | pure value => exact readsInOrder_pure value before
  | throw failure => exact readsInOrder_throw failure before
  | bind _ _ first next => exact (first before).bind fun value between _ => next value between
  | say message => exact readsInOrder_onCaller (readsInOrder_present message before.2)
  | select question choices => exact readsInOrder_onCaller (readsInOrder_select question choices _)
  | multiSelect question choices minimum =>
      exact readsInOrder_onCaller (readsInOrder_multiSelect question choices minimum _)
  | confirm message standard => exact readsInOrder_onCaller (readsInOrder_ask _ _ _ before.2)
  | directory found => exact readsInOrder_onCaller (readsInOrder_ask _ _ _ before.2)
  | menu =>
      exact menu_closed site known (fun errand state => ReadsInOrder Prod.snd errand state)
        readsInOrder_pure (fun _ => ReadsInOrder.bind)
        (fun question choices state =>
          readsInOrder_onCaller (readsInOrder_select question choices state.2))
        (fun _ _ => readsInOrder_onDisk _) before
  | load => exact readsInOrder_onDisk _ before
  | present => exact readsInOrder_onDisk _ before
  | disk => exact readsInOrder_onDisk _ before
  | note level message => exact readsInOrder_onDisk _ before
  | call call => exact readsInOrder_onDisk _ before

theorem Composed.answers_eq {errand : Errand Terminal α} (composed : Composed site known errand)
    (tells : TellsLines Prod.snd errand) (before : Workspace × Terminal) :
    ∃ added, (errand before).2.2.transcript = before.2.transcript ++ added ∧ readings added = [] ∧
      (errand before).2.2.answers = before.2.answers := by
  obtain ⟨added, grown, lines⟩ := tells before
  obtain ⟨same, further, draws⟩ := composed.readsInOrder before
  cases List.append_cancel_left (grown.symm.trans further)
  rw [lines.readings_eq] at draws
  exact ⟨added, grown, lines.readings_eq, draws.eq_of_nil.symm⟩

/-- A run that is concluded leaves the answers that the run leaves, and shows lines behind what the
run has told. -/
theorem conclude_tells (site : Site) (before : Workspace × Terminal) :
    ∃ more, readings more = [] ∧ (conclude site before).2.2 =
      ⟨(run site before).2.2.answers, (run site before).2.2.transcript ++ more⟩ := by
  have closes : Composed site (fun _ => True) (close (run site before).1) := composed_close _
  obtain ⟨more, grown, unread, same⟩ := closes.answers_eq (tells_close _) (run site before).2
  rw [conclude_apply]
  exact ⟨more, unread, congrArg₂ Terminal.mk same grown⟩

theorem endsWithInput_conclude (site : Site) : EndsWithInput Prod.snd (conclude site) := by
  intro before
  have runs : Composed site (fun _ => True) (run site) := composed_run fun _ => trivial
  obtain ⟨added, grown, draws⟩ := runs.readsInOrder before
  obtain ⟨more, unread, told⟩ := conclude_tells site before
  refine ⟨added ++ more, ?_, ?_⟩
  · rw [told, grown, List.append_assoc]
  · rw [told, readings_append, unread, List.append_nil]
    exact draws.usesInput

/-- An invocation that reads nothing leaves all answers. -/
theorem usesInput_none (answers : List Answer) : UsesInput answers answers [] :=
  (Draws.none (.ok ()) answers).usesInput

theorem usesInput_ofErrand {errand : Errand Terminal ExitStatus}
    (ends : EndsWithInput Prod.snd errand) (before : Workspace) (answers : List Answer) :
    UsesInput answers (Outcome.ofErrand errand before { answers }).terminal.answers
      (readings (Outcome.ofErrand errand before { answers }).terminal.transcript) := by
  obtain ⟨added, grown, uses⟩ := ends (before, { answers })
  have read : (Outcome.ofErrand errand before { answers }).terminal.transcript = added := grown
  rw [read]
  exact uses

theorem endsWithInput_session (invocation : Invocation) (settingsFile : Option Text) :
    EndsWithInput Prod.snd (invocation.session settingsFile) := by
  unfold Invocation.session
  split
  · exact endsWithInput_of_readsInOrder (readsInOrder_throw _)
  · rename_i site _
    split
    · have halts : Composed site (fun _ => True) halt := composed_halt
      exact endsWithInput_of_readsInOrder halts.readsInOrder
    · exact endsWithInput_conclude site

/-- For whatever disk, invocation and answers a run ends, and it has read each answer at most once,
those that are read in order and before all that are left, and nothing behind an interruption or
the end of the input: never more than the answers and the end of the input.  This is so for each
question and for the session over a stored project, too, whatever has been before. -/
theorem dialogues_end_with_input :
    (∀ (invocation : Invocation) (disk : Disk) (answers : List Answer),
      UsesInput answers (invocation.outcome disk answers).terminal.answers
        (readings (invocation.outcome disk answers).terminal.transcript)) ∧
    (∀ (site : Site) (project : Project), EndsWithInput Prod.snd (Upkeep.run site project)) ∧
    (∀ (α : Type) (question : Text) (choices : List (Choice α)),
      EndsWithInput id (select question choices) ∧
      ∀ minimum, EndsWithInput id (multiSelect question choices minimum)) ∧
    ∀ disk, EndsWithInput id (askDirectory disk) := by
  refine ⟨?_, ?_, ?_, ?_⟩
  · intro invocation disk answers
    cases given : ofArguments invocation.arguments with
    | error refusal =>
        unfold Invocation.outcome
        rw [given]
        exact usesInput_none answers
    | ok command =>
        cases command with
        | help =>
            unfold Invocation.outcome
            rw [given]
            exact usesInput_none answers
        | run settingsFile verbose =>
            rw [Invocation.outcome_eq given]
            exact usesInput_ofErrand (endsWithInput_session invocation settingsFile) _ answers
  · intro site project
    have runs : Composed site (fun _ => True) (Upkeep.run site project) :=
      composed_runSession project
    exact endsWithInput_of_readsInOrder runs.readsInOrder
  · intro α question choices
    exact ⟨endsWithInput_of_readsInOrder (readsInOrder_select question choices),
      fun minimum =>
        endsWithInput_of_readsInOrder (readsInOrder_multiSelect question choices minimum)⟩
  · intro disk
    exact endsWithInput_of_readsInOrder (readsInOrder_ask _ _ _)

end CommandLine

end HelperKit
