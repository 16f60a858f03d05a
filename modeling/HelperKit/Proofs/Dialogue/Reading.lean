import HelperKit.Proofs.Dialogue.Transcript
import HelperKit.Proofs.Upkeep.Handlers

/-!
# How the answers are read

A dialogue reads the answers one behind the other.  Whatever it is that it returns with, all that
it has read are lines.  If it fails, the last thing that it has read may be an interruption or the
end of the input, but nothing is read behind that.
-/

namespace HelperKit

/-- What is read in a part of a transcript, in order. -/
def readings (added : List Exchange) : List (Option Answer) :=
  added.filterMap fun
    | .shown _ => none
    | .read answer => some answer

@[simp]
theorem readings_nil : readings [] = [] := rfl

@[simp]
theorem readings_shown (text : Text) (added : List Exchange) :
    readings (.shown text :: added) = readings added := rfl

@[simp]
theorem readings_read (answer : Option Answer) (added : List Exchange) :
    readings (.read answer :: added) = answer :: readings added := rfl

@[simp]
theorem readings_append (added more : List Exchange) :
    readings (added ++ more) = readings added ++ readings more :=
  List.filterMap_append

namespace Dialogue

variable {σ α β : Type} {view : σ → Terminal}

theorem Lines.readings_eq {added : List Exchange} (lines : Lines added) : readings added = [] := by
  induction added with
  | nil => rfl
  | cons event added induction =>
      obtain ⟨text, rfl⟩ := lines event List.mem_cons_self
      exact induction fun other member => lines other (List.mem_cons_of_mem _ member)

/-- How a result comes of answers that are given, when others are left and some are read: lines
are taken one behind the other, or it is a failure, before which an interruption or the end of the
input is read behind them. -/
inductive Draws : Except Failure α → (given left : List Answer) → List (Option Answer) → Prop where
  | lines {result : Except Failure α} (taken : List Text) (left : List Answer) :
      Draws result (taken.map .line ++ left) left (taken.map fun line => some (.line line))
  | interrupted {failure : Failure} (taken : List Text) (left : List Answer) :
      Draws (.error failure) (taken.map .line ++ .interrupt :: left) left
        (taken.map (fun line => some (.line line)) ++ [some .interrupt])
  | ended {failure : Failure} (taken : List Text) :
      Draws (.error failure) (taken.map .line) []
        (taken.map (fun line => some (.line line)) ++ [none])

theorem Draws.none (result : Except Failure α) (left : List Answer) : Draws result left left [] :=
  .lines [] left

theorem Draws.eq_of_nil {result : Except Failure α} {given left : List Answer}
    (draws : Draws result given left []) : given = left := by
  generalize nothing : ([] : List (Option Answer)) = read at draws
  cases draws with
  | lines taken =>
      rw [List.map_eq_nil_iff.mp nothing.symm]
      rfl
  | interrupted taken => simp at nothing
  | ended taken => simp at nothing

/-- What returns has read the answers that are not left. -/
theorem Draws.read_eq {value : α} {given left taken : List Answer} {read : List (Option Answer)}
    (draws : Draws (.ok value : Except Failure α) given left read) (split : given = taken ++ left) :
    read = taken.map some := by
  cases draws with
  | lines lines =>
      rw [← List.append_cancel_right split, List.map_map]
      rfl

theorem Draws.behind {result : Except Failure α} {given left : List Answer}
    {read : List (Option Answer)} (draws : Draws result given left read) (line : Text) :
    Draws result (.line line :: given) left (some (.line line) :: read) := by
  cases draws with
  | lines taken => exact .lines (line :: taken) left
  | interrupted taken => exact .interrupted (line :: taken) left
  | ended taken => exact .ended (line :: taken)

theorem Draws.failed {failure : Failure} {given left : List Answer} {read : List (Option Answer)}
    (draws : Draws (.error failure : Except Failure α) given left read) :
    Draws (.error failure : Except Failure β) given left read := by
  cases draws with
  | lines taken => exact .lines taken left
  | interrupted taken => exact .interrupted taken left
  | ended taken => exact .ended taken

/-- What returns has taken lines, behind which what comes next draws on the answers that are
left. -/
theorem Draws.followed {value : α} {result : Except Failure β} {given between left : List Answer}
    {read more : List (Option Answer)} (draws : Draws (.ok value) given between read)
    (follows : Draws result between left more) : Draws result given left (read ++ more) := by
  cases draws with
  | lines taken =>
      induction taken with
      | nil => exact follows
      | cons line taken induction => exact induction.behind line

/-- What an operation reads that begins in a state with a terminal in view, it draws from the
answers there. -/
def ReadsInOrder (view : σ → Terminal) (operation : ExceptT Failure (StateM σ) α) (before : σ) :
    Prop :=
  ∃ added, (view (operation before).2).transcript = (view before).transcript ++ added ∧
    Draws (operation before).1 (view before).answers (view (operation before).2).answers
      (readings added)

theorem readsInOrder_pure (value : α) (before : σ) :
    ReadsInOrder view (pure value : ExceptT Failure (StateM σ) α) before :=
  ⟨[], (List.append_nil _).symm, .none _ _⟩

theorem readsInOrder_throw (failure : Failure) (before : σ) :
    ReadsInOrder view (throw failure : ExceptT Failure (StateM σ) α) before :=
  ⟨[], (List.append_nil _).symm, .none _ _⟩

theorem ReadsInOrder.bind {first : ExceptT Failure (StateM σ) α}
    {next : α → ExceptT Failure (StateM σ) β} {before : σ}
    (firstReads : ReadsInOrder view first before)
    (nextReads : ∀ value between, first before = (.ok value, between) →
      ReadsInOrder view (next value) between) : ReadsInOrder view (first >>= next) before := by
  obtain ⟨added, grown, draws⟩ := firstReads
  have unfolded : (first >>= next) before =
      (fun reached : Except Failure α × σ => ExceptT.bindCont next reached.1 reached.2)
        (first before) := rfl
  unfold ReadsInOrder
  rw [unfolded]
  cases reached : first before with
  | mk result between =>
      rw [reached] at grown draws
      cases result with
      | error failure => exact ⟨added, grown, draws.failed⟩
      | ok value =>
          obtain ⟨more, further, follows⟩ := nextReads value between reached
          refine ⟨added ++ more, ?_, ?_⟩
          · exact further.trans (by rw [grown, List.append_assoc])
          · rw [readings_append]
            exact draws.followed follows

theorem readsInOrder_onCaller {dialogue : Dialogue α} {before : Workspace × Terminal}
    (reads : ReadsInOrder id dialogue before.2) :
    ReadsInOrder Prod.snd (Errand.onCaller dialogue) before :=
  reads

theorem readsInOrder_onDisk (job : Job α) (before : Workspace × Terminal) :
    ReadsInOrder Prod.snd (Errand.onDisk job) before :=
  ⟨[], (List.append_nil _).symm, .none _ _⟩

theorem readsInOrder_present (text : Except Failure Text) (before : Terminal) :
    ReadsInOrder id (present text) before := by
  cases text with
  | ok line => exact ⟨[.shown line], rfl, .none _ _⟩
  | error failure => exact readsInOrder_throw failure before

/-! ## Questions -/

/-- However often a question is asked again, each time an answer less is left. -/
theorem draws_settle (prompt question : Text) (judge : Text → Verdict α) (answers : List Answer)
    (transcript : List Exchange) : ∃ added,
      (settle prompt question judge answers transcript).2.transcript = transcript ++ added ∧
        Draws (settle prompt question judge answers transcript).1 answers
          (settle prompt question judge answers transcript).2.answers (readings added) := by
  induction answers generalizing transcript with
  | nil => exact ⟨_, rfl, .ended []⟩
  | cons answer answers induction =>
      cases answer with
      | interrupt => exact ⟨_, rfl, .interrupted [] answers⟩
      | line line =>
          rw [settle]
          cases judge line with
          | accept value => exact ⟨_, rfl, .lines [line] answers⟩
          | giveUp failure => exact ⟨_, rfl, .lines [line] answers⟩
          | again complaint =>
              obtain ⟨more, grown, draws⟩ := induction (transcript ++ round prompt line complaint)
              refine ⟨round prompt line complaint ++ more, ?_, draws.behind line⟩
              rw [← List.append_assoc]
              exact grown

theorem readsInOrder_ask (prompt question : Text) (judge : Text → Verdict α) (before : Terminal) :
    ReadsInOrder id (ask prompt question judge) before :=
  draws_settle _ _ _ before.answers before.transcript

theorem readsInOrder_showChoices (question : Text) (choices : List (Choice α)) (before : Terminal) :
    ReadsInOrder id (showChoices question choices) before := by
  obtain ⟨table, drawn⟩ := Screen.optionTable_eq_ok (choices.map Choice.label)
  unfold ReadsInOrder
  rw [showChoices_eq drawn]
  exact ⟨tableOf question table, rfl, .none _ _⟩

theorem readsInOrder_select (question : Text) (choices : List (Choice α)) (before : Terminal) :
    ReadsInOrder id (select question choices) before :=
  (readsInOrder_showChoices question choices before).bind fun _ between _ =>
    readsInOrder_ask _ _ _ between

theorem readsInOrder_multiSelect (question : Text) (choices : List (Choice α)) (minimum : Nat)
    (before : Terminal) : ReadsInOrder id (multiSelect question choices minimum) before :=
  (readsInOrder_showChoices question choices before).bind fun _ between _ =>
    readsInOrder_ask _ _ _ between

end Dialogue

end HelperKit
