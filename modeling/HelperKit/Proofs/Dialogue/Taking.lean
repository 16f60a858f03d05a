import HelperKit.Proofs.Dialogue.Selecting

/-!
# Which answers a dialogue takes

A dialogue that returns has taken the first of the answers.  It would have returned the same, and
shown the same, whatever answers had come behind them and whatever had been shown before.  What is
taken by a dialogue in two parts is what the first part takes, and then what the second one does.
-/

namespace HelperKit

namespace Dialogue

variable {α β : Type}

/-- A dialogue takes some answers, returns a value, and adds something to the transcript, whatever
answers come later and whatever was shown before. -/
def Takes (dialogue : Dialogue α) (taken : List Answer) (value : α) (added : List Exchange) : Prop :=
  ∀ later before, dialogue ⟨taken ++ later, before⟩ = (.ok value, ⟨later, before ++ added⟩)

/-- A dialogue that returns has taken answers that are related to the value and to what was added
to the transcript. -/
def Gathers (dialogue : Dialogue α) (related : List Answer → List Exchange → α → Prop) : Prop :=
  ∀ answers before value after, dialogue ⟨answers, before⟩ = (.ok value, after) →
    ∃ taken added, answers = taken ++ after.answers ∧ after.transcript = before ++ added ∧
      Takes dialogue taken value added ∧ related taken added value

theorem Takes.spoken {dialogue : Dialogue α} {taken : List Answer} {value : α}
    {added : List Exchange} (takes : Takes dialogue taken value added) :
    Spoken dialogue (.ok value) added := by
  refine ⟨⟨taken ++ [], []⟩, ?_⟩
  rw [takes]
  exact ⟨rfl, rfl⟩

theorem takes_pure (value : α) : Takes (pure value) [] value [] := by
  intro later before
  rw [List.append_nil]
  rfl

theorem Takes.bind {first : Dialogue α} {next : α → Dialogue β} {front back : List Answer}
    {middle : α} {value : β} {frontAdded backAdded : List Exchange}
    (takes : Takes first front middle frontAdded) (takesToo : Takes (next middle) back value backAdded) :
    Takes (first >>= next) (front ++ back) value (frontAdded ++ backAdded) := by
  intro later before
  rw [bind_apply, List.append_assoc, takes, ← List.append_assoc before]
  exact takesToo later _

theorem Gathers.mono {dialogue : Dialogue α}
    {related wider : List Answer → List Exchange → α → Prop} (gathers : Gathers dialogue related)
    (weaken : ∀ taken added value, Takes dialogue taken value added → related taken added value →
      wider taken added value) : Gathers dialogue wider := by
  intro answers before value after returned
  obtain ⟨taken, added, split, grown, takes, holds⟩ := gathers answers before value after returned
  exact ⟨taken, added, split, grown, takes, weaken _ _ _ takes holds⟩

theorem gathers_pure (value : α) :
    Gathers (pure value) fun taken added result => taken = [] ∧ added = [] ∧ result = value := by
  intro answers before result after returned
  cases returned
  exact ⟨[], [], rfl, (List.append_nil before).symm, takes_pure value, rfl, rfl, rfl⟩

/-- What a dialogue in two parts has taken falls into two parts. -/
theorem Gathers.bind {first : Dialogue α} {next : α → Dialogue β}
    {related : List Answer → List Exchange → α → Prop}
    {nextRelated : α → List Answer → List Exchange → β → Prop} (gathers : Gathers first related)
    (nextGathers : ∀ front added middle, related front added middle →
      Gathers (next middle) (nextRelated middle)) :
    Gathers (first >>= next) fun taken added value =>
      ∃ front frontAdded middle back backAdded, taken = front ++ back ∧
        added = frontAdded ++ backAdded ∧ Takes first front middle frontAdded ∧
        related front frontAdded middle ∧ Takes (next middle) back value backAdded ∧
        nextRelated middle back backAdded value := by
  intro answers before value after returned
  rw [bind_apply] at returned
  cases reached : first ⟨answers, before⟩ with
  | mk result between =>
      rw [reached] at returned
      cases result with
      | error failure => cases returned
      | ok middle =>
          obtain ⟨front, frontAdded, rfl, grown, takes, holds⟩ := gathers _ _ _ _ reached
          obtain ⟨back, backAdded, split, further, takesToo, holdsToo⟩ :=
            nextGathers _ _ middle holds _ _ _ _ returned
          refine ⟨front ++ back, frontAdded ++ backAdded, ?_, ?_, takes.bind takesToo, front,
            frontAdded, middle, back, backAdded, rfl, rfl, takes, holds, takesToo, holdsToo⟩
          · rw [split, List.append_assoc]
          · rw [further, grown, List.append_assoc]

/-! ## Questions -/

/-- Answers settle a question: the last one is accepted, and those before it are complained
about. -/
def TakenBy (judge : Text → Verdict α) (taken : List Answer) (value : α) : Prop :=
  ∃ (rejected : List Text) (line : Text), taken = rejected.map .line ++ [.line line] ∧
    (∀ other ∈ rejected, ∃ complaint, judge other = .again complaint) ∧
    judge line = .accept value

theorem TakenBy.takes {judge : Text → Verdict α} {taken : List Answer} {value : α}
    (takenBy : TakenBy judge taken value) (prompt question : Text) :
    ∃ added, Takes (ask prompt question judge) taken value added := by
  obtain ⟨rejected, line, rfl, complained, judged⟩ := takenBy
  choose! complaint again using complained
  refine ⟨(rejected.flatMap fun line => round (Screen.plain prompt) line (complaint line)) ++
    lastRound (Screen.plain prompt) (some (.line line)), fun later before => ?_⟩
  unfold ask
  rw [List.append_assoc, settle_append again, ← List.append_assoc before]
  exact (Settles.accepted judged).settle_eq later (by simp) _

theorem gathers_ask (prompt question : Text) (judge : Text → Verdict α) :
    Gathers (ask prompt question judge) fun taken _ value => TakenBy judge taken value := by
  intro answers before value after returned
  obtain ⟨rejected, last, later, result, rfl, complete, again, settles⟩ :=
    exists_settles question judge answers
  have complained := again
  choose! complaint judged using again
  have ran : (ask prompt question judge
      ⟨rejected.map .line ++ (last.toList ++ later), before⟩).1 = result := by
    unfold ask
    rw [settle_append judged, settles.settle_eq later complete]
  rw [returned] at ran
  cases settles with
  | ended => cases ran
  | interrupted => cases ran
  | givenUp stopped => cases ran
  | @accepted line value accepted =>
      have takenBy : TakenBy judge (rejected.map .line ++ [.line line]) value :=
        ⟨rejected, line, rfl, complained, accepted⟩
      obtain ⟨added, takes⟩ := takenBy.takes prompt question
      have reached := takes later before
      rw [List.append_assoc] at reached
      cases reached.symm.trans returned
      exact ⟨_, added, (List.append_assoc ..).symm, rfl, takes, takenBy⟩

theorem takes_showChoices (question : Text) (choices : List (Choice α)) :
    ∃ added, Takes (showChoices question choices) [] () added := by
  obtain ⟨table, drawn⟩ := Screen.optionTable_eq_ok (choices.map Choice.label)
  exact ⟨tableOf question table, fun later before => showChoices_eq drawn _⟩

theorem gathers_showChoices (question : Text) (choices : List (Choice α)) :
    Gathers (showChoices question choices) fun taken _ _ => taken = [] := by
  intro answers before value after returned
  obtain ⟨added, takes⟩ := takes_showChoices question choices
  cases (takes answers before).symm.trans returned
  exact ⟨[], added, rfl, rfl, takes, rfl⟩

theorem TakenBy.takes_showChoices {judge : Text → Verdict α} {taken : List Answer} {value : α}
    (takenBy : TakenBy judge taken value) (prompt question : Text) (choices : List (Choice β)) :
    ∃ added, Takes (showChoices question choices >>= fun _ => ask prompt question judge) taken
      value added := by
  obtain ⟨shown, first⟩ := Dialogue.takes_showChoices question choices
  obtain ⟨asked, second⟩ := takenBy.takes prompt question
  exact ⟨shown ++ asked, first.bind second⟩

theorem gathers_showChoices_ask {question prompt : Text} (choices : List (Choice β))
    (judge : Text → Verdict α) :
    Gathers (showChoices question choices >>= fun _ => ask prompt question judge)
      fun taken _ value => TakenBy judge taken value := by
  refine ((gathers_showChoices question choices).bind fun _ _ _ _ =>
    gathers_ask prompt question judge).mono ?_
  rintro _ _ value - ⟨_, _, _, back, _, rfl, rfl, -, rfl, -, taken⟩
  exact taken

/-! ## Choices -/

section Deciding

variable {question : Text} {choices : List (Choice α)} {choice : Choice α} {labels : List Text}
  {line answer : Text} {index other : Nat}

theorem Picks.unique (picks : Picks labels answer index) (picksToo : Picks labels answer other) :
    index = other :=
  Option.some.inj ((pick?_eq_some_iff.mpr picks).symm.trans (pick?_eq_some_iff.mpr picksToo))

/-- A line decides for the choice at an index: it is not blank, does not give the question up, and
picks the choice. -/
structure Decides (labels : List Text) (line : Text) (index : Nat) : Prop where
  filled : line.strip ≠ []
  goesOn : line.strip.lower ∉ cancelWords
  picks : Picks labels line.strip index

theorem Unsettling.judged (question : Text)
    (unsettling : Unsettling (choices.map Choice.label) line) :
    judgeOne question choices line = .again (invalidChoice choices.length) := by
  rcases judgeOne_cases question choices line with
    ⟨-, blank | word⟩ | ⟨index, _, -, -, -, picks, -⟩ | ⟨again, -⟩
  · exact absurd blank unsettling.filled
  · exact absurd word unsettling.goesOn
  · exact absurd picks (unsettling.unmatched index)
  · exact again

theorem Decides.judgeOne_eq (decides : Decides (choices.map Choice.label) line index)
    (question : Text) (found : choices[index]? = some choice) :
    judgeOne question choices line = .accept choice.value := by
  rcases judgeOne_cases question choices line with
    ⟨-, blank | word⟩ | ⟨other, _, accepted, -, -, picks, foundToo⟩ | ⟨-, unsettling⟩
  · exact absurd blank decides.filled
  · exact absurd word decides.goesOn
  · rw [picks.unique decides.picks, found] at foundToo
    cases foundToo
    exact accepted
  · exact absurd decides.picks (unsettling.unmatched index)

end Deciding

/-- Answers choose a value: the last one decides for a choice with the value, and those before it
settle nothing. -/
inductive ChosenBy (choices : List (Choice α)) : List Answer → α → Prop where
  | behind {rejected : List Text} {line : Text} {index : Nat} {choice : Choice α}
      (unsettling : ∀ other ∈ rejected, Unsettling (choices.map Choice.label) other)
      (decides : Decides (choices.map Choice.label) line index)
      (found : choices[index]? = some choice) :
      ChosenBy choices (rejected.map .line ++ [.line line]) choice.value

theorem chosenBy_iff (question : Text) {choices : List (Choice α)} {taken : List Answer}
    {value : α} : ChosenBy choices taken value ↔ TakenBy (judgeOne question choices) taken value := by
  constructor
  · intro chosen
    cases chosen with
    | behind unsettling decides found =>
        exact ⟨_, _, rfl, fun other member => ⟨_, (unsettling other member).judged question⟩,
          decides.judgeOne_eq question found⟩
  · rintro ⟨rejected, line, rfl, again, judged⟩
    have unsettling : ∀ other ∈ rejected, Unsettling (choices.map Choice.label) other := by
      intro other member
      obtain ⟨complaint, complained⟩ := again other member
      exact (judgeOne_eq_again complained).2
    cases judgeOne_eq_accept judged with
    | picked filled goesOn picks found => exact .behind unsettling ⟨filled, goesOn, picks⟩ found

theorem ChosenBy.takes {choices : List (Choice α)} {taken : List Answer} {value : α}
    (chosen : ChosenBy choices taken value) (question : Text) :
    ∃ added, Takes (select question choices) taken value added :=
  ((chosenBy_iff question).mp chosen).takes_showChoices onePrompt question choices

theorem gathers_select (question : Text) (choices : List (Choice α)) :
    Gathers (select question choices) fun taken _ value => ChosenBy choices taken value :=
  (gathers_showChoices_ask choices (judgeOne question choices)).mono fun _ _ _ _ taken =>
    (chosenBy_iff question).mpr taken

/-- Answers select values: the last one selects choices with these values, as many as are asked
for, and those before it settle nothing. -/
inductive SelectedBy (choices : List (Choice α)) (minimum : Nat) : List Answer → List α → Prop where
  | behind {rejected : List Text} {line : Text} {places : List Nat} {selected : List α}
      (insufficient : ∀ other ∈ rejected, ∃ complaint,
        Insufficient (choices.map Choice.label) minimum other complaint)
      (goesOn : line.strip.lower ∉ cancelWords)
      (selects : Selects (choices.map Choice.label) line.strip places)
      (enough : minimum ≤ places.length) (values : Values choices places selected) :
      SelectedBy choices minimum (rejected.map .line ++ [.line line]) selected

theorem selectedBy_iff (question : Text) {choices : List (Choice α)} {minimum : Nat}
    {taken : List Answer} {selected : List α} : SelectedBy choices minimum taken selected ↔
      TakenBy (judgeSeveral question choices minimum) taken selected := by
  constructor
  · intro selectedBy
    cases selectedBy with
    | behind insufficient goesOn selects enough values =>
        refine ⟨_, _, rfl, fun other member => ?_,
          judgeSeveral_of_selects question goesOn selects enough values⟩
        obtain ⟨complaint, reason⟩ := insufficient other member
        exact reason.judged question
  · rintro ⟨rejected, line, rfl, again, judged⟩
    have insufficient : ∀ other ∈ rejected, ∃ complaint,
        Insufficient (choices.map Choice.label) minimum other complaint := by
      intro other member
      obtain ⟨complaint, complained⟩ := again other member
      exact ⟨complaint, judgeSeveral_eq_again complained⟩
    have settles : Settles question (judgeSeveral question choices minimum) (some (.line line))
        (.ok selected) := .accepted judged
    cases settles.settlesSeveral with
    | selected goesOn selects enough values => exact .behind insufficient goesOn selects enough values

theorem SelectedBy.takes {choices : List (Choice α)} {minimum : Nat} {taken : List Answer}
    {selected : List α} (selectedBy : SelectedBy choices minimum taken selected)
    (question : Text) : ∃ added, Takes (multiSelect question choices minimum) taken selected added :=
  ((selectedBy_iff question).mp selectedBy).takes_showChoices severalPrompt question choices

theorem gathers_multiSelect (question : Text) (choices : List (Choice α)) (minimum : Nat) :
    Gathers (multiSelect question choices minimum) fun taken _ selected =>
      SelectedBy choices minimum taken selected :=
  (gathers_showChoices_ask choices (judgeSeveral question choices minimum)).mono fun _ _ _ _ taken =>
    (selectedBy_iff question).mpr taken

/-- An answer means a value: one of its parts picks a choice with the value. -/
def Means (choices : List (Choice α)) (answer : Text) (value : α) : Prop :=
  ∃ part ∈ parts answer, ∃ index choice, Picks (choices.map Choice.label) part index ∧
    choices[index]? = some choice ∧ choice.value = value

theorem Selects.mem_values {choices : List (Choice α)} {answer : Text} {places : List Nat}
    {selected : List α} (selects : Selects (choices.map Choice.label) answer places)
    (values : Values choices places selected) (value : α) :
    value ∈ selected ↔ Means choices answer value := by
  have placed : value ∈ selected ↔
      ∃ place ∈ places, choices[place]?.map Choice.value = some value := by
    have member : some value ∈ selected.map some ↔ value ∈ selected := by simp
    rw [← member, values, List.mem_map]
  rw [placed]
  constructor
  · rintro ⟨place, listed, found⟩
    obtain ⟨part, inside, picks⟩ := (selects.mem_iff place).mp listed
    obtain ⟨choice, found, same⟩ := Option.map_eq_some_iff.mp found
    exact ⟨part, inside, place, choice, picks, found, same⟩
  · rintro ⟨part, inside, place, choice, picks, found, rfl⟩
    exact ⟨place, (selects.mem_iff place).mpr ⟨part, inside, picks⟩, by rw [found]; rfl⟩

/-- What is selected is what the last answer means, in the order of the table. -/
theorem SelectedBy.selected_eq {choices : List (Choice α)} {minimum : Nat} {taken : List Answer}
    {selected : List α} (selectedBy : SelectedBy choices minimum taken selected) :
    selected.Sublist (choices.map Choice.value) ∧ minimum ≤ selected.length ∧
      ∃ line, taken.getLast? = some (.line line) ∧
        ∀ value, value ∈ selected ↔ Means choices line.strip value := by
  cases selectedBy with
  | @behind rejected line places selected insufficient goesOn selects enough values =>
      exact ⟨selects.sublist values, values.length_eq ▸ enough, line, by simp,
        selects.mem_values values⟩

end Dialogue

end HelperKit
