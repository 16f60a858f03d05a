import HelperKit.Proofs.Dialogue.Transcript

/-!
# How a question is settled

A question reads answers up to the first one that settles it, complains once about every answer
before that one, and looks at none behind it.  A question for one of several choices is settled by
an interruption, a blank line, a word that gives up, or the number or the label of a choice, in
this order.
-/

namespace HelperKit

namespace Dialogue

variable {α : Type} {prompt question : Text} {judge : Text → Verdict α}
  {result : Except Failure α} {last : Option Answer}

/-! ## Questions in general -/

/-- An answer that settles a question, or the end of the answers, and what comes of it. -/
inductive Settles (question : Text) (judge : Text → Verdict α) :
    Option Answer → Except Failure α → Prop where
  | ended : Settles question judge none (.error (.cancelled question))
  | interrupted : Settles question judge (some .interrupt) (.error (.cancelled question))
  | accepted {line : Text} {value : α} (judged : judge line = .accept value) :
      Settles question judge (some (.line line)) (.ok value)
  | givenUp {line : Text} {failure : Failure} (judged : judge line = .giveUp failure) :
      Settles question judge (some (.line line)) (.error failure)

/-- The round of a question in which it is settled. -/
def lastRound (prompt : Text) : Option Answer → List Exchange
  | some (.line line) => [.shown prompt, .read (some (.line line))]
  | some .interrupt => [.shown prompt, .read (some .interrupt), .shown "\n"]
  | none => [.shown prompt, .read none, .shown "\n"]

theorem settle_again {line complaint : Text} (judged : judge line = .again complaint)
    (answers : List Answer) (transcript : List Exchange) :
    settle prompt question judge (.line line :: answers) transcript =
      settle prompt question judge answers (transcript ++ round prompt line complaint) := by
  simp only [settle, judged, round]

theorem settle_append {complaint : Text → Text} {earlier : List Text}
    (judged : ∀ line ∈ earlier, judge line = .again (complaint line))
    (answers : List Answer) (transcript : List Exchange) :
    settle prompt question judge (earlier.map .line ++ answers) transcript =
      settle prompt question judge answers
        (transcript ++ earlier.flatMap fun line => round prompt line (complaint line)) := by
  induction earlier generalizing transcript with
  | nil => simp
  | cons line earlier induction =>
      rw [List.map_cons, List.cons_append, settle_again (judged line List.mem_cons_self),
        induction fun other member => judged other (List.mem_cons_of_mem _ member),
        List.flatMap_cons, List.append_assoc]

/-- The answer that settles a question is the last one that is read. -/
theorem Settles.settle_eq (settles : Settles question judge last result) (later : List Answer)
    (complete : last = none → later = []) (transcript : List Exchange) :
    settle prompt question judge (last.toList ++ later) transcript =
      (result, ⟨later, transcript ++ lastRound prompt last⟩) := by
  cases settles with
  | ended =>
      rw [complete rfl]
      rfl
  | interrupted => rfl
  | accepted judged => simp [settle, judged, lastRound]
  | givenUp judged => simp [settle, judged, lastRound]

/-- Every list of answers has a first one that settles a question, or ends before. -/
theorem exists_settles (question : Text) (judge : Text → Verdict α) (answers : List Answer) :
    ∃ (earlier : List Text) (last : Option Answer) (later : List Answer)
      (result : Except Failure α),
      answers = earlier.map .line ++ (last.toList ++ later) ∧ (last = none → later = []) ∧
        (∀ line ∈ earlier, ∃ complaint, judge line = .again complaint) ∧
        Settles question judge last result := by
  induction answers with
  | nil => exact ⟨[], none, [], _, rfl, fun _ => rfl, by simp, .ended⟩
  | cons answer answers induction =>
      cases answer with
      | interrupt =>
          exact ⟨[], some .interrupt, answers, _, rfl, by simp, by simp, .interrupted⟩
      | line line =>
          cases judged : judge line with
          | accept value =>
              exact ⟨[], some (.line line), answers, _, rfl, by simp, by simp, .accepted judged⟩
          | giveUp failure =>
              exact ⟨[], some (.line line), answers, _, rfl, by simp, by simp, .givenUp judged⟩
          | again complaint =>
              obtain ⟨earlier, last, later, result, rfl, complete, rejected, settles⟩ := induction
              refine ⟨line :: earlier, last, later, result, rfl, complete, ?_, settles⟩
              intro other member
              rcases List.mem_cons.mp member with rfl | before
              · exact ⟨complaint, judged⟩
              · exact rejected other before

/-! ## Picking a choice -/

/-- An answer picks the choice at a place: by its number, counted from one, or else as the first
one with its label, in any case of letters. -/
inductive Picks (labels : List Text) (answer : Text) : Nat → Prop where
  | number {index : Nat} (offered : index < labels.length)
      (numbered : answer.toInt? = some ((index : Int) + 1)) : Picks labels answer index
  | label {index : Nat} {label : Text}
      (unnumbered : ∀ other < labels.length, answer.toInt? ≠ some ((other : Int) + 1))
      (labelled : labels[index]? = some label) (same : label.lower = answer.lower)
      (first : ∀ earlier < index, ∀ other, labels[earlier]? = some other →
        other.lower ≠ answer.lower) : Picks labels answer index

theorem Picks.offered {labels : List Text} {answer : Text} {index : Nat}
    (picks : Picks labels answer index) : index < labels.length := by
  cases picks with
  | number offered numbered => exact offered
  | label unnumbered labelled same first => exact (List.getElem?_eq_some_iff.mp labelled).1

/-- The number that an answer is counts before its label. -/
theorem pick?_eq_some_iff {labels : List Text} {answer : Text} {index : Nat} :
    pick? answer labels = some index ↔ Picks labels answer index := by
  -- A number of a row takes precedence, so labels count only if the answer is none.
  by_cases named : ∃ place < labels.length, answer.toInt? = some ((place : Int) + 1)
  · obtain ⟨place, offered, numbered⟩ := named
    have found : pick? answer labels = some place := by
      simp [pick?, numbered, offered]
    rw [found]
    constructor
    · intro same
      cases same
      exact .number offered numbered
    · intro picks
      cases picks with
      | number _ again =>
          have same := Option.some.inj (numbered.symm.trans again)
          exact congrArg some (by omega)
      | label unnumbered _ _ _ => exact absurd numbered (unnumbered place offered)
  · have unnumbered : ∀ other < labels.length, answer.toInt? ≠ some ((other : Int) + 1) :=
      fun other offered numbered => named ⟨other, offered, numbered⟩
    have searched : pick? answer labels =
        labels.findIdx? fun label => label.lower = answer.lower := by
      unfold pick?
      refine if_neg fun ⟨natural, offered⟩ => ?_
      cases numbered : answer.toInt? with
      | none => simp [numbered] at natural
      | some number =>
          simp only [numbered, Option.map_some, Option.getD_some] at natural offered
          refine unnumbered (number - 1).toNat (by omega) (numbered.trans (congrArg some ?_))
          omega
    rw [searched, List.findIdx?_eq_some_iff_getElem]
    constructor
    · rintro ⟨offered, same, first⟩
      refine .label unnumbered (List.getElem?_eq_getElem offered) (of_decide_eq_true same) ?_
      intro earlier before other known
      obtain ⟨offered, rfl⟩ := List.getElem?_eq_some_iff.mp known
      exact fun same => first earlier before (decide_eq_true same)
    · intro picks
      cases picks with
      | number offered numbered => exact absurd numbered (unnumbered index offered)
      | label _ labelled same first =>
          obtain ⟨offered, rfl⟩ := List.getElem?_eq_some_iff.mp labelled
          refine ⟨offered, decide_eq_true same, fun earlier before same => ?_⟩
          exact first earlier before _ (List.getElem?_eq_getElem _) (of_decide_eq_true same)

example : pick? "2" ["2", "1"] = some 1 := by decide

theorem isCancel_iff {answer : Text} : isCancel answer = true ↔ answer.lower ∈ cancelWords := by
  simp [isCancel]

/-! ## Choosing one -/

/-- A line that settles nothing: something is written, which does not give the question up and
picks no choice. -/
structure Unsettling (labels : List Text) (line : Text) : Prop where
  filled : line.strip ≠ []
  goesOn : line.strip.lower ∉ cancelWords
  unmatched : ∀ index, ¬ Picks labels line.strip index

/-- An answer that settles a question for one of the choices, and what comes of it. -/
inductive SettlesOne (question : Text) (choices : List (Choice α)) :
    Option Answer → Except Failure α → Prop where
  | ended : SettlesOne question choices none (.error (.cancelled question))
  | interrupted : SettlesOne question choices (some .interrupt) (.error (.cancelled question))
  | blank {line : Text} (blank : line.strip = []) :
      SettlesOne question choices (some (.line line)) (.error (.cancelled question))
  | word {line : Text} (word : line.strip.lower ∈ cancelWords) :
      SettlesOne question choices (some (.line line)) (.error (.cancelled question))
  | picked {line : Text} {index : Nat} {choice : Choice α} (filled : line.strip ≠ [])
      (goesOn : line.strip.lower ∉ cancelWords)
      (picks : Picks (choices.map Choice.label) line.strip index)
      (found : choices[index]? = some choice) :
      SettlesOne question choices (some (.line line)) (.ok choice.value)

/-- The complaint about a line that picks no choice. -/
def invalidChoice (count : Nat) : Text :=
  "Invalid choice. Enter 1-" ++ Text.ofNat count ++ " or option name."

/-- How a line is judged: it gives the question up, picks a choice, or is complained about. -/
theorem judgeOne_cases (question : Text) (choices : List (Choice α)) (line : Text) :
    (judgeOne question choices line = .giveUp (.cancelled question) ∧
      (line.strip = [] ∨ line.strip.lower ∈ cancelWords)) ∨
    (∃ index choice, judgeOne question choices line = .accept choice.value ∧ line.strip ≠ [] ∧
      line.strip.lower ∉ cancelWords ∧ Picks (choices.map Choice.label) line.strip index ∧
      choices[index]? = some choice) ∨
    judgeOne question choices line = .again (invalidChoice choices.length) ∧
      Unsettling (choices.map Choice.label) line := by
  by_cases stops : line.strip = [] ∨ isCancel line.strip
  · refine .inl ⟨if_pos stops, stops.imp_right isCancel_iff.mp⟩
  · obtain ⟨filled, goesOn⟩ := not_or.mp stops
    rw [isCancel_iff] at goesOn
    cases picked : pick? line.strip (choices.map Choice.label) with
    | some index =>
        have picks := pick?_eq_some_iff.mp picked
        have offered : index < choices.length := by simpa using picks.offered
        refine .inr (.inl ⟨index, choices[index], ?_, filled, goesOn, picks,
          List.getElem?_eq_getElem offered⟩)
        unfold judgeOne
        simp only [if_neg stops, picked, Option.bind_some, List.getElem?_eq_getElem offered]
    | none =>
        refine .inr (.inr ⟨?_, filled, goesOn, fun index picks => ?_⟩)
        · unfold judgeOne
          simp only [if_neg stops, picked, Option.bind_none, invalidChoice]
        · rw [pick?_eq_some_iff.mpr picks] at picked
          cases picked

theorem judgeOne_eq_again {choices : List (Choice α)} {line complaint : Text}
    (judged : judgeOne question choices line = .again complaint) :
    complaint = invalidChoice choices.length ∧ Unsettling (choices.map Choice.label) line := by
  rcases judgeOne_cases question choices line with
    ⟨stopped, -⟩ | ⟨index, choice, accepted, -⟩ | ⟨again, unsettling⟩
  · cases stopped.symm.trans judged
  · cases accepted.symm.trans judged
  · cases again.symm.trans judged
    exact ⟨rfl, unsettling⟩

theorem judgeOne_eq_accept {choices : List (Choice α)} {line : Text} {value : α}
    (judged : judgeOne question choices line = .accept value) :
    SettlesOne question choices (some (.line line)) (.ok value) := by
  rcases judgeOne_cases question choices line with
    ⟨stopped, -⟩ | ⟨index, choice, accepted, filled, goesOn, picks, found⟩ | ⟨again, -⟩
  · cases stopped.symm.trans judged
  · cases accepted.symm.trans judged
    exact .picked filled goesOn picks found
  · cases again.symm.trans judged

theorem judgeOne_eq_giveUp {choices : List (Choice α)} {line : Text} {failure : Failure}
    (judged : judgeOne question choices line = .giveUp failure) :
    SettlesOne question choices (some (.line line)) (.error failure) := by
  rcases judgeOne_cases question choices line with
    ⟨stopped, blank | word⟩ | ⟨index, choice, accepted, -⟩ | ⟨again, -⟩
  · cases stopped.symm.trans judged
    exact .blank blank
  · cases stopped.symm.trans judged
    exact .word word
  · cases accepted.symm.trans judged
  · cases again.symm.trans judged

theorem Settles.settlesOne {choices : List (Choice α)}
    (settles : Settles question (judgeOne question choices) last result) :
    SettlesOne question choices last result := by
  cases settles with
  | ended => exact .ended
  | interrupted => exact .interrupted
  | accepted judged => exact judgeOne_eq_accept judged
  | givenUp judged => exact judgeOne_eq_giveUp judged

/-- A value that is chosen was offered. -/
theorem SettlesOne.offered {choices : List (Choice α)} {value : α}
    (settles : SettlesOne question choices last (.ok value)) :
    ∃ choice ∈ choices, choice.value = value := by
  cases settles with
  | picked filled goesOn picks found => exact ⟨_, List.mem_of_getElem? found, rfl⟩

theorem showChoices_ask_eq {β : Type} {choices : List (Choice β)} {table : Text}
    (drawn : Screen.optionTable (choices.map Choice.label) = .ok (table ++ "\n"))
    (prompt : Text) (judge : Text → Verdict α) (terminal : Terminal) :
    (showChoices question choices >>= fun _ => ask prompt question judge) terminal =
      settle (Screen.plain prompt) question judge terminal.answers
        (terminal.transcript ++ tableOf question table) := by
  rw [bind_apply, showChoices_eq drawn]
  rfl

/-- Choosing one reads the answers up to the first one that settles the question.  It shows the
table once, and a complaint for every answer before that one.  What is chosen was offered, and the
answers behind are left as they are and make no difference. -/
theorem select_reads_until_settled (question : Text) (choices : List (Choice α))
    (answers : List Answer) (transcript : List Exchange) :
    ∃ (table : Text) (earlier : List Text) (last : Option Answer) (later : List Answer)
      (result : Except Failure α) (added : List Exchange),
      Screen.optionTable (choices.map Choice.label) = .ok (table ++ "\n") ∧
      answers = earlier.map .line ++ (last.toList ++ later) ∧ (last = none → later = []) ∧
      (∀ line ∈ earlier, Unsettling (choices.map Choice.label) line) ∧
      SettlesOne question choices last result ∧
      added = tableOf question table ++
        (earlier.flatMap fun line =>
          round (Screen.plain onePrompt) line (invalidChoice choices.length)) ++
        lastRound (Screen.plain onePrompt) last ∧
      select question choices ⟨answers, transcript⟩ = (result, ⟨later, transcript ++ added⟩) ∧
      (∀ value, result = .ok value → ∃ choice ∈ choices, choice.value = value) ∧
      ∀ others : List Answer, (last = none → others = []) →
        select question choices ⟨earlier.map .line ++ (last.toList ++ others), transcript⟩ =
          (result, ⟨others, transcript ++ added⟩) := by
  obtain ⟨table, drawn⟩ := Screen.optionTable_eq_ok (choices.map Choice.label)
  obtain ⟨earlier, last, later, result, rfl, complete, rejected, settles⟩ :=
    exists_settles question (judgeOne question choices) answers
  have judged : ∀ line ∈ earlier,
      judgeOne question choices line = .again (invalidChoice choices.length) := by
    intro line member
    obtain ⟨complaint, again⟩ := rejected line member
    rw [again, (judgeOne_eq_again again).1]
  have selected : ∀ others : List Answer, (last = none → others = []) →
      select question choices ⟨earlier.map .line ++ (last.toList ++ others), transcript⟩ =
        (result, ⟨others, transcript ++ (tableOf question table ++
          (earlier.flatMap fun line =>
            round (Screen.plain onePrompt) line (invalidChoice choices.length)) ++
          lastRound (Screen.plain onePrompt) last)⟩) := by
    intro others complete
    refine (showChoices_ask_eq drawn onePrompt (judgeOne question choices) _).trans ?_
    rw [settle_append judged, settles.settle_eq others complete]
    simp only [List.append_assoc]
  refine ⟨table, earlier, last, later, result, _, drawn, rfl, complete, fun line member => ?_,
    settles.settlesOne, rfl, selected later complete, ?_, selected⟩
  · obtain ⟨complaint, again⟩ := rejected line member
    exact (judgeOne_eq_again again).2
  · rintro value rfl
    exact settles.settlesOne.offered

end Dialogue

end HelperKit
