import HelperKit.Proofs.Dialogue.Choosing
import Mathlib.Data.List.Sort

/-!
# Selecting several choices

An answer selects the choices that its parts pick, whichever way they do: it makes no difference
in what order the parts stand, whether one is repeated, and whether it is a number or a label.  A
question for several choices is settled by an interruption, by a word that gives up, or by an
answer whose parts all pick a choice and which selects as many as are asked for.
-/

namespace HelperKit

namespace Dialogue

variable {α : Type} {question : Text} {choices : List (Choice α)} {labels : List Text}
  {minimum : Nat} {line answer other : Text} {places : List Nat} {selected : List α}
  {last : Option Answer}

/-! ## What an answer selects -/

/-- An answer mentions the choice at a place: one of its parts picks the choice. -/
def Mentions (labels : List Text) (answer : Text) (place : Nat) : Prop :=
  ∃ part ∈ parts answer, Picks labels part place

/-- An answer selects the choices at some places, each once and in the order of the table: its
parts all pick a choice, and these are the places that it mentions. -/
structure Selects (labels : List Text) (answer : Text) (places : List Nat) : Prop where
  matched : ∀ part ∈ parts answer, ∃ place, Picks labels part place
  ordered : places.Pairwise (· < ·)
  mem_iff : ∀ place, place ∈ places ↔ Mentions labels answer place

/-- The values of the choices at some places, all of which are offered. -/
def Values (choices : List (Choice α)) (places : List Nat) (selected : List α) : Prop :=
  selected.map some = places.map fun place => choices[place]?.map Choice.value

/-- A part of an answer stands between two commas, without the blanks around it, and is not
empty. -/
theorem mem_parts_iff {part : Text} :
    part ∈ parts answer ↔ part ≠ [] ∧ ∃ piece ∈ answer.splitOn (.char ','), piece.strip = part := by
  simp [parts, and_comm]

/-- What an answer selects depends on what it mentions alone. -/
theorem Selects.places_eq {others : List Nat} (selects : Selects labels answer places)
    (selectsToo : Selects labels other others)
    (same : ∀ place, Mentions labels answer place ↔ Mentions labels other place) :
    places = others := by
  refine selects.ordered.eq_of_mem_iff selectsToo.ordered fun place => ?_
  rw [selects.mem_iff, selectsToo.mem_iff, same]

theorem Values.eq {others : List α} (values : Values choices places selected)
    (valuesToo : Values choices places others) : selected = others :=
  List.map_injective_iff.mpr (Option.some_injective α) (values.trans valuesToo.symm)

theorem Values.length_eq (values : Values choices places selected) :
    selected.length = places.length := by
  simpa using congrArg List.length values

theorem Selects.length_le (selects : Selects labels answer places) :
    places.length ≤ labels.length := by
  have distinct : places.Nodup := selects.ordered.imp fun before => Nat.ne_of_lt before
  have offered : places ⊆ List.range labels.length := by
    intro place member
    obtain ⟨part, -, picks⟩ := (selects.mem_iff place).mp member
    exact List.mem_range.mpr picks.offered
  simpa using (List.subperm_of_subset distinct offered).length_le

section Collecting

variable {β γ : Type} {find : β → Option γ} {items : List β} {found : List γ}

theorem mapM_cons_eq_bind (find : β → Option γ) (item : β) (items : List β) :
    (item :: items).mapM find =
      (find item).bind fun value => (items.mapM find).bind fun rest => some (value :: rest) :=
  List.mapM_cons

theorem mapM_eq_some_iff : items.mapM find = some found ↔ items.map find = found.map some := by
  induction items generalizing found with
  | nil => cases found <;> simp
  | cons item items induction =>
      rw [mapM_cons_eq_bind, List.map_cons]
      cases found with
      | nil => simp [Option.bind_eq_some_iff]
      | cons value rest =>
          rw [List.map_cons, List.cons.injEq, ← induction]
          simp [Option.bind_eq_some_iff]

theorem exists_of_mapM_eq_none (missing : items.mapM find = none) :
    ∃ item ∈ items, find item = none := by
  induction items with
  | nil => cases missing
  | cons item items induction =>
      rw [mapM_cons_eq_bind] at missing
      cases first : find item with
      | none => exact ⟨item, List.mem_cons_self, first⟩
      | some value =>
          cases rest : items.mapM find with
          | none =>
              obtain ⟨other, member, missed⟩ := induction rest
              exact ⟨other, List.mem_cons_of_mem item member, missed⟩
          | some values =>
              rw [first, rest] at missing
              cases missing

end Collecting

theorem values_valuesAt (choices : List (Choice α)) (indices : List Nat) :
    Values choices ((List.range choices.length).filter (· ∈ indices))
      (valuesAt choices indices) := by
  have read : ∀ entry ∈ choices.zipIdx,
      some entry.1.value = choices[entry.2]?.map Choice.value := by
    intro entry member
    rw [List.mem_zipIdx_iff_getElem?.mp member]
    rfl
  have filtered : ((choices.zipIdx.filter fun entry => entry.2 ∈ indices).map Prod.snd) =
      (List.range choices.length).filter (· ∈ indices) := by
    rw [List.range_eq_range', ← List.zipIdx_map_snd 0 choices, List.filter_map]
    rfl
  unfold Values valuesAt
  rw [← filtered, List.map_map, List.map_map]
  exact List.map_congr_left fun entry member => read entry (List.mem_of_mem_filter member)

theorem sublist_valuesAt (choices : List (Choice α)) (indices : List Nat) :
    (valuesAt choices indices).Sublist (choices.map Choice.value) := by
  have whole : choices.zipIdx.map (fun entry => entry.1.value) = choices.map Choice.value := by
    calc choices.zipIdx.map (fun entry => entry.1.value)
        = (choices.zipIdx.map Prod.fst).map Choice.value := by
          rw [List.map_map]
          rfl
      _ = choices.map Choice.value := by rw [List.zipIdx_map_fst]
  have part : (choices.zipIdx.filter fun entry => entry.2 ∈ indices).Sublist choices.zipIdx :=
    List.filter_sublist
  rw [← whole]
  exact part.map fun entry => entry.1.value

theorem values_featureChoices (features : List Feature) :
    (featureChoices features).map Choice.value = features := by
  rw [featureChoices, List.map_map]
  exact List.map_id features

/-- The places that the parts of an answer pick are selected. -/
theorem selects_of_indices {indices : List Nat}
    (found : (parts answer).mapM (fun part => pick? part labels) = some indices) :
    Selects labels answer ((List.range labels.length).filter (· ∈ indices)) := by
  rw [mapM_eq_some_iff] at found
  have mentioned : ∀ place, place ∈ indices ↔ Mentions labels answer place := by
    intro place
    have collected : some place ∈ indices.map some ↔ place ∈ indices := by simp
    rw [← collected, ← found, List.mem_map]
    exact exists_congr fun part => and_congr_right fun _ => pick?_eq_some_iff
  refine ⟨fun part member => ?_, List.pairwise_lt_range.filter _, fun place => ?_⟩
  · have picked : pick? part labels ∈ indices.map some := found ▸ List.mem_map_of_mem member
    obtain ⟨place, -, same⟩ := List.mem_map.mp picked
    exact ⟨place, pick?_eq_some_iff.mp same.symm⟩
  · rw [List.mem_filter, List.mem_range, decide_eq_true_eq, mentioned]
    exact and_iff_right_of_imp fun ⟨_, _, picks⟩ => picks.offered

theorem Selects.sublist (selects : Selects (choices.map Choice.label) answer places)
    (values : Values choices places selected) :
    selected.Sublist (choices.map Choice.value) := by
  have offered : places = (List.range choices.length).filter (· ∈ places) := by
    refine selects.ordered.eq_of_mem_iff (List.pairwise_lt_range.filter _) fun place => ?_
    rw [List.mem_filter, List.mem_range, decide_eq_true_eq, iff_and_self]
    intro listed
    obtain ⟨part, -, picks⟩ := (selects.mem_iff place).mp listed
    simpa using picks.offered
  have taken := values_valuesAt choices places
  rw [← offered] at taken
  rw [values.eq taken]
  exact sublist_valuesAt choices places

/-! ## Answers to a question -/

/-- The complaint about an answer that selects too few choices. -/
def tooFew (minimum : Nat) : Text :=
  "Select at least " ++ Text.ofNat minimum ++ " option(s)."

/-- A line that settles nothing, and the complaint about it: it does not give the question up, and
a part of it picks no choice, or they select too few. -/
inductive Insufficient (labels : List Text) (minimum : Nat) (line : Text) : Text → Prop where
  | unmatched {part : Text} (goesOn : line.strip.lower ∉ cancelWords)
      (inside : part ∈ parts line.strip) (none : ∀ place, ¬ Picks labels part place) :
      Insufficient labels minimum line "Invalid choice in selection."
  | few {places : List Nat} (goesOn : line.strip.lower ∉ cancelWords)
      (selects : Selects labels line.strip places) (few : places.length < minimum) :
      Insufficient labels minimum line (tooFew minimum)

/-- An answer that settles a question for several choices, and what comes of it. -/
inductive SettlesSeveral (question : Text) (choices : List (Choice α)) (minimum : Nat) :
    Option Answer → Except Failure (List α) → Prop where
  | ended : SettlesSeveral question choices minimum none (.error (.cancelled question))
  | interrupted :
      SettlesSeveral question choices minimum (some .interrupt) (.error (.cancelled question))
  | word {line : Text} (word : line.strip.lower ∈ cancelWords) :
      SettlesSeveral question choices minimum (some (.line line)) (.error (.cancelled question))
  | selected {line : Text} {places : List Nat} {selected : List α}
      (goesOn : line.strip.lower ∉ cancelWords)
      (selects : Selects (choices.map Choice.label) line.strip places)
      (enough : minimum ≤ places.length) (values : Values choices places selected) :
      SettlesSeveral question choices minimum (some (.line line)) (.ok selected)

/-- How a line is judged: it gives the question up, is complained about, or selects enough. -/
theorem judgeSeveral_cases (question : Text) (choices : List (Choice α)) (minimum : Nat)
    (line : Text) :
    (judgeSeveral question choices minimum line = .giveUp (.cancelled question) ∧
      line.strip.lower ∈ cancelWords) ∨
    (∃ complaint, judgeSeveral question choices minimum line = .again complaint ∧
      Insufficient (choices.map Choice.label) minimum line complaint) ∨
    ∃ selected, judgeSeveral question choices minimum line = .accept selected ∧
      SettlesSeveral question choices minimum (some (.line line)) (.ok selected) := by
  by_cases stops : isCancel line.strip = true
  · exact .inl ⟨if_pos stops, isCancel_iff.mp stops⟩
  · have goesOn : line.strip.lower ∉ cancelWords := fun word => stops (isCancel_iff.mpr word)
    unfold judgeSeveral
    simp only [if_neg stops]
    cases found : (parts line.strip).mapM fun part => pick? part (choices.map Choice.label) with
    | none =>
        obtain ⟨part, inside, unpicked⟩ := exists_of_mapM_eq_none found
        refine .inr (.inl ⟨_, rfl, .unmatched goesOn inside fun place picks => ?_⟩)
        cases (pick?_eq_some_iff.mpr picks).symm.trans unpicked
    | some indices =>
        have selects := selects_of_indices found
        have values := values_valuesAt choices indices
        rw [List.length_map] at selects
        by_cases few : (valuesAt choices indices).length < minimum
        · refine .inr (.inl ⟨_, if_pos few, .few goesOn selects ?_⟩)
          rwa [← values.length_eq]
        · refine .inr (.inr ⟨_, if_neg few, .selected goesOn selects ?_ values⟩)
          rw [← values.length_eq]
          exact Nat.le_of_not_lt few

theorem judgeSeveral_eq_again {complaint : Text}
    (judged : judgeSeveral question choices minimum line = .again complaint) :
    Insufficient (choices.map Choice.label) minimum line complaint := by
  rcases judgeSeveral_cases question choices minimum line with
    ⟨stopped, -⟩ | ⟨_, again, insufficient⟩ | ⟨_, accepted, -⟩
  · cases stopped.symm.trans judged
  · cases again.symm.trans judged
    exact insufficient
  · cases accepted.symm.trans judged

theorem Settles.settlesSeveral {result : Except Failure (List α)}
    (settles : Settles question (judgeSeveral question choices minimum) last result) :
    SettlesSeveral question choices minimum last result := by
  cases settles with
  | ended => exact .ended
  | interrupted => exact .interrupted
  | @accepted line value judged =>
      rcases judgeSeveral_cases question choices minimum line with
        ⟨stopped, -⟩ | ⟨_, again, -⟩ | ⟨_, accepted, settles⟩
      · cases stopped.symm.trans judged
      · cases again.symm.trans judged
      · cases accepted.symm.trans judged
        exact settles
  | @givenUp line failure judged =>
      rcases judgeSeveral_cases question choices minimum line with
        ⟨stopped, word⟩ | ⟨_, again, -⟩ | ⟨_, accepted, -⟩
      · cases stopped.symm.trans judged
        exact .word word
      · cases again.symm.trans judged
      · cases accepted.symm.trans judged

/-- An answer that selects enough is accepted. -/
theorem judgeSeveral_of_selects (question : Text) (goesOn : line.strip.lower ∉ cancelWords)
    (selects : Selects (choices.map Choice.label) line.strip places)
    (enough : minimum ≤ places.length) (values : Values choices places selected) :
    judgeSeveral question choices minimum line = .accept selected := by
  rcases judgeSeveral_cases question choices minimum line with
    ⟨-, word⟩ | ⟨_, -, insufficient⟩ | ⟨accepted, judged, settles⟩
  · exact absurd word goesOn
  · cases insufficient with
    | unmatched _ inside none =>
        obtain ⟨place, picks⟩ := selects.matched _ inside
        exact absurd picks (none place)
    | few _ selectsToo few =>
        rw [selectsToo.places_eq selects fun _ => Iff.rfl] at few
        exact absurd few (Nat.not_lt_of_le enough)
  · cases settles with
    | selected _ selectsToo _ valuesToo =>
        rw [selectsToo.places_eq selects fun _ => Iff.rfl] at valuesToo
        rw [judged, valuesToo.eq values]

/-- An answer that does not settle the question is complained about. -/
theorem Insufficient.judged {complaint : Text} (question : Text)
    (insufficient : Insufficient (choices.map Choice.label) minimum line complaint) :
    ∃ told, judgeSeveral question choices minimum line = .again told := by
  rcases judgeSeveral_cases question choices minimum line with
    ⟨-, word⟩ | ⟨told, again, -⟩ | ⟨_, -, settles⟩
  · cases insufficient with
    | unmatched goesOn => exact absurd word goesOn
    | few goesOn => exact absurd word goesOn
  · exact ⟨told, again⟩
  · cases settles with
    | selected _ selects enough _ =>
        cases insufficient with
        | unmatched _ inside none =>
            obtain ⟨place, picks⟩ := selects.matched _ inside
            exact absurd picks (none place)
        | few _ selectsToo few =>
            rw [selectsToo.places_eq selects fun _ => Iff.rfl] at few
            exact absurd enough (Nat.not_le_of_lt few)

/-- Selecting several reads the answers up to the first one that settles the question.  It shows
the table once, and one complaint for every answer before that one.  What is selected are the
values that the answer mentions, each once and in the order of the table; there are as many as
are asked for, and no more than there are.  Any other answer that mentions the same choices,
behind whatever answers that settle nothing, selects the same. -/
theorem multiSelect_reads_until_settled (question : Text) (choices : List (Choice α))
    (minimum : Nat) (answers : List Answer) (transcript : List Exchange) :
    ∃ (table : Text) (earlier : List Text) (complaint : Text → Text) (last : Option Answer)
      (later : List Answer) (result : Except Failure (List α)) (added : List Exchange),
      Screen.optionTable (choices.map Choice.label) = .ok (table ++ "\n") ∧
      answers = earlier.map .line ++ (last.toList ++ later) ∧ (last = none → later = []) ∧
      (∀ line ∈ earlier, Insufficient (choices.map Choice.label) minimum line (complaint line)) ∧
      SettlesSeveral question choices minimum last result ∧
      added = tableOf question table ++
        (earlier.flatMap fun line => round (Screen.plain severalPrompt) line (complaint line)) ++
        lastRound (Screen.plain severalPrompt) last ∧
      multiSelect question choices minimum ⟨answers, transcript⟩ =
        (result, ⟨later, transcript ++ added⟩) ∧
      (∀ selected, result = .ok selected →
        minimum ≤ selected.length ∧ selected.length ≤ choices.length) ∧
      ∀ line selected, last = some (.line line) → result = .ok selected →
        ∀ other, other.strip.lower ∉ cancelWords →
          (∀ part ∈ parts other.strip, ∃ place, Picks (choices.map Choice.label) part place) →
          (∀ place, Mentions (choices.map Choice.label) line.strip place ↔
            Mentions (choices.map Choice.label) other.strip place) →
          ∀ (rejected : List Text) (others : List Answer) (before : List Exchange),
            (∀ line ∈ rejected, ∃ complaint,
              Insufficient (choices.map Choice.label) minimum line complaint) →
            ∃ after, multiSelect question choices minimum
              ⟨rejected.map .line ++ .line other :: others, before⟩ =
                (.ok selected, ⟨others, after⟩) := by
  obtain ⟨table, drawn⟩ := Screen.optionTable_eq_ok (choices.map Choice.label)
  -- Any run of the question over answers that are judged so, as it is needed for two of them.
  have runs : ∀ {earlier : List Text} {complaint : Text → Text} {last : Option Answer}
      {result : Except Failure (List α)},
      (∀ line ∈ earlier, judgeSeveral question choices minimum line = .again (complaint line)) →
      Settles question (judgeSeveral question choices minimum) last result →
      ∀ (later : List Answer) (before : List Exchange), (last = none → later = []) →
      multiSelect question choices minimum
          ⟨earlier.map .line ++ (last.toList ++ later), before⟩ =
        (result, ⟨later, before ++ (tableOf question table ++
          (earlier.flatMap fun line => round (Screen.plain severalPrompt) line (complaint line)) ++
          lastRound (Screen.plain severalPrompt) last)⟩) := by
    intro earlier complaint last result judged settles later before complete
    refine (showChoices_ask_eq drawn severalPrompt _ _).trans ?_
    rw [settle_append judged, settles.settle_eq later complete]
    simp only [List.append_assoc]
  obtain ⟨earlier, last, later, result, rfl, complete, rejected, settles⟩ :=
    exists_settles question (judgeSeveral question choices minimum) answers
  choose! complaint judged using rejected
  refine ⟨table, earlier, complaint, last, later, result, _, drawn, rfl, complete,
    fun line member => judgeSeveral_eq_again (judged line member), settles.settlesSeveral, rfl,
    runs judged settles later transcript complete, ?_, ?_⟩
  · rintro selected rfl
    cases settles.settlesSeveral with
    | selected _ selects enough values =>
        rw [values.length_eq]
        exact ⟨enough, by simpa using selects.length_le⟩
  · rintro line selected rfl rfl other goesOn matched same rejected others before insufficient
    have again : ∀ line ∈ rejected, ∃ told,
        judgeSeveral question choices minimum line = .again told := by
      intro line member
      obtain ⟨_, reason⟩ := insufficient line member
      exact reason.judged question
    choose! told judgedToo using again
    cases settles.settlesSeveral with
    | @selected _ places _ _ selects enough values =>
        have selectsToo : Selects (choices.map Choice.label) other.strip places :=
          ⟨matched, selects.ordered, fun place => (selects.mem_iff place).trans (same place)⟩
        have accepted := judgeSeveral_of_selects question goesOn selectsToo enough
          values
        exact ⟨_, runs judgedToo (.accepted accepted) others before (by simp)⟩

example : judgeSeveral "?" [⟨"One", 1⟩, ⟨"Two", 2⟩] 1 " 2,, ONE ,2" = .accept [1, 2] := rfl

end Dialogue

end HelperKit
