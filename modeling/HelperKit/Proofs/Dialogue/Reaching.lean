import HelperKit.Proofs.Console.Numbering
import HelperKit.Proofs.Dialogue.Taking
import HelperKit.Proofs.Text.Numeral

/-!
# What is shown is what is chosen

The row of a choice has the number by which the choice is picked.  It is picked by that number
however it is spelled, whatever the labels are, and by its label as long as that is not taken for
something else.  A number for which there is no row is nothing but a label.  In the tables of this
program every choice is reached by its number as well as by its label.
-/

namespace HelperKit

namespace Dialogue

variable {α : Type} {question : Text} {choices : List (Choice α)} {choice : Choice α}
  {labels : List Text} {line answer : Text} {index other minimum : Nat} {value : α}
  {digits : List Nat} {number : Int}

/-! ## What is picked -/

theorem head_cancelWords : ∀ word ∈ cancelWords, ∀ point, word.head? = some point →
    point ≠ .char '+' ∧ point ≠ .char '-' ∧ point.digit? = none := by
  decide +kernel

/-- What spells a number is not blank and does not give the question up. -/
theorem goesOn_of_spellsInteger (spells : answer.SpellsInteger digits number) :
    answer ≠ [] ∧ answer.lower ∉ cancelWords := by
  obtain ⟨point, first, begins⟩ := spells.head_lower
  refine ⟨?_, fun word => ?_⟩
  · rintro rfl
    cases first
  · obtain ⟨plus, minus, letter⟩ := head_cancelWords _ word point first
    rcases begins with rfl | rfl | digit
    · exact plus rfl
    · exact minus rfl
    · rw [letter] at digit
      cases digit

/-- A number for which there is no row: it is too small, too large, or too long to be read. -/
def Beyond (count : Nat) (digits : List Nat) (number : Int) : Prop :=
  number < 1 ∨ (count : Int) < number ∨ maximumDigits < digits.length

/-- A number for which there is no row is taken as a label. -/
theorem Picks.labelled (picks : Picks labels answer index)
    (spells : answer.SpellsInteger digits number) (beyond : Beyond labels.length digits number) :
    ∃ label, labels[index]? = some label ∧ label.lower = answer.lower := by
  cases picks with
  | number offered numbered =>
      rw [spells.toInt?_eq] at numbered
      split at numbered
      · rename_i short
        cases numbered
        rcases beyond with small | large | long
        · omega
        · omega
        · exact absurd short (Nat.not_le_of_lt long)
      · cases numbered
  | label unnumbered labelled same first => exact ⟨_, labelled, same⟩

/-- The number of a choice decides for it, however it is spelled. -/
theorem decides_of_spellsInteger (spells : line.strip.SpellsInteger digits ((index : Int) + 1))
    (short : digits.length ≤ maximumDigits) (offered : index < labels.length) :
    Decides labels line index := by
  obtain ⟨filled, goesOn⟩ := goesOn_of_spellsInteger spells
  exact ⟨filled, goesOn, .number offered (spells.toInt?_eq.trans (if_pos short))⟩

/-! ## What is chosen -/

/-- A line chooses a value: behind lines that settle nothing it settles the question so. -/
def Chooses (question : Text) (choices : List (Choice α)) (line : Text) (value : α) : Prop :=
  ∀ (rejected : List Text) (later : List Answer) (before : List Exchange),
    (∀ other ∈ rejected, Unsettling (choices.map Choice.label) other) →
    ∃ after, select question choices ⟨rejected.map .line ++ .line line :: later, before⟩ =
      (.ok value, ⟨later, after⟩)

/-- A line chooses a value alone: behind lines that settle nothing it settles a question for
several so. -/
def ChoosesAlone (question : Text) (choices : List (Choice α)) (minimum : Nat) (line : Text)
    (value : α) : Prop :=
  ∀ (rejected : List Text) (later : List Answer) (before : List Exchange),
    (∀ other ∈ rejected, ∃ complaint,
      Insufficient (choices.map Choice.label) minimum other complaint) →
    ∃ after, multiSelect question choices minimum
      ⟨rejected.map .line ++ .line line :: later, before⟩ = (.ok [value], ⟨later, after⟩)

/-- A line that decides for a choice chooses its value. -/
theorem Decides.chooses (decides : Decides (choices.map Choice.label) line index)
    (question : Text) (found : choices[index]? = some choice) :
    Chooses question choices line choice.value := by
  intro rejected later before unsettling
  obtain ⟨added, takes⟩ := (ChosenBy.behind unsettling decides found).takes question
  refine ⟨before ++ added, ?_⟩
  simpa using takes later before

/-- The line behind which a question for one choice is settled decides for that choice. -/
theorem decides_of_select {earlier later : List Answer} {before after : List Exchange}
    (chosen : select question choices ⟨earlier ++ .line line :: later, before⟩ =
      (.ok value, ⟨later, after⟩)) :
    ∃ index choice, Decides (choices.map Choice.label) line index ∧
      choices[index]? = some choice ∧ choice.value = value := by
  obtain ⟨taken, added, split, -, -, chosenBy⟩ := gathers_select question choices _ _ _ _ chosen
  have same : earlier ++ [.line line] = taken := by
    rw [← List.singleton_append, ← List.append_assoc] at split
    exact List.append_cancel_right split
  cases chosenBy with
  | behind unsettling decides found =>
      cases (List.append_inj' same rfl).2
      exact ⟨_, _, decides, found, rfl⟩

/-- A line without commas that decides for a choice chooses its value alone. -/
theorem Decides.choosesAlone (decides : Decides (choices.map Choice.label) line index)
    (single : .char ',' ∉ line.strip) (few : minimum ≤ 1) (question : Text)
    (found : choices[index]? = some choice) :
    ChoosesAlone question choices minimum line choice.value := by
  have parts : parts line.strip = [line.strip] := by
    rw [parts, Text.splitOn_of_notMem single, List.map_singleton, Text.strip_strip]
    simp [decides.filled]
  have selects : Selects (choices.map Choice.label) line.strip [index] := by
    refine ⟨fun part member => ?_, by simp, fun place => ?_⟩
    · rw [parts, List.mem_singleton] at member
      exact ⟨index, member ▸ decides.picks⟩
    · simp only [Mentions, parts, List.mem_singleton, exists_eq_left]
      exact ⟨fun same => same ▸ decides.picks, fun picks => picks.unique decides.picks⟩
  have values : Values choices [index] [choice.value] := by simp [Values, found]
  intro rejected later before insufficient
  obtain ⟨added, takes⟩ :=
    (SelectedBy.behind insufficient decides.goesOn selects few values).takes question
  refine ⟨before ++ added, ?_⟩
  simpa using takes later before

/-! ## The tables that are shown -/

/-- Every choice is chosen by the number of its row and by its label. -/
structure Reachable (choices : List (Choice α)) : Prop where
  numbered : ∀ question index choice, choices[index]? = some choice →
    Chooses question choices (Text.ofNat (index + 1)) choice.value
  labelled : ∀ question, ∀ choice ∈ choices, Chooses question choices choice.label choice.value

/-- Every choice is chosen alone by the number of its row and by its label. -/
structure ReachableAlone (choices : List (Choice α)) (minimum : Nat) : Prop where
  numbered : ∀ question index choice, choices[index]? = some choice →
    ChoosesAlone question choices minimum (Text.ofNat (index + 1)) choice.value
  labelled : ∀ question, ∀ choice ∈ choices,
    ChoosesAlone question choices minimum choice.label choice.value

/-- Labels that are taken for nothing else: a table has few of them, they are told apart in any
case of letters, and none is a number, gives the question up or has blanks at its ends. -/
structure Distinctive (labels : List Text) : Prop where
  few : labels.length < 10
  trimmed : ∀ label ∈ labels, label.strip = label
  filled : ∀ label ∈ labels, label ≠ []
  goesOn : ∀ label ∈ labels, label.lower ∉ cancelWords
  unnumbered : ∀ label ∈ labels, label.toInt? = none
  distinct : (labels.map Text.lower).Nodup

/-- A label decides for its choice. -/
theorem Distinctive.decides {label : Text} (distinctive : Distinctive labels)
    (known : labels[index]? = some label) : Decides labels label index := by
  have member := List.mem_of_getElem? known
  have trimmed := distinctive.trimmed label member
  have picks : Picks labels label index := by
    refine .label (fun other _ numbered => ?_) known rfl fun earlier before other found same => ?_
    · cases (distinctive.unnumbered label member).symm.trans numbered
    · have lowered : ∀ {place : Nat} {label : Text}, labels[place]? = some label →
          (labels.map Text.lower)[place]? = some label.lower := by
        intro place label known
        rw [List.getElem?_map, known, Option.map_some]
      have offered := (List.getElem?_eq_some_iff.mp (lowered found)).1
      have twice := (lowered found).trans ((congrArg some same).trans (lowered known).symm)
      exact Nat.ne_of_lt before ((List.getElem?_inj offered distinctive.distinct).mp twice)
  refine ⟨?_, ?_, ?_⟩
  · rw [trimmed]
    exact distinctive.filled label member
  · rw [trimmed]
    exact distinctive.goesOn label member
  · rw [trimmed]
    exact picks

theorem spellsInteger_row (index : Nat) (few : index < 9) : ∃ digits,
    (Text.ofNat (index + 1)).strip.SpellsInteger digits ((index : Int) + 1) ∧
      digits.length ≤ maximumDigits := by
  obtain ⟨digits, spells, size⟩ := Text.spellsInteger_ofNat (index + 1)
  have solid : ∀ point ∈ Text.ofNat (index + 1), point.isBlank = false := by
    intro point member
    have range := Text.mem_ofNat member
    exact Text.isBlank_of_visible (by omega)
  refine ⟨digits, (Text.strip_of_solid solid).symm ▸ spells, ?_⟩
  have single : (Text.ofNat (index + 1)).length = 1 := by
    rw [Text.ofNat, Nat.toDigits_of_lt_base (by omega)]
    rfl
  rw [size, single]
  decide

/-- The choices of a small table with distinctive labels are reached in both ways. -/
theorem Distinctive.reachable (distinctive : Distinctive (choices.map Choice.label)) :
    Reachable choices := by
  refine ⟨fun question index choice found => ?_, fun question choice member => ?_⟩
  · have offered := (List.getElem?_eq_some_iff.mp found).1
    have few : choices.length < 10 := by simpa using distinctive.few
    obtain ⟨digits, spells, short⟩ := spellsInteger_row index (by omega)
    exact (decides_of_spellsInteger spells short (by simpa using offered)).chooses question found
  · obtain ⟨index, found⟩ := List.getElem?_of_mem member
    exact (distinctive.decides (by simp [found])).chooses question found

theorem Distinctive.reachableAlone (distinctive : Distinctive (choices.map Choice.label))
    (single : ∀ choice ∈ choices, .char ',' ∉ choice.label) (few : minimum ≤ 1) :
    ReachableAlone choices minimum := by
  refine ⟨fun question index choice found => ?_, fun question choice member => ?_⟩
  · have offered := (List.getElem?_eq_some_iff.mp found).1
    have small : choices.length < 10 := by simpa using distinctive.few
    obtain ⟨digits, spells, short⟩ := spellsInteger_row index (by omega)
    exact (decides_of_spellsInteger spells short (by simpa using offered)).choosesAlone
      spells.comma_notMem few question found
  · obtain ⟨index, found⟩ := List.getElem?_of_mem member
    have trimmed := distinctive.trimmed _ (List.mem_map_of_mem member)
    have whole : .char ',' ∉ choice.label.strip := by
      rw [trimmed]
      exact single choice member
    exact (distinctive.decides (by simp [found])).choosesAlone whole few question found

/-- The choices of the first question about features. -/
def wayChoices : List (Choice Bool) :=
  [⟨"From Preset", true⟩, ⟨"Custom", false⟩]

/-- The choices of what to do with an artifact. -/
def nextStepChoices : List (Choice NextStep) :=
  [⟨"Modify package", .modify⟩, ⟨"Delete crabSafe", .delete⟩]

/-- The choices of what to modify. -/
def modifyChoices : List (Choice ModifyAction) :=
  [⟨"Add package", .add⟩, ⟨"Remove package", .remove⟩, ⟨"Go back", .back⟩]

theorem distinctive_runtimes : Distinctive (runtimeChoices.map Choice.label) := by
  constructor <;> decide +kernel

theorem distinctive_presets : Distinctive (presetChoices.map Choice.label) := by
  constructor <;> decide +kernel

theorem distinctive_layouts : Distinctive (layoutChoices.map Choice.label) := by
  constructor <;> decide +kernel

theorem distinctive_ways : Distinctive (wayChoices.map Choice.label) := by
  constructor <;> decide +kernel

theorem distinctive_nextSteps : Distinctive (nextStepChoices.map Choice.label) := by
  constructor <;> decide +kernel

theorem distinctive_modifications : Distinctive (modifyChoices.map Choice.label) := by
  constructor <;> decide +kernel

theorem distinctive_all : Distinctive ((featureChoices Feature.all).map Choice.label) := by
  constructor <;> decide +kernel

/-- Features have distinctive labels if none of them is offered twice. -/
theorem distinctive_features {features : List Feature} (nodup : features.Nodup) :
    Distinctive ((featureChoices features).map Choice.label) := by
  have labels : ∀ features, (featureChoices features).map Choice.label =
      features.map fun feature => Text.ofString feature.name := by
    intro features
    exact List.map_map
  have every := distinctive_all
  rw [labels] at every ⊢
  have offered : ∀ label ∈ features.map (fun feature => Text.ofString feature.name),
      label ∈ Feature.all.map fun feature => Text.ofString feature.name := by
    intro label member
    obtain ⟨feature, -, rfl⟩ := List.mem_map.mp member
    exact List.mem_map_of_mem feature.mem_all
  have distinct := every.distinct
  rw [List.map_map] at distinct
  constructor
  case few =>
    have size := (List.subperm_of_subset nodup fun feature _ => feature.mem_all).length_le
    rw [List.length_map]
    exact Nat.lt_of_le_of_lt size (by decide)
  case trimmed => exact fun label member => every.trimmed label (offered label member)
  case filled => exact fun label member => every.filled label (offered label member)
  case goesOn => exact fun label member => every.goesOn label (offered label member)
  case unnumbered => exact fun label member => every.unnumbered label (offered label member)
  case distinct =>
    rw [List.map_map]
    exact nodup.map_on fun first _ second _ same =>
      List.inj_on_of_nodup_map distinct first.mem_all second.mem_all same

theorem comma_notMem_features (features : List Feature) :
    ∀ choice ∈ featureChoices features, .char ',' ∉ choice.label := by
  intro choice member
  obtain ⟨feature, -, rfl⟩ := List.mem_map.mp member
  cases feature <;> decide

/-- What is shown is what is chosen.  A question for choices shows a table in which they are
numbered from one.  The number of a row decides for its choice, however it is spelled and whatever
the labels are.  So does a text that is equal to the label up to the case of letters, if it is not
the number of a row and no choice before has the same label.  A number for which there is no row
only picks a choice whose label it is.  In every table of the program all choices are reached by
their numbers and by their labels, and so are features of which none is offered twice. -/
theorem choices_are_reached_as_shown :
    (∀ {α : Type} (question : Text) (choices : List (Choice α)),
      (∀ terminal : Terminal, ∃ table, Screen.Numbers (choices.map Choice.label) table ∧
        showChoices question choices terminal = (.ok (), ⟨terminal.answers,
          terminal.transcript ++
            [.shown "\n", .shown (Screen.line question), .shown table]⟩)) ∧
      (∀ index choice, choices[index]? = some choice →
        (∀ line digits, line.strip.SpellsInteger digits ((index : Int) + 1) →
          digits.length ≤ maximumDigits →
          Decides (choices.map Choice.label) line index ∧
            Chooses question choices line choice.value) ∧
        ∀ line : Text, line.strip ≠ [] → line.strip.lower ∉ cancelWords →
          (∀ place < choices.length, line.strip.toInt? ≠ some ((place : Int) + 1)) →
          choice.label.lower = line.strip.lower →
          (∀ earlier < index, ∀ other, choices[earlier]? = some other →
            other.label.lower ≠ line.strip.lower) →
          Decides (choices.map Choice.label) line index ∧
            Chooses question choices line choice.value) ∧
      ∀ line digits number, line.strip.SpellsInteger digits number →
        Beyond choices.length digits number →
        (∀ index, Picks (choices.map Choice.label) line.strip index →
          ∃ choice, choices[index]? = some choice ∧ choice.label.lower = line.strip.lower) ∧
        ∀ (earlier later : List Answer) (before after : List Exchange) (value : α),
          select question choices ⟨earlier ++ .line line :: later, before⟩ =
            (.ok value, ⟨later, after⟩) →
          ∃ choice ∈ choices, choice.value = value ∧ choice.label.lower = line.strip.lower) ∧
    (Reachable runtimeChoices ∧ Reachable wayChoices ∧ Reachable presetChoices ∧
      Reachable layoutChoices ∧ Reachable nextStepChoices ∧ Reachable modifyChoices) ∧
    ((∃ next, askSelection =
        select "How would you like to choose features?" wayChoices >>= next) ∧
      askNextStep = select "What would you like to do?" nextStepChoices ∧
      askModifyAction = select "Choose aspect to modify" modifyChoices) ∧
    ∀ features : List Feature, features.Nodup →
      Reachable (featureChoices features) ∧
        ∀ minimum ≤ 1, ReachableAlone (featureChoices features) minimum := by
  refine ⟨fun {α} question choices => ⟨fun terminal => ?_, fun index choice found => ?_,
    fun line digits number spells beyond => ?_⟩, ?_, ⟨⟨_, rfl⟩, rfl, rfl⟩,
    fun features nodup => ?_⟩
  · obtain ⟨shown, drawn⟩ := Screen.optionTable_eq_ok (choices.map Choice.label)
    obtain ⟨table, drawnToo, numbers⟩ := Screen.optionTable_numbers (choices.map Choice.label)
    cases drawn.symm.trans drawnToo
    exact ⟨_, numbers, showChoices_eq drawn terminal⟩
  · have offered := (List.getElem?_eq_some_iff.mp found).1
    have known : (choices.map Choice.label)[index]? = some choice.label := by simp [found]
    constructor
    · intro line digits spells short
      have decides : Decides (choices.map Choice.label) line index :=
        decides_of_spellsInteger spells short (by simpa using offered)
      exact ⟨decides, decides.chooses question found⟩
    · intro line filled goesOn unnumbered same first
      have decides : Decides (choices.map Choice.label) line index := by
        refine ⟨filled, goesOn, .label (by simpa using unnumbered) known same ?_⟩
        intro earlier before other labelled
        rw [List.getElem?_map] at labelled
        obtain ⟨choice, foundToo, rfl⟩ := Option.map_eq_some_iff.mp labelled
        exact first earlier before choice foundToo
      exact ⟨decides, decides.chooses question found⟩
  · have labelled : ∀ index, Picks (choices.map Choice.label) line.strip index →
        ∃ choice, choices[index]? = some choice ∧ choice.label.lower = line.strip.lower := by
      intro index picks
      obtain ⟨label, known, same⟩ := picks.labelled spells (by simpa using beyond)
      rw [List.getElem?_map] at known
      obtain ⟨choice, found, rfl⟩ := Option.map_eq_some_iff.mp known
      exact ⟨choice, found, same⟩
    refine ⟨labelled, fun earlier later before after value chosen => ?_⟩
    obtain ⟨index, choice, decides, found, rfl⟩ := decides_of_select chosen
    obtain ⟨_, foundToo, same⟩ := labelled index decides.picks
    cases found.symm.trans foundToo
    exact ⟨choice, List.mem_of_getElem? found, rfl, same⟩
  · exact ⟨distinctive_runtimes.reachable, distinctive_ways.reachable,
      distinctive_presets.reachable, distinctive_layouts.reachable,
      distinctive_nextSteps.reachable, distinctive_modifications.reachable⟩
  · exact ⟨(distinctive_features nodup).reachable, fun minimum few =>
      (distinctive_features nodup).reachableAlone (comma_notMem_features features) few⟩

end Dialogue

end HelperKit
