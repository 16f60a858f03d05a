import HelperKit.Proofs.Dialogue.Failing
import HelperKit.Proofs.Dialogue.Reaching
import HelperKit.Proofs.Settings.Store

/-!
# What a first run gathers

The questions of a first run take their answers one behind the other: those for the runtime, for
the directory, for the features and for the layout.  What they gather is a project that can be
used as it stands: its directory is there, and its features are those of a preset or those that
were meant, of which there is at least one.
-/

namespace HelperKit

namespace Dialogue

/-- Answers locate a directory: the last one names a directory of the disk, and those before it
name something else. -/
inductive LocatedBy (disk : Disk) : List Answer → Text → Prop where
  | behind {rejected : List Text} {line : Text}
      (absent : ∀ other ∈ rejected, other.strip ≠ [] ∧
        disk.isDirectory (.ofText other.strip) = .ok false)
      (filled : line.strip ≠ []) (there : disk.isDirectory (.ofText line.strip) = .ok true) :
      LocatedBy disk (rejected.map .line ++ [.line line]) line.strip

theorem judgeDirectory_eq_again_iff {disk : Disk} {line : Text} :
    (∃ complaint, judgeDirectory disk line = .again complaint) ↔
      line.strip ≠ [] ∧ disk.isDirectory (.ofText line.strip) = .ok false := by
  unfold judgeDirectory
  by_cases blank : line.strip = []
  · simp [blank]
  · simp only [if_neg blank]
    split <;> simp_all

theorem judgeDirectory_eq_accept_iff {disk : Disk} {line directory : Text} :
    judgeDirectory disk line = .accept directory ↔
      line.strip = directory ∧ line.strip ≠ [] ∧
        disk.isDirectory (.ofText line.strip) = .ok true := by
  unfold judgeDirectory
  by_cases blank : line.strip = []
  · simp [blank]
  · simp only [if_neg blank]
    split <;> simp_all

theorem locatedBy_iff {disk : Disk} {taken : List Answer} {directory : Text} :
    LocatedBy disk taken directory ↔ TakenBy (judgeDirectory disk) taken directory := by
  constructor
  · intro located
    cases located with
    | @behind rejected line absent filled there =>
        exact ⟨rejected, line, rfl,
          fun other member => judgeDirectory_eq_again_iff.mpr (absent other member),
          judgeDirectory_eq_accept_iff.mpr ⟨rfl, filled, there⟩⟩
  · rintro ⟨rejected, line, rfl, again, judged⟩
    obtain ⟨rfl, filled, there⟩ := judgeDirectory_eq_accept_iff.mp judged
    exact .behind (fun other member => judgeDirectory_eq_again_iff.mp (again other member)) filled
      there

theorem LocatedBy.takes {disk : Disk} {taken : List Answer} {directory : Text}
    (located : LocatedBy disk taken directory) :
    ∃ added, Takes (askDirectory disk) taken directory added :=
  (locatedBy_iff.mp located).takes _ directoryQuestion

theorem gathers_askDirectory (disk : Disk) :
    Gathers (askDirectory disk) fun taken _ directory => LocatedBy disk taken directory :=
  (gathers_ask _ directoryQuestion (judgeDirectory disk)).mono fun _ _ _ _ taken =>
    locatedBy_iff.mpr taken

/-- Answers name features: they choose a preset, or they select features by hand.  These are then
those that the last answer means, in the order of the catalog. -/
inductive NamedBy : Bool → List Answer → Selection → Prop where
  | preset {taken : List Answer} {bundle : Preset} (chosen : ChosenBy presetChoices taken bundle) :
      NamedBy true taken (.preset bundle)
  | custom {taken : List Answer} {line : Text} {features : List Feature}
      {nonempty : features ≠ []} {nodup : features.Nodup}
      (selected : SelectedBy (featureChoices Feature.all) 1 taken features)
      (ordered : features.Sublist Feature.all) (last : taken.getLast? = some (.line line))
      (mem_iff : ∀ feature, feature ∈ features ↔
        Means (featureChoices Feature.all) line.strip feature) :
      NamedBy false taken (.custom features nonempty nodup)

/-- Answers settle the features: the first ones choose in which way the others name them. -/
inductive FeaturedBy : List Answer → Selection → Prop where
  | inOrder {way named : List Answer} {fromPreset : Bool} {selection : Selection}
      (chosen : ChosenBy wayChoices way fromPreset)
      (namedBy : NamedBy fromPreset named selection) : FeaturedBy (way ++ named) selection

theorem SelectedBy.usable {taken : List Answer} {features : List Feature}
    (selected : SelectedBy (featureChoices Feature.all) 1 taken features) :
    features ≠ [] ∧ features.Nodup ∧ features.Sublist Feature.all := by
  obtain ⟨ordered, enough, -⟩ := selected.selected_eq
  rw [values_featureChoices] at ordered
  exact ⟨List.ne_nil_of_length_pos enough, ordered.nodup (by decide), ordered⟩

theorem askCustom_next {features : List Feature} (nonempty : features ≠ []) (nodup : features.Nodup) :
    Selection.ofFeatureNames (features.map fun feature => .string (Text.ofString feature.name)) =
      .ok (.custom features nonempty nodup) := by
  rw [ofFeatureNames_of_ne_nil nonempty]
  simp only [Selection.ofFeatures, distinct_eq_self nodup]

/-- What is asked for features that are named in one of the two ways. -/
def askNamed (fromPreset : Bool) : Dialogue Selection :=
  if fromPreset then do
    let bundle ← select "Which crab-safe features do you want?" presetChoices
    pure (.preset bundle)
  else askCustom

theorem askSelection_eq :
    askSelection = select "How would you like to choose features?" wayChoices >>= askNamed := rfl

theorem gathers_askCustom :
    Gathers askCustom fun taken _ selection => NamedBy false taken selection := by
  refine Gathers.mono (@Gathers.bind _ _ _ _ _ (fun features taken _ selection => taken = [] ∧
    ∃ nonempty nodup, selection = .custom features nonempty nodup)
    (gathers_multiSelect _ (featureChoices Feature.all) 1)
    fun taken added features selected => ?_) ?_
  · obtain ⟨nonempty, nodup, -⟩ := selected.usable
    rw [askCustom_next nonempty nodup]
    exact (gathers_pure _).mono fun _ _ _ _ ⟨nothing, _, same⟩ => ⟨nothing, nonempty, nodup, same⟩
  · rintro _ _ selection - ⟨front, _, features, _, _, rfl, -, -, selected, -, rfl, nonempty, nodup, rfl⟩
    obtain ⟨-, -, line, last, mem_iff⟩ := selected.selected_eq
    rw [List.append_nil]
    exact .custom selected selected.usable.2.2 last mem_iff

theorem gathers_askNamed (fromPreset : Bool) :
    Gathers (askNamed fromPreset) fun taken _ selection => NamedBy fromPreset taken selection := by
  cases fromPreset with
  | false => exact gathers_askCustom
  | true =>
      refine ((gathers_select _ presetChoices).bind fun _ _ bundle _ => gathers_pure _).mono ?_
      rintro _ _ selection - ⟨front, _, bundle, _, _, rfl, -, -, chosen, -, rfl, -, rfl⟩
      rw [List.append_nil]
      exact .preset chosen

theorem gathers_askSelection :
    Gathers askSelection fun taken _ selection => FeaturedBy taken selection := by
  rw [askSelection_eq]
  refine ((gathers_select _ wayChoices).bind fun _ _ fromPreset _ =>
    gathers_askNamed fromPreset).mono ?_
  rintro _ _ selection - ⟨way, _, fromPreset, named, _, rfl, -, -, chosen, -, namedBy⟩
  exact .inOrder chosen namedBy

theorem NamedBy.takes {fromPreset : Bool} {taken : List Answer} {selection : Selection}
    (namedBy : NamedBy fromPreset taken selection) :
    ∃ added, Takes (askNamed fromPreset) taken selection added := by
  cases namedBy with
  | @preset _ bundle chosen =>
      obtain ⟨added, takes⟩ := chosen.takes "Which crab-safe features do you want?"
      have whole : Takes (askNamed true) (taken ++ []) (.preset bundle) (added ++ []) :=
        takes.bind (takes_pure _)
      rw [List.append_nil] at whole
      exact ⟨_, whole⟩
  | @custom _ _ features nonempty nodup selected =>
      obtain ⟨added, takes⟩ := selected.takes "Select which features you want"
      have whole : Takes (askNamed false) (taken ++ []) (.custom features nonempty nodup)
          (added ++ []) := by
        refine takes.bind ?_
        rw [askCustom_next nonempty nodup]
        exact takes_pure _
      rw [List.append_nil] at whole
      exact ⟨_, whole⟩

theorem FeaturedBy.takes {taken : List Answer} {selection : Selection}
    (featuredBy : FeaturedBy taken selection) :
    ∃ added, Takes askSelection taken selection added := by
  rw [askSelection_eq]
  cases featuredBy with
  | inOrder chosen namedBy =>
      obtain ⟨shown, first⟩ := chosen.takes "How would you like to choose features?"
      obtain ⟨more, second⟩ := namedBy.takes
      exact ⟨shown ++ more, first.bind second⟩

/-! ## The whole run -/

/-- Answers to the four questions of a first run. -/
structure Interview where
  runtime : List Answer
  directory : List Answer
  selection : List Answer
  layout : List Answer

/-- The answers in the order in which they are given. -/
def Interview.answers (interview : Interview) : List Answer :=
  interview.runtime ++ (interview.directory ++ (interview.selection ++ interview.layout))

/-- The answers describe a project: those to each of the questions settle its part of it. -/
structure Interview.Describes (interview : Interview) (disk : Disk) (project : Project) : Prop where
  runtime : ChosenBy runtimeChoices interview.runtime project.runtime
  directory : LocatedBy disk interview.directory project.directory
  selection : FeaturedBy interview.selection project.selection
  layout : ChosenBy layoutChoices interview.layout project.layout

/-- The questions take their answers one behind the other, and each adds to the transcript what is
behind that of the one before. -/
def Interview.InOrder (interview : Interview) (disk : Disk) (project : Project)
    (added : List Exchange) : Prop :=
  ∃ first second third fourth, added = first ++ (second ++ (third ++ fourth)) ∧
    Takes askRuntime interview.runtime project.runtime first ∧
    Takes (askDirectory disk) interview.directory project.directory second ∧
    Takes askSelection interview.selection project.selection third ∧
    Takes askLayout interview.layout project.layout fourth

theorem Interview.InOrder.takes {interview : Interview} {disk : Disk} {project : Project}
    {added : List Exchange} (inOrder : interview.InOrder disk project added) :
    Takes (askProject disk) interview.answers project added := by
  obtain ⟨first, second, third, fourth, rfl, runtime, directory, selection, layout⟩ := inOrder
  have last : Takes (askLayout >>= fun layout =>
      pure ⟨project.runtime, project.directory, project.selection, layout⟩)
      (interview.layout ++ []) project (fourth ++ []) := layout.bind (takes_pure _)
  rw [List.append_nil, List.append_nil] at last
  rw [askProject_eq]
  exact runtime.bind (directory.bind (selection.bind last))

theorem gathers_askProject (disk : Disk) :
    Gathers (askProject disk) fun taken added project => ∃ interview : Interview,
      taken = interview.answers ∧ interview.Describes disk project ∧
        interview.InOrder disk project added := by
  rw [askProject_eq]
  refine ((gathers_select _ runtimeChoices).bind fun _ _ runtime _ =>
    (gathers_askDirectory disk).bind fun _ _ directory _ =>
    gathers_askSelection.bind fun _ _ selection _ =>
    (gathers_select _ layoutChoices).bind fun _ _ layout _ => gathers_pure _).mono ?_
  rintro _ _ project - ⟨runtimes, first, runtime, _, _, rfl, rfl, takesRuntime, byRuntime, -,
    directories, second, directory, _, _, rfl, rfl, takesDirectory, byDirectory, -,
    selections, third, selection, _, _, rfl, rfl, takesSelection, bySelection, -,
    layouts, fourth, layout, _, _, rfl, rfl, takesLayout, byLayout, -, rfl, rfl, rfl⟩
  rw [List.append_nil, List.append_nil]
  exact ⟨⟨runtimes, directories, selections, layouts⟩, rfl,
    ⟨byRuntime, byDirectory, bySelection, byLayout⟩, first, second, third, fourth, rfl,
    takesRuntime, takesDirectory, takesSelection, takesLayout⟩

/-- A first run yields nothing but projects that can be used as they stand.  It fails only because
a question is cancelled or an answer is too long for the disk to look for it, and never because a
choice is missing or refused.  When it returns, it has taken answers to its questions one behind
the other, which describe the project; whatever is described so is returned.  A project that it
returns is loaded as it is, wherever it could be saved. -/
theorem askProject_yields_usable (disk : Disk) (answers : List Answer) (before : List Exchange) :
    (∀ failure after, askProject disk ⟨answers, before⟩ = (.error failure, after) →
      (∀ field, failure ≠ .missingField field) ∧ (∀ complaints, failure ≠ .rejected complaints) ∧
      ((∃ question, failure = .cancelled question) ∨
        ∃ added line fault, after.transcript = before ++ added ∧
          .read (some (.line line)) ∈ added ∧ Disk.Overlong (.ofText line.strip) fault ∧
          failure = .ofFault fault)) ∧
    (∀ project after, askProject disk ⟨answers, before⟩ = (.ok project, after) →
      (∃ (interview : Interview) (added : List Exchange),
        answers = interview.answers ++ after.answers ∧ after.transcript = before ++ added ∧
        interview.Describes disk project ∧ interview.InOrder disk project added) ∧
      ∀ (store : Store) (workspace saved : Workspace),
        store.save project workspace = (.ok (), saved) →
        (store.load saved).1 = .ok (some project)) ∧
    ∀ (interview : Interview) (project : Project), interview.Describes disk project →
      ∃ added, Takes (askProject disk) interview.answers project added := by
  refine ⟨fun failure after failed => ?_, fun project after returned => ⟨?_, ?_⟩,
    fun interview project describes => ?_⟩
  · obtain ⟨added, grown, located⟩ := (tells_askProject disk).of_eq failed
    cases located with
    | cancelled question => exact ⟨by simp, by simp, .inl ⟨question, rfl⟩⟩
    | overlong read overlong =>
        cases overlong with
        | mk long =>
            exact ⟨by simp [Failure.ofFault], by simp [Failure.ofFault],
              .inr ⟨added, _, _, grown, read, .mk long, rfl⟩⟩
  · obtain ⟨_, added, split, grown, -, interview, rfl, describes, inOrder⟩ :=
      gathers_askProject disk _ _ _ _ returned
    exact ⟨interview, added, split, grown, describes, inOrder⟩
  · exact fun store workspace saved => store.load_of_save
  · obtain ⟨first, runtime⟩ := describes.runtime.takes "What project are you bringing crabSafe into?"
    obtain ⟨second, directory⟩ := describes.directory.takes
    obtain ⟨third, selection⟩ := describes.selection.takes
    obtain ⟨fourth, layout⟩ := describes.layout.takes
      "Do you want the crabSafe implementations to be in separate files or in the same file?"
    have inOrder : interview.InOrder disk project (first ++ (second ++ (third ++ fourth))) :=
      ⟨first, second, third, fourth, rfl, runtime, directory, selection, layout⟩
    exact ⟨_, inOrder.takes⟩

/-- Three of the questions are asked again, and the last answer is left. -/
theorem askProject_yields_usable_here :
    let disk : Disk := ⟨fun location => if location = [] then some .directory else none, []⟩
    let answers : List Answer := [.line "four", .line "2", .line "nowhere", .line " . ",
      .line "custom", .line "0", .line "result, CORE", .line "2", .line "y"]
    let project : Project :=
      ⟨.nodeJs, ".", .custom [.core, .result] (by decide) (by decide), .splitFiles⟩
    ∃ (after : Terminal) (interview : Interview),
      askProject disk ⟨answers, []⟩ = (.ok project, after) ∧ after.answers = [.line "y"] ∧
      answers = interview.answers ++ [.line "y"] ∧ interview.Describes disk project ∧
      ∃ added, Takes (askProject disk) interview.answers project added := by
  intro disk answers project
  have returned : (fun reached : Except Failure Project × Terminal =>
      decide (reached.1 = .ok project) && decide (reached.2.answers = [.line "y"]))
      (askProject disk ⟨answers, []⟩) = true := by decide +kernel
  obtain ⟨yielded, left⟩ := Bool.and_eq_true_iff.mp returned
  have left := of_decide_eq_true left
  obtain ⟨-, usable, described⟩ := askProject_yields_usable disk answers []
  obtain ⟨⟨interview, -, split, -, describes, -⟩, -⟩ :=
    usable project _ (Prod.ext (of_decide_eq_true yielded) rfl)
  exact ⟨_, interview, Prod.ext (of_decide_eq_true yielded) rfl, left, left ▸ split, describes,
    described interview project describes⟩

end Dialogue

end HelperKit
