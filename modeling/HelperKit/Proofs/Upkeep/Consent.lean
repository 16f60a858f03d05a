import HelperKit.Proofs.CommandLine.Course
import HelperKit.Proofs.Dialogue.Selecting
import HelperKit.Proofs.Upkeep.Tracking

/-!
# No change without consent

A handler asks for one confirmation at most.  Which one it is depends on how many features were
selected, and whether nothing would remain is found out from the features themselves; both
agree, because what is selected is a part of the features of the project.
-/

namespace HelperKit

namespace Text

/-- Nothing but an empty text has an empty lower-case form. -/
theorem lower_eq_nil {text : Text} (empty : text.lower = []) : text = [] := by
  cases text with
  | nil => rfl
  | cons point rest =>
      unfold lower lowerAfter at empty
      have formed := (List.append_eq_nil_iff.mp empty).1
      exfalso
      split at formed
      · split at formed <;> cases formed
      · unfold CodePoint.lower at formed
        split at formed
        · cases formed
        · split at formed
          · cases formed
          · split at formed
            · cases formed
            · split at formed <;> cases formed

end Text

namespace Dialogue

/-- The features that are selected are some of those on offer, in the same order. -/
theorem sublist_of_asked {prompt question : Text} {features selected : List Feature}
    {minimum : Nat} {added : List Exchange}
    (asked : Asked prompt question (judgeSeveral question (featureChoices features) minimum)
      (.ok selected) added) : selected.Sublist features := by
  rcases asked.decided with cancelled | ⟨line, -, ⟨value, judged, same⟩ | ⟨failure, -, failed⟩⟩
  · cases cancelled
  · cases same
    have settles : Settles question (judgeSeveral question (featureChoices features) minimum)
        (some (.line line)) (.ok selected) := .accepted judged
    cases settles.settlesSeveral with
    | selected goesOn selects enough values =>
        have part := selects.sublist values
        rwa [values_featureChoices] at part
  · cases failed

end Dialogue

namespace Upkeep

open Dialogue

/-- What stands before the answer to a yes-or-no question. -/
def confirmPrompt (message : Text) (standard : Bool) : Text :=
  Screen.plain
    (message ++ if standard then Text.ofString " [Y/n] " else Text.ofString " [y/N] ")

/-- The confirmations that handlers ask for, as they are shown. -/
def confirmations : List Exchange :=
  [.shown (confirmPrompt overwriteWarning false), .shown (confirmPrompt deleteWarning false),
    .shown (confirmPrompt emptyWarning true)]

/-- What is asked and answered when consent is given: a yes to any confirmation, or an empty
line to the one that is asked when no feature would remain. -/
inductive Consent : List Exchange → Prop where
  | yes {prompt line : Text} (asked : .shown prompt ∈ confirmations)
      (agreed : line.strip.lower = Text.ofString "y" ∨ line.strip.lower = Text.ofString "yes") :
      Consent [.shown prompt, .read (some (.line line))]
  | blank {line : Text} (empty : line.strip = []) :
      Consent [.shown (confirmPrompt emptyWarning true), .read (some (.line line))]

/-- Somewhere in a part of the transcript consent is given. -/
def Consented (added : List Exchange) : Prop :=
  ∃ front consent back, added = front ++ consent ++ back ∧ Consent consent

/-- The number of confirmations that are asked in a part of the transcript. -/
def confirmationCount (added : List Exchange) : Nat :=
  added.countP (· ∈ confirmations)

theorem Consented.append_left {added more : List Exchange} (consented : Consented more) :
    Consented (added ++ more) := by
  obtain ⟨front, consent, back, rfl, given⟩ := consented
  exact ⟨added ++ front, consent, back, by simp, given⟩

theorem Consented.append_right {added more : List Exchange} (consented : Consented added) :
    Consented (added ++ more) := by
  obtain ⟨front, consent, back, rfl, given⟩ := consented
  exact ⟨front, consent, back ++ more, by simp, given⟩

theorem confirmationCount_append (added more : List Exchange) :
    confirmationCount (added ++ more) = confirmationCount added + confirmationCount more :=
  List.countP_append

theorem bracket_of_mem : ∀ event ∈ confirmations, Text.ofString "] " <:+ event.output := by
  decide +kernel

theorem line_notMem_confirmations (text : Text) : .shown (text ++ "\n") ∉ confirmations := by
  intro member
  obtain ⟨front, same⟩ := bracket_of_mem _ member
  have last := congrArg List.getLast? same
  simp [Exchange.output, Text.ofString, Text.ofChars] at last

theorem prompt_notMem_confirmations : ∀ prompt ∈ [onePrompt, severalPrompt, directoryPrompt],
    .shown (Screen.plain prompt) ∉ confirmations := by
  have unbracketed : ∀ prompt ∈ [onePrompt, severalPrompt, directoryPrompt],
      ¬ Text.ofString "] " <:+ Screen.plain prompt := by decide +kernel
  exact fun prompt listed member => unbracketed prompt listed (bracket_of_mem _ member)

theorem read_notMem_confirmations (answer : Option Answer) : .read answer ∉ confirmations := by
  simp [confirmations]

theorem count_eq_zero {added : List Exchange} (none : ∀ event ∈ added, event ∉ confirmations) :
    confirmationCount added = 0 := by
  simpa [confirmationCount, List.countP_eq_zero] using none

theorem count_lines {added : List Exchange} (lines : Lines added) : confirmationCount added = 0 := by
  refine count_eq_zero fun event member => ?_
  obtain ⟨text, rfl⟩ := lines event member
  exact line_notMem_confirmations text

theorem count_offered {γ : Type} {question prompt : Text} {judge : Text → Verdict γ}
    {result : Except Failure γ} {added : List Exchange}
    (offered : Offered question prompt judge result added)
    (other : .shown (Screen.plain prompt) ∉ confirmations) : confirmationCount added = 0 :=
  count_eq_zero (offered.forall_mem other line_notMem_confirmations read_notMem_confirmations)

/-- What a yes-or-no question adds. -/
inductive Confirmed (message : Text) (standard : Bool) :
    Except Failure Bool → List Exchange → Prop where
  | unanswered {failure : Failure} {answer : Option Answer} {tail : List Exchange}
      (ended : ∀ event ∈ tail, event = .shown "\n") :
      Confirmed message standard (.error failure)
        (.shown (confirmPrompt message standard) :: .read answer :: tail)
  | answered {line : Text} {agreed : Bool}
      (meaning : agreed = true → line.strip.lower = Text.ofString "y" ∨
        line.strip.lower = Text.ofString "yes" ∨ (standard = true ∧ line.strip = [])) :
      Confirmed message standard (.ok agreed)
        [.shown (confirmPrompt message standard), .read (some (.line line))]

theorem tells_confirm (message : Text) (standard : Bool) :
    Tells id (Confirmed message standard) (confirm message standard) := by
  refine (tells_ask _ message (judgeConfirm standard)).mono fun result added asked => ?_
  have decided : ∀ line complaint, judgeConfirm standard line ≠ .again complaint := by
    intro line complaint
    unfold judgeConfirm
    simp only
    split <;> exact fun impossible => by cases impossible
  rcases asked.single decided with ⟨failure, answer, tail, rfl, rfl, ended⟩ |
    ⟨line, agreed, judged, rfl, rfl⟩
  · exact .unanswered ended
  · refine .answered fun yes => ?_
    subst yes
    unfold judgeConfirm at judged
    simp only at judged
    split at judged
    · rename_i empty
      cases judged
      exact .inr (.inr ⟨rfl, Text.lower_eq_nil empty⟩)
    · simp only [Verdict.accept.injEq, Bool.or_eq_true, decide_eq_true_eq] at judged
      exact judged.imp id .inl

theorem Confirmed.count {message : Text} {standard : Bool} {result : Except Failure Bool}
    {added : List Exchange} (confirmed : Confirmed message standard result added) :
    confirmationCount added ≤ 1 := by
  have single : ∀ answer tail, (∀ event ∈ tail, event = .shown (Text.ofString "\n")) →
      confirmationCount (.shown (confirmPrompt message standard) :: .read answer :: tail) ≤ 1 := by
    intro answer tail ended
    have rest : confirmationCount (.read answer :: tail) = 0 := by
      refine count_eq_zero fun event member => ?_
      rcases List.mem_cons.mp member with rfl | member
      · exact read_notMem_confirmations answer
      · rw [ended event member]
        exact line_notMem_confirmations []
    unfold confirmationCount at rest ⊢
    rw [List.countP_cons, rest]
    split <;> simp
  cases confirmed with
  | unanswered ended => exact single _ _ ended
  | answered meaning => exact single _ [] (by simp)

theorem Confirmed.consented {message : Text} {added : List Exchange}
    (confirmed : Confirmed message false (.ok true) added)
    (asked : .shown (confirmPrompt message false) ∈ confirmations) : Consented added := by
  cases confirmed with
  | answered meaning =>
      refine ⟨[], _, [], rfl, .yes asked ?_⟩
      rcases meaning rfl with y | yes | ⟨impossible, -⟩
      · exact .inl y
      · exact .inr yes
      · cases impossible

theorem Confirmed.consented_empty {added : List Exchange}
    (confirmed : Confirmed emptyWarning true (.ok true) added) : Consented added := by
  cases confirmed with
  | answered meaning =>
      rcases meaning rfl with y | yes | ⟨-, blank⟩
      · exact ⟨[], _, [], rfl, .yes (by simp [confirmations]) (.inl y)⟩
      · exact ⟨[], _, [], rfl, .yes (by simp [confirmations]) (.inr yes)⟩
      · exact ⟨[], _, [], rfl, .blank blank⟩

/-! ## What handlers ask -/

variable {site : Site} {project : Project} {dropped : List Feature}

theorem remainder_ne_nil (fewer : dropped.length < project.features.length) :
    project.remainder dropped ≠ [] := by
  intro nothing
  have all : project.features ⊆ dropped := by
    intro feature member
    by_contra kept
    have left : feature ∈ project.remainder dropped := by
      simp [Project.remainder, member, kept]
    simp [nothing] at left
  have short := (List.subperm_of_subset project.nodup_features all).length_le
  omega

theorem remainder_eq_nil (part : dropped.Sublist project.features)
    (all : ¬ dropped.length < project.features.length) : project.remainder dropped = [] := by
  have same : dropped = project.features := part.eq_of_length_le (Nat.le_of_not_lt all)
  simp [Project.remainder, same]

/-- A removal that is declined when nothing would remain. -/
def Idle (project : Project) (call : ArtifactCall) : Prop :=
  ∃ dropped, call = .remove project dropped (.ok false) ∧ project.remainder dropped = []

/-- What is known when a handler has asked everything: one confirmation was asked at most, and
if there is a call to be made, consent is given or the call leaves everything as it is. -/
structure Agreed (project : Project) (result : Except Failure (Option ArtifactCall))
    (added : List Exchange) : Prop where
  single : confirmationCount added ≤ 1
  given : ∀ call, result = .ok (some call) → Consented added ∨ Idle project call

theorem Agreed.of_none {result : Except Failure (Option ArtifactCall)} {added : List Exchange}
    (none : ∀ call, result ≠ .ok (some call)) (single : confirmationCount added ≤ 1) :
    Agreed project result added :=
  ⟨single, fun call same => absurd same (none call)⟩

theorem tells_declined (text : Text) :
    Tells id (Agreed project) (do
      Dialogue.present (Screen.warning text)
      pure none) := by
  have nothing : Tells id (fun result added => result = .ok none ∧ added = [])
      (pure none : Dialogue (Option ArtifactCall)) := tells_pure ⟨rfl, rfl⟩
  refine tells_bind (tells_warning text) (fun _ => nothing)
    (fun failure added lines => ?_) fun _ added result more lines ended => ?_
  · exact .of_none (fun call same => by cases same) (by rw [count_lines lines]; omega)
  · obtain ⟨rfl, rfl⟩ := ended
    rw [List.append_nil]
    exact .of_none (fun call same => by cases same) (by rw [count_lines lines]; omega)

theorem tells_askFeatures (question : Text) (features : List Feature) :
    Tells id (fun result added => confirmationCount added = 0 ∧
        ∀ selected, result = .ok selected → selected.Sublist features)
      (askFeatures question features) := by
  refine (tells_multiSelect question (featureChoices features) 0).mono
    fun result added offered => ⟨?_, fun selected same => ?_⟩
  · exact count_offered offered (prompt_notMem_confirmations _ (by simp))
  · subst same
    obtain ⟨table, more, rfl, asked⟩ := offered
    exact sublist_of_asked asked

/-- What is asked after a selection is all that counts. -/
theorem tells_afterSelection {question : Text} {features : List Feature}
    {next : List Feature → Dialogue (Option ArtifactCall)}
    (nextTells : ∀ selected, Tells id
      (fun result added => selected.Sublist features → Agreed project result added)
      (next selected)) :
    Tells id (Agreed project) (askFeatures question features >>= next) := by
  refine tells_bind (tells_askFeatures question features) nextTells
    (fun failure added none => ?_) fun selected added result more none agreed => ?_
  · exact .of_none (fun call same => by cases same) (by omega)
  · have further := agreed (none.2 selected rfl)
    refine ⟨?_, fun call same => (further.given call same).imp_left Consented.append_left⟩
    rw [confirmationCount_append, none.1, Nat.zero_add]
    exact further.single

/-- A confirmation, after which nothing is asked if it is agreed to. -/
theorem tells_afterConfirmation {message : Text}
    (asked : .shown (confirmPrompt message false) ∈ confirmations)
    {next : Bool → Dialogue (Option ArtifactCall)}
    (agreed : TellsLines id (next true))
    (declined : next false = pure none) :
    Tells id (Agreed project) (confirm message false >>= next) := by
  have related : ∀ answer, Tells id (fun result added => confirmationCount added = 0 ∧
      (answer = false → result = .ok none)) (next answer) := by
    intro answer
    cases answer with
    | true => exact agreed.mono fun _ _ lines =>
        ⟨count_lines lines, fun impossible => by cases impossible⟩
    | false =>
        rw [declined]
        exact tells_pure ⟨rfl, fun _ => rfl⟩
  refine tells_bind (tells_confirm message false) related
    (fun failure added confirmed => ?_) fun answer added result more confirmed none => ?_
  · exact .of_none (fun call same => by cases same) confirmed.count
  · refine ⟨?_, fun call same => .inl ?_⟩
    · rw [confirmationCount_append, none.1]
      exact confirmed.count
    · cases answer with
      | true => exact (confirmed.consented asked).append_right
      | false =>
          rw [none.2 rfl] at same
          cases same

theorem tells_consultAdd : Tells id (Agreed project) (consultAdd project) := by
  unfold consultAdd
  simp only
  split
  · exact tells_declined _
  · refine tells_afterSelection fun selected => ?_
    split
    · exact (tells_declined _).mono fun _ _ agreed _ => agreed
    · refine (tells_afterConfirmation (by simp [confirmations]) ?_ rfl).mono
        fun _ _ agreed _ => agreed
      exact (tells_success _).bind fun _ => tellsLines_pure _

theorem removalQuestion_of_ne_nil {question : Dialogue Bool}
    (something : project.remainder dropped ≠ []) :
    Site.removalQuestion project dropped question = pure true := by
  unfold Site.removalQuestion
  rw [if_neg fun both => something both.2]

theorem removalQuestion_of_eq_nil {question : Dialogue Bool}
    (nothing : project.remainder dropped = []) :
    Site.removalQuestion project dropped question = question := by
  unfold Site.removalQuestion
  rw [if_pos]
  refine ⟨fun same => ?_, nothing⟩
  rw [nothing] at same
  exact project.features_ne_nil (List.length_eq_zero_iff.mp same.symm)

theorem tells_emptyRemoval (project : Project) (dropped : List Feature) :
    Tells id (fun result added => project.remainder dropped = [] → Agreed project result added) (do
      let answer ← Site.removalQuestion project dropped (confirm emptyWarning true)
      pure (some (.remove project dropped (.ok answer)))) := by
  by_cases nothing : project.remainder dropped = []
  · rw [removalQuestion_of_eq_nil nothing]
    have call : ∀ answer, Tells id (fun result added =>
          result = .ok (some (.remove project dropped (.ok answer))) ∧ added = [])
        (pure (some (.remove project dropped (.ok answer))) : Dialogue (Option ArtifactCall)) :=
      fun answer => tells_pure ⟨rfl, rfl⟩
    refine tells_bind (tells_confirm emptyWarning true) call
      (fun failure added confirmed _ => ?_) fun answer added result more confirmed ended _ => ?_
    · exact .of_none (fun call same => by cases same) confirmed.count
    · obtain ⟨rfl, rfl⟩ := ended
      rw [List.append_nil]
      refine ⟨confirmed.count, fun call same => ?_⟩
      cases same
      cases answer with
      | true => exact .inl confirmed.consented_empty
      | false => exact .inr ⟨dropped, rfl, nothing⟩
  · rw [removalQuestion_of_ne_nil nothing, pure_bind]
    exact tells_pure fun impossible => absurd impossible nothing

theorem tells_consultRemove : Tells id (Agreed project) (consultRemove project) := by
  unfold consultRemove
  refine tells_afterSelection fun selected => ?_
  split
  · exact (tells_declined _).mono fun _ _ agreed _ => agreed
  · simp only
    split
    · rename_i fewer
      refine (tells_afterConfirmation (by simp [confirmations]) ?_ rfl).mono
        fun _ _ agreed _ => agreed
      rw [if_pos rfl, removalQuestion_of_ne_nil (remainder_ne_nil fewer), pure_bind]
      exact tellsLines_pure _
    · rename_i all
      rw [pure_bind, if_pos rfl]
      exact (tells_emptyRemoval project selected).mono
        fun _ _ agreed part => agreed (remainder_eq_nil part all)

theorem tells_consultDelete : Tells id (Agreed project) (consultDelete project) :=
  tells_afterConfirmation (by simp [confirmations]) (tellsLines_pure _) rfl

theorem tells_consult (task : Task) : Tells id (Agreed project) (consult task project) := by
  cases task with
  | add => exact tells_consultAdd
  | remove => exact tells_consultRemove
  | delete => exact tells_consultDelete

theorem count_chosen {result : Except Failure Task} {added : List Exchange}
    (chosen : Chosen result added) : confirmationCount added = 0 := by
  have other := prompt_notMem_confirmations onePrompt (by simp)
  have none : ∀ {α : Type} {question : Text} {choices : List (Choice α)} {result : Except Failure α}
      {added : List Exchange}, Spoken (select question choices) result added →
      confirmationCount added = 0 := fun spoken =>
    count_offered ((tells_select _ _).of_spoken spoken) other
  induction chosen with
  | unsettled first => exact none first
  | delete first => exact none first
  | undecided first second => rw [confirmationCount_append, none first, none second]
  | add first second => rw [confirmationCount_append, none first, none second]
  | remove first second => rw [confirmationCount_append, none first, none second]
  | back first second further induction =>
      rw [confirmationCount_append, confirmationCount_append, none first, none second, induction]

theorem Agreed.after {result : Except Failure (Option ArtifactCall)} {added more : List Exchange}
    (none : confirmationCount added = 0) (agreed : Agreed project result more) :
    Agreed project result (added ++ more) where
  single := by
    rw [confirmationCount_append, none, Nat.zero_add]
    exact agreed.single
  given := fun call same => (agreed.given call same).imp_left Consented.append_left

theorem tells_inquire (project : Project) : Tells Prod.snd (Agreed project) (inquire project) := by
  have given_up : ∀ {failure : Failure} {added : List Exchange}, confirmationCount added = 0 →
      Agreed project (.error failure) added :=
    fun none => .of_none (fun call same => by cases same) (by omega)
  refine tells_bind (tells_say (tells_info _)) (fun _ => ?_)
    (fun failure added lines => given_up (count_lines lines))
    fun _ added result more lines agreed => Agreed.after (count_lines lines) agreed
  exact tells_bind tells_menu (fun task => tells_onCaller (tells_consult task))
    (fun failure added chosen => given_up (count_chosen chosen))
    fun task added result more chosen agreed => Agreed.after (count_chosen chosen) agreed

/-! ## What is done then -/

/-- An errand that changes nothing without consent.  It starts with an inquiry, which leaves the
disk as it is, and asks for one confirmation at most; after that nothing is read any more.
Unless consent was given in the inquiry, the disk is left as it is to the end, and a result is
one that keeps what there was. -/
def OnlyWithConsent {α : Type} (errand : Errand Terminal α) (keeps : α → Prop)
    (before : Workspace) (terminal : Terminal) : Prop :=
  ∃ (inquiry : Errand Terminal (Option ArtifactCall))
    (next : Except Failure (Option ArtifactCall) → Errand Terminal α) (asked told : List Exchange),
    errand = Errand.outcome inquiry >>= next ∧
    before.Reaches [] (inquiry (before, terminal)).2.1 ∧
    (inquiry (before, terminal)).2.2.transcript = terminal.transcript ++ asked ∧
    (errand (before, terminal)).2.2.transcript = terminal.transcript ++ asked ++ told ∧
    confirmationCount (asked ++ told) ≤ 1 ∧ (∀ answer, .read answer ∉ told) ∧
    (¬ Consented asked → before.Reaches [] (errand (before, terminal)).2.1 ∧
      ∀ value, (errand (before, terminal)).1 = .ok value → keeps value)

variable {α : Type} {before : Workspace} {terminal : Terminal}

/-- What comes after an inquiry has no effects, if there is no call to be made or it is one
that leaves everything as it is. -/
def HasNoEffect (project : Project) (keeps : α → Prop)
    (next : Except Failure (Option ArtifactCall) → Errand Terminal α) : Prop :=
  ∀ result, (∀ call, result = .ok (some call) → Idle project call) → ∀ between asker,
    between.Reaches [] (next result (between, asker)).2.1 ∧
      ∀ value, (next result (between, asker)).1 = .ok value → keeps value

theorem onlyWithConsent_of_agreed {errand : Errand Terminal α} {keeps : α → Prop}
    {inquiry : Errand Terminal (Option ArtifactCall)}
    {next : Except Failure (Option ArtifactCall) → Errand Terminal α}
    (split : errand = Errand.outcome inquiry >>= next)
    (quiet : before.Reaches [] (inquiry (before, terminal)).2.1)
    (agrees : ∃ asked, (inquiry (before, terminal)).2.2.transcript =
      terminal.transcript ++ asked ∧ Agreed project (inquiry (before, terminal)).1 asked)
    (tells : ∀ result, TellsLines Prod.snd (next result)) (idle : HasNoEffect project keeps next) :
    OnlyWithConsent errand keeps before terminal := by
  obtain ⟨asked, grown, agreed⟩ := agrees
  have ran : errand (before, terminal) =
      next (inquiry (before, terminal)).1 (inquiry (before, terminal)).2 := by
    rw [split, Errand.outcome_bind_apply]
  obtain ⟨told, further, lines⟩ := tells (inquiry (before, terminal)).1 (inquiry (before, terminal)).2
  refine ⟨inquiry, next, asked, told, split, quiet, grown, ?_, ?_, lines.read_notMem, ?_⟩
  · rw [ran, ← grown]
    exact further
  · rw [confirmationCount_append, count_lines lines]
    exact agreed.single
  · intro withheld
    have nothing := idle (inquiry (before, terminal)).1
      (fun call same => (agreed.given call same).resolve_left withheld)
      (inquiry (before, terminal)).2.1 (inquiry (before, terminal)).2.2
    rw [ran]
    exact ⟨quiet.trans nothing.1, nothing.2⟩

theorem Idle.run_eq {call : ArtifactCall} (idle : Idle project call) (site : Site)
    (before : Workspace) : ∃ after, call.run site before = (.ok (.kept project), after) ∧
      before.Reaches [] after := by
  obtain ⟨dropped, rfl, nothing⟩ := idle
  have fewer : (project.remainder dropped).length ≠ project.features.length := by
    rw [nothing]
    exact fun same => project.features_ne_nil (List.length_eq_zero_iff.mp same.symm)
  rw [ArtifactCall.run_remove]
  unfold Site.answeredRemoval
  rw [if_neg fewer, dif_pos nothing]
  exact ⟨_, rfl, before.reaches_note _⟩

theorem hasNoEffect_carryOut (site : Site) (project : Project) :
    HasNoEffect project (· = some project) (Errand.onReturn (carryOut site project)) := by
  intro result idle between asker
  match result with
  | .error failure => exact ⟨.refl between, fun _ impossible => by cases impossible⟩
  | .ok none => exact ⟨.refl between, fun _ same => by cases same; rfl⟩
  | .ok (some call) =>
      obtain ⟨after, ran, reaches⟩ := (idle call rfl).run_eq site between
      obtain ⟨dropped, rfl, -⟩ := idle call rfl
      rw [Errand.onReturn, carryOut, onDisk, Errand.bind_apply, Errand.onDisk_apply, ran]
      exact ⟨reaches, fun _ same => by cases same; rfl⟩

theorem hasNoEffect_finish (site : Site) (project : Project) :
    HasNoEffect project (fun _ => True) (CommandLine.finish site) := by
  intro result idle between asker
  refine ⟨?_, fun _ _ => trivial⟩
  have conducts : between.Reaches []
      (Errand.onReturn (conduct site) result (between, asker)).2.1 := by
    match result with
    | .error failure => exact .refl between
    | .ok none => exact .refl between
    | .ok (some call) =>
        obtain ⟨after, ran, reaches⟩ := (idle call rfl).run_eq site between
        obtain ⟨dropped, rfl, -⟩ := idle call rfl
        rw [Errand.onReturn, conduct, onDisk, Errand.bind_apply, Errand.onDisk_apply, ran]
        exact reaches
  rw [CommandLine.finish, Errand.outcome_bind_apply]
  exact conducts.trans (CommandLine.quiet_close _ _ _)

theorem tells_onReturn_carryOut (site : Site) (project : Project)
    (result : Except Failure (Option ArtifactCall)) :
    TellsLines Prod.snd (Errand.onReturn (carryOut site project) result) := by
  cases result with
  | error failure => exact tellsLines_throw failure
  | ok call? => exact tells_carryOut site project call?

/-- A run that finds a project goes on with a session over it. -/
theorem inquire_of_load (stored : (site.store.load before).1 = .ok (some project)) :
    CommandLine.inquire site (before, terminal) =
      inquire project ((site.store.load before).2, terminal) := by
  unfold CommandLine.inquire
  rw [Errand.bind_apply, onDisk, Errand.onDisk_apply, stored]

end Upkeep

end HelperKit
