import HelperKit.Proofs.Dialogue.Taking
import HelperKit.Proofs.Upkeep.Consent
import HelperKit.Proofs.Upkeep.Outcomes

/-!
# What is picked is what is done

A handler offers the features that can be added, or those that can be removed, and asks about what
was selected of them.  What it does then agrees with what was selected: features that were
offered are all new to the project, and nothing else than a selection of all features leaves none.
So a session never adds nothing, and never removes nothing.
-/

namespace HelperKit

namespace Dialogue

/-! ## Yes or no -/

theorem Takes.added_eq {α : Type} {dialogue : Dialogue α} {taken : List Answer} {value other : α}
    {added more : List Exchange} (takes : Takes dialogue taken value added)
    (takesToo : Takes dialogue taken other more) : added = more := by
  have same := (takes [] []).symm.trans (takesToo [] [])
  simpa using congrArg (fun reached => reached.2.transcript) same

theorem takes_confirm {message line : Text} {standard agreed : Bool}
    (judged : judgeConfirm standard line = .accept agreed) :
    Takes (confirm message standard) [.line line] agreed
      [.shown (Upkeep.confirmPrompt message standard), .read (some (.line line))] :=
  fun later _ => (Settles.accepted judged).settle_eq later (by simp) _

theorem gathers_confirm (message : Text) (standard : Bool) :
    Gathers (confirm message standard) fun taken added agreed => ∃ line, taken = [.line line] ∧
      judgeConfirm standard line = .accept agreed ∧
      added = [.shown (Upkeep.confirmPrompt message standard), .read (some (.line line))] := by
  refine (gathers_ask _ message (judgeConfirm standard)).mono ?_
  rintro _ added agreed takes ⟨rejected, line, rfl, again, judged⟩
  have none : rejected = [] := by
    refine List.eq_nil_iff_forall_not_mem.mpr fun other member => ?_
    obtain ⟨complaint, complained⟩ := again other member
    unfold judgeConfirm at complained
    simp only at complained
    split at complained <;> cases complained
  subst none
  exact ⟨line, rfl, judged, takes.added_eq (takes_confirm judged)⟩

theorem agrees_of_judgeConfirm {line : Text} (judged : judgeConfirm false line = .accept true) :
    line.strip.lower = Text.ofString "y" ∨ line.strip.lower = Text.ofString "yes" := by
  unfold judgeConfirm at judged
  simp only at judged
  split at judged
  · cases judged
  · simpa using judged

theorem gathers_present {text : Except Failure Text} (drawn : ∃ shown, text = .ok shown) :
    Gathers (present text) fun taken _ _ => taken = [] := by
  obtain ⟨shown, rfl⟩ := drawn
  intro answers before value after returned
  cases returned
  exact ⟨[], [.shown shown], rfl, rfl, fun _ _ => rfl, rfl⟩

end Dialogue

namespace Upkeep

open Dialogue

variable {site : Site} {project : Project} {selected offered : List Feature} {question : Text}
  {taken : List Answer} {added : List Exchange}

/-! ## What is asked first -/

/-- Asks what to add.  Features are to be added if that is agreed on. -/
def askAddition (project : Project) : Dialogue (Option (List Feature)) := do
  let available := Feature.complement project.features
  if available = [] then
    Dialogue.present (Screen.warning "Every feature is already included.")
    pure none
  else
    let selected ← Dialogue.askFeatures "Select which features you want to add" available
    if selected = [] then
      Dialogue.present (Screen.warning "Nothing selected.")
      pure none
    else if ← Dialogue.confirm overwriteWarning false then pure (some selected)
    else pure none

/-- Adds the features that are to be added. -/
def applyAddition (site : Site) (project : Project) :
    Option (List Feature) → Errand Terminal (Option Project)
  | none => pure (some project)
  | some selected => do
      say (Screen.success "Changing data")
      let updated ← onDisk (site.addFeatures project selected)
      pure (some updated)

/-- Asks what to remove.  Features are to be removed if that is agreed on, or if they are all that
there are. -/
def askRemoval (project : Project) : Dialogue (Option (List Feature)) := do
  let selected ← Dialogue.askFeatures "Select packages to remove" project.features
  if selected = [] then
    Dialogue.present (Screen.warning "Nothing selected.")
    pure none
  else
    let agreed ←
      if selected.length < project.features.length then Dialogue.confirm overwriteWarning false
      else pure true
    if agreed then pure (some selected) else pure none

/-- Removes the features that are to be removed. -/
def applyRemoval (site : Site) (project : Project) :
    Option (List Feature) → Errand Terminal (Option Project)
  | none => pure (some project)
  | some selected => do
      let removal ← site.removeFeatures project selected (Dialogue.confirm emptyWarning true)
      match removal with
      | .updated _ => say (Screen.success "Changing data")
      | .deleted => say (Screen.success "crabSafe removed")
      | _ => pure ()
      pure removal.project?

theorem handleAdd_split (site : Site) (project : Project) :
    handleAdd site project = converse (askAddition project) >>= applyAddition site project := by
  unfold handleAdd askAddition
  simp only
  split
  · rw [converse_bind, bind_assoc]
    rfl
  · rw [converse_bind, bind_assoc]
    refine bind_congr fun selected => ?_
    split
    · rw [converse_bind, bind_assoc]
      rfl
    · rw [converse_bind, bind_assoc]
      refine bind_congr fun agreed => ?_
      cases agreed with
      | false => rfl
      | true => rw [if_pos rfl, if_pos rfl, converse_pure, pure_bind, applyAddition]

theorem applyRemoval_some (site : Site) (project : Project) (selected : List Feature) :
    (do
      let removal ← site.removeFeatures project selected (Dialogue.confirm emptyWarning true)
      match removal with
      | .updated _ => say (Screen.success "Changing data")
      | .deleted => say (Screen.success "crabSafe removed")
      | _ => pure ()
      pure removal.project? : Errand Terminal (Option Project)) =
    applyRemoval site project (some selected) := by
  rw [applyRemoval]

theorem handleRemove_split (site : Site) (project : Project) :
    handleRemove site project = converse (askRemoval project) >>= applyRemoval site project := by
  unfold handleRemove askRemoval
  rw [converse_bind, bind_assoc]
  refine bind_congr fun selected => ?_
  split
  · rw [converse_bind, bind_assoc]
    rfl
  · simp only
    split
    · rw [converse_bind, bind_assoc]
      refine bind_congr fun agreed => ?_
      cases agreed with
      | false => rfl
      | true =>
          rw [if_pos rfl, if_pos rfl, converse_pure, pure_bind]
          exact applyRemoval_some site project selected
    · rw [pure_bind, pure_bind, if_pos rfl, if_pos rfl, converse_pure, pure_bind]
      exact applyRemoval_some site project selected

/-- Some of the features on offer are selected, and then it is agreed to overwrite. -/
inductive Approved (question : Text) (offered : List Feature) :
    List Answer → List Exchange → List Feature → Prop where
  | agreed {choosing : List Answer} {line : Text} {asked : List Exchange} {selected : List Feature}
      (selects : SelectedBy (featureChoices offered) 0 choosing selected)
      (asks : Takes (askFeatures question offered) choosing selected asked)
      (something : selected ≠ [])
      (agrees : line.strip.lower = Text.ofString "y" ∨ line.strip.lower = Text.ofString "yes") :
      Approved question offered (choosing ++ [.line line])
        (asked ++ [.shown (confirmPrompt overwriteWarning false), .read (some (.line line))])
        selected

/-- What is selected for removal: some of the features of a project, and then it is agreed to
overwrite, or all of them. -/
inductive Removable (question : Text) (project : Project) :
    List Answer → List Exchange → List Feature → Prop where
  | some {taken : List Answer} {added : List Exchange} {selected : List Feature}
      (approved : Approved question project.features taken added selected)
      (fewer : selected.length < project.features.length) :
      Removable question project taken added selected
  | all {taken : List Answer} {added : List Exchange} {selected : List Feature}
      (selects : SelectedBy (featureChoices project.features) 0 taken selected)
      (asks : Takes (askFeatures question project.features) taken selected added)
      (same : selected = project.features) : Removable question project taken added selected

theorem gathers_declined (text : Text) :
    Gathers (do
      Dialogue.present (Screen.warning text)
      pure none : Dialogue (Option (List Feature))) fun _ _ outcome => outcome = none := by
  refine ((gathers_present (Screen.warning_eq_ok text)).bind fun _ _ _ _ =>
    gathers_pure none).mono ?_
  rintro _ _ outcome - ⟨_, _, _, _, _, -, -, -, -, -, -, -, rfl⟩
  rfl

/-- A yes to the question before something is overwritten. -/
def Agreement (selected : List Feature) (taken : List Answer) (added : List Exchange)
    (outcome : Option (List Feature)) : Prop :=
  outcome = some selected ∧ ∃ line, taken = [.line line] ∧
    (line.strip.lower = Text.ofString "y" ∨ line.strip.lower = Text.ofString "yes") ∧
    added = [.shown (confirmPrompt overwriteWarning false), .read (some (.line line))]

theorem gathers_approval (selected : List Feature) :
    Gathers (do
      if ← Dialogue.confirm overwriteWarning false then pure (some selected) else pure none)
      fun taken added outcome => outcome = none ∨ Agreement selected taken added outcome := by
  have next : ∀ agreed : Bool, Gathers
      (if agreed = true then pure (some selected) else pure none : Dialogue _)
      fun taken added outcome => taken = [] ∧ added = [] ∧
        outcome = if agreed = true then some selected else none := by
    intro agreed
    cases agreed <;> exact gathers_pure _
  refine ((gathers_confirm overwriteWarning false).bind fun _ _ agreed _ => next agreed).mono ?_
  rintro _ _ outcome - ⟨_, _, agreed, _, _, rfl, rfl, -, ⟨line, rfl, judged, rfl⟩, -, rfl, rfl, rfl⟩
  cases agreed with
  | false => exact .inl rfl
  | true => exact .inr ⟨rfl, line, rfl, agrees_of_judgeConfirm judged, rfl⟩

theorem Agreement.approved {offered selected chosen : List Feature} {choosing agreeing : List Answer}
    {asked confirmed : List Exchange} (agreement : Agreement chosen agreeing confirmed (some selected))
    (selects : SelectedBy (featureChoices offered) 0 choosing chosen)
    (asks : Takes (askFeatures question offered) choosing chosen asked) (something : chosen ≠ []) :
    Approved question offered (choosing ++ agreeing) (asked ++ confirmed) selected := by
  obtain ⟨same, line, rfl, agrees, rfl⟩ := agreement
  cases same
  exact .agreed selects asks something agrees

theorem gathers_askAddition (project : Project) : Gathers (askAddition project)
    fun taken added outcome => ∀ selected, outcome = some selected →
      Approved "Select which features you want to add" (Feature.complement project.features)
        taken added selected := by
  unfold askAddition
  simp only
  split
  · exact (gathers_declined _).mono fun _ _ _ _ none _ same => nomatch none.symm.trans same
  · have next : ∀ chosen : List Feature, Gathers
        (if chosen = [] then do
          Dialogue.present (Screen.warning "Nothing selected.")
          pure none
        else do
          if ← Dialogue.confirm overwriteWarning false then pure (some chosen) else pure none)
        fun taken added outcome => outcome = none ∨
          chosen ≠ [] ∧ Agreement chosen taken added outcome := by
      intro chosen
      split
      · exact (gathers_declined _).mono fun _ _ _ _ none => .inl none
      · rename_i something
        exact (gathers_approval chosen).mono fun _ _ _ _ => Or.imp_right (And.intro something)
    refine ((gathers_multiSelect _ (featureChoices _) 0).bind fun _ _ chosen _ =>
      next chosen).mono ?_
    rintro _ _ _ - ⟨choosing, asked, chosen, agreeing, confirmed, rfl, rfl, asks, selects, -, ends⟩
      selected rfl
    rcases ends with none | ⟨something, agreement⟩
    · cases none
    · exact agreement.approved selects asks something

theorem gathers_askRemoval (project : Project) : Gathers (askRemoval project)
    fun taken added outcome => ∀ selected, outcome = some selected →
      Removable "Select packages to remove" project taken added selected := by
  -- What follows a selection: it is declined, confirmed, or of all features and not confirmed yet.
  have next : ∀ chosen : List Feature, Gathers
      (if chosen = [] then do
        Dialogue.present (Screen.warning "Nothing selected.")
        pure none
      else do
        let agreed ←
          if chosen.length < project.features.length then Dialogue.confirm overwriteWarning false
          else pure true
        if agreed then pure (some chosen) else pure none : Dialogue (Option (List Feature)))
      fun taken added outcome => outcome = none ∨
        (chosen ≠ [] ∧ chosen.length < project.features.length ∧
          Agreement chosen taken added outcome) ∨
        (¬ chosen.length < project.features.length ∧ taken = [] ∧ added = [] ∧
          outcome = some chosen) := by
    intro chosen
    split
    · exact (gathers_declined _).mono fun _ _ _ _ none => .inl none
    · rename_i something
      split
      · rename_i fewer
        exact (gathers_approval chosen).mono fun _ _ _ _ =>
          Or.imp_right fun agreement => .inl ⟨something, fewer, agreement⟩
      · rename_i enough
        rw [pure_bind]
        exact (gathers_pure _).mono fun _ _ _ _ ended => .inr (.inr ⟨enough, ended⟩)
  refine ((gathers_multiSelect _ (featureChoices project.features) 0).bind fun _ _ chosen _ =>
    next chosen).mono ?_
  rintro _ _ _ - ⟨choosing, asked, chosen, agreeing, confirmed, rfl, rfl, asks, selects, -, ends⟩
    selected rfl
  rcases ends with none | ⟨something, fewer, agreement⟩ | ⟨enough, rfl, rfl, same⟩
  · cases none
  · have approved := agreement.approved selects asks something
    cases agreement.1
    exact .some approved fewer
  · cases same
    have part := selects.selected_eq.1
    rw [values_featureChoices] at part
    rw [List.append_nil, List.append_nil]
    exact .all selects asks (part.eq_of_length_le (Nat.le_of_not_lt enough))

/-! ## What is asked about -/

theorem unconfirmed_of_asks (asks : Takes (askFeatures question offered) taken selected added) :
    ∀ event ∈ added, event ∉ confirmations := by
  have offers := (tells_multiSelect question (featureChoices offered) 0).of_spoken asks.spoken
  exact offers.forall_mem (prompt_notMem_confirmations _ (by simp)) line_notMem_confirmations
    read_notMem_confirmations

theorem confirmPrompt_ne : confirmPrompt emptyWarning true ≠ confirmPrompt overwriteWarning false := by
  decide +kernel

theorem Approved.overwrites (approved : Approved question offered taken added selected) :
    .shown (confirmPrompt overwriteWarning false) ∈ added ∧
      .shown (confirmPrompt emptyWarning true) ∉ added := by
  cases approved with
  | agreed selects asks something agrees =>
      refine ⟨by simp, fun member => ?_⟩
      rcases List.mem_append.mp member with asked | confirmed
      · exact unconfirmed_of_asks asks _ asked (by simp [confirmations])
      · simp [confirmPrompt_ne] at confirmed

theorem Approved.part (approved : Approved question offered taken added selected) :
    selected ≠ [] ∧ selected.Sublist offered := by
  cases approved with
  | agreed selects asks something agrees =>
      have part := selects.selected_eq.1
      rw [values_featureChoices] at part
      exact ⟨something, part⟩

theorem Removable.part (removable : Removable question project taken added selected) :
    selected ≠ [] ∧ selected.Sublist project.features := by
  cases removable with
  | some approved fewer => exact approved.part
  | all selects asks same => exact ⟨same ▸ project.features_ne_nil, same ▸ List.Sublist.refl _⟩

/-- It is asked about overwriting if some features are left. -/
theorem Removable.overwrites_iff (removable : Removable question project taken added selected) :
    .shown (confirmPrompt overwriteWarning false) ∈ added ↔
      ∃ feature ∈ project.features, feature ∉ selected := by
  cases removable with
  | some approved fewer =>
      refine iff_of_true approved.overwrites.1 ?_
      by_contra none
      refine remainder_ne_nil fewer (Project.remainder_eq_nil_iff.mpr ?_)
      simpa using none
  | all selects asks same =>
      refine iff_of_false (fun member => unconfirmed_of_asks asks _ member ?_) ?_
      · simp [confirmations]
      · rintro ⟨feature, member, kept⟩
        exact kept (same ▸ member)

theorem Removable.unasked (removable : Removable question project taken added selected) :
    .shown (confirmPrompt emptyWarning true) ∉ added := by
  cases removable with
  | some approved fewer => exact approved.overwrites.2
  | all selects asks same =>
      exact fun member => unconfirmed_of_asks asks _ member (by simp [confirmations])

/-! ## What is done -/

theorem additions_of_offered (part : selected.Sublist (Feature.complement project.features)) :
    project.additions selected = selected := by
  have nodup : (Feature.complement project.features).Nodup :=
    List.Nodup.filter _ (by decide)
  have whole : selected.filter (· ∈ selected) = selected :=
    List.filter_eq_self.mpr fun feature member => by simpa using member
  have inside : selected.Sublist (project.additions selected) := by
    have filtered := part.filter (· ∈ selected)
    rwa [whole] at filtered
  have short : (project.additions selected).length ≤ selected.length := by
    refine (List.subperm_of_subset (nodup.filter _) fun feature member => ?_).length_le
    simpa using (List.mem_filter.mp member).2
  exact (inside.eq_of_length_le short).symm

variable {before after : Workspace} {terminal between : Terminal}

/-- When features are to be added, they are. -/
theorem handleAdd_of_asked {outcome : Except Failure Project}
    (asked : askAddition project terminal = (.ok (some selected), between))
    (ran : site.addFeatures project selected before = (outcome, after)) :
    ∃ final, handleAdd site project (before, terminal) = (outcome.map some, (after, final)) := by
  obtain ⟨line, success⟩ := Screen.success_eq_ok "Changing data"
  have said : (say (Screen.success "Changing data")) (before, between) =
      (.ok (), (before, between.display line)) := by
    rw [success]
    rfl
  have applied : applyAddition site project (some selected) (before, between) =
      (outcome.map some, (after, between.display line)) := by
    rw [applyAddition, Errand.bind_apply, said]
    simp only
    rw [Errand.bind_apply, onDisk, Errand.onDisk_apply, ran]
    cases outcome <;> rfl
  refine ⟨between.display line, ?_⟩
  rw [handleAdd_split, Errand.bind_apply, converse_apply, asked]
  exact applied

/-- When features are to be removed, they are, and then nothing is said but lines. -/
theorem handleRemove_of_asked {outcome : Except Failure Removal} {final : Terminal}
    (asked : askRemoval project terminal = (.ok (some selected), between))
    (ran : site.removeFeatures project selected (Dialogue.confirm emptyWarning true)
      (before, between) = (outcome, (after, final))) :
    ∃ told, Lines told ∧ handleRemove site project (before, terminal) =
      (outcome.map Removal.project?, (after, ⟨final.answers, final.transcript ++ told⟩)) := by
  have said : ∀ (text : Text) (result : Option Project), ∃ told, Lines told ∧
      (say (Screen.success text) >>= fun _ => pure result) (after, final) =
        (.ok result, (after, ⟨final.answers, final.transcript ++ told⟩)) := by
    intro text result
    obtain ⟨shown, success⟩ := Screen.success_eq_ok text
    obtain ⟨styled, -, same⟩ := Screen.message_eq_ok_iff.mp success
    refine ⟨[.shown shown], fun event member => ⟨Screen.appearance styled, ?_⟩, ?_⟩
    · rw [List.mem_singleton.mp member, same]
    · rw [success]
      rfl
  have silent : Lines [] ∧ ∀ result : Option Project,
      (pure result : Errand Terminal (Option Project)) (after, final) =
        (.ok result, (after, ⟨final.answers, final.transcript ++ []⟩)) := by
    refine ⟨by simp [Lines], fun result => ?_⟩
    rw [List.append_nil]
    rfl
  have applied : ∃ told, Lines told ∧ applyRemoval site project (some selected) (before, between) =
      (outcome.map Removal.project?, (after, ⟨final.answers, final.transcript ++ told⟩)) := by
    rw [applyRemoval, Errand.bind_apply, ran]
    cases outcome with
    | error failure => exact ⟨[], silent.1, by rw [List.append_nil]; rfl⟩
    | ok removal =>
        cases removal with
        | updated updated => exact said "Changing data" (some updated)
        | deleted => exact said "crabSafe removed" none
        | aborted kept => exact ⟨[], silent.1, silent.2 (some kept)⟩
        | unchanged kept => exact ⟨[], silent.1, silent.2 (some kept)⟩
  obtain ⟨told, lines, applied⟩ := applied
  refine ⟨told, lines, ?_⟩
  rw [handleRemove_split, Errand.bind_apply, converse_apply, asked]
  exact applied

/-- A confirmation shows its own prompt, and besides it only ends a line. -/
theorem Confirmed.shown {message : Text} {standard : Bool} {result : Except Failure Bool}
    (confirmed : Confirmed message standard result added) :
    .shown (confirmPrompt message standard) ∈ added ∧
      ∀ prompt, .shown prompt ∈ added → prompt = confirmPrompt message standard ∨
        prompt = Text.ofString "\n" := by
  cases confirmed with
  | unanswered ended =>
      refine ⟨by simp, fun prompt member => ?_⟩
      simp only [List.mem_cons, Exchange.shown.injEq, reduceCtorEq, false_or] at member
      exact member.imp_right fun tail => Exchange.shown.inj (ended _ tail)
  | answered meaning =>
      refine ⟨by simp, fun prompt member => ?_⟩
      simp only [List.mem_cons, Exchange.shown.injEq, reduceCtorEq, List.not_mem_nil,
        or_false] at member
      exact .inl member

/-- The question before a deletion is asked if no feature would be left. -/
theorem removal_asks {outcome : Except Failure Removal} {final : Terminal}
    (ran : site.removeFeatures project selected (Dialogue.confirm emptyWarning true)
      (before, between) = (outcome, (after, final))) :
    ∃ added, final.transcript = between.transcript ++ added ∧
      .shown (confirmPrompt overwriteWarning false) ∉ added ∧
      (.shown (confirmPrompt emptyWarning true) ∈ added ↔
        ∀ feature ∈ project.features, feature ∈ selected) := by
  by_cases left : ∃ feature ∈ project.features, feature ∉ selected
  · rw [Site.removeFeatures_of_left left] at ran
    cases ran
    refine ⟨[], (List.append_nil _).symm, by simp, iff_of_false (by simp) (Project.not_all left)⟩
  · have all : ∀ feature ∈ project.features, feature ∈ selected := by
      simpa only [not_exists, not_and, not_not] using left
    obtain ⟨added, grown, confirmed⟩ := tells_confirm emptyWarning true between
    have last : final = (confirm emptyWarning true between).2 := by
      have reached := congrArg (fun reached => reached.2.2) ran
      rw [Site.removeFeatures_of_all all] at reached
      cases answered : (confirm emptyWarning true between).1 with
      | error failure =>
          simp only [answered] at reached
          exact reached.symm
      | ok answer =>
          simp only [answered] at reached
          exact reached.symm
    refine ⟨added, last ▸ grown, fun member => ?_, iff_of_true confirmed.shown.1 all⟩
    rcases confirmed.shown.2 _ member with same | ended
    · exact confirmPrompt_ne same.symm
    · exact line_notMem_confirmations [] (ended ▸ by simp [confirmations])

/-- What is picked is what is done.  Adding asks for features of which the project has none; once it
is agreed to overwrite, those that were selected are new, at least one of them, and they come to
stand behind the features of the project.  Removing asks for features of the project; once some are
to be removed, the removal does something.  It updates the project if the question about overwriting
was asked, and then all features but those that were selected are left, and it asks about a deletion
if all of them were selected. -/
theorem handlers_do_what_was_picked (site : Site) (project : Project) :
    handleAdd site project = converse (askAddition project) >>= applyAddition site project ∧
    handleRemove site project = converse (askRemoval project) >>= applyRemoval site project ∧
    (∀ feature, feature ∈ Feature.complement project.features ↔ feature ∉ project.features) ∧
    (∀ terminal selected between,
      askAddition project terminal = (.ok (some selected), between) →
      (∃ taken added, terminal.answers = taken ++ between.answers ∧
        between.transcript = terminal.transcript ++ added ∧
        Approved "Select which features you want to add" (Feature.complement project.features)
          taken added selected) ∧
      selected ≠ [] ∧ selected.Sublist (Feature.complement project.features) ∧
      project.additions selected = selected ∧
      ∀ before outcome after, site.addFeatures project selected before = (outcome, after) →
        (∃ final,
          handleAdd site project (before, terminal) = (outcome.map some, (after, final))) ∧
        ∀ updated, outcome = .ok updated → updated.features = project.features ++ selected) ∧
    ∀ terminal selected between,
      askRemoval project terminal = (.ok (some selected), between) →
      (∃ taken added, terminal.answers = taken ++ between.answers ∧
        between.transcript = terminal.transcript ++ added ∧
        Removable "Select packages to remove" project taken added selected) ∧
      selected ≠ [] ∧ selected.Sublist project.features ∧
      ∀ before outcome after final,
        site.removeFeatures project selected (confirm emptyWarning true) (before, between) =
          (outcome, (after, final)) →
        ∃ told, handleRemove site project (before, terminal) = (outcome.map Removal.project?,
            (after, ⟨final.answers, terminal.transcript ++ told⟩)) ∧
          (.shown (confirmPrompt emptyWarning true) ∈ told ↔
            ∀ feature ∈ project.features, feature ∈ selected) ∧
          ∀ removal, outcome = .ok removal →
            (∀ kept, removal ≠ .unchanged kept) ∧
            ((∃ updated, removal = .updated updated) ↔
              .shown (confirmPrompt overwriteWarning false) ∈ told) ∧
            ∀ updated, removal = .updated updated →
              updated.features = project.features.filter (· ∉ selected) := by
  refine ⟨handleAdd_split site project, handleRemove_split site project,
    fun feature => Feature.mem_complement, fun terminal selected between asked => ?_,
    fun terminal selected between asked => ?_⟩
  · obtain ⟨taken, added, split, grown, -, approves⟩ :=
      gathers_askAddition project _ _ _ _ asked
    have approved := approves selected rfl
    obtain ⟨something, part⟩ := approved.part
    have additions := additions_of_offered part
    refine ⟨⟨taken, added, split, grown, approved⟩, something, part, additions,
      fun before outcome after ran => ⟨handleAdd_of_asked asked ran, fun updated same => ?_⟩⟩
    rw [Site.features_of_addFeatures (same ▸ ran), additions]
  · obtain ⟨taken, added, split, grown, -, removes⟩ := gathers_askRemoval project _ _ _ _ asked
    have removable := removes selected rfl
    obtain ⟨something, part⟩ := removable.part
    refine ⟨⟨taken, added, split, grown, removable⟩, something, part,
      fun before outcome after final ran => ?_⟩
    obtain ⟨told, lines, handled⟩ := handleRemove_of_asked asked ran
    obtain ⟨more, further, unasked, asks⟩ := removal_asks ran
    have unsaid : ∀ event ∈ confirmations, event ∉ told := by
      intro event confirmation member
      obtain ⟨text, rfl⟩ := lines event member
      exact line_notMem_confirmations text confirmation
    have notSaid := unsaid (.shown (confirmPrompt overwriteWarning false)) (by simp [confirmations])
    have notSaidToo := unsaid (.shown (confirmPrompt emptyWarning true)) (by simp [confirmations])
    refine ⟨added ++ more ++ told, ?_, ?_, fun removal same => ?_⟩
    · rw [handled, further, grown]
      simp only [List.append_assoc]
    · simp [removable.unasked, notSaidToo, asks]
    · subst same
      have concludes := Site.concludes_of_removeFeatures ran
      obtain ⟨feature, picked⟩ := List.exists_mem_of_ne_nil selected something
      have gone : ∃ feature ∈ project.features, feature ∈ selected :=
        ⟨feature, part.subset picked, picked⟩
      refine ⟨fun kept same => ?_, ?_, fun updated same => ?_⟩
      · cases concludes with
        | unchanged none reaches => exact Project.not_none gone none
        | _ => cases same
      · rw [concludes.updated_iff, and_iff_right gone, ← removable.overwrites_iff]
        simp [unasked, notSaid]
      · obtain ⟨⟨nonempty, nodup, rfl⟩, -⟩ := concludes.renewed same
        rfl

/-- Two features are added to three others, one by its name and one by its number, and stand in the
order in which they were offered.  One of the three is removed. -/
theorem handlers_do_what_was_picked_library :
    let site := Edit.librarySite
    let project := Edit.libraryProject
    let before := Workspace.on Edit.libraryDisk .warning
    (∃ updated after final,
      handleAdd site project (before, ⟨[.line "parsers, 1", .line "y"], []⟩) =
        (.ok (some updated), (after, final)) ∧
      updated.features = [.core, .option, .result, .example, .parsers]) ∧
    ∃ updated after final told,
      handleRemove site project (before, ⟨[.line "2", .line "y"], []⟩) =
        (.ok (some updated), (after, ⟨final, told⟩)) ∧
      .shown (confirmPrompt overwriteWarning false) ∈ told ∧
      updated.features = [.core, .result] := by
  intro site project before
  obtain ⟨-, -, -, adding, removing⟩ := handlers_do_what_was_picked site project
  constructor
  · have asked : (askAddition project ⟨[.line "parsers, 1", .line "y"], []⟩).1 =
        .ok (some [.example, .parsers]) := by decide +kernel
    have returned : (site.addFeatures project [.example, .parsers] before).1 =
        .ok (project.withFeatures [.core, .option, .result, .example, .parsers] (by decide)) := by
      decide +kernel
    obtain ⟨between, asked⟩ := Site.exists_eq_mk asked
    obtain ⟨after, returned⟩ := Site.exists_eq_mk returned
    obtain ⟨-, -, -, -, added⟩ := adding _ _ _ asked
    obtain ⟨⟨final, handled⟩, features⟩ := added _ _ _ returned
    exact ⟨_, after, final, handled, features _ rfl⟩
  · have asked : (askRemoval project ⟨[.line "2", .line "y"], []⟩).1 = .ok (some [.option]) := by
      decide +kernel
    obtain ⟨between, asked⟩ := Site.exists_eq_mk asked
    have answered : (site.answeredRemoval project [.option] (.ok true) before).1 =
        .ok (.updated (project.withFeatures [.core, .result] (by decide))) := by decide +kernel
    obtain ⟨after, answered⟩ := Site.exists_eq_mk answered
    have returned : site.removeFeatures project [.option] (Dialogue.confirm emptyWarning true)
        (before, between) =
        (.ok (.updated (project.withFeatures [.core, .result] (by decide))), (after, between)) := by
      rw [Site.removeFeatures_of_left (by decide), answered]
    obtain ⟨-, -, -, removed⟩ := removing _ _ _ asked
    obtain ⟨told, handled, -, concludes⟩ := removed _ _ _ _ returned
    obtain ⟨-, overwrites, features⟩ := concludes _ rfl
    exact ⟨_, after, _, _, handled, List.mem_append_right _ (overwrites.mp ⟨_, rfl⟩),
      features _ rfl⟩

end Upkeep

end HelperKit
