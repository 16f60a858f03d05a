import HelperKit.Proofs.Upkeep.Consent

/-!
# Cancelled runs

An answer that cancels a question is the last one that is read.  No question is asked after
anything was changed, so that a cancelled run has changed nothing.
-/

namespace HelperKit

namespace Dialogue

variable {α β γ σ : Type} {view : σ → Terminal}

/-- What is read behind a prompt cancels the question: there is nothing to read, the user
interrupts, the line is blank where a single choice or the directory is asked for, or it is one
of the words that give a choice up. -/
inductive Cancels : Text → Option Answer → Prop where
  | ended (prompt : Text) : Cancels prompt none
  | interrupted (prompt : Text) : Cancels prompt (some .interrupt)
  | blank {prompt line : Text}
      (single : prompt ∈ [Screen.plain onePrompt, Screen.plain directoryPrompt])
      (empty : line.strip = []) : Cancels prompt (some (.line line))
  | word {prompt line : Text}
      (choosing : prompt ∈ [Screen.plain onePrompt, Screen.plain severalPrompt])
      (named : isCancel line.strip = true) : Cancels prompt (some (.line line))

/-- Two events, one after the other, that are not a prompt and what cancels its question. -/
def Proceeds (first second : Exchange) : Prop :=
  ∀ prompt answer, first = .shown prompt → second = .read answer → ¬ Cancels prompt answer

/-- A part of a transcript in which nothing cancels a question.  It does not begin with
a read, so that it can be put behind another part. -/
structure Uncancelled (added : List Exchange) : Prop where
  proceeds : added.IsChain Proceeds
  begins : ∀ answer, added.head? ≠ some (.read answer)

theorem Uncancelled.append {added more : List Exchange} (first : Uncancelled added)
    (second : Uncancelled more) : Uncancelled (added ++ more) where
  proceeds := by
    refine first.proceeds.append second.proceeds fun event _ other begins prompt answer _ read => ?_
    subst read
    exact absurd begins (second.begins answer)
  begins := by
    cases added with
    | nil => exact second.begins
    | cons event added => exact first.begins

theorem Lines.uncancelled {added : List Exchange} (lines : Lines added) : Uncancelled added where
  proceeds := by
    refine (List.pairwise_of_forall_mem_list fun event _ other member => ?_).isChain
    intro prompt answer _ read
    subst read
    exact absurd member (lines.read_notMem answer)
  begins := fun answer begins => lines.read_notMem answer (List.mem_of_head? begins)

/-- How a part of a run goes that asks questions: nothing cancels a question, or an answer does
so, and is the last thing that is read. -/
inductive Course : Except Failure α → List Exchange → Prop where
  | going {result : Except Failure α} {added : List Exchange} (uncancelled : Uncancelled added) :
      Course result added
  | cancelled {question prompt : Text} {answer : Option Answer} {front tail : List Exchange}
      (uncancelled : Uncancelled (front ++ [.shown prompt])) (cancels : Cancels prompt answer)
      (ended : tail = [] ∨ tail = [.shown "\n"]) :
      Course (.error (.cancelled question)) (front ++ .shown prompt :: .read answer :: tail)

theorem Course.after {result : Except Failure α} {added more : List Exchange}
    (uncancelled : Uncancelled added) (course : Course result more) :
    Course result (added ++ more) := by
  cases course with
  | going going => exact .going (uncancelled.append going)
  | cancelled going cancels ended =>
      rw [← List.append_assoc]
      refine .cancelled ?_ cancels ended
      rw [List.append_assoc]
      exact uncancelled.append going

theorem Course.uncancelled {value : α} {added : List Exchange}
    (course : Course (.ok value : Except Failure α) added) : Uncancelled added := by
  cases course with
  | going uncancelled => exact uncancelled

theorem Course.of_error {failure : Failure} {added : List Exchange}
    (course : Course (.error failure : Except Failure α) added) :
    Course (.error failure : Except Failure β) added := by
  cases course with
  | going uncancelled => exact .going uncancelled
  | cancelled uncancelled cancels ended => exact .cancelled uncancelled cancels ended

/-- Nothing is read behind the answer that cancels a question. -/
theorem back_eq_of_cancels {front back first rest : List Exchange} {prompt other : Text}
    {answer cancelling : Option Answer} (proceeds : (front ++ [Exchange.shown prompt]).IsChain Proceeds)
    (unread : ∀ answer, .read answer ∉ back) (cancels : Cancels other cancelling)
    (same : front ++ .shown prompt :: .read answer :: back =
      first ++ .shown other :: .read cancelling :: rest) : rest = back := by
  induction front generalizing first with
  | nil =>
      match first with
      | [] =>
          simp only [List.nil_append, List.cons.injEq] at same
          exact same.2.2.symm
      | [event] =>
          simp only [List.nil_append, List.cons_append, List.cons.injEq] at same
          exact absurd (by simp [same.2.2]) (unread cancelling)
      | event :: another :: first =>
          simp only [List.nil_append, List.cons_append, List.cons.injEq] at same
          exact absurd (by simp [same.2.2]) (unread cancelling)
  | cons event front induction =>
      cases first with
      | cons begun first =>
          simp only [List.cons_append, List.cons.injEq] at same
          exact induction proceeds.tail same.2
      | nil =>
          -- The next event would be what cancels the question.
          cases front with
          | nil =>
              simp only [List.nil_append, List.cons_append, List.cons.injEq] at same
              cases same.2.1
          | cons next front =>
              simp only [List.nil_append, List.cons_append, List.cons.injEq] at same
              obtain ⟨rfl, rfl, -⟩ := same
              exact absurd cancels (List.isChain_cons_cons.mp proceeds |>.1 _ _ rfl rfl)

/-- An operation whose part of the run goes in this way. -/
def TellsCourse (view : σ → Terminal) (operation : ExceptT Failure (StateM σ) α) : Prop :=
  Tells view Course operation

theorem TellsLines.course {operation : ExceptT Failure (StateM σ) α}
    (tells : TellsLines view operation) : TellsCourse view operation :=
  tells.mono fun _ _ lines => .going lines.uncancelled

theorem tellsCourse_pure (value : α) :
    TellsCourse view (pure value : ExceptT Failure (StateM σ) α) :=
  (tellsLines_pure value).course

theorem TellsCourse.bind {first : ExceptT Failure (StateM σ) α}
    {next : α → ExceptT Failure (StateM σ) β} (firstTells : TellsCourse view first)
    (nextTells : ∀ value, TellsCourse view (next value)) : TellsCourse view (first >>= next) := by
  exact tells_bind firstTells nextTells (fun failure added course => course.of_error)
    fun value added result more course further => further.after course.uncancelled

/-! ## Questions -/

/-- A question is cancelled by what cancels questions behind its prompt. -/
theorem tellsCourse_ask {prompt question : Text} {judge : Text → Verdict α}
    (judges : ∀ line, Cancels (Screen.plain prompt) (some (.line line)) →
      judge line = .giveUp (.cancelled question)) :
    TellsCourse id (ask prompt question judge) := by
  refine (tells_ask prompt question judge).mono fun result added asked => ?_
  have begins : ∀ (rest : List Exchange) answer,
      (.shown (Screen.plain prompt) :: rest).head? ≠ some (Exchange.read answer) := by
    intro rest answer same
    cases same
  have answered : ∀ line, ¬ Cancels (Screen.plain prompt) (some (.line line)) →
      Proceeds (.shown (Screen.plain prompt)) (.read (some (.line line))) := by
    intro line settles _ _ shown read
    cases shown
    cases read
    exact settles
  have alone : Uncancelled ([] ++ [.shown (Screen.plain prompt)]) := ⟨by simp, begins []⟩
  -- By the rounds of the question: a complaint goes on with the next round, all else is the last.
  induction asked with
  | ended => exact .cancelled alone (.ended _) (.inr rfl)
  | interrupted => exact .cancelled alone (.interrupted _) (.inr rfl)
  | @accepted line value judged =>
      have settles : ¬ Cancels (Screen.plain prompt) (some (.line line)) := fun cancels => by
        rw [judges line cancels] at judged
        cases judged
      exact .going ⟨by simpa using answered line settles, begins _⟩
  | @givenUp line failure judged =>
      by_cases cancels : Cancels (Screen.plain prompt) (some (.line line))
      · rw [judges line cancels] at judged
        cases judged
        exact .cancelled alone cancels (.inl rfl)
      · exact .going ⟨by simpa using answered line cancels, begins _⟩
  | @again line complaint result more judged further induction =>
      have settles : ¬ Cancels (Screen.plain prompt) (some (.line line)) := fun cancels => by
        rw [judges line cancels] at judged
        cases judged
      have complains : Proceeds (.read (some (.line line))) (.shown (Screen.line complaint)) := by
        intro _ _ shown
        cases shown
      exact induction.after ⟨by simp [round, answered line settles, complains], begins _⟩

theorem prompts_nodup : [Screen.plain onePrompt, Screen.plain severalPrompt,
    Screen.plain directoryPrompt].Nodup := by
  decide +kernel

theorem tellsCourse_showChoices (question : Text) (choices : List (Choice α)) :
    TellsCourse id (showChoices question choices) := by
  refine (tells_showChoices question choices).mono fun result added shown => ?_
  obtain ⟨-, table, rfl⟩ := shown
  have lines : Lines (tableOf question table) := by
    intro event member
    simp only [tableOf, List.mem_cons, List.not_mem_nil, or_false] at member
    rcases member with rfl | rfl | rfl
    · exact ⟨[], rfl⟩
    · exact ⟨_, rfl⟩
    · exact ⟨_, rfl⟩
  exact .going lines.uncancelled

theorem tellsCourse_select (question : Text) (choices : List (Choice α)) :
    TellsCourse id (select question choices) := by
  refine (tellsCourse_showChoices question choices).bind fun _ => tellsCourse_ask fun line cancels => ?_
  unfold judgeOne
  cases cancels with
  | blank single empty => exact if_pos (.inl empty)
  | word choosing named => exact if_pos (.inr named)

theorem tellsCourse_multiSelect (question : Text) (choices : List (Choice α)) (minimum : Nat) :
    TellsCourse id (multiSelect question choices minimum) := by
  refine (tellsCourse_showChoices question choices).bind fun _ => tellsCourse_ask fun line cancels => ?_
  have distinct := prompts_nodup
  unfold judgeSeveral
  cases cancels with
  | blank single empty =>
      change Screen.plain severalPrompt ∈ _ at single
      simp only [List.nodup_cons, List.mem_cons, List.not_mem_nil, or_false] at distinct single
      grind
  | word choosing named => exact if_pos named

theorem tellsCourse_askDirectory (disk : Disk) : TellsCourse id (askDirectory disk) := by
  refine tellsCourse_ask fun line cancels => ?_
  have distinct := prompts_nodup
  unfold judgeDirectory
  cases cancels with
  | blank single empty => exact if_pos empty
  | word choosing named =>
      change Screen.plain directoryPrompt ∈ _ at choosing
      simp only [List.nodup_cons, List.mem_cons, List.not_mem_nil, or_false] at distinct choosing
      grind

theorem tellsCourse_askProject (disk : Disk) : TellsCourse id (askProject disk) := by
  have custom : TellsCourse id askCustom := by
    refine (tellsCourse_multiSelect _ _ _).bind fun features => ?_
    split
    · exact tellsCourse_pure _
    · exact (tellsLines_throw _).course
  have selects : TellsCourse id askSelection := by
    refine (tellsCourse_select _ _).bind fun fromPreset => ?_
    split
    · exact (tellsCourse_select _ _).bind fun _ => tellsCourse_pure _
    · exact custom
  refine (tellsCourse_select _ _).bind fun runtime => ?_
  refine (tellsCourse_askDirectory disk).bind fun directory => ?_
  refine selects.bind fun selection => ?_
  refine (tellsCourse_select _ _).bind fun layout => ?_
  simp only
  split
  · exact tellsCourse_pure _
  · exact (tellsLines_throw _).course

end Dialogue

namespace Upkeep

open Dialogue

variable {project : Project}

/-- A confirmation is only cancelled by an interruption or the end of the input. -/
theorem tellsCourse_confirm {message : Text} {standard : Bool}
    (asked : .shown (confirmPrompt message standard) ∈ confirmations) :
    TellsCourse id (confirm message standard) := by
  have other : ∀ prompt ∈ [onePrompt, severalPrompt, directoryPrompt],
      confirmPrompt message standard ≠ Screen.plain prompt := by
    intro prompt listed same
    rw [same] at asked
    exact prompt_notMem_confirmations prompt listed asked
  have none : ∀ line, ¬ Cancels (confirmPrompt message standard) (some (.line line)) := by
    intro line cancels
    cases cancels with
    | blank single empty =>
        simp only [List.mem_cons, List.not_mem_nil, or_false] at single
        rcases single with same | same
        · exact other onePrompt (by simp) same
        · exact other directoryPrompt (by simp) same
    | word choosing named =>
        simp only [List.mem_cons, List.not_mem_nil, or_false] at choosing
        rcases choosing with same | same
        · exact other onePrompt (by simp) same
        · exact other severalPrompt (by simp) same
  exact tellsCourse_ask fun line cancels => absurd cancels (none line)

theorem tellsCourse_consult (task : Task) (project : Project) :
    TellsCourse id (consult task project) :=
  consult_closed tellsCourse_pure (fun first next => TellsCourse.bind first next)
    (fun text => (tells_warning text).course) (fun text => (tells_success text).course)
    (fun _ _ => tellsCourse_multiSelect _ _ _) (tellsCourse_confirm (by simp [confirmations]))
    (tellsCourse_confirm (by simp [confirmations])) (tellsCourse_confirm (by simp [confirmations]))
    task project

theorem course_of_chosen {result : Except Failure Task} {added : List Exchange}
    (chosen : Chosen result added) : Course result added := by
  have course : ∀ {α : Type} {question : Text} {choices : List (Choice α)} {result : Except Failure α}
      {added : List Exchange}, Spoken (select question choices) result added →
      Course result added := fun spoken => (tellsCourse_select _ _).of_spoken spoken
  induction chosen with
  | unsettled first => exact (course first).of_error
  | delete first => exact .going (course first).uncancelled
  | undecided first second => exact (course second).of_error.after (course first).uncancelled
  | add first second =>
      exact .going ((course first).uncancelled.append (course second).uncancelled)
  | remove first second =>
      exact .going ((course first).uncancelled.append (course second).uncancelled)
  | back first second further induction =>
      exact (induction.after (course second).uncancelled).after (course first).uncancelled

theorem tellsCourse_inquire (project : Project) : TellsCourse Prod.snd (inquire project) := by
  refine (tells_say (tells_info _)).course.bind fun _ => ?_
  exact TellsCourse.bind (tells_menu.mono fun _ _ chosen => course_of_chosen chosen) fun task =>
    tells_onCaller (tellsCourse_consult task project)

end Upkeep

namespace CommandLine

open Dialogue Upkeep

theorem tellsCourse_inquire (site : Site) : TellsCourse Prod.snd (inquire site) := by
  have onDisk : ∀ {α : Type} (job : Job α), TellsCourse Prod.snd (Upkeep.onDisk job) :=
    fun job => (tellsLines_onDisk job).course
  refine (onDisk site.store.load).bind fun found => ?_
  cases found with
  | some project => exact Upkeep.tellsCourse_inquire project
  | none =>
      refine (onDisk site.store.present).bind fun present => ?_
      refine TellsCourse.bind (tells_onCaller (tells_displayLine _).course) fun _ => ?_
      refine (onDisk Attempt.disk).bind fun disk => ?_
      refine TellsCourse.bind (tells_onCaller (tellsCourse_askProject disk)) fun project => ?_
      exact tellsCourse_pure _

variable {site : Site} {before : Workspace} {terminal : Terminal} {front back : List Exchange}
  {prompt : Text} {answer : Option Answer}

/-- In a run in which an answer cancels a question, the inquiry has failed with this. -/
theorem inquire_of_cancels (cancels : Cancels prompt answer)
    (asked : (conclude site (before, terminal)).2.2.transcript =
      terminal.transcript ++ (front ++ .shown prompt :: .read answer :: back)) :
    ∃ question first other cancelling tail,
      (inquire site (before, terminal)).1 = .error (.cancelled question) ∧
      (inquire site (before, terminal)).2.2.transcript =
        terminal.transcript ++ (first ++ .shown other :: .read cancelling :: tail) ∧
      (first ++ [.shown other]).IsChain Proceeds ∧ (tail = [] ∨ tail = [.shown "\n"]) := by
  obtain ⟨added, grown, course⟩ := tellsCourse_inquire site (before, terminal)
  rw [conclude_eq, Errand.outcome_bind_apply] at asked
  generalize inquire site (before, terminal) = reached at asked grown course ⊢
  obtain ⟨result, between, asker⟩ := reached
  cases course with
  | going uncancelled =>
      -- What comes after the questions cancels nothing either.
      obtain ⟨told, further, lines⟩ := tells_finish site result (between, asker)
      have whole := uncancelled.append lines.uncancelled
      rw [further, grown, List.append_assoc, List.append_cancel_left_eq] at asked
      rw [asked] at whole
      have related := (List.isChain_append.mp whole.proceeds).2.1
      exact absurd cancels (List.isChain_cons_cons.mp related |>.1 _ _ rfl rfl)
  | cancelled uncancelled settles ended =>
      exact ⟨_, _, _, _, _, rfl, grown, uncancelled.proceeds, ended⟩

theorem reaches_of_cancels (cancels : Cancels prompt answer)
    (asked : (conclude site (before, terminal)).2.2.transcript =
      terminal.transcript ++ (front ++ .shown prompt :: .read answer :: back)) :
    before.Reaches [] (conclude site (before, terminal)).2.1 := by
  obtain ⟨question, -, -, -, -, failed, -⟩ := inquire_of_cancels cancels asked
  have quiet := quiet_inquire site before terminal
  rw [conclude_eq, Errand.outcome_bind_apply, failed, finish_error]
  generalize (inquire site (before, terminal)).2 = reached at quiet ⊢
  obtain ⟨between, asker⟩ := reached
  exact quiet.trans (quiet_close _ between asker)

/-- A run in which an answer cancels a question ends there: nothing more is read or asked, the
error line is all that is still shown, the exit status is that of a failure, and the disk is as
it was. -/
theorem cancelled_run_ends (invocation : Invocation) (disk : Disk) (answers : List Answer)
    (front back : List Exchange) (prompt : Text) (answer : Option Answer)
    (asked : (invocation.outcome disk answers).terminal.transcript =
      front ++ .shown prompt :: .read answer :: back) (cancels : Cancels prompt answer) :
    (invocation.outcome disk answers).status = .ok .failed ∧
    (invocation.outcome disk answers).workspace.disk = disk ∧
    (invocation.outcome disk answers).workspace.journal = [] ∧
    ∃ question line, Screen.error ("Error: " ++ Wording.cancelled question) = .ok line ∧
      (back = [.shown line] ∨ back = [.shown "\n", .shown line]) := by
  rcases invocation.outcome_cases disk answers with ⟨site, level, same⟩ | ⟨-, -, unread⟩
  · rw [same] at asked ⊢
    obtain ⟨question, first, other, cancelling, tail, failed, grown, proceeds, ended⟩ :=
      inquire_of_cancels cancels asked
    have quiet := quiet_inquire site (.on disk level) { answers }
    unfold Outcome.ofErrand at asked ⊢
    rw [conclude_eq, Errand.outcome_bind_apply, failed, finish_error] at asked ⊢
    generalize (inquire site (.on disk level, { answers })).2 = reached at asked grown quiet ⊢
    obtain ⟨between, asker⟩ := reached
    have reported : (Failure.cancelled question).isReported = true := rfl
    have message : (Failure.cancelled question).message?.getD [] = Wording.cancelled question := rfl
    obtain ⟨line, after, final, drawn, closed, reaches, told⟩ :=
      close_reported reported between asker
    rw [message] at drawn
    rw [closed] at asked ⊢
    have unchanged := quiet.trans reaches
    refine ⟨rfl, unchanged.disk, unchanged.journal, question, line, drawn, ?_⟩
    rw [told, grown, List.nil_append, List.append_assoc] at asked
    have unread : ∀ answer, .read answer ∉ tail ++ [Exchange.shown line] := by
      intro answer member
      rcases ended with rfl | rfl
      · simp at member
      · simp at member
    have rest := back_eq_of_cancels proceeds unread cancels asked
    rcases ended with rfl | rfl
    · exact .inl rest
    · exact .inr rest
  · refine absurd ?_ (unread answer)
    rw [asked]
    simp

/-- The input ends before the first question is answered. -/
theorem cancelled_run_ends_unanswered :
    let invocation : Invocation := ⟨[], [], .shipped, false⟩
    let disk : Disk := ⟨fun location => if location = [] then some .directory else none, []⟩
    (invocation.outcome disk []).status = .ok .failed ∧
      (invocation.outcome disk []).workspace.disk = disk := by
  intro invocation disk
  have reads : ((invocation.outcome disk []).terminal.transcript.drop 4).take 2 =
      [.shown (Screen.plain onePrompt), .read none] := by decide +kernel
  have split : ∀ {transcript : List Exchange} {first second : Exchange},
      (transcript.drop 4).take 2 = [first, second] →
      transcript = transcript.take 4 ++ first :: second :: (transcript.drop 4).drop 2 := by
    intro transcript first second taken
    have later := List.take_append_drop 2 (transcript.drop 4)
    rw [taken] at later
    have whole := List.take_append_drop 4 transcript
    rw [← later] at whole
    exact whole.symm
  obtain ⟨status, unchanged, -⟩ :=
    cancelled_run_ends invocation disk [] _ _ _ _ (split reads) (.ended _)
  exact ⟨status, unchanged⟩

end CommandLine

end HelperKit
