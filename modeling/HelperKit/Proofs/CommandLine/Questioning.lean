import HelperKit.Proofs.CommandLine.Arriving
import HelperKit.Proofs.CommandLine.Exhausting
import HelperKit.Proofs.Dialogue.Gathering

/-!
# Which question reads an answer

Whatever answer a run reads, it has arrived by the answers before at a question that reads it: for
one of the choices, for several, for a directory, or for yes or no.
-/

namespace HelperKit

open Dialogue Upkeep

/-- What is asked: for one of some labels, for at least so many of them, for a directory, or for
consent. -/
inductive Question where
  | one (text : Text) (labels : List Text)
  | several (text : Text) (labels : List Text) (minimum : Nat)
  | directory
  | consent (message : Text) (standard : Bool)

namespace Question

variable {disk : Disk} {question : Question} {answer : Answer} {front : List Answer} {β : Type}

/-- The text of a question. -/
def text : Question → Text
  | one text _ => text
  | several text _ _ => text
  | directory => directoryQuestion
  | consent message _ => message

/-- The prompt at which a question reads answers. -/
def prompt : Question → Text
  | one _ _ => onePrompt
  | several _ _ _ => severalPrompt
  | directory => directoryPrompt
  | consent message standard =>
      message ++ if standard then Text.ofString " [Y/n] " else Text.ofString " [y/N] "

/-- What is shown before the prompt of a question: the table of its labels, if it has any. -/
def Introduced : Question → List Exchange → Prop
  | one text labels, shown => ∃ table, Screen.optionTable labels = .ok (table ++ "\n") ∧
      shown = tableOf text table
  | several text labels _, shown => ∃ table, Screen.optionTable labels = .ok (table ++ "\n") ∧
      shown = tableOf text table
  | directory, shown => shown = []
  | consent _ _, shown => shown = []

/-- The lines that a question rejects: those that are neither blank nor give it up, but match none
of the labels; those that match no label or too few; and those that name something that is there
to be tested and no directory.  Consent is given or denied by every line. -/
def Rejects (disk : Disk) (line : Text) : Question → Prop
  | one _ labels => Unsettling labels line
  | several _ labels minimum => ∃ complaint, Insufficient labels minimum line complaint
  | directory => line.strip ≠ [] ∧ disk.isDirectory (.ofText line.strip) = .ok false
  | consent _ _ => False

/-- How the answers to a question are judged. -/
inductive JudgedBy (disk : Disk) : Question → {α : Type} → (Text → Verdict α) → Prop where
  | one {α : Type} (text : Text) (choices : List (Choice α)) :
      JudgedBy disk (one text (choices.map Choice.label)) (judgeOne text choices)
  | several {α : Type} (text : Text) (choices : List (Choice α)) (minimum : Nat) :
      JudgedBy disk (several text (choices.map Choice.label) minimum)
        (judgeSeveral text choices minimum)
  | directory : JudgedBy disk directory (judgeDirectory disk)
  | consent (message : Text) (standard : Bool) :
      JudgedBy disk (consent message standard) (judgeConfirm standard)

/-- A question is asked again behind those lines, and no others, that it rejects. -/
theorem JudgedBy.rejects_iff {judge : Text → Verdict β} (judged : question.JudgedBy disk judge)
    (line : Text) : question.Rejects disk line ↔ ∃ complaint, judge line = .again complaint := by
  cases judged with
  | one text choices =>
      constructor
      · exact fun unsettling => ⟨_, Unsettling.judged text unsettling⟩
      · rintro ⟨complaint, again⟩
        exact (judgeOne_eq_again again).2
  | several text choices minimum =>
      constructor
      · rintro ⟨complaint, insufficient⟩
        exact insufficient.judged text
      · rintro ⟨complaint, again⟩
        exact ⟨complaint, judgeSeveral_eq_again again⟩
  | directory => exact judgeDirectory_eq_again_iff.symm
  | consent message standard =>
      constructor
      · exact False.elim
      · rintro ⟨complaint, again⟩
        unfold judgeConfirm at again
        simp only at again
        split at again <;> cases again

/-- How a question reads an answer, going by a transcript: behind what else was read its table is
shown, lines are read that it rejects, and then at its prompt the answer is. -/
inductive ReadsIn (disk : Disk) (question : Question) (answer : Answer) :
    List Answer → List Exchange → Prop where
  | behind {earlier shown rounds later : List Exchange} {taken : List Answer}
      {rejected : List Text} (read : readings earlier = taken.map some)
      (introduced : question.Introduced shown)
      (rejects : ∀ line ∈ rejected, question.Rejects disk line)
      (complained : readings rounds = rejected.map fun line => some (.line line)) :
      ReadsIn disk question answer (taken ++ rejected.map .line)
        (earlier ++ (shown ++ (rounds ++
          .shown (Screen.plain question.prompt) :: .read (some answer) :: later)))

theorem ReadsIn.append {added : List Exchange} (reads : question.ReadsIn disk answer front added)
    (more : List Exchange) : question.ReadsIn disk answer front (added ++ more) := by
  cases reads with
  | behind read introduced rejects complained =>
      rw [List.append_assoc, List.append_assoc, List.append_assoc, List.cons_append,
        List.cons_append]
      exact .behind read introduced rejects complained

theorem ReadsIn.after {added more : List Exchange} {taken : List Answer}
    (reads : question.ReadsIn disk answer front more) (read : readings added = taken.map some) :
    question.ReadsIn disk answer (taken ++ front) (added ++ more) := by
  cases reads with
  | @behind earlier _ _ _ before _ readToo introduced rejects complained =>
      rw [← List.append_assoc, ← List.append_assoc]
      refine .behind ?_ introduced rejects complained
      rw [readings_append, read, readToo, List.map_append]

end Question

namespace CommandLine

variable {site : Site} {disk : Disk} {α β : Type} {before between after : Workspace}
  {front taken : List Answer} {question : Question}

/-- Once it has read some answers, an errand asks a question. -/
def Asks (site : Site) (disk : Disk) (errand : Errand Terminal α) (before : Workspace)
    (front : List Answer) (question : Question) : Prop :=
  ∃ (β : Type) (judge : Text → Verdict β) (there : Workspace), question.JudgedBy disk judge ∧
    Arrives site errand before front (converse (ask question.prompt question.text judge)) there

theorem Asks.first {first : Errand Terminal α} {next : α → Errand Terminal β}
    (asks : Asks site disk first before front question)
    (composed : ∀ value, Composed site (fun _ => True) (next value)) :
    Asks site disk (first >>= next) before front question := by
  obtain ⟨_, judge, there, judged, arrives⟩ := asks
  exact ⟨_, judge, there, judged, .first composed arrives⟩

theorem Asks.next {first : Errand Terminal α} {next : α → Errand Terminal β} {value : α}
    (yields : Yields first before taken value between)
    (asks : Asks site disk (next value) between front question) :
    Asks site disk (first >>= next) before (taken ++ front) question := by
  obtain ⟨_, judge, there, judged, arrives⟩ := asks
  exact ⟨_, judge, there, judged, .next yields arrives⟩

theorem Yields.bind {first : Errand Terminal α} {next : α → Errand Terminal β} {middle : α}
    {value : β} (yields : Yields first before taken middle between)
    (further : Yields (next middle) between front value after) :
    Yields (first >>= next) before (taken ++ front) value after := by
  obtain ⟨added, read, takes⟩ := yields
  obtain ⟨more, readMore, takesMore⟩ := further
  refine ⟨added ++ more, ?_, fun later transcript => ?_⟩
  · rw [readings_append, read, readMore, List.map_append]
  · rw [Errand.bind_apply, List.append_assoc, takes]
    simp only
    rw [takesMore, List.append_assoc]

/-- An errand that begins in a state accounts for the answers: if it returns, it has read the ones
that are not left, and each answer that it reads is read by a question that it asks behind those
before. -/
structure Accounted (site : Site) (disk : Disk) (errand : Errand Terminal α)
    (state : Workspace × Terminal) : Prop where
  yields : ∀ value after, errand state = (.ok value, after) → ∃ taken,
    state.2.answers = taken ++ after.2.answers ∧ Yields errand state.1 taken value after.1
  asks : ∀ front answer back, state.2.answers = front ++ answer :: back →
    (errand state).2.2.answers.length ≤ back.length →
    ∃ question added, Asks site disk errand state.1 front question ∧
      (errand state).2.2.transcript = state.2.transcript ++ added ∧
      question.ReadsIn disk answer front added

theorem Accounted.bind {first : Errand Terminal α} {next : α → Errand Terminal β}
    {state : Workspace × Terminal}
    (composed : ∀ value, Composed site (fun _ => True) (next value))
    (accounted : Accounted site disk first state)
    (further : ∀ value after, first state = (.ok value, after) →
      Accounted site disk (next value) after) : Accounted site disk (first >>= next) state where
  yields value after returned := by
    rw [Errand.bind_apply] at returned
    cases reached : first state with
    | mk result between =>
        rw [reached] at returned
        cases result with
        | error failure => cases returned
        | ok middle =>
            obtain ⟨taken, split, yields⟩ := accounted.yields middle between reached
            obtain ⟨more, splitMore, yieldsMore⟩ :=
              (further middle between reached).yields value after returned
            refine ⟨taken ++ more, ?_, yields.bind yieldsMore⟩
            rw [split, splitMore, List.append_assoc]
  asks front answer back split few := by
    have firstAsks := accounted.asks front answer back split
    rw [Errand.bind_apply] at few ⊢
    cases reached : first state with
    | mk result between =>
        rw [reached] at few firstAsks
        cases result with
        | error failure =>
            obtain ⟨question, added, asks, grown, reads⟩ := firstAsks few
            exact ⟨question, added, asks.first composed, grown, reads⟩
        | ok middle =>
            obtain ⟨taken, given, yields⟩ := accounted.yields middle between reached
            -- No more is left than what is behind the answer just if the first errand has read it.
            by_cases readFirst : between.2.answers.length ≤ back.length
            · obtain ⟨question, added, asks, grown, reads⟩ := firstAsks readFirst
              obtain ⟨more, grownMore, -⟩ := (composed middle).readsInOrder between
              refine ⟨question, added ++ more, asks.first composed, ?_, reads.append more⟩
              exact grownMore.trans ((congrArg (· ++ more) grown).trans (List.append_assoc _ _ _))
            · -- All that the first errand takes is in front of the answer.
              obtain ⟨rest, rfl, tail⟩ : ∃ rest, front = taken ++ rest ∧
                  between.2.answers = rest ++ answer :: back := by
                rcases List.append_eq_append_iff.mp (split.symm.trans given) with
                  ⟨rest, same, tail⟩ | behind
                · cases rest with
                  | nil => exact ⟨[], by rw [same, List.append_nil, List.append_nil], tail.symm⟩
                  | cons head rest =>
                      have lengths := congrArg List.length tail
                      simp only [List.cons_append, List.length_cons, List.length_append] at lengths
                      omega
                · exact behind
              obtain ⟨question, more, asks, grown, reads⟩ :=
                (further middle between reached).asks rest answer back tail few
              obtain ⟨added, read, takes⟩ := yields
              have begun : between.2.transcript = state.2.transcript ++ added := by
                have same := takes between.2.answers state.2.transcript
                rw [← given] at same
                exact congrArg (fun ran => ran.2.2.transcript) (reached.symm.trans same)
              refine ⟨question, added ++ more, asks.next ⟨added, read, takes⟩, ?_, reads.after read⟩
              exact grown.trans ((congrArg (· ++ more) begun).trans (List.append_assoc _ _ _))

theorem accounted_of_unread {errand : Errand Terminal α} {state : Workspace × Terminal}
    (unread : (errand state).2.2.answers = state.2.answers)
    (yields : ∀ value after, errand state = (.ok value, after) →
      Yields errand state.1 [] value after.1) : Accounted site disk errand state where
  yields value after returned := by
    refine ⟨[], ?_, yields value after returned⟩
    rw [returned] at unread
    exact unread.symm
  asks front answer back split few := by
    rw [unread, split, List.length_append, List.length_cons] at few
    omega

theorem accounted_pure (value : α) (state : Workspace × Terminal) :
    Accounted site disk (pure value : Errand Terminal α) state :=
  accounted_of_unread rfl fun other after returned => by
    cases returned
    exact ⟨[], rfl, fun later transcript => by rw [List.append_nil]; rfl⟩

theorem accounted_onDisk (job : Job α) (state : Workspace × Terminal) :
    Accounted site disk (onDisk job) state :=
  accounted_of_unread rfl fun value after returned => by
    have result : (job state.1).1 = .ok value := congrArg Prod.fst returned
    have left : (job state.1).2 = after.1 := congrArg (fun ran => ran.2.1) returned
    exact left ▸ yields_onDisk result

theorem accounted_say (message : Except Failure Text) (state : Workspace × Terminal) :
    Accounted site disk (say message) state := by
  cases message with
  | ok text =>
      refine accounted_of_unread rfl fun value after returned => ?_
      cases returned
      exact yields_say text state.1
  | error failure => exact accounted_of_unread rfl fun value after returned => by cases returned

/-! ## Questions -/

theorem yields_converse {dialogue : Dialogue α}
    {related : List Answer → List Exchange → α → Prop} (gathers : Gathers dialogue related)
    {value : α} {state after : Workspace × Terminal}
    (reads : ReadsInOrder id dialogue state.2)
    (returned : converse dialogue state = (.ok value, after)) : ∃ taken,
      state.2.answers = taken ++ after.2.answers ∧
        Yields (converse dialogue) state.1 taken value after.1 := by
  obtain ⟨ran, same⟩ := converse_eq_ok returned
  obtain ⟨taken, added, split, grown, takes, -⟩ := gathers _ _ _ _ ran
  obtain ⟨more, grownToo, draws⟩ := reads
  rw [ran] at grownToo draws
  cases List.append_cancel_left (grown.symm.trans grownToo)
  refine ⟨taken, split, added, draws.read_eq split, fun later transcript => ?_⟩
  rw [converse_apply, takes, same]

/-- A question that reads an answer has rejected the lines before. -/
theorem rejected_of_read {shown text : Text} {judge : Text → Verdict α} {answer : Answer}
    {back : List Answer} {transcript : List Exchange}
    (read : (settle shown text judge (front ++ answer :: back) transcript).2.answers.length ≤
      back.length) : ∃ rejected : List Text, front = rejected.map .line ∧
        ∀ line ∈ rejected, ∃ complaint, judge line = .again complaint := by
  induction front generalizing transcript with
  | nil => exact ⟨[], rfl, fun _ member => nomatch member⟩
  | cons first rest induction =>
      have long : ¬ (rest ++ answer :: back).length ≤ back.length := by
        rw [List.length_append, List.length_cons]
        omega
      cases first with
      | interrupt => exact (long read).elim
      | line line =>
          rw [List.cons_append, settle] at read
          cases judged : judge line with
          | accept value =>
              rw [judged] at read
              exact (long read).elim
          | giveUp failure =>
              rw [judged] at read
              exact (long read).elim
          | again complaint =>
              rw [judged] at read
              obtain ⟨rejected, rfl, again⟩ := induction read
              exact ⟨line :: rejected, rfl,
                List.forall_mem_cons.mpr ⟨⟨complaint, judged⟩, again⟩⟩

/-- Behind lines that it rejects a question reads an answer at its prompt. -/
theorem settle_reads {shown text : Text} {judge : Text → Verdict α} {rejected : List Text}
    (again : ∀ line ∈ rejected, ∃ complaint, judge line = .again complaint) (answer : Answer)
    (back : List Answer) (transcript : List Exchange) : ∃ rounds later,
      (settle shown text judge (rejected.map .line ++ answer :: back) transcript).2.transcript =
        transcript ++ (rounds ++ .shown shown :: .read (some answer) :: later) ∧
      readings rounds = rejected.map fun line => some (.line line) := by
  induction rejected generalizing transcript with
  | nil =>
      cases answer with
      | interrupt => exact ⟨[], _, rfl, rfl⟩
      | line line =>
          rw [List.map_nil, List.nil_append, settle]
          cases judge line with
          | accept value => exact ⟨[], _, rfl, rfl⟩
          | giveUp failure => exact ⟨[], _, rfl, rfl⟩
          | again complaint =>
              obtain ⟨added, grown, -⟩ := draws_settle shown text judge back
                (transcript ++ round shown line complaint)
              refine ⟨[], .shown (Screen.line complaint) :: added, grown.trans ?_, rfl⟩
              rw [List.append_assoc]
              rfl
  | cons line rejected induction =>
      obtain ⟨complaint, judged⟩ := again line List.mem_cons_self
      obtain ⟨rounds, later, grown, read⟩ :=
        induction (fun other member => again other (List.mem_cons_of_mem _ member))
          (transcript ++ round shown line complaint)
      refine ⟨round shown line complaint ++ rounds, later, ?_, ?_⟩
      · rw [List.map_cons, List.cons_append, settle_again judged, grown, List.append_assoc,
          List.append_assoc]
      · rw [readings_append, read]
        rfl

/-- A question is asked again behind each line that it rejects. -/
theorem Arrives.behind_rejected {errand : Errand Terminal β} {prompt text : Text}
    {judge : Text → Verdict α} {there : Workspace} {rejected : List Text}
    (arrives : Arrives site errand before front (converse (ask prompt text judge)) there)
    (again : ∀ line ∈ rejected, ∃ complaint, judge line = .again complaint) :
    Arrives site errand before (front ++ rejected.map .line) (converse (ask prompt text judge))
      there := by
  induction rejected generalizing front with
  | nil =>
      rw [List.map_nil, List.append_nil]
      exact arrives
  | cons line rejected induction =>
      obtain ⟨complaint, judged⟩ := again line List.mem_cons_self
      have behind := induction (arrives.again judged)
        fun other member => again other (List.mem_cons_of_mem _ member)
      rwa [List.append_assoc, List.singleton_append] at behind

/-- A question accounts for the answers that it reads, whatever has introduced it. -/
theorem reads_of_ask {judge : Text → Verdict α} (judged : question.JudgedBy disk judge)
    {shown : List Exchange} (introduced : question.Introduced shown) {answer : Answer}
    {back : List Answer} {transcript : List Exchange}
    (few : (ask question.prompt question.text judge
      ⟨front ++ answer :: back, transcript⟩).2.answers.length ≤ back.length) :
    ∃ added, Asks site disk (converse (ask question.prompt question.text judge)) before front
        question ∧
      (ask question.prompt question.text judge ⟨front ++ answer :: back, transcript⟩).2.transcript =
        transcript ++ added ∧ question.ReadsIn disk answer front (shown ++ added) := by
  obtain ⟨rejected, rfl, again⟩ := rejected_of_read few
  obtain ⟨rounds, later, grown, read⟩ := settle_reads again answer back transcript
  refine ⟨_, ⟨_, judge, before, judged, ?_⟩, grown, ?_⟩
  · exact Arrives.behind_rejected (.here _ before) again
  · have nothing : readings [] = ([] : List Answer).map some := rfl
    exact .behind nothing introduced
      (fun line member => (judged.rejects_iff line).mpr (again line member)) read

theorem accounted_ask {judge : Text → Verdict α} (judged : question.JudgedBy disk judge)
    (unannounced : question.Introduced []) (state : Workspace × Terminal) :
    Accounted site disk (converse (ask question.prompt question.text judge)) state where
  yields value after returned :=
    yields_converse (gathers_ask _ _ _) (readsInOrder_ask _ _ _ state.2) returned
  asks front answer back split few := by
    obtain ⟨before, answers, transcript⟩ := state
    obtain rfl : answers = front ++ answer :: back := split
    obtain ⟨added, asks, grown, reads⟩ := reads_of_ask judged unannounced few
    exact ⟨question, added, asks, grown, reads⟩

/-- The choices are shown, and then a question is asked. -/
theorem accounted_choose {choices : List (Choice β)} {judge : Text → Verdict α}
    (judged : question.JudgedBy disk judge)
    (introduced : ∀ table, Screen.optionTable (choices.map Choice.label) = .ok (table ++ "\n") →
      question.Introduced (tableOf question.text table)) (state : Workspace × Terminal) :
    Accounted site disk (converse (showChoices question.text choices >>= fun _ =>
      ask question.prompt question.text judge)) state where
  yields value after returned :=
    yields_converse (gathers_showChoices_ask choices judge)
      ((readsInOrder_showChoices _ choices state.2).bind fun _ between _ =>
        readsInOrder_ask _ _ _ between) returned
  asks front answer back split few := by
    obtain ⟨before, answers, transcript⟩ := state
    obtain rfl : answers = front ++ answer :: back := split
    obtain ⟨table, drawn⟩ := Screen.optionTable_eq_ok (choices.map Choice.label)
    have shown : ∀ next : Dialogue α, (showChoices question.text choices >>= fun _ => next)
        ⟨front ++ answer :: back, transcript⟩ =
          next ⟨front ++ answer :: back, transcript ++ tableOf question.text table⟩ := by
      intro next
      rw [bind_apply, showChoices_eq drawn]
    rw [converse_apply, shown] at few
    obtain ⟨added, asks, grown, reads⟩ := reads_of_ask judged (introduced table drawn) few
    refine ⟨question, tableOf question.text table ++ added, ?_, ?_, reads⟩
    · rw [Upkeep.converse_bind]
      exact asks.next (yields_showChoices question.text choices before)
    · rw [converse_apply, shown, ← List.append_assoc]
      exact grown

theorem accounted_select (text : Text) (choices : List (Choice α)) (state : Workspace × Terminal) :
    Accounted site disk (converse (select text choices)) state :=
  accounted_choose (.one text choices) (fun table drawn => ⟨table, drawn, rfl⟩) state

theorem accounted_multiSelect (text : Text) (choices : List (Choice α)) (minimum : Nat)
    (state : Workspace × Terminal) :
    Accounted site disk (converse (multiSelect text choices minimum)) state :=
  accounted_choose (.several text choices minimum) (fun table drawn => ⟨table, drawn, rfl⟩) state

/-- Whatever a run is composed of, it accounts for the answers. -/
theorem Composed.accounted {errand : Errand Terminal α}
    (composed : Composed site (· = disk) errand) (state : Workspace × Terminal) :
    Accounted site disk errand state := by
  induction composed generalizing state with
  | pure value => exact accounted_pure value state
  | throw failure =>
      exact accounted_of_unread rfl fun value after returned => by cases returned
  | bind _ nextComposed first next =>
      exact Accounted.bind (fun value => (nextComposed value).mono fun _ _ => trivial) (first state)
        fun value after _ => next value after
  | say message => exact accounted_say message state
  | select text choices => exact accounted_select text choices state
  | multiSelect text choices minimum => exact accounted_multiSelect text choices minimum state
  | confirm message standard => exact accounted_ask (.consent message standard) rfl state
  | directory found =>
      subst found
      exact accounted_ask .directory rfl state
  | menu =>
      exact menu_closed site (fun _ => True)
        (fun errand state => Accounted site disk errand state) accounted_pure Accounted.bind
        accounted_select (fun _ _ => accounted_onDisk _) state
  | load => exact accounted_onDisk _ state
  | present => exact accounted_onDisk _ state
  | disk => exact accounted_onDisk _ state
  | note level message => exact accounted_onDisk _ state
  | call call => exact accounted_onDisk _ state

/-- An errand that has no effect leaves the disk as it is. -/
theorem disk_of_quiet {errand : Errand Terminal α} (quiet : errand.Quiet)
    {state left : Workspace × Terminal} {result : Except Failure α}
    (ran : errand state = (result, left)) : left.1.disk = state.1.disk := by
  have reaches := quiet state.1 state.2
  rw [ran] at reaches
  exact reaches.disk

/-- A run accounts for the answers: directories are asked for on the disk that it begins on. -/
theorem accounted_run (site : Site) {state : Workspace × Terminal} (begins : state.1.disk = disk) :
    Accounted site disk (run site) state := by
  have composed : ∀ present, Composed site (fun _ => True) (do
      converse (Dialogue.display (Screen.line (announcement site.config present)))
      let disk ← onDisk Attempt.disk
      inquireOn disk) := fun present =>
    .bind (.display _) fun _ => .bind .disk fun _ => composed_inquireOn trivial
  have asked : Accounted site disk (inquire site) state := by
    rw [inquire_eq]
    refine Accounted.bind (composed_inquireFound fun _ => trivial) (accounted_onDisk _ state)
      fun found loaded loading => ?_
    have still : loaded.1.disk = disk :=
      (disk_of_quiet (Errand.quiet_onDisk Store.acts_load) loading).trans begins
    cases found with
    | some project => exact (composed_inquireSession project).accounted loaded
    | none =>
        refine Accounted.bind composed (accounted_onDisk _ loaded) fun present looked looking => ?_
        have stillThere : looked.1.disk = disk :=
          (disk_of_quiet (Errand.quiet_onDisk Store.acts_present) looking).trans still
        refine Accounted.bind (fun _ => .bind .disk fun _ => composed_inquireOn trivial)
          (accounted_say (.ok _) looked) fun _ told telling => ?_
        refine Accounted.bind (fun _ => composed_inquireOn trivial) (accounted_onDisk _ told)
          fun found seen seeing => ?_
        have same : found = disk := by
          have known : told.1.disk = found := Except.ok.inj (congrArg Prod.fst seeing)
          rw [← known, ← stillThere]
          exact disk_of_quiet (Errand.quiet_onCaller _) telling
        have composed : Composed site (· = disk) (inquireOn found) := composed_inquireOn same
        exact composed.accounted seen
  rw [run_eq]
  exact asked.bind composed_conduct fun call? left _ => (composed_conduct call?).accounted left

end CommandLine

end HelperKit
