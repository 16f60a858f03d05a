import HelperKit.Proofs.Artifact.Merging

/-!
# Template sources stay what they were

A loader is asked for templates while their files come and go.  What it answers for a name is the
text of the first query for that name that found one, from that query on; until then every query
finds the file as it is.  Other names have no part in it, whatever file they lead to.
-/

namespace HelperKit

namespace Template

variable {folder : TemplateFolder} {name text : Text} {before : Workspace}

/-- What happens around a loader: a template or the payload of a feature is asked for, or the disk
becomes another one. -/
inductive Event where
  | source (name : Text)
  | payload (feature : Feature)
  | change (alter : Disk → Disk)

namespace Event

/-- The name of the template that is asked for. -/
def name? : Event → Option Text
  | .source name => some name
  | .payload feature => some feature.fileName
  | .change _ => none

/-- Whether an event is a query for a name or may be felt by one: that is, whether it is no query
for another name. -/
def concerns (name : Text) (event : Event) : Bool :=
  event.name?.all (· = name)

/-- The disk behind an event. -/
def disk (disk : Disk) : Event → Disk
  | .source _ => disk
  | .payload _ => disk
  | .change alter => alter disk

/-- An event at a loader: what is answered, if something is asked for, and what is left. -/
def run (folder : TemplateFolder) (event : Event) (before : Workspace) :
    Option (Except Failure Text) × Workspace :=
  match event with
  | .source name =>
      (some (Template.source folder name before).1, (Template.source folder name before).2)
  | .payload feature =>
      (some (feature.payload folder before).1, (feature.payload folder before).2)
  | .change alter => (none, { before with disk := alter before.disk })

end Event

/-- The answers to the queries among some events, in order. -/
def answers (folder : TemplateFolder) : List Event → Workspace → List (Except Failure Text)
  | [], _ => []
  | event :: events, before =>
      (event.run folder before).1.toList ++ answers folder events (event.run folder before).2

/-- The workspace behind some events. -/
def after (folder : TemplateFolder) : List Event → Workspace → Workspace
  | [], before => before
  | event :: events, before => after folder events (event.run folder before).2

/-- The disk behind some events, of which queries have no part in it. -/
def diskAfter (disk : Disk) (events : List Event) : Disk :=
  events.foldl Event.disk disk

/-- The text that a file had at the first query for its name that found one. -/
def first? (folder : TemplateFolder) (name : Text) : Disk → List Event → Option Text
  | _, [] => none
  | disk, event :: events =>
      (if event.name? = some name then (current folder disk name).toOption else none).or
        (first? folder name (event.disk disk) events)

/-- What is answered for a name behind some events: the text of the first query for it that found
one, else what the file is now. -/
def settled (folder : TemplateFolder) (disk : Disk) (events : List Event) (name : Text) :
    Except Failure Text :=
  match first? folder name disk events with
  | some text => .ok text
  | none => current folder (diskAfter disk events) name

/-! ## One event -/

theorem answers_append (events later : List Event) (before : Workspace) :
    answers folder (events ++ later) before =
      answers folder events before ++ answers folder later (after folder events before) := by
  induction events generalizing before with
  | nil => rfl
  | cons event events induction =>
      rw [List.cons_append, answers, induction, answers, List.append_assoc, after]

theorem after_append (events later : List Event) (before : Workspace) :
    after folder (events ++ later) before = after folder later (after folder events before) := by
  induction events generalizing before with
  | nil => rfl
  | cons event events induction => exact induction _

theorem source_fst (folder : TemplateFolder) (name : Text) (before : Workspace) :
    (source folder name before).1 =
      match before.cache.lookup name with
      | some text => .ok text
      | none => current folder before.disk name := by
  rw [source_apply]
  cases before.cache.lookup name with
  | some text => rfl
  | none => cases current folder before.disk name <;> rfl

/-- A query that fails leaves everything as it was. -/
theorem source_of_error {failure : Failure}
    (failed : (source folder name before).1 = .error failure) :
    (source folder name before).2 = before := by
  rw [source_apply] at failed ⊢
  cases remembered : before.cache.lookup name with
  | some text => rfl
  | none =>
      rw [remembered] at failed
      cases read : current folder before.disk name with
      | error failure => rfl
      | ok text =>
          rw [read] at failed
          cases failed

/-- Behind a query its own name is remembered if there was a text, and other names as before. -/
theorem lookup_source (folder : TemplateFolder) (asked name : Text) (before : Workspace) :
    (source folder asked before).2.cache.lookup name = (before.cache.lookup name).or
      (if asked = name then (current folder before.disk name).toOption else none) := by
  rw [source_apply]
  cases remembered : before.cache.lookup asked with
  | some text =>
      by_cases same : asked = name
      · rw [← same, remembered]
        rfl
      · rw [if_neg same, Option.or_none]
  | none =>
      cases read : current folder before.disk asked with
      | error failure =>
          by_cases same : asked = name
          · rw [if_pos same, ← same, remembered, read]
            rfl
          · rw [if_neg same, Option.or_none]
      | ok text =>
          change List.lookup name ((asked, text) :: before.cache) = _
          rw [List.lookup_cons]
          by_cases same : asked = name
          · rw [if_pos same, ← same, remembered, read, beq_self_eq_true]
            rfl
          · rw [if_neg same, Option.or_none, beq_eq_false_iff_ne.mpr (Ne.symm same)]

namespace Event

/-- A query for a payload is one for the file of the feature. -/
theorem run_eq_source {event : Event} (asks : event.name? = some name) (folder : TemplateFolder)
    (before : Workspace) : event.run folder before =
      (some (Template.source folder name before).1, (Template.source folder name before).2) := by
  cases event with
  | source asked =>
      cases asks
      rfl
  | payload feature =>
      cases asks
      rfl
  | change alter => cases asks

theorem disk_run (event : Event) (folder : TemplateFolder) (before : Workspace) :
    (event.run folder before).2.disk = event.disk before.disk := by
  cases event with
  | source name => exact (reaches_source folder name before).disk
  | payload feature => exact (reaches_source folder feature.fileName before).disk
  | change alter => rfl

theorem lookup_run (event : Event) (folder : TemplateFolder) (name : Text) (before : Workspace) :
    (event.run folder before).2.cache.lookup name = (before.cache.lookup name).or
      (if event.name? = some name then (current folder before.disk name).toOption else none) := by
  cases event with
  | source asked =>
      simp only [name?, Option.some.injEq]
      exact lookup_source folder asked name before
  | payload feature =>
      simp only [name?, Option.some.injEq]
      exact lookup_source folder feature.fileName name before
  | change alter => exact (Option.or_none).symm

end Event

/-! ## Any number of events -/

theorem disk_after (events : List Event) (before : Workspace) :
    (after folder events before).disk = diskAfter before.disk events := by
  induction events generalizing before with
  | nil => rfl
  | cons event events induction =>
      rw [after, induction, event.disk_run]
      rfl

/-- What was remembered stays, and otherwise the text of the first query that found one is. -/
theorem lookup_after (events : List Event) (before : Workspace) (name : Text) :
    (after folder events before).cache.lookup name =
      (before.cache.lookup name).or (first? folder name before.disk events) := by
  induction events generalizing before with
  | nil => exact (Option.or_none).symm
  | cons event events induction =>
      rw [after, induction, event.lookup_run, event.disk_run, Option.or_assoc]
      rfl

/-- Queries for other names have no part in what is answered for a name. -/
theorem settled_filter (disk : Disk) (events : List Event) :
    settled folder disk (events.filter (Event.concerns name)) name =
      settled folder disk events name := by
  have unfelt : first? folder name disk (events.filter (Event.concerns name)) =
        first? folder name disk events ∧
      diskAfter disk (events.filter (Event.concerns name)) = diskAfter disk events := by
    induction events generalizing disk with
    | nil => exact ⟨rfl, rfl⟩
    | cons event events induction =>
        by_cases concerned : event.concerns name = true
        · rw [List.filter_cons_of_pos concerned, first?, first?, (induction _).1]
          exact ⟨rfl, (induction _).2⟩
        · have other : event.name? ≠ some name := fun same => concerned (by
            rw [Event.concerns, same]
            exact decide_eq_true rfl)
          have still : event.disk disk = disk := by
            cases event with
            | source asked => rfl
            | payload feature => rfl
            | change alter => exact (concerned rfl).elim
          rw [List.filter_cons_of_neg concerned, first?, if_neg other, Option.none_or, still]
          refine ⟨(induction disk).1, (induction disk).2.trans ?_⟩
          exact congrArg (events.foldl Event.disk) still.symm
  rw [settled, settled, unfelt.1, unfelt.2]

/-- A query is answered with what is settled by the events before it. -/
theorem run_fst_after {event : Event} (unasked : before.cache = []) (earlier : List Event)
    (asks : event.name? = some name) : (event.run folder (after folder earlier before)).1 =
      some (settled folder before.disk earlier name) := by
  have remembered : (after folder earlier before).cache.lookup name =
      first? folder name before.disk earlier := by
    rw [lookup_after, unasked]
    exact Option.none_or
  rw [Event.run_eq_source asks, source_fst, remembered, disk_after, settled]

/-- Whatever was asked for and whatever became of the files, a query is answered with the text that
its file had at the first query for the very same name that found one, or else with what the file
is now.  One that fails leaves nothing behind.  It makes no difference whether the payload of a
feature is asked for or its file, and none which queries for other names there were before. -/
theorem sources_stay_coherent (folder : TemplateFolder) (start : Workspace)
    (unasked : start.cache = []) (earlier later : List Event) (event : Event) (name : Text)
    (asks : event.name? = some name) :
    (∃ rest, answers folder (earlier ++ event :: later) start =
      answers folder earlier start ++ settled folder start.disk earlier name :: rest) ∧
    (∀ failure, settled folder start.disk earlier name = .error failure →
      after folder (earlier ++ [event]) start = after folder earlier start) ∧
    (∀ same : Event, same.name? = some name →
      answers folder (earlier ++ same :: later) start =
        answers folder (earlier ++ event :: later) start) ∧
    ∀ instead : List Event,
      instead.filter (Event.concerns name) = earlier.filter (Event.concerns name) →
      ∃ rest, answers folder (instead ++ event :: later) start =
        answers folder instead start ++ settled folder start.disk earlier name :: rest := by
  have answered : ∀ past : List Event, ∃ rest, answers folder (past ++ event :: later) start =
      answers folder past start ++ settled folder start.disk past name :: rest := by
    intro past
    rw [answers_append, answers, run_fst_after unasked past asks]
    exact ⟨_, rfl⟩
  refine ⟨answered earlier, ?_, ?_, ?_⟩
  · intro failure fails
    have settles : (event.run folder (after folder earlier start)).1 =
        some (settled folder start.disk earlier name) := run_fst_after unasked earlier asks
    rw [Event.run_eq_source asks, fails] at settles
    rw [after_append, after, after, Event.run_eq_source asks]
    exact source_of_error (Option.some.inj settles)
  · intro same asksToo
    rw [answers_append, answers_append, answers, answers, Event.run_eq_source asks,
      Event.run_eq_source asksToo]
  · intro instead alike
    have settles : settled folder start.disk instead name =
        settled folder start.disk earlier name := by
      rw [← settled_filter, alike, settled_filter]
    rw [← settles]
    exact answered instead

/-- The file of the core feature is missing when it is first asked for, then there and later gone
again. -/
theorem sources_stay_coherent_removed :
    let folder := TemplateFolder.directory (.ofText "tpl")
    let start := Workspace.on (Site.templateDisk "old" "") .warning
    let core := Text.ofString "core.ts"
    let earlier : List Event :=
      [.change fun disk => { disk with entries := fun _ => none }, .source core,
        .change fun _ => Site.templateDisk "old" "", .source core, .source "./core.ts",
        .change fun _ => Site.templateDisk "new" ""]
    settled folder start.disk earlier core = .ok "old" ∧
      ∃ rest, answers folder (earlier ++ [.payload .core, .source "core.ts/"]) start =
        answers folder earlier start ++ .ok "old" :: rest := by
  intro folder start core earlier
  have settles : settled folder start.disk earlier core = .ok "old" := by decide +kernel
  obtain ⟨answered, -⟩ := sources_stay_coherent folder start rfl earlier [.source "core.ts/"]
    (.payload .core) core rfl
  rw [settles] at answered
  exact ⟨settles, answered⟩

end Template

end HelperKit
