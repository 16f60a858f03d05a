import HelperKit.Proofs.Artifact.Genuine
import HelperKit.Proofs.CommandLine.Cancelling
import HelperKit.Proofs.Dialogue.Failing

/-!
# Run after run

Whatever is answered, a run that is done or cancelled leaves record and artifact in step.  The
next run begins anew exactly when there is no record, and otherwise goes on with the project
that is recorded.
-/

namespace HelperKit

namespace Errand

variable {σ α : Type} {kept : Workspace → Prop}

theorem preserves_onDisk {job : Job α} (keeps : Preserves kept job) :
    Preserves (fun state => kept state.1) (onDisk job : Errand σ α) :=
  fun before holds => keeps before.1 holds

theorem preserves_onCaller (act : σ → Except Failure α × σ) :
    Preserves (fun state => kept state.1) (onCaller act : Errand σ α) :=
  fun _ holds => holds

end Errand

namespace CommandLine

open Dialogue Upkeep

variable {site : Site} {project : Project} {before between after : Workspace}
  {terminal asker final : Terminal} {call? : Option ArtifactCall}

/-! ## What comes of the questions -/

theorem preserves_menu {kept : Workspace → Prop} (steady : Workspace.Steady kept) :
    Preserves (fun state => kept state.1) menu := by
  intro state holds
  obtain ⟨⟨records, recorded⟩, -⟩ := chosen state.1 state.2
  change kept (menu (state.1, state.2)).2.1
  rw [recorded]
  clear recorded
  generalize state.1 = before at holds
  induction records generalizing before with
  | nil => exact holds
  | cons record records induction => exact induction (before.note record) (steady.note before record holds)

theorem preserves_inquire {kept : Workspace → Prop} (steady : Workspace.Steady kept)
    (site : Site) : Preserves (fun state => kept state.1) (inquire site) := by
  refine preserves_bind (Errand.preserves_onDisk (site.store.preserves_load steady)) fun found => ?_
  cases found with
  | some project =>
      exact preserves_bind (Errand.preserves_onCaller _) fun _ =>
        preserves_bind (preserves_menu steady) fun _ => Errand.preserves_onCaller _
  | none =>
      exact preserves_bind (Errand.preserves_onDisk site.store.preserves_present) fun _ =>
        preserves_bind (Errand.preserves_onCaller _) fun _ =>
          preserves_bind (Errand.preserves_onDisk fun _ holds => holds) fun _ =>
            preserves_bind (Errand.preserves_onCaller _) fun _ => preserves_pure _

/-- The calls that come of the questions of a run: those of a session, if a project is stored,
and otherwise one that writes a project into a directory that was named. -/
theorem call_of_inquire
    (returned : inquire site (before, terminal) = (.ok call?, between, asker)) :
    (∃ project, (site.store.load before).1 = .ok (some project) ∧
      ∀ call, call? = some call → Makes project call) ∨
    ((site.store.load before).1 = .ok none ∧
      ∃ project, call? = some (.materialize project false) ∧
        Names before.disk project.directory asker.transcript) := by
  have converses : ∀ task project,
      ReturnsOnly (fun call? => ∀ call, call? = some call → Makes project call)
        (converse (consult task project)) := by
    intro task project (workspace, terminal) value after consulted
    rw [converse_apply, Prod.mk.injEq] at consulted
    exact makes_of_consult task project terminal value _ (Prod.ext consulted.1 rfl)
  have session : ∀ project,
      ReturnsOnly (fun call? => ∀ call, call? = some call → Makes project call)
        (Upkeep.inquire project) := fun project =>
    returnsOnly_bind fun _ => returnsOnly_bind fun task => converses task project
  have looked : between.disk = before.disk := by
    have same := (quiet_inquire site before terminal).disk
    rwa [returned] at same
  -- Questions that could not be begun, or that failed, have not returned.
  generalize ended : Except.ok call? = result at returned
  cases inquired returned with
  | unread loading => cases ended
  | @session project opened after final result loading asking =>
      cases ended
      exact .inl ⟨project, by rw [loading], session project _ _ _ asking⟩
  | untested loading testing => cases ended
  | @first there opened after final result loading testing asking =>
      cases result with
      | error failure => cases ended
      | ok project =>
          cases ended
          obtain ⟨added, grown, named⟩ := (tells_askProject between.disk).of_eq asking
          rw [looked] at named
          cases named with
          | named names =>
              obtain ⟨line, read, rest⟩ := names
              refine .inr ⟨by rw [loading], project, rfl, line, ?_, rest⟩
              exact grown.symm.subst (List.mem_append_right _ read)

/-! ## One run -/

/-- The project that is recorded on a disk. -/
def record? (site : Site) (disk : Disk) : Option Project :=
  ((site.store.load (.on disk .warning)).1.toOption).join

theorem record?_eq (loaded : (site.store.load before).1 = .ok (some project)) :
    record? site before.disk = some project := by
  rw [record?, Store.load_on, loaded]
  rfl

/-- A run is done, or an answer cancels one of its questions. -/
def Outcome.IsSettled (outcome : Outcome) : Prop :=
  outcome.status = .ok .done ∨
    ∃ front prompt answer back, outcome.terminal.transcript =
      front ++ .shown prompt :: .read answer :: back ∧ Cancels prompt answer

/-- What a run that is done or cancelled makes of a disk. -/
inductive Turn (site : Site) (disk : Disk) : Disk → Prop where
  | kept : Turn site disk disk
  | deleted {project : Project} {after : Disk} (recorded : record? site disk = some project)
      (unrecorded : (site.store.load (.on after .warning)).1 = .ok none)
      (absent : after.Absent (site.artifact project)) : Turn site disk after
  | wrote {project : Project} {after : Disk} (installed : site.Installed project after) :
      Turn site disk after

/-- A run that is done has asked for no call, or for one that has returned: for the project that was
recorded before, or for writing one that is recorded now. -/
theorem call_of_done {disk : Disk} {level : Level}
    (done : (Outcome.ofErrand (conclude site) (.on disk level) terminal).status = .ok .done) :
    let after := (Outcome.ofErrand (conclude site) (.on disk level) terminal).workspace.disk
    after = disk ∨ ∃ between asker call report last,
      inquire site (.on disk level, terminal) = (.ok (some call), between, asker) ∧
      between.disk = disk ∧ call.run site between = (.ok report, last) ∧ last.disk = after ∧
      ((∃ project, record? site disk = some project ∧ Makes project call) ∨
        ∃ project, record? site after = some project ∧ call = .materialize project false) := by
  have quiet := quiet_inquire site (.on disk level) terminal
  unfold Outcome.ofErrand at done ⊢
  obtain ⟨call?, between, asker, after, final, inquired, conducted, ended⟩ := done_of_conclude done
  rw [inquired] at quiet
  have same : between.disk = disk := quiet.disk
  simp only [ended]
  cases call? with
  | none =>
      cases conducted
      exact .inl same
  | some call =>
      obtain ⟨report, running⟩ := conduct_eq_ok conducted
      refine .inr ⟨between, asker, call, report, after, inquired, same, running, rfl, ?_⟩
      rcases call_of_inquire inquired with ⟨project, loaded, makes⟩ | ⟨-, project, written, -⟩
      · have recorded := record?_eq loaded
        exact .inl ⟨project, recorded, makes call rfl⟩
      · obtain rfl := Option.some.inj written
        obtain ⟨paths, written, writing, finished⟩ := Attempt.bind_eq_ok_iff.mp running
        cases finished
        obtain ⟨saved, -, saving⟩ := Site.materialize_eq_ok writing
        have recorded := record?_eq (Store.load_of_save saving)
        exact .inr ⟨project, recorded, rfl⟩

/-- A run that is done, and has asked for a project to be written, leaves it recorded. -/
theorem Invocation.record?_of_asked {invocation : Invocation} {settingsFile : Option Text}
    {verbose : Bool} {disk : Disk} {answers : List Answer}
    (given : ofArguments invocation.arguments = .ok (.run settingsFile verbose))
    (examined : invocation.site settingsFile = .ok site)
    (undisturbed : invocation.interrupted = false)
    (done : (invocation.outcome disk answers).status = .ok .done)
    (asked : (inquire site (.on disk (logging verbose).level, { answers })).1 =
      .ok (some (.materialize project false))) :
    record? site (invocation.outcome disk answers).workspace.disk = some project := by
  rw [outcome_eq_conclude given examined undisturbed] at done ⊢
  unfold Outcome.ofErrand at done ⊢
  obtain ⟨call?, between, asker, after, final, inquired, conducted, ended⟩ := done_of_conclude done
  rw [inquired] at asked
  cases asked
  obtain ⟨report, running⟩ := conduct_eq_ok conducted
  obtain ⟨paths, written, writing, finished⟩ := Attempt.bind_eq_ok_iff.mp running
  cases finished
  obtain ⟨saved, -, saving⟩ := Site.materialize_eq_ok writing
  simp only [ended]
  exact record?_eq (Store.load_of_save saving)

/-- A call that was asked for leaves a project installed or none at all. -/
theorem turn_of_run {call : ArtifactCall} {report : Report} (shipped : site.templates = .shipped)
    (sound : before.disk.Sound) (genuine : before.Genuine)
    (apart : ∀ disk project, disk = before.disk ∨ disk = after.disk →
      record? site disk = some project → site.Apart project before.disk)
    (asked : (∃ project, record? site before.disk = some project ∧ Makes project call) ∨
      ∃ project, record? site after.disk = some project ∧ call = .materialize project false)
    (running : call.run site before = (.ok report, after)) : Turn site before.disk after.disk := by
  rcases asked with ⟨project, recorded, makes⟩ | ⟨project, recorded, rfl⟩
  · have fresh : call.replaces = false := by cases makes <;> rfl
    have away : site.Apart call.project before.disk := by
      rw [makes.project_eq]
      exact apart _ project (.inl rfl) recorded
    have reflects := ArtifactCall.reflects_of_run sound fresh away running
    cases ArtifactCall.did_of_run running with
    | wrote same writing =>
        subst same
        cases makes
    | renewed renewing =>
        have still := Site.genuine_of_renew shipped genuine renewing
        exact .wrote (Site.installed_of_inStep shipped still reflects)
    | deleted deleting =>
        rw [makes.project_eq] at reflects
        exact .deleted recorded ((Store.load_on _ after).trans reflects.1) reflects.2
    | kept reaches =>
        rw [show after.disk = before.disk from reaches.disk]
        exact .kept
  · obtain ⟨paths, written, writing, finished⟩ := Attempt.bind_eq_ok_iff.mp running
    cases finished
    have away := apart _ project (.inr rfl) recorded
    have inStep := Site.inStep_of_materialize sound away (fun _ impossible => by cases impossible)
      writing
    have still := Site.genuine_of_materialize shipped genuine writing
    exact .wrote (Site.installed_of_inStep shipped still inStep)

/-- A run that is settled makes such a turn, and leaves the disk sound. -/
theorem turn_of_settled {disk : Disk} {level : Level} (shipped : site.templates = .shipped)
    (sound : disk.Sound)
    (settled : (Outcome.ofErrand (conclude site) (.on disk level) terminal).IsSettled)
    (silent : terminal.transcript = [])
    (apart : ∀ old project, old = disk ∨
        old = (Outcome.ofErrand (conclude site) (.on disk level) terminal).workspace.disk →
      record? site old = some project → site.Apart project disk) :
    let after := (Outcome.ofErrand (conclude site) (.on disk level) terminal).workspace.disk
    Turn site disk after ∧ after.Sound ∧ after.home = disk.home := by
  rcases settled with done | ⟨front, prompt, answer, back, asked, cancels⟩
  · rcases call_of_done done with
      same | ⟨between, asker, call, report, last, inquired, same, running, ended, asked⟩
    · rw [same]
      exact ⟨.kept, sound, rfl⟩
    · have genuine := preserves_inquire Workspace.steady_genuine site (.on disk level, terminal)
        (Workspace.genuine_on disk level)
      rw [inquired] at genuine
      rw [← ended] at asked apart ⊢
      rw [← same] at sound asked apart ⊢
      have stillSound : (call.run site between).2.disk.Sound := ArtifactCall.sound_run sound
      have home : (call.run site between).2.disk.home = between.disk.home := ArtifactCall.home_run
      rw [running] at stillSound home
      exact ⟨turn_of_run shipped sound genuine apart asked running, stillSound, home⟩
  · have asked' : (conclude site (.on disk level, terminal)).2.2.transcript =
        terminal.transcript ++ (front ++ .shown prompt :: .read answer :: back) := by
      rw [silent]
      exact asked
    unfold Outcome.ofErrand
    have same : (conclude site (.on disk level, terminal)).2.1.disk = disk :=
      (reaches_of_cancels cancels asked').disk
    rw [same]
    exact ⟨.kept, sound, rfl⟩

/-! ## Run after run -/

/-- The disks after runs of an invocation, one after the other.  Each of them is done or
cancelled, whatever is answered. -/
inductive Invocation.Lives (invocation : Invocation) : Disk → List Disk → Prop where
  | nil (disk : Disk) : Lives invocation disk []
  | cons {disk : Disk} {answers : List Answer} {rest : List Disk}
      (settled : (invocation.outcome disk answers).IsSettled)
      (further : Lives invocation (invocation.outcome disk answers).workspace.disk rest) :
      Lives invocation disk ((invocation.outcome disk answers).workspace.disk :: rest)

/-- The last project that was recorded on one of the disks, or before. -/
def lastRecord (site : Site) (last : Option Project) (disks : List Disk) : Option Project :=
  disks.foldl (fun last disk => (record? site disk).or last) last

/-- How things stand between two runs: there is no record and no artifact of the last project
there was, and the next run begins anew; or a project is installed, and the next run goes on with
exactly this project. -/
inductive Stands (site : Site) (last : Option Project) (disk : Disk) : Prop where
  | vacant (unrecorded : (site.store.load (.on disk .warning)).1 = .ok none)
      (absent : ∀ project, last = some project → disk.Absent (site.artifact project))
      (begins : ∀ level terminal, run site (.on disk level, terminal) =
        firstRun site ((site.store.load (.on disk level)).2, terminal)) : Stands site last disk
  | installed {project : Project} (recorded : last = some project)
      (installed : site.Installed project disk)
      (resumes : ∀ level terminal, run site (.on disk level, terminal) =
        (discard (Upkeep.run site project) : Errand Terminal PUnit)
          ((site.store.load (.on disk level)).2, terminal)) : Stands site last disk

theorem run_apply (site : Site) (before : Workspace) (terminal : Terminal) :
    run site (before, terminal) =
      match (site.store.load before).1 with
      | .error failure => (.error failure, (site.store.load before).2, terminal)
      | .ok (some project) =>
          (discard (Upkeep.run site project) : Errand Terminal PUnit)
            ((site.store.load before).2, terminal)
      | .ok none => firstRun site ((site.store.load before).2, terminal) := by
  rw [run, Errand.bind_apply, Upkeep.onDisk, Errand.onDisk_apply]
  cases site.store.load before with
  | mk result opened =>
      cases result with
      | error failure => rfl
      | ok found => cases found <;> rfl

theorem Stands.of_vacant {last : Option Project} {disk : Disk}
    (unrecorded : (site.store.load (.on disk .warning)).1 = .ok none)
    (absent : ∀ project, last = some project → disk.Absent (site.artifact project)) :
    Stands site last disk := by
  refine .vacant unrecorded absent fun level terminal => ?_
  have same : (Workspace.on disk level).disk = (Workspace.on disk .warning).disk := rfl
  rw [run_apply, Store.load_congr same, unrecorded]

theorem Stands.of_installed {last : Option Project} {disk : Disk} (recorded : last = some project)
    (installed : site.Installed project disk) : Stands site last disk := by
  refine .installed recorded installed fun level terminal => ?_
  have same : (Workspace.on disk level).disk = (Workspace.on disk .warning).disk := rfl
  rw [run_apply, Store.load_congr same, installed.recorded]

theorem record?_of_vacant {disk : Disk}
    (unrecorded : (site.store.load (.on disk .warning)).1 = .ok none) :
    record? site disk = none := by
  rw [record?, unrecorded]
  rfl

theorem record?_of_installed {disk : Disk} (installed : site.Installed project disk) :
    record? site disk = some project := by
  rw [record?, installed.recorded]
  rfl

/-- After one more turn things stand as they should. -/
theorem Stands.turn {last : Option Project} {disk after : Disk} (stands : Stands site last disk)
    (turn : Turn site disk after) : Stands site ((record? site after).or last) after := by
  cases turn with
  | kept =>
      cases stands with
      | vacant unrecorded absent begins =>
          rw [record?_of_vacant unrecorded]
          exact .of_vacant unrecorded absent
      | installed recorded installed resumes =>
          rw [record?_of_installed installed]
          exact .of_installed rfl installed
  | deleted known unrecorded absent =>
      cases stands with
      | vacant nothing gone begins =>
          rw [record?_of_vacant nothing] at known
          cases known
      | installed recorded installed resumes =>
          rw [record?_of_installed installed] at known
          cases known
          rw [record?_of_vacant unrecorded, recorded]
          refine .of_vacant unrecorded fun project same => ?_
          cases same
          exact absent
  | wrote installed =>
      rw [record?_of_installed installed]
      exact .of_installed rfl installed

theorem templates_eq {invocation : Invocation} {settingsFile : Option Text}
    (examined : invocation.site settingsFile = .ok site) :
    site.templates = invocation.templates := by
  unfold Invocation.site at examined
  cases known : configuration invocation.environment settingsFile with
  | error complaints =>
      rw [known] at examined
      cases examined
  | ok config =>
      rw [known] at examined
      cases examined
      rfl

deriving instance DecidableEq for ArtifactCall

/-- A first run that merges the core features into the directory it is started in. -/
def mergingAnswers : List Answer :=
  [.line "1", .line ".", .line "1", .line "2", .line "1"]

/-- An invocation whose settings path leads through a directory below the artifact. -/
def throughInvocation : Invocation :=
  ⟨["--settings-file", "crabSafe/sub/../../s.json"], [], .shipped, false⟩

/-- A first run that splits the core features in the directory it is started in. -/
def splittingAnswers : List Answer :=
  [.line "1", .line "x/..", .line "1", .line "2", .line "2"]

end CommandLine

end HelperKit
