import HelperKit.Proofs.Artifact.Removing

/-!
# Record and artifact in step

A call that wrote leaves the record of the project that it wrote, and at the artifact and
below it nothing but the files of that project.  A call that deleted leaves neither a
record nor an artifact.  Calls that did neither leave everything as it was.
-/

namespace HelperKit

open Attempt

namespace Site

variable {site : Site} {project : Project} {disk : Disk} {effect : Effect}
  {before between after : Workspace}

/-- The path of the settings document leads through nothing at the artifact of a project,
nor below it. -/
def Apart (site : Site) (project : Project) (disk : Disk) : Prop :=
  ∀ station ∈ disk.reach site.config.settingsFile,
    ¬ site.artifactLocation project disk <+: station

/-- Nothing lies at the artifact and below it but what the artifact consists of. -/
def Within (site : Site) (project : Project) (disk : Disk) : Prop :=
  ∀ location, site.artifactLocation project disk <+: location → disk.entries location ≠ none →
    ∃ path ∈ site.destinations project, location = disk.target path

/-- The record is that of a project, and the artifact consists of the files that it has. -/
structure InStep (site : Site) (project : Project) (workspace : Workspace) : Prop where
  recorded : (site.store.load workspace).1 = .ok (some project)
  written : site.Written project workspace
  contents : ∀ location, site.artifactLocation project workspace.disk <+: location →
    (workspace.disk.entries location ≠ none ↔
      ∃ path ∈ site.destinations project, location = workspace.disk.target path)

theorem Apart.congr {other : Disk} (apart : site.Apart project disk)
    (home : disk.home = other.home) : site.Apart project other := by
  unfold Apart
  rw [← Disk.reach_congr home, ← artifactLocation_congr home]
  exact apart

/-! ## What is written stays -/

theorem target_prefix_of_mem_destinations {path : Path} (part : path ∈ site.destinations project)
    (disk : Disk) : site.artifactLocation project disk <+: disk.target path := by
  unfold destinations at part
  cases layout : project.layout with
  | singleFile =>
      rw [layout] at part
      rw [List.mem_singleton.mp part, artifactLocation_of_single layout]
  | splitFiles =>
      rw [layout] at part
      rcases List.mem_cons.mp part with rfl | part
      · rw [artifactLocation_of_split layout]
      · refine target_prefix_of_mem_files ?_ disk
        rw [files, layout]
        exact part

/-- Every path of an artifact that was written leads to something. -/
theorem Written.status_eq_ok {path : Path} (written : site.Written project before)
    (part : path ∈ site.destinations project) :
    ∃ entry, before.disk.status path = .ok entry := by
  have shown : ∀ {path text}, Shows path text before →
      ∃ entry, before.disk.status path = .ok entry := by
    rintro path text ⟨content, bytes, -, -, read⟩
    exact ⟨_, Disk.status_eq_ok_iff.mpr (Disk.read_eq_ok_iff.mp read)⟩
  unfold Written at written
  unfold destinations at part
  cases layout : project.layout with
  | singleFile =>
      rw [layout] at written part
      rw [List.mem_singleton.mp part]
      exact shown written
  | splitFiles =>
      rw [layout] at written part
      rcases List.mem_cons.mp part with rfl | part
      · exact ⟨_, Disk.status_eq_ok_iff.mpr (Disk.isDirectory_eq_true_iff.mp written.1)⟩
      · obtain ⟨feature, member, rfl⟩ := List.mem_map.mp part
        exact shown (written.2 feature member)

/-- An artifact that was written stays so as long as its paths lead to the same. -/
theorem Written.of_status (written : site.Written project before)
    (recalls : after.Recalls before)
    (same : ∀ path ∈ site.destinations project,
      after.disk.status path = before.disk.status path) : site.Written project after := by
  unfold Written at written ⊢
  unfold destinations at same
  cases layout : project.layout with
  | singleFile =>
      rw [layout] at written same
      exact written.of_reaches (fun content again => render_of_recalls again recalls)
        (same _ (List.mem_singleton_self _))
  | splitFiles =>
      rw [layout] at written same
      rw [List.forall_mem_cons] at same
      refine ⟨?_, fun feature member => (written.2 feature member).of_reaches ?_ ?_⟩
      · rw [Disk.isDirectory, Disk.test, same.1]
        exact written.1
      · exact fun content again => Feature.payload_of_recalls again recalls
      · exact same.2 _ (List.mem_map_of_mem member)

/-! ## Nothing else lies there -/

/-- An effect at the artifact or below it is at one of its paths, or nothing else would
lie there no longer. -/
theorem Within.apply (within : site.Within project disk)
    (inside : site.artifactLocation project disk <+: effect.location →
      ∃ path ∈ site.destinations project, effect.location = disk.target path) :
    site.Within project (disk.apply effect) := by
  have home := disk.apply_home effect
  intro location below occupied
  rw [artifactLocation_congr home] at below
  simp only [Disk.target_congr home]
  rcases Disk.occupied_or_created occupied with before | rfl
  · exact within location below before
  · exact inside below

theorem Within.apply_of_builds (within : site.Within project disk)
    (builds : site.Builds project disk effect) : site.Within project (disk.apply effect) := by
  refine within.apply fun _ => ?_
  rcases builds.location with ⟨split, place⟩ | ⟨path, part, place⟩
  · refine ⟨_, ?_, place⟩
    simp [destinations, split]
  · refine ⟨path, ?_, place⟩
    unfold files at part
    unfold destinations
    cases layout : project.layout with
    | singleFile =>
        rw [layout] at part
        exact part
    | splitFiles =>
        rw [layout] at part
        exact List.mem_cons_of_mem _ part

theorem Within.apply_of_keeps {written : ByteArray → Prop} (within : site.Within project disk)
    (apart : site.Apart project disk)
    (keeps : disk.Keeps site.config.settingsFile written effect) :
    site.Within project (disk.apply effect) :=
  within.apply fun below => absurd below (apart _ keeps.location_mem_reach)

theorem within_of_vacant (sound : disk.Sound)
    (vacant : disk.entries (site.artifactLocation project disk) = none) :
    site.Within project disk := by
  intro location below occupied
  by_cases here : location = site.artifactLocation project disk
  · rw [here] at occupied
    exact absurd vacant occupied
  · exact absurd (sound.none_of_prefix (by simp [vacant]) below here) occupied

theorem within_of_single (sound : before.disk.Sound) (single : project.layout = .singleFile)
    (written : site.Written project before) : site.Within project before.disk := by
  intro location below occupied
  rw [artifactLocation_of_single single] at below
  refine ⟨site.singleFile project, by simp [destinations, single], ?_⟩
  by_contra elsewhere
  unfold Written at written
  rw [single] at written
  obtain ⟨content, bytes, -, -, read⟩ := written
  have file := (Disk.read_eq_ok_iff.mp read).2
  exact occupied (sound.none_of_prefix (by simp [file]) below elsewhere)

/-- A directory that was created anew is empty. -/
theorem recreateDirectory_eq_ok (sound : before.disk.Sound)
    (split : project.layout = .splitFiles)
    (returned : recreateDirectory (site.splitDirectory project) before = (.ok (), after)) :
    after.disk.Sound ∧ after.disk.home = before.disk.home ∧ site.Within project after.disk := by
  obtain ⟨_, cleared, clearing, noted⟩ := bind_eq_ok_iff.mp returned
  rw [disk_eq_of_note noted]
  have recreated := mapError_eq_ok_iff.mp clearing
  rw [clearDirectory_eq] at recreated
  obtain ⟨there, same, asked, continued⟩ := bind_eq_ok_iff.mp recreated
  obtain ⟨_, removed, removing, making⟩ := bind_eq_ok_iff.mp continued
  obtain ⟨-, rfl⟩ := Access.ask_eq_ok_iff.mp asked
  -- Whatever was there is gone, and the disk is sound.
  have removes : Acts (fun disk effect => disk.Sound → disk.Admits effect)
      (if there then Access.removeTree (site.splitDirectory project) else pure ()) := by
    split
    · exact Access.acts_removeTree fun disk effect remaining removing _ =>
        Disk.Sound.admits_removingTree removing
    · exact acts_pure ()
  obtain ⟨gone, first, firstAllowed⟩ := removes same
  rw [removing] at first
  -- The directory is created last, where nothing was.
  have permits : ∀ (disk : Disk) (names : List Text) (effect : Effect),
      names <+: (site.splitDirectory project).parts →
        disk.makingDirectory ⟨(site.splitDirectory project).anchor, names⟩ = .ok effect →
          disk.Sound → disk.Admits effect :=
    fun disk names effect _ making sound => sound.admits_makingDirectory making
  obtain ⟨ways, last, effect, second, secondAllowed, made, rfl⟩ :=
    Access.makeDirectories_new_eq_ok permits making
  have reaches := first.trans second
  have lastSound : last.disk.Sound := by
    rw [reaches.disk]
    refine sound.applyAll (Disk.allows_append.mpr ⟨firstAllowed, ?_⟩)
    rw [← first.disk]
    exact secondAllowed
  have admits := lastSound.admits_makingDirectory made
  obtain ⟨-, -, vacant, rfl⟩ := Disk.makingDirectory_eq_ok made
  rw [← artifactLocation_of_split split] at vacant
  refine ⟨lastSound.apply admits, ?_, ?_⟩
  · exact (last.disk.apply_home _).trans reaches.home
  · exact (within_of_vacant lastSound vacant).apply_of_builds (.directory split made)

/-! ## Writing -/

/-- Writing an artifact leaves nothing else there, if nothing else was there or nothing may
have been there. -/
theorem within_of_writeArtifact {replace : Bool} {paths : List Path} (sound : before.disk.Sound)
    (ready : project.layout = .splitFiles → replace = true → site.Within project before.disk)
    (returned : site.writeArtifact project replace before = (.ok paths, after)) :
    site.Within project after.disk := by
  obtain ⟨effects, reaches, builds⟩ :=
    (acts_writeArtifact replace : Acts (site.Builds project) _) before
  rw [returned] at reaches
  cases layout : project.layout with
  | singleFile =>
      refine within_of_single ?_ layout (writeArtifact_eq_ok returned)
      rw [reaches.disk]
      exact sound.applyAll (builds.mono fun _ _ builds sound => builds.admits sound)
  | splitFiles =>
      have initially : site.Within project before.disk := by
        cases replace with
        | true => exact ready layout rfl
        | false =>
            simp only [writeArtifact, layout, writeSplitFiles_eq] at returned
            obtain ⟨_, prepared, preparing, -⟩ := bind_eq_ok_iff.mp returned
            rcases prepareDirectory_eq_ok preparing with ⟨-, impossible, -⟩ | ⟨effect, making, -⟩
            · cases impossible
            · obtain ⟨-, -, vacant, -⟩ := Disk.makingDirectory_eq_ok making
              rw [← artifactLocation_of_split layout] at vacant
              exact within_of_vacant sound vacant
      rw [reaches.disk]
      exact builds.applyAll (site.Within project) initially
        fun _ _ within builds => within.apply_of_builds builds

/-- A project that was written is in step, unless something else was in its directory. -/
theorem inStep_of_materialize {replace : Bool} {paths : List Path} (sound : before.disk.Sound)
    (apart : site.Apart project before.disk)
    (ready : project.layout = .splitFiles → replace = true → site.Within project before.disk)
    (returned : site.materialize project replace before = (.ok paths, after)) :
    site.InStep project after := by
  obtain ⟨between, writing, saving⟩ := materialize_eq_ok returned
  have written := writeArtifact_eq_ok writing
  have within := within_of_writeArtifact sound ready writing
  obtain ⟨built, first, -⟩ := (acts_writeArtifact replace : Acts (site.Builds project) _) before
  obtain ⟨kept, second, keeps⟩ := site.store.acts_save project between
  rw [writing] at first
  rw [saving] at second
  have away : site.Apart project between.disk := apart.congr first.home.symm
  have stays : site.Written project after := by
    refine written.of_status second.recalls fun path part => ?_
    obtain ⟨entry, known⟩ := written.status_eq_ok part
    rw [second.disk]
    refine keeps.status_eq_of_keeps (Disk.status_eq_ok_iff.mp known).1 fun reached => ?_
    exact away _ reached (target_prefix_of_mem_destinations part _)
  have still : site.Within project after.disk := by
    rw [second.disk]
    exact (keeps.applyAll (fun disk => site.Apart project disk ∧ site.Within project disk)
      ⟨away, within⟩ fun disk effect both keeps =>
        ⟨both.1.congr (disk.apply_home effect).symm, both.2.apply_of_keeps both.1 keeps⟩).2
  refine ⟨Store.load_of_save saving, stays, fun location below => ⟨still location below, ?_⟩⟩
  rintro ⟨path, part, rfl⟩
  obtain ⟨entry, known⟩ := stays.status_eq_ok part
  simp [(Disk.status_eq_ok_iff.mp known).2]

theorem inStep_of_renew (sound : before.disk.Sound) (apart : site.Apart project before.disk)
    (returned : site.renew project before = (.ok (), after)) : site.InStep project after := by
  obtain ⟨paths, between, cleared, writing⟩ := renew_eq_ok returned
  cases cleared with
  | single single =>
      refine inStep_of_materialize sound apart (fun split => ?_) writing
      cases single.symm.trans split
  | split split recreating =>
      obtain ⟨stillSound, home, within⟩ := recreateDirectory_eq_ok sound split recreating
      exact inStep_of_materialize stillSound (apart.congr home.symm) (fun _ _ => within) writing

/-! ## Any call -/

/-- A workspace is as a call that returned has reported. -/
def Reflects (site : Site) (workspace : Workspace) : Report → Prop
  | .wrote project => site.InStep project workspace
  | .deleted project => (site.store.load workspace).1 = .ok none ∧
      workspace.disk.Absent (site.artifact project)
  | .kept _ => True

/-- What is known of a workspace stays so as long as nothing has an effect. -/
theorem Reflects.of_reaches {report : Report} (reflects : site.Reflects before report)
    (reaches : before.Reaches [] after) : site.Reflects after report := by
  have same : after.disk = before.disk := reaches.disk
  cases report with
  | wrote project =>
      obtain ⟨recorded, written, contents⟩ := reflects
      refine ⟨(Store.load_congr same).trans recorded, ?_, ?_⟩
      · exact written.of_status reaches.recalls fun path _ => by rw [same]
      · rw [same]
        exact contents
  | deleted project =>
      refine ⟨(Store.load_congr same).trans reflects.1, ?_⟩
      rw [same]
      exact reflects.2
  | kept project => trivial

end Site

/-- A call may find the directory of the artifact there and keep what is in it. -/
def ArtifactCall.replaces : ArtifactCall → Bool
  | .materialize _ replace => replace
  | _ => false

namespace Report

/-- What is known of a workspace after one more report: a call that kept everything tells
nothing new. -/
def settle (known : Option Report) : Report → Option Report
  | .kept _ => known
  | report => some report

end Report

namespace ArtifactCall

variable {site : Site} {call : ArtifactCall} {calls : List ArtifactCall} {report : Report}
  {start before after : Workspace}

/-- After a call everything is as it reported. -/
theorem reflects_of_run (sound : before.disk.Sound) (fresh : call.replaces = false)
    (apart : site.Apart call.project before.disk)
    (returned : call.run site before = (.ok report, after)) : site.Reflects after report := by
  cases did_of_run returned with
  | @wrote project replace paths same writing =>
      subst same
      refine Site.inStep_of_materialize sound apart (fun _ replaced => ?_) writing
      have kept : replace = false := fresh
      rw [kept] at replaced
      cases replaced
  | renewed renewing => exact Site.inStep_of_renew sound apart renewing
  | deleted deleting => exact Site.gone_of_delete deleting
  | kept reaches => trivial

/-- A workspace is as the reports since the start tell, if they tell anything. -/
def Stands (site : Site) (start workspace : Workspace) : Option Report → Prop
  | some report => site.Reflects workspace report
  | none => start.Reaches [] workspace

/-- One more call leaves the workspace as the reports tell. -/
theorem Stands.run {known : Option Report} (stands : Stands site start before known)
    (sound : before.disk.Sound) (fresh : call.replaces = false)
    (apart : site.Apart call.project before.disk)
    (returned : call.run site before = (.ok report, after)) :
    Stands site start after (Report.settle known report) := by
  have reflects := reflects_of_run sound fresh apart returned
  cases did_of_run returned with
  | wrote same writing => exact reflects
  | renewed renewing => exact reflects
  | deleted deleting => exact reflects
  | kept reaches =>
      cases known with
      | none => exact stands.trans reaches
      | some report => exact Site.Reflects.of_reaches stands reaches

theorem sound_roomDisk : Site.roomDisk.Sound := by
  refine ⟨rfl, fun location occupied => ?_⟩
  by_cases root : location = []
  · exact .inl root
  · by_cases room : location = [Text.ofString "x"]
    · rw [room]
      exact .inr rfl
    · simp [Site.roomDisk, root, room] at occupied

/-- A project is written, and a feature is removed that it does not have. -/
def twoCalls : List ArtifactCall :=
  [.materialize Site.rootProject false, .remove Site.rootProject [.option] (.ok true)]

/-- The site with a document whose path leads through a directory below the artifact. -/
def throughSite : Site where
  config := { Config.standard with settingsFile := .ofText "crabSafe/sub/../../s.json" }
  templates := .shipped

end ArtifactCall

end HelperKit
