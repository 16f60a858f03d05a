import HelperKit.Proofs.Artifact.Merging
import HelperKit.Proofs.Artifact.Renewal
import HelperKit.Proofs.Upkeep.Tracking

/-!
# Edits

An edit adds features to a project or removes some of them.  Where record and artifact agree,
what a run of edits leaves on the disk depends on the features that it leaves and on nothing
that happened on the way, and the caller is not asked as long as every edit leaves some.  The
laws of edits are thus those of the lists that they leave.
-/

namespace HelperKit

/-- A change of the features of a project. -/
inductive Edit where
  | add (requested : List Feature)
  | remove (dropped : List Feature)

namespace Edit

/-- The features after an edit. -/
def turn (features : List Feature) : Edit → List Feature
  | .add requested =>
      features ++ (Feature.complement features).filter fun feature => feature ∈ requested
  | .remove dropped => features.filter fun feature => feature ∉ dropped

/-- The features after some edits. -/
def turns (features : List Feature) (edits : List Edit) : List Feature :=
  edits.foldl turn features

/-- Every edit leaves some features. -/
def Sustain : List Feature → List Edit → Prop
  | _, [] => True
  | features, edit :: edits => turn features edit ≠ [] ∧ Sustain (turn features edit) edits

variable {σ : Type}

/-- Carries out an edit on a project.  The result is the project that is left, if any. -/
def run (site : Site) (confirm : σ → Except Failure Bool × σ) (project : Project) :
    Edit → Errand σ (Option Project)
  | .add requested => do
      let updated ← Errand.onDisk (site.addFeatures project requested)
      pure (some updated)
  | .remove dropped => do
      let removal ← site.removeFeatures project dropped confirm
      pure removal.project?

/-- Carries out edits, each on the project that the one before has left, until none is left. -/
def runAll (site : Site) (confirm : σ → Except Failure Bool × σ) :
    Project → List Edit → Errand σ (Option Project)
  | project, [] => pure (some project)
  | project, edit :: edits => do
      match ← run site confirm project edit with
      | none => pure none
      | some left => runAll site confirm left edits

/-! ## Lists of features -/

variable {features added dropped others : List Feature}

theorem nodup_turn (nodup : features.Nodup) (edit : Edit) : (turn features edit).Nodup := by
  cases edit with
  | remove dropped => exact nodup.filter _
  | add requested =>
      have fresh : (Feature.complement features).Nodup := List.Nodup.filter _ (by decide)
      refine nodup.append (fresh.filter _) fun feature member new => ?_
      exact Feature.mem_complement.mp (List.mem_filter.mp new).1 member

theorem turn_add_ne (nonempty : added ≠ []) (disjoint : ∀ feature ∈ added, feature ∉ features) :
    turn features (.add added) ≠ features := by
  obtain ⟨feature, member⟩ := List.exists_mem_of_ne_nil added nonempty
  intro same
  refine disjoint feature member ?_
  rw [← same]
  refine List.mem_append_right _ (List.mem_filter.mpr ⟨?_, by simpa using member⟩)
  exact Feature.mem_complement.mpr (disjoint feature member)

theorem turn_remove_ne (nonempty : dropped ≠ []) (present : ∀ feature ∈ dropped, feature ∈ features) :
    turn features (.remove dropped) ≠ features := by
  obtain ⟨feature, member⟩ := List.exists_mem_of_ne_nil dropped nonempty
  intro same
  have inside := present feature member
  rw [← same] at inside
  simpa [member] using (List.mem_filter.mp inside).2

theorem turn_remove_ne_nil (rest : ∃ feature ∈ features, feature ∉ dropped) :
    turn features (.remove dropped) ≠ [] := by
  obtain ⟨feature, member, kept⟩ := rest
  exact List.ne_nil_of_mem (List.mem_filter.mpr ⟨member, by simpa using kept⟩)

theorem turn_add_ne_nil (nonempty : features ≠ []) : turn features (.add added) ≠ [] :=
  List.append_ne_nil_of_left_ne_nil nonempty _

/-- Removing what was added gives the features back, in their order. -/
theorem remove_add (disjoint : ∀ feature ∈ added, feature ∉ features) :
    turn (turn features (.add added)) (.remove added) = features := by
  have kept : features.filter (fun feature => feature ∉ added) = features := by
    refine List.filter_eq_self.mpr fun feature member => ?_
    have absent : feature ∉ added := fun new => disjoint feature new member
    simpa using absent
  have gone : ((Feature.complement features).filter fun feature => feature ∈ added).filter
      (fun feature => feature ∉ added) = [] := by
    refine List.filter_eq_nil_iff.mpr fun feature member => ?_
    simpa using (List.mem_filter.mp member).2
  calc turn (turn features (.add added)) (.remove added)
      = features.filter (fun feature => feature ∉ added) ++
          ((Feature.complement features).filter fun feature => feature ∈ added).filter
            (fun feature => feature ∉ added) := List.filter_append ..
    _ = features := by rw [kept, gone, List.append_nil]

/-- Features that are there can be removed before others are added or afterwards. -/
theorem remove_add_comm (disjoint : ∀ feature ∈ added, feature ∉ features)
    (present : ∀ feature ∈ dropped, feature ∈ features) :
    turn (turn features (.add added)) (.remove dropped) =
      turn (turn features (.remove dropped)) (.add added) := by
  -- Whether a feature is new is the same before and after the removal.
  have new : ((Feature.complement features).filter fun feature => feature ∈ added).filter
      (fun feature => feature ∉ dropped) =
        (Feature.complement (features.filter fun feature => feature ∉ dropped)).filter
          fun feature => feature ∈ added := by
    unfold Feature.complement
    simp only [List.filter_filter]
    refine List.filter_congr fun feature _ => ?_
    by_cases member : feature ∈ added
    · have fresh := disjoint feature member
      have kept : feature ∉ dropped := fun gone => fresh (present feature gone)
      simp [member, fresh, kept]
    · simp [member]
  calc turn (turn features (.add added)) (.remove dropped)
      = features.filter (fun feature => feature ∉ dropped) ++
          ((Feature.complement features).filter fun feature => feature ∈ added).filter
            (fun feature => feature ∉ dropped) := List.filter_append ..
    _ = turn (turn features (.remove dropped)) (.add added) := by rw [new]; rfl

/-- Features can be removed in two steps or at once. -/
theorem remove_remove (features dropped others : List Feature) :
    turn (turn features (.remove dropped)) (.remove others) =
      turn features (.remove (dropped ++ others)) := by
  unfold turn
  simp only [List.filter_filter]
  refine List.filter_congr fun feature _ => ?_
  simp [Bool.and_comm]

/-! ## Runs -/

variable {site : Site} {confirm : σ → Except Failure Bool × σ} {project : Project} {edit : Edit}
  {edits : List Edit} {origin before after : Workspace} {caller final : σ}
  {left : Option Project} {members : Members}

/-- A project with features that were put together by hand. -/
def byHand (project : Project) (features : List Feature) (nonempty : features ≠ [])
    (nodup : features.Nodup) : Project :=
  { project with selection := .custom features nonempty nodup }

theorem withFeatures_eq (nonempty : features ≠ []) (nodup : features.Nodup) :
    project.withFeatures features nonempty = byHand project features nonempty nodup := by
  rw [Project.withFeatures, Selection.ofFeatures_eq_custom nonempty nodup, byHand]

theorem addFeatures_eq_ok {requested : List Feature} {updated : Project}
    (returned : site.addFeatures project requested before = (.ok updated, after)) :
    (project.additions requested = [] ∧ updated = project ∧ ∃ record, after = before.note record) ∨
      ∃ nonempty : project.features ++ project.additions requested ≠ [],
        updated = project.withFeatures (project.features ++ project.additions requested) nonempty ∧
          site.renew updated before = (.ok (), after) := by
  unfold Site.addFeatures at returned
  by_cases nothing : project.additions requested = []
  · simp only [nothing, dite_true] at returned
    cases returned
    exact .inl ⟨nothing, rfl, _, rfl⟩
  · simp only [nothing, dite_false] at returned
    obtain ⟨_, renewed, renewing, finished⟩ := Attempt.bind_eq_ok_iff.mp returned
    cases finished
    exact .inr ⟨by simp [nothing], rfl, renewing⟩

/-- An edit that returns and leaves some features has renewed the artifact with them, if they
have changed.  It has not asked its caller. -/
theorem run_eq_ok (nonempty : turn project.features edit ≠ [])
    (returned : run site confirm project edit (before, caller) = (.ok left, (after, final))) :
    final = caller ∧
      ((turn project.features edit = project.features ∧ left = some project ∧
          ∃ record, after = before.note record) ∨
        (left = some (project.withFeatures (turn project.features edit) nonempty) ∧
          site.renew (project.withFeatures (turn project.features edit) nonempty) before =
            (.ok (), after))) := by
  cases edit with
  | add requested =>
      have additions : turn project.features (.add requested) =
          project.features ++ project.additions requested := rfl
      simp only [run] at returned
      rw [Errand.bind_apply, Errand.onDisk_apply] at returned
      cases added : site.addFeatures project requested before with
      | mk result reached =>
          rw [added] at returned
          cases result with
          | error failure => cases returned
          | ok updated =>
              cases returned
              refine ⟨rfl, ?_⟩
              rcases addFeatures_eq_ok added with ⟨nothing, rfl, noted⟩ | ⟨_, rfl, renewing⟩
              · exact .inl ⟨by rw [additions, nothing, List.append_nil], rfl, noted⟩
              · exact .inr ⟨rfl, renewing⟩
  | remove dropped =>
      have remains : project.remainder dropped ≠ [] := nonempty
      -- Something remains, so that the caller is not asked.
      have unasked : Site.removalQuestion project dropped confirm = pure true :=
        if_neg fun both => remains both.2
      simp only [run] at returned
      rw [Site.removeFeatures_eq, unasked, Errand.onCaller_pure, pure_bind, Errand.bind_apply,
        Errand.onDisk_apply] at returned
      cases removed : site.answeredRemoval project dropped (.ok true) before with
      | mk result reached =>
          rw [removed] at returned
          cases result with
          | error failure => cases returned
          | ok removal =>
              cases returned
              refine ⟨rfl, ?_⟩
              unfold Site.answeredRemoval at removed
              by_cases same : (project.remainder dropped).length = project.features.length
              · rw [if_pos same] at removed
                cases removed
                refine .inl ⟨?_, rfl, _, rfl⟩
                exact List.filter_eq_self.mpr (List.length_filter_eq_length_iff.mp same)
              · rw [if_neg same, dif_neg remains] at removed
                obtain ⟨_, renewed, renewing, finished⟩ := Attempt.bind_eq_ok_iff.mp removed
                cases finished
                exact .inr ⟨rfl, renewing⟩

/-- An edit that leaves some features leaves the artifact and the document in their places.  If
it changes the features, the document has the new record. -/
theorem tended_of_run (tended : site.Tended origin members project before)
    (outside : site.Outside project origin.disk)
    (sparesTemplates : site.SparesTemplates project origin)
    (nonempty : turn project.features edit ≠ [])
    (returned : run site confirm project edit (before, caller) = (.ok left, (after, final))) :
    final = caller ∧ ∃ next, left = some next ∧ next.features = turn project.features edit ∧
      site.Tended origin members next after ∧
        ((next = project ∧ after.disk = before.disk) ∨
          (next = byHand project next.features next.features_ne_nil next.nodup_features ∧
            site.Inscribed members next after.disk)) := by
  obtain ⟨unasked, ⟨same, rfl, record, rfl⟩ | ⟨rfl, renewing⟩⟩ := run_eq_ok nonempty returned
  · exact ⟨unasked, project, rfl, same.symm, tended.note record,
      .inl ⟨rfl, (before.reaches_note record).disk⟩⟩
  · rw [withFeatures_eq nonempty (nodup_turn project.nodup_features edit)] at renewing ⊢
    obtain ⟨next, inscribed⟩ := tended.renew outside sparesTemplates renewing
    exact ⟨unasked, _, rfl, rfl, next, .inr ⟨rfl, inscribed⟩⟩

/-- What edits have left of a project: its features were put together since, and artifact and
record are in their places. -/
structure Settled (site : Site) (origin : Workspace) (members : Members) (first project : Project)
    (workspace : Workspace) : Prop where
  custom : project = byHand first project.features project.features_ne_nil project.nodup_features
  tended : site.Tended origin members project workspace
  inscribed : site.Inscribed members project workspace.disk

variable {first : Project}

/-- What the first edit leaves, if it changes the features. -/
theorem settled_of_run (tended : site.Tended origin members project before)
    (outside : site.Outside project origin.disk)
    (sparesTemplates : site.SparesTemplates project origin)
    (nonempty : turn project.features edit ≠ [])
    (changes : turn project.features edit ≠ project.features)
    (returned : run site confirm project edit (before, caller) = (.ok left, (after, final))) :
    final = caller ∧ ∃ next, left = some next ∧ next.features = turn project.features edit ∧
      Settled site origin members project next after := by
  obtain ⟨unasked, next, known, features, still, outcome⟩ :=
    tended_of_run tended outside sparesTemplates nonempty returned
  refine ⟨unasked, next, known, features, ?_⟩
  rcases outcome with ⟨rfl, -⟩ | ⟨custom, inscribed⟩
  · exact absurd features.symm changes
  · exact ⟨custom, still, inscribed⟩

/-- One more edit leaves everything in its place. -/
theorem Settled.run (settled : Settled site origin members first project before)
    (outside : site.Outside first origin.disk)
    (sparesTemplates : site.SparesTemplates first origin)
    (nonempty : turn project.features edit ≠ [])
    (returned : Edit.run site confirm project edit (before, caller) = (.ok left, (after, final))) :
    final = caller ∧ ∃ next, left = some next ∧ next.features = turn project.features edit ∧
      Settled site origin members first next after := by
  obtain ⟨custom, tended, inscribed⟩ := settled
  have outsideNow : site.Outside project origin.disk := custom ▸ outside
  have spares : site.SparesTemplates project origin := custom ▸ sparesTemplates
  obtain ⟨unasked, next, known, features, still, outcome⟩ :=
    tended_of_run tended outsideNow spares nonempty returned
  refine ⟨unasked, next, known, features, ?_⟩
  rcases outcome with ⟨rfl, same⟩ | ⟨customNow, inscribedNow⟩
  · exact ⟨custom, still, same ▸ inscribed⟩
  · refine ⟨customNow.trans ?_, still, inscribedNow⟩
    rw [custom]
    rfl

theorem Settled.runAll (settled : Settled site origin members first project before)
    (outside : site.Outside first origin.disk)
    (sparesTemplates : site.SparesTemplates first origin)
    (sustained : Sustain project.features edits)
    (returned : Edit.runAll site confirm project edits (before, caller) =
      (.ok left, (after, final))) :
    final = caller ∧ ∃ last, left = some last ∧ last.features = turns project.features edits ∧
      Settled site origin members first last after := by
  induction edits generalizing project before caller with
  | nil =>
      cases returned
      exact ⟨rfl, project, rfl, rfl, settled⟩
  | cons edit edits induction =>
      rw [Edit.runAll, Errand.bind_apply] at returned
      cases reached : Edit.run site confirm project edit (before, caller) with
      | mk result between =>
          obtain ⟨between, asked⟩ := between
          rw [reached] at returned
          cases result with
          | error failure => cases returned
          | ok found =>
              obtain ⟨rfl, next, rfl, features, still⟩ :=
                settled.run outside sparesTemplates sustained.1 reached
              have further := induction still (features ▸ sustained.2) returned
              rw [features] at further
              exact further

/-- What edits leave that change the features at first. -/
theorem settled_of_runAll (tended : site.Tended origin members project before)
    (outside : site.Outside project origin.disk)
    (sparesTemplates : site.SparesTemplates project origin)
    (sustained : Sustain project.features (edit :: edits))
    (changes : turn project.features edit ≠ project.features)
    (returned : runAll site confirm project (edit :: edits) (before, caller) =
      (.ok left, (after, final))) :
    final = caller ∧ ∃ last, left = some last ∧
      last.features = turns project.features (edit :: edits) ∧
        Settled site origin members project last after := by
  rw [runAll, Errand.bind_apply] at returned
  cases reached : run site confirm project edit (before, caller) with
  | mk result between =>
      obtain ⟨between, asked⟩ := between
      rw [reached] at returned
      cases result with
      | error failure => cases returned
      | ok found =>
          obtain ⟨rfl, next, rfl, features, settled⟩ :=
            settled_of_run tended outside sparesTemplates sustained.1 changes reached
          have further := settled.runAll outside sparesTemplates (features ▸ sustained.2) returned
          rw [features] at further
          exact further

/-- Of projects with the same features edits leave the same disk. -/
theorem Settled.disk_eq {last other : Project} (settled : Settled site origin members first last before)
    (settledToo : Settled site origin members first other after)
    (same : last.features = other.features) : last = other ∧ before.disk = after.disk := by
  obtain ⟨custom, tended, inscribed⟩ := settled
  obtain ⟨customToo, tendedToo, inscribedToo⟩ := settledToo
  have equal : last = other := by
    rw [custom, customToo]
    simp only [same]
  subst equal
  exact ⟨rfl, Site.disk_eq_of_tended tended tendedToo inscribed inscribedToo⟩

/-- Two runs of edits that leave the same features leave the same project and the same disk, and
neither asks its caller. -/
theorem disk_eq_of_runAll {one another : Edit} {more others : List Edit} {right : Option Project}
    {other : Workspace} {last : σ} (tended : site.Tended origin members project before)
    (outside : site.Outside project origin.disk)
    (sparesTemplates : site.SparesTemplates project origin)
    (sustained : Sustain project.features (one :: more))
    (sustainedToo : Sustain project.features (another :: others))
    (changes : turn project.features one ≠ project.features)
    (changesToo : turn project.features another ≠ project.features)
    (same : turns project.features (one :: more) = turns project.features (another :: others))
    (returned : runAll site confirm project (one :: more) (before, caller) =
      (.ok left, (after, final)))
    (returnedToo : runAll site confirm project (another :: others) (before, caller) =
      (.ok right, (other, last))) :
    final = caller ∧ last = caller ∧ left = right ∧ left ≠ none ∧ after.disk = other.disk := by
  obtain ⟨unasked, first, rfl, features, settled⟩ :=
    settled_of_runAll tended outside sparesTemplates sustained changes returned
  obtain ⟨unaskedToo, second, rfl, featuresToo, settledToo⟩ :=
    settled_of_runAll tended outside sparesTemplates sustainedToo changesToo returnedToo
  obtain ⟨rfl, disks⟩ := settled.disk_eq settledToo (features.trans (same.trans featuresToo.symm))
  exact ⟨unasked, unaskedToo, rfl, by simp, disks⟩

/-- A site whose templates lie in a folder. -/
def librarySite : Site :=
  ⟨{ Config.standard with settingsKey := "k" }, .directory (.ofText "tpl")⟩

/-- A project with three features in one file. -/
def libraryProject : Project :=
  ⟨.deno, ".", .preset .corePlus, .singleFile⟩

/-- A disk with a template for every feature, which holds its name, with the document and with
the merged file of the project. -/
def libraryDisk : Disk where
  entries location :=
    if location = [] ∨ location = [Text.ofString "tpl"] then some .directory
    else if location = [Text.ofString "copy-paste.json"] then
      some (.file ("\x7b\"k\":\x7b\"runtime\":\"Deno\",\"chosen_directory\":\".\"," ++
        "\"feature_set\":\x7b\"Preset\":\x7b\"preset_name\":\"CorePlus\"\x7d\x7d," ++
        "\"modularity\":\"SingleFile\"\x7d\x7d").toUTF8)
    else if location = [Text.ofString "crabSafe.ts"] then
      some (.file "Core\nOption\nResult".toUTF8)
    else
      (Feature.all.find? fun feature =>
        location = [Text.ofString "tpl", Text.ofString feature.fileName]).map
        fun feature => .file (feature.name ++ "\n").toUTF8
  home := []

theorem sound_libraryDisk : libraryDisk.Sound := by
  refine ⟨rfl, fun location occupied => ?_⟩
  have rooted : ∀ name, location = [name] → libraryDisk.entries location.dropLast = some .directory := by
    rintro name rfl
    rfl
  by_cases directory : location = [] ∨ location = [Text.ofString "tpl"]
  · exact directory.imp_right (rooted _)
  by_cases document : location = [Text.ofString "copy-paste.json"]
  · exact .inr (rooted _ document)
  by_cases merged : location = [Text.ofString "crabSafe.ts"]
  · exact .inr (rooted _ merged)
  simp only [libraryDisk, if_neg directory, if_neg document, if_neg merged, ne_eq,
    Option.map_eq_none_iff] at occupied
  obtain ⟨feature, found⟩ := Option.ne_none_iff_exists'.mp occupied
  have place := List.find?_some found
  rw [decide_eq_true_eq] at place
  rw [place]
  exact .inr rfl

/-- The document and the merged file agree, although the document was not written by this tool. -/
theorem agrees_libraryDisk :
    librarySite.Agrees libraryProject (.on libraryDisk .warning) := by
  have read : libraryDisk.read (librarySite.singleFile libraryProject) =
      .ok "Core\nOption\nResult".toUTF8 := by decide +kernel
  have file := (Disk.read_eq_ok_iff.mp read).2
  have occupied : libraryDisk.entries (libraryDisk.target (librarySite.singleFile libraryProject)) ≠
      none := by simp [file]
  have noDirectory : libraryDisk.entries
      (libraryDisk.target (librarySite.singleFile libraryProject)) ≠ some .directory := by simp [file]
  refine ⟨by decide +kernel, fun location inside => ?_, fun _ => ?_, fun split => by cases split⟩
  · have destinations : librarySite.destinations libraryProject =
        [librarySite.singleFile libraryProject] := rfl
    simp only [destinations, List.mem_singleton, exists_eq_left]
    constructor
    · intro present
      by_contra elsewhere
      exact present (sound_libraryDisk.none_of_prefix noDirectory inside elsewhere)
    · rintro rfl
      exact occupied
  · exact ⟨"Core\nOption\nResult", _, by decide +kernel, by decide +kernel, read⟩

end Edit

end HelperKit
