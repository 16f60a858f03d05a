import HelperKit.Proofs.Upkeep.Edits

/-!
# Outcomes of edits

What adding features comes to depends on the set of those that are asked for, and on the catalog
for their order.  A removal comes to one of four outcomes, which are told apart by what is left and,
when nothing is, by the answer of the caller, who is asked once then and otherwise not at all.
-/

namespace HelperKit

open Attempt

namespace Project

variable {project : Project} {requested others dropped : List Feature}

/-- Additions are those features of the catalog, in its order, that are asked for and not there. -/
theorem additions_eq (project : Project) (requested : List Feature) :
    project.additions requested =
      Feature.all.filter fun feature => feature ∈ requested ∧ feature ∉ project.features := by
  unfold additions Feature.complement
  rw [List.filter_filter]
  exact List.filter_congr fun feature _ => by simp

theorem additions_congr (same : ∀ feature, feature ∈ requested ↔ feature ∈ others) :
    project.additions requested = project.additions others := by
  simp only [additions_eq, same]

theorem additions_eq_nil {updated : Project}
    (added : updated.features = project.features ++ project.additions requested) :
    updated.additions requested = [] := by
  rw [additions_eq, List.filter_eq_nil_iff]
  intro feature cataloged
  rw [decide_eq_true_eq, added, List.mem_append, not_and, not_not]
  intro wanted
  by_cases known : feature ∈ project.features
  · exact .inl known
  · rw [additions_eq, List.mem_filter, decide_eq_true_eq]
    exact .inr ⟨cataloged, wanted, known⟩

theorem length_remainder_iff : (project.remainder dropped).length = project.features.length ↔
    ∀ feature ∈ project.features, feature ∉ dropped := by
  rw [remainder, List.length_filter_eq_length_iff]
  simp only [decide_eq_true_eq]

theorem remainder_eq_nil_iff : project.remainder dropped = [] ↔
    ∀ feature ∈ project.features, feature ∈ dropped := by
  rw [remainder, List.filter_eq_nil_iff]
  simp only [decide_eq_true_eq, not_not]

theorem exists_taken (all : ∀ feature ∈ project.features, feature ∈ dropped) :
    ∃ feature ∈ project.features, feature ∈ dropped := by
  obtain ⟨feature, member⟩ := List.exists_mem_of_ne_nil _ project.features_ne_nil
  exact ⟨feature, member, all feature member⟩

theorem exists_left (none : ∀ feature ∈ project.features, feature ∉ dropped) :
    ∃ feature ∈ project.features, feature ∉ dropped := by
  obtain ⟨feature, member⟩ := List.exists_mem_of_ne_nil _ project.features_ne_nil
  exact ⟨feature, member, none feature member⟩

theorem not_none (taken : ∃ feature ∈ project.features, feature ∈ dropped) :
    ¬ ∀ feature ∈ project.features, feature ∉ dropped := by
  obtain ⟨feature, member, gone⟩ := taken
  exact fun none => none feature member gone

theorem not_all (left : ∃ feature ∈ project.features, feature ∉ dropped) :
    ¬ ∀ feature ∈ project.features, feature ∈ dropped := by
  obtain ⟨feature, member, kept⟩ := left
  exact fun all => kept (all feature member)

end Project

namespace Site

variable {site : Site} {project updated : Project} {requested others dropped : List Feature}
  {before after : Workspace}

/-! ## Adding -/

/-- Adding nothing new returns the project itself and has no effect. -/
theorem addFeatures_of_nil (nothing : project.additions requested = []) :
    ∃ after, site.addFeatures project requested before = (.ok project, after) ∧
      before.Reaches [] after := by
  unfold addFeatures
  simp only [nothing, dite_true]
  exact ⟨_, rfl, before.reaches_note _⟩

/-- A project after features were added to it: the additions stand behind the features that it had,
all the rest is the same, and this is what is stored. -/
structure Extended (site : Site) (project : Project) (requested : List Feature)
    (updated : Project) (after : Workspace) : Prop where
  custom : ∃ nonempty nodup, updated = { project with
    selection := .custom (project.features ++ project.additions requested) nonempty nodup }
  nodup : updated.features.Nodup
  keeps : project.features <+: updated.features
  stored : (site.store.load after).1 = .ok (some updated)

theorem features_of_addFeatures
    (returned : site.addFeatures project requested before = (.ok updated, after)) :
    updated.features = project.features ++ project.additions requested := by
  rcases Edit.addFeatures_eq_ok returned with ⟨nothing, rfl, -⟩ | ⟨nonempty, rfl, -⟩
  · rw [nothing, List.append_nil]
  · rw [Edit.withFeatures_eq nonempty (Edit.nodup_turn project.nodup_features (.add requested))]
    rfl

theorem extended_of_addFeatures (something : project.additions requested ≠ [])
    (returned : site.addFeatures project requested before = (.ok updated, after)) :
    site.Extended project requested updated after := by
  have features := features_of_addFeatures returned
  rcases Edit.addFeatures_eq_ok returned with ⟨nothing, -⟩ | ⟨nonempty, same, renewing⟩
  · exact absurd nothing something
  · have nodup : (project.features ++ project.additions requested).Nodup :=
      Edit.nodup_turn project.nodup_features (.add requested)
    refine ⟨⟨nonempty, nodup, same.trans (Edit.withFeatures_eq nonempty nodup)⟩,
      features ▸ nodup, ?_, load_of_renew renewing⟩
    rw [features]
    exact List.prefix_append project.features _

/-- What adding features does.  The additions are a part of the catalog, in its order.  Without any
the project is returned as it is, and nothing changes; otherwise they are put behind its features.
How they are asked for does not matter, and asking once more has no effect. -/
theorem addFeatures_effect (site : Site) (project : Project) (requested : List Feature)
    (before : Workspace) :
    project.additions requested =
        Feature.all.filter (fun feature => feature ∈ requested ∧ feature ∉ project.features) ∧
      (project.additions requested = [] →
        ∃ after, site.addFeatures project requested before = (.ok project, after) ∧
          before.Reaches [] after) ∧
      (project.additions requested ≠ [] → ∀ updated after,
        site.addFeatures project requested before = (.ok updated, after) →
          site.Extended project requested updated after) ∧
      (∀ others : List Feature, (∀ feature, feature ∈ requested ↔ feature ∈ others) →
        site.addFeatures project requested = site.addFeatures project others) ∧
      ∀ updated after, site.addFeatures project requested before = (.ok updated, after) →
        ∃ last, site.addFeatures updated requested after = (.ok updated, last) ∧
          after.Reaches [] last := by
  refine ⟨project.additions_eq requested, addFeatures_of_nil,
    fun something updated after returned => extended_of_addFeatures something returned,
    fun others same => ?_,
    fun updated after returned =>
      addFeatures_of_nil (Project.additions_eq_nil (features_of_addFeatures returned))⟩
  unfold addFeatures
  simp only [Project.additions_congr same]

/-- Features are asked for in disorder, one of them twice, and one that is there. -/
theorem addFeatures_effect_disorder :
    let site := Edit.librarySite
    let project := Edit.libraryProject
    let requested : List Feature := [.parsers, .core, .example, .parsers]
    ∃ updated after last,
      site.addFeatures project requested (.on Edit.libraryDisk .warning) = (.ok updated, after) ∧
      updated.features = [.core, .option, .result, .example, .parsers] ∧
      site.Extended project requested updated after ∧
      site.addFeatures updated requested after = (.ok updated, last) := by
  intro site project requested
  obtain ⟨-, -, extended, -, again⟩ :=
    addFeatures_effect site project requested (.on Edit.libraryDisk .warning)
  have features : (site.addFeatures project requested (.on Edit.libraryDisk .warning)).1.map
      Project.features = .ok [.core, .option, .result, .example, .parsers] := by decide +kernel
  cases returned : site.addFeatures project requested (.on Edit.libraryDisk .warning) with
  | mk result after =>
      rw [returned] at features
      cases result with
      | error failure => cases features
      | ok updated =>
          obtain ⟨last, unchanged, -⟩ := again updated after returned
          exact ⟨updated, after, last, rfl, Except.ok.inj features,
            extended (by decide) updated after returned, unchanged⟩

/-! ## Removing -/

variable {σ : Type} {confirm : σ → Except Failure Bool × σ} {caller final : σ} {removal : Removal}

/-- What a removal that returns has come to. -/
inductive Concludes (site : Site) (project : Project) (dropped : List Feature)
    (confirm : σ → Except Failure Bool × σ) (before : Workspace) (caller : σ) :
    Removal → Workspace → σ → Prop where
  | unchanged {after : Workspace} (none : ∀ feature ∈ project.features, feature ∉ dropped)
      (reaches : before.Reaches [] after) :
      Concludes site project dropped confirm before caller (.unchanged project) after caller
  | updated {after : Workspace} (taken : ∃ feature ∈ project.features, feature ∈ dropped)
      (left : ∃ feature ∈ project.features, feature ∉ dropped)
      (remains : project.remainder dropped ≠ [])
      (renewing : site.renew (project.withFeatures (project.remainder dropped) remains) before =
        (.ok (), after)) :
      Concludes site project dropped confirm before caller
        (.updated (project.withFeatures (project.remainder dropped) remains)) after caller
  | aborted {after : Workspace} (all : ∀ feature ∈ project.features, feature ∈ dropped)
      (declined : (confirm caller).1 = .ok false) (reaches : before.Reaches [] after) :
      Concludes site project dropped confirm before caller (.aborted project) after
        (confirm caller).2
  | deleted {after : Workspace} {removed : Bool}
      (all : ∀ feature ∈ project.features, feature ∈ dropped)
      (agreed : (confirm caller).1 = .ok true)
      (deleting : site.delete project before = (.ok removed, after)) :
      Concludes site project dropped confirm before caller .deleted after (confirm caller).2

/-- A removal that leaves something does not ask its caller. -/
theorem removeFeatures_of_left (left : ∃ feature ∈ project.features, feature ∉ dropped) :
    site.removeFeatures project dropped confirm (before, caller) =
      ((site.answeredRemoval project dropped (.ok true) before).1,
        ((site.answeredRemoval project dropped (.ok true) before).2, caller)) := by
  have unasked : removalQuestion project dropped confirm = pure true := by
    refine if_neg fun both => ?_
    exact Project.not_all left (Project.remainder_eq_nil_iff.mp both.2)
  rw [removeFeatures_eq, unasked, Errand.onCaller_pure, pure_bind, Errand.onDisk_apply]

theorem removeFeatures_of_all (all : ∀ feature ∈ project.features, feature ∈ dropped) :
    site.removeFeatures project dropped confirm (before, caller) =
      match (confirm caller).1 with
      | .error failure => (.error failure, (before, (confirm caller).2))
      | .ok answer =>
          ((site.answeredRemoval project dropped (.ok answer) before).1,
            ((site.answeredRemoval project dropped (.ok answer) before).2,
              (confirm caller).2)) := by
  have asked : removalQuestion project dropped confirm = confirm := by
    refine if_pos ⟨fun same => ?_, Project.remainder_eq_nil_iff.mpr all⟩
    exact Project.not_none (Project.exists_taken all) (Project.length_remainder_iff.mp same)
  rw [removeFeatures_eq, asked, Errand.bind_apply, Errand.onCaller_apply]
  cases (confirm caller).1 <;> rfl

/-- What is done when the answer is known, if that returns. -/
theorem answeredRemoval_eq_ok {answer : Bool}
    (returned : site.answeredRemoval project dropped (.ok answer) before = (.ok removal, after)) :
    ((∀ feature ∈ project.features, feature ∉ dropped) ∧ removal = .unchanged project ∧
        before.Reaches [] after) ∨
      ((∃ feature ∈ project.features, feature ∈ dropped) ∧
        ∃ remains : project.remainder dropped ≠ [],
          removal = .updated (project.withFeatures (project.remainder dropped) remains) ∧
            site.renew (project.withFeatures (project.remainder dropped) remains) before =
              (.ok (), after)) ∨
      (project.remainder dropped = [] ∧
        ((answer = false ∧ removal = .aborted project ∧ before.Reaches [] after) ∨
          (answer = true ∧ removal = .deleted ∧
            ∃ removed, site.delete project before = (.ok removed, after)))) := by
  unfold answeredRemoval at returned
  by_cases same : (project.remainder dropped).length = project.features.length
  · rw [if_pos same] at returned
    cases returned
    exact .inl ⟨Project.length_remainder_iff.mp same, rfl, before.reaches_note _⟩
  · rw [if_neg same] at returned
    by_cases nothing : project.remainder dropped = []
    · rw [dif_pos nothing] at returned
      refine .inr (.inr ⟨nothing, ?_⟩)
      cases answer with
      | false =>
          cases returned
          exact .inl ⟨rfl, rfl, before.reaches_note _⟩
      | true =>
          obtain ⟨removed, between, deleting, finished⟩ := bind_eq_ok_iff.mp returned
          cases finished
          exact .inr ⟨rfl, rfl, removed, deleting⟩
    · rw [dif_neg nothing] at returned
      obtain ⟨_, between, renewing, finished⟩ := bind_eq_ok_iff.mp returned
      cases finished
      rw [Project.length_remainder_iff] at same
      simp only [not_forall, not_not] at same
      obtain ⟨feature, member, gone⟩ := same
      exact .inr (.inl ⟨⟨feature, member, gone⟩, nothing, rfl, renewing⟩)

/-- A removal that returns has come to one of four conclusions. -/
theorem concludes_of_removeFeatures
    (returned : site.removeFeatures project dropped confirm (before, caller) =
      (.ok removal, (after, final))) :
    site.Concludes project dropped confirm before caller removal after final := by
  by_cases left : ∃ feature ∈ project.features, feature ∉ dropped
  · rw [removeFeatures_of_left left] at returned
    cases removed : site.answeredRemoval project dropped (.ok true) before with
    | mk result reached =>
        rw [removed] at returned
        cases returned
        rcases answeredRemoval_eq_ok removed with
          ⟨none, rfl, reaches⟩ | ⟨taken, remains, rfl, renewing⟩ | ⟨nothing, -⟩
        · exact .unchanged none reaches
        · exact .updated taken left remains renewing
        · exact absurd (Project.remainder_eq_nil_iff.mp nothing) (Project.not_all left)
  · have all : ∀ feature ∈ project.features, feature ∈ dropped := by
      simpa only [not_exists, not_and, not_not] using left
    rw [removeFeatures_of_all all] at returned
    cases answered : (confirm caller).1 with
    | error failure =>
        rw [answered] at returned
        cases returned
    | ok answer =>
        simp only [answered] at returned
        cases removed : site.answeredRemoval project dropped (.ok answer) before with
        | mk result reached =>
            rw [removed] at returned
            cases returned
            rcases answeredRemoval_eq_ok removed with ⟨none, -⟩ | ⟨-, remains, -⟩ |
              ⟨-, ⟨rfl, rfl, reaches⟩ | ⟨rfl, rfl, gone, deleting⟩⟩
            · exact absurd none (Project.not_none (Project.exists_taken all))
            · exact absurd (Project.remainder_eq_nil_iff.mpr all) remains
            · exact .aborted all answered reaches
            · exact .deleted all answered deleting

namespace Concludes

variable (concludes : site.Concludes project dropped confirm before caller removal after final)

include concludes

theorem unchanged_iff :
    removal = .unchanged project ↔ ∀ feature ∈ project.features, feature ∉ dropped := by
  cases concludes with
  | unchanged none reaches => exact iff_of_true rfl none
  | updated taken left remains renewing => exact iff_of_false nofun (Project.not_none taken)
  | aborted all declined reaches =>
      exact iff_of_false nofun (Project.not_none (Project.exists_taken all))
  | deleted all agreed deleting =>
      exact iff_of_false nofun (Project.not_none (Project.exists_taken all))

theorem updated_iff : (∃ left, removal = .updated left) ↔
    (∃ feature ∈ project.features, feature ∈ dropped) ∧
      ∃ feature ∈ project.features, feature ∉ dropped := by
  cases concludes with
  | unchanged none reaches => exact iff_of_false nofun fun both => Project.not_none both.1 none
  | updated taken left remains renewing => exact iff_of_true ⟨_, rfl⟩ ⟨taken, left⟩
  | aborted all declined reaches =>
      exact iff_of_false nofun fun both => Project.not_all both.2 all
  | deleted all agreed deleting =>
      exact iff_of_false nofun fun both => Project.not_all both.2 all

theorem aborted_iff : removal = .aborted project ↔
    (∀ feature ∈ project.features, feature ∈ dropped) ∧ (confirm caller).1 = .ok false := by
  cases concludes with
  | unchanged none reaches =>
      exact iff_of_false nofun fun both => Project.not_all (Project.exists_left none) both.1
  | updated taken left remains renewing =>
      exact iff_of_false nofun fun both => Project.not_all left both.1
  | aborted all declined reaches => exact iff_of_true rfl ⟨all, declined⟩
  | deleted all agreed deleting =>
      exact iff_of_false nofun fun both => nomatch agreed.symm.trans both.2

theorem deleted_iff : removal = .deleted ↔
    (∀ feature ∈ project.features, feature ∈ dropped) ∧ (confirm caller).1 = .ok true := by
  cases concludes with
  | unchanged none reaches =>
      exact iff_of_false nofun fun both => Project.not_all (Project.exists_left none) both.1
  | updated taken left remains renewing =>
      exact iff_of_false nofun fun both => Project.not_all left both.1
  | aborted all declined reaches =>
      exact iff_of_false nofun fun both => nomatch declined.symm.trans both.2
  | deleted all agreed deleting => exact iff_of_true rfl ⟨all, agreed⟩

theorem one_of_four : removal = .unchanged project ∨ (∃ left, removal = .updated left) ∨
    removal = .aborted project ∨ removal = .deleted := by
  cases concludes with
  | unchanged none reaches => exact .inl rfl
  | updated taken left remains renewing => exact .inr (.inl ⟨_, rfl⟩)
  | aborted all declined reaches => exact .inr (.inr (.inl rfl))
  | deleted all agreed deleting => exact .inr (.inr (.inr rfl))

theorem unasked (left : ∃ feature ∈ project.features, feature ∉ dropped) : final = caller := by
  cases concludes with
  | unchanged none reaches => rfl
  | updated taken left remains renewing => rfl
  | aborted all declined reaches => exact absurd all (Project.not_all left)
  | deleted all agreed deleting => exact absurd all (Project.not_all left)

theorem asked (all : ∀ feature ∈ project.features, feature ∈ dropped) :
    final = (confirm caller).2 := by
  cases concludes with
  | unchanged none reaches => exact absurd all (Project.not_all (Project.exists_left none))
  | updated taken left remains renewing => exact absurd all (Project.not_all left)
  | aborted all declined reaches => rfl
  | deleted all agreed deleting => rfl

theorem untouched (kept : removal = .unchanged project ∨ removal = .aborted project) :
    before.Reaches [] after := by
  cases concludes with
  | unchanged none reaches => exact reaches
  | updated taken left remains renewing => rcases kept with same | same <;> cases same
  | aborted all declined reaches => exact reaches
  | deleted all agreed deleting => rcases kept with same | same <;> cases same

/-- A project that was updated has the features that were not dropped, and is stored. -/
theorem renewed {left : Project} (same : removal = .updated left) :
    (∃ nonempty nodup, left = { project with
      selection := .custom (project.features.filter (· ∉ dropped)) nonempty nodup }) ∧
      (site.store.load after).1 = .ok (some left) := by
  cases concludes with
  | updated taken rest remains renewing =>
      cases same
      have nodup : (project.remainder dropped).Nodup := project.nodup_features.filter _
      exact ⟨⟨remains, nodup, Edit.withFeatures_eq remains nodup⟩, load_of_renew renewing⟩
  | _ => cases same

/-- A project that was deleted is gone with its record, and nothing was done but to delete it. -/
theorem gone (same : removal = .deleted) :
    after.disk.pathExists (site.artifact project) = .ok false ∧
      (site.store.load after).1 = .ok none ∧
      ∃ removed, site.delete project before = (.ok removed, after) := by
  cases concludes with
  | deleted all agreed deleting =>
      obtain ⟨unrecorded, gone⟩ := gone_of_delete deleting
      exact ⟨gone.pathExists, unrecorded, _, deleting⟩
  | _ => cases same

end Concludes

/-- A callback that counts how often it is called. -/
def counting (confirm : σ → Except Failure Bool × σ) :
    σ × Nat → Except Failure Bool × (σ × Nat) :=
  fun (caller, calls) => ((confirm caller).1, ((confirm caller).2, calls + 1))

/-- The outcome of a removal of features, with what goes for it.  It is one of four, by what is
left of the project and by the answer of the caller, who is asked once if nothing is left and not at
all otherwise. -/
structure RemovalOutcome (site : Site) (project : Project) (dropped : List Feature)
    (confirm : σ → Except Failure Bool × σ) (before : Workspace) (caller : σ) (calls : Nat)
    (removal : Removal) (after : Workspace) (final : σ) (called : Nat) : Prop where
  one_of_four : removal = .unchanged project ∨ (∃ left, removal = .updated left) ∨
    removal = .aborted project ∨ removal = .deleted
  unchanged_iff : removal = .unchanged project ↔ ∀ feature ∈ project.features, feature ∉ dropped
  updated_iff : (∃ left, removal = .updated left) ↔
    (∃ feature ∈ project.features, feature ∈ dropped) ∧
      ∃ feature ∈ project.features, feature ∉ dropped
  aborted_iff : removal = .aborted project ↔
    (∀ feature ∈ project.features, feature ∈ dropped) ∧ (confirm caller).1 = .ok false
  deleted_iff : removal = .deleted ↔
    (∀ feature ∈ project.features, feature ∈ dropped) ∧ (confirm caller).1 = .ok true
  unasked : (∃ feature ∈ project.features, feature ∉ dropped) → final = caller ∧ called = calls
  asked : (∀ feature ∈ project.features, feature ∈ dropped) →
    final = (confirm caller).2 ∧ called = calls + 1
  untouched : removal = .unchanged project ∨ removal = .aborted project → before.Reaches [] after
  renewed : ∀ left, removal = .updated left →
    (∃ nonempty nodup, left = { project with
      selection := .custom (project.features.filter (· ∉ dropped)) nonempty nodup }) ∧
      (site.store.load after).1 = .ok (some left)
  gone : removal = .deleted →
    after.disk.pathExists (site.artifact project) = .ok false ∧
      (site.store.load after).1 = .ok none ∧
      ∃ removed, site.delete project before = (.ok removed, after)
  filled : (∀ left, removal.project? = some left → left.features ≠ []) ∧
    ∀ stored, (site.store.load after).1 = .ok (some stored) → stored.features ≠ []

/-- Which of the four outcomes a removal of features has, and that an exception of the callback
passes through before anything is done. -/
theorem removeFeatures_outcome (site : Site) (project : Project) (dropped : List Feature)
    (confirm : σ → Except Failure Bool × σ) (before : Workspace) (caller : σ) (calls : Nat) :
    (∀ removal after final called,
      site.removeFeatures project dropped (counting confirm) (before, (caller, calls)) =
        (.ok removal, (after, (final, called))) →
      site.RemovalOutcome project dropped confirm before caller calls removal after final called) ∧
    ∀ failure, (∀ feature ∈ project.features, feature ∈ dropped) →
      (confirm caller).1 = .error failure →
        site.removeFeatures project dropped (counting confirm) (before, (caller, calls)) =
          (.error failure, (before, ((confirm caller).2, calls + 1))) := by
  refine ⟨fun removal after final called returned => ?_, fun failure all raised => ?_⟩
  · have concludes := concludes_of_removeFeatures returned
    exact
      { one_of_four := concludes.one_of_four
        unchanged_iff := concludes.unchanged_iff
        updated_iff := concludes.updated_iff
        aborted_iff := concludes.aborted_iff
        deleted_iff := concludes.deleted_iff
        unasked := fun left => Prod.mk.inj (concludes.unasked left)
        asked := fun all => Prod.mk.inj (concludes.asked all)
        untouched := concludes.untouched
        renewed := fun left => concludes.renewed
        gone := concludes.gone
        filled := ⟨fun left _ => left.features_ne_nil, fun stored _ => stored.features_ne_nil⟩ }
  · rw [removeFeatures_of_all all]
    simp only [counting, raised]

/-- All features are to be removed, and more than these.  A caller that agrees is asked once, and
one that raises an exception gets it back. -/
theorem removeFeatures_outcome_all :
    let site := Edit.librarySite
    let project := Edit.libraryProject
    let dropped : List Feature := [.result, .parsers, .core, .result, .option]
    let before := Workspace.on Edit.libraryDisk .warning
    let agree : Unit → Except Failure Bool × Unit := fun caller => (.ok true, caller)
    let raise : Unit → Except Failure Bool × Unit := fun caller => (.error (.cancelled "?"), caller)
    (∃ after, site.removeFeatures project dropped (counting agree) (before, ((), 0)) =
        (.ok .deleted, (after, ((), 1))) ∧
      after.disk.pathExists (site.artifact project) = .ok false ∧
      (site.store.load after).1 = .ok none) ∧
    site.removeFeatures project dropped (counting raise) (before, ((), 0)) =
      (.error (.cancelled "?"), (before, ((), 1))) := by
  intro site project dropped before agree raise
  constructor
  · have result : (site.removeFeatures project dropped (counting agree) (before, ((), 0))).1 =
        .ok .deleted := by decide +kernel
    obtain ⟨⟨after, final, called⟩, returned⟩ := exists_eq_mk result
    have outcome := (removeFeatures_outcome site project dropped agree before () 0).1
      _ after final called returned
    obtain ⟨-, rfl⟩ := outcome.asked (by decide)
    obtain ⟨gone, unrecorded, -⟩ := outcome.gone rfl
    exact ⟨after, returned, gone, unrecorded⟩
  · exact (removeFeatures_outcome site project dropped raise before () 0).2 _ (by decide) rfl

end Site

end HelperKit
