import HelperKit.Proofs.Artifact.Frame
import HelperKit.Proofs.Artifact.Removing
import HelperKit.Proofs.Settings.Forgetting
import HelperKit.Proofs.Settings.Furnishing

/-!
# What a deletion leaves

A deletion that returns leaves neither artifact nor record, and everything else as it was; after
that, one more deletion has no effect.  Its answer tells whether the artifact was there, unless the
way to it was lost in between.  An artifact that is absent is deleted with its record, but not one
whose path is barred by a file.
-/

namespace HelperKit

open Attempt

namespace Disk

variable {disk : Disk} {path : Path} {location : Location} {names : List Text}

theorem wayRemains_of_plain (plain : Path.parentPart ∉ path.parts) (opens : disk.Opens path) :
    (disk.apply (.emptyDirectory (disk.target path))).wayRemains path = true := by
  refine Opens.wayRemains (opens.apply fun way member =>
    ⟨fun removes => ?_, fun created => absurd rfl created⟩)
  have above := prefix_target_of_mem_reach plain (mem_reach_iff.mpr (.inl member))
  exact removes.2 (above.eq_of_length_le removes.1.length_le)

/-! ## Barred paths -/

/-- A path that leads nowhere without being absent: a file bars the way, or the path never reaches
the file system. -/
inductive Barred (disk : Disk) (path : Path) : Fault → Prop where
  | file {way : Location} {bytes : ByteArray} (onTheWay : way ∈ disk.ways path)
      (blocks : disk.entries way = some (.file bytes)) :
      Barred disk path (.system { errno := .notDirectory, path })
  | unfit {fault : Fault} (unfit : Unfit path fault) : Barred disk path fault

/-- A walk that misses a directory has met a file. -/
theorem walk_notDirectory (failed : disk.walk location names = .error .notDirectory) :
    ∃ station ∈ (stations location names).dropLast,
      ∃ bytes, disk.entries station = some (.file bytes) := by
  induction names generalizing location with
  | nil => cases failed
  | cons name names induction =>
      have passed : (stations location (name :: names)).dropLast =
          location :: (stations (next location name) names).dropLast := by
        rw [stations, List.dropLast_cons_of_ne_nil (stations_ne_nil _ _)]
      rw [passed]
      rw [walk] at failed
      cases known : disk.entries location with
      | none =>
          rw [known] at failed
          cases failed
      | some entry =>
          rw [known] at failed
          cases entry with
          | file bytes => exact ⟨location, List.mem_cons_self, bytes, known⟩
          | directory =>
              simp only at failed
              split at failed
              · cases failed
              · obtain ⟨station, member, file⟩ := induction failed
                exact ⟨station, List.mem_cons_of_mem _ member, file⟩

/-- Nothing exists at a path that is absent, and at one that is barred. -/
theorem absent_or_barred (nothing : disk.pathExists path = .ok false) :
    disk.Absent path ∨ ∃ fault, disk.status path = .error fault ∧ disk.Barred path fault := by
  unfold pathExists test at nothing
  cases unknown : disk.status path with
  | ok entry =>
      rw [unknown] at nothing
      cases nothing
  | error fault =>
      rw [unknown] at nothing
      -- Nothing is found for want of an entry, or the way is barred before that can be seen.
      rcases lost_or_vacant_of_status_error unknown with lost | ⟨-, -, -, rfl⟩
      · unfold locate at lost
        cases vetted : vet path with
        | error original =>
            rw [vetted] at lost
            cases lost
            rcases vet_eq_error vetted with overlong | unfit
            · cases overlong
              cases nothing
            · exact .inr ⟨_, rfl, .unfit unfit⟩
        | ok =>
            rw [vetted] at lost
            simp only at lost
            cases walked : disk.walk (disk.start path) path.parts with
            | ok final =>
                rw [walked] at lost
                cases lost
            | error errno =>
                rw [walked] at lost
                cases lost
                cases errno with
                | noEntry => exact .inl unknown
                | notDirectory =>
                    obtain ⟨way, onTheWay, bytes, blocks⟩ := walk_notDirectory walked
                    exact .inr ⟨_, rfl, .file onTheWay blocks⟩
                | _ => cases nothing
      · exact .inl unknown

end Disk

namespace Site

variable {site : Site} {project : Project} {disk left : Disk} {before after : Workspace}
  {removed : Bool} {location : Location}

/-! ## Removing the artifact -/

theorem not_losesWay_of_plain (plain : Path.parentPart ∉ (site.artifact project).parts)
    (there : disk.pathExists (site.artifact project) = .ok true) :
    ¬ site.LosesWay project disk := by
  rintro ⟨-, lost⟩
  have remains := Disk.wayRemains_of_plain plain (Disk.pathExists_eq_true_iff.mp there).1
  exact Bool.noConfusion (remains.symm.trans lost)

namespace Demolishes

theorem answer (demolishes : site.Demolishes project disk removed left) : removed = true ↔
    disk.pathExists (site.artifact project) = .ok true ∧ ¬ site.LosesWay project disk := by
  cases demolishes with
  | removed clears => simp [clears.there, not_losesWay_of_clears clears]
  | emptied there loses => simp [loses]
  | absent absent => simp [absent.pathExists]

theorem home (demolishes : site.Demolishes project disk removed left) : disk.home = left.home := by
  cases demolishes with
  | removed clears => exact (disk.apply_home _).symm
  | emptied there loses => exact (disk.apply_home _).symm
  | absent absent => rfl

/-- What is not part of an artifact that was there stays as it is. -/
theorem entries_eq (demolishes : site.Demolishes project disk removed left)
    (outside : disk.pathExists (site.artifact project) = .ok true →
      ¬ site.artifactLocation project disk <+: location) :
    left.entries location = disk.entries location := by
  cases demolishes with
  | removed clears =>
      refine Disk.entries_apply_of_spares ?_
      by_contra touched
      exact outside clears.there (clears.inside touched)
  | emptied there loses =>
      exact Disk.entries_apply_of_spares
        ⟨fun removes => outside there removes.1, fun created => absurd rfl created⟩
  | absent absent => rfl

/-- All that was in an artifact is gone, and so is the artifact itself if the answer is yes. -/
theorem cleared (demolishes : site.Demolishes project disk removed left) (sound : disk.Sound)
    (there : disk.pathExists (site.artifact project) = .ok true)
    (inside : site.artifactLocation project disk <+: location)
    (part : location ≠ site.artifactLocation project disk ∨ removed = true) :
    left.entries location = none := by
  cases demolishes with
  | removed clears =>
      by_cases same : location = site.artifactLocation project disk
      · rw [same]
        exact Disk.entries_apply_of_removes (site.clearing_removes project disk)
      · cases layout : project.layout with
        | splitFiles =>
            unfold clearing
            rw [layout]
            exact Disk.entries_apply_of_removes inside
        | singleFile =>
            -- Nothing was ever below a file.
            unfold clearing at clears ⊢
            rw [layout] at clears ⊢
            have spared : Effect.Spares (.removeFile (site.artifactLocation project disk)) location :=
              ⟨same, fun created => absurd rfl created⟩
            rw [Disk.entries_apply_of_spares spared]
            refine sound.none_of_prefix ?_ inside same
            cases clears with
            | file _ removing =>
                obtain ⟨-, ⟨bytes, file⟩, -⟩ := Disk.removingFile_eq_ok removing
                rw [artifactLocation, file]
                simp
            | tree split removing => cases layout.symm.trans split
  | emptied there loses =>
      exact Disk.entries_apply_of_removes ⟨inside, part.resolve_right Bool.false_ne_true⟩
  | absent absent =>
      rw [absent.pathExists] at there
      cases there

theorem status_document (demolishes : site.Demolishes project disk removed left)
    (plain : Path.parentPart ∉ site.config.settingsFile.parts)
    (outside : site.Outside project disk) :
    left.status site.config.settingsFile = disk.status site.config.settingsFile := by
  refine (Disk.status_congr demolishes.home fun station reached => ?_).symm
  have above := Disk.prefix_target_of_mem_reach plain reached
  exact (demolishes.entries_eq fun _ inside => outside (inside.trans above)).symm

end Demolishes

/-! ## Removing the record, too -/

/-- What a deletion leaves: nothing is found at the artifact, there is no project to load, and the
other members of the document stay, in their order.  The answer is whether the artifact was there,
unless the way to it was lost.  Nothing else has changed, and one more deletion has no effect. -/
structure Deleted (site : Site) (project : Project) (before : Workspace) (removed : Bool)
    (after : Workspace) : Prop where
  gone : after.disk.pathExists (site.artifact project) = .ok false
  unrecorded : (site.store.load after).1 = .ok none
  document : ∃ members, site.store.Stripped before.disk after.disk members
  answer : removed = true ↔
    before.disk.pathExists (site.artifact project) = .ok true ∧ ¬ site.LosesWay project before.disk
  told : Path.parentPart ∉ (site.artifact project).parts →
    (removed = true ↔ before.disk.pathExists (site.artifact project) = .ok true)
  cleared : before.disk.pathExists (site.artifact project) = .ok true →
    ∀ location, site.artifactLocation project before.disk <+: location →
      location ≠ site.artifactLocation project before.disk ∨ removed = true →
        after.disk.entries location = none
  others : ∀ location, location ≠ site.documentLocation before.disk →
    (before.disk.pathExists (site.artifact project) = .ok true →
      ¬ site.artifactLocation project before.disk <+: location) →
    after.disk.entries location = before.disk.entries location
  again : ∃ last, site.delete project after = (.ok false, last) ∧ after.Reaches [] last

/-- A deletion that returns is complete, and one more has no effect. -/
theorem deletion_is_complete (site : Site) (project : Project) (before after : Workspace)
    (removed : Bool) (sound : before.disk.Sound)
    (plain : Path.parentPart ∉ site.config.settingsFile.parts)
    (outside : site.Outside project before.disk)
    (returned : site.delete project before = (.ok removed, after)) :
    site.Deleted project before removed after := by
  obtain ⟨unrecorded, gone⟩ := gone_of_delete returned
  obtain ⟨judged, demolishes, forgetting⟩ := demolishes_of_delete returned
  obtain ⟨leaves, -⟩ := Store.forget_eq_ok forgetting
  have elsewhere : ∀ location, location ≠ site.documentLocation before.disk →
      after.disk.entries location = judged.disk.entries location := by
    intro location other
    refine leaves.entries_eq_of_ne ?_
    rw [documentLocation_congr demolishes.home] at other
    exact other
  obtain ⟨noted, reaches, deleted⟩ := delete_of_absent gone
  obtain ⟨last, forgotten, still⟩ := Store.forget_again forgetting reaches.disk
  exact
    { gone := gone.pathExists
      unrecorded
      document := Store.stripped_of_forget forgetting
        (demolishes.status_document plain outside).symm (demolishes.entries_eq fun _ => outside)
      answer := demolishes.answer
      told := fun level => demolishes.answer.trans
        ⟨fun both => both.1, fun there => ⟨there, not_losesWay_of_plain level there⟩⟩
      cleared := fun there location inside part => by
        have other : location ≠ site.documentLocation before.disk := by
          rintro rfl
          exact outside inside
        rw [elsewhere location other]
        exact demolishes.cleared sound there inside part
      others := fun location other beside => by
        rw [elsewhere location other]
        exact demolishes.entries_eq beside
      again := ⟨last, deleted last forgotten, reaches.trans still⟩ }

/-- The bytes of a document with a record and a member of another tool. -/
def keptBytes : ByteArray :=
  "\x7b\"other\":1,\"crabSafe\":null\x7d".toUTF8

/-- A disk with that document, and beside it a split directory that holds a directory with a
file. -/
def nestedDisk : Disk where
  entries location :=
    if location = [] ∨ location = [Text.ofString "crabSafe"] ∨
        location = [Text.ofString "crabSafe", Text.ofString "sub"] then some .directory
    else if location = [Text.ofString "crabSafe", Text.ofString "sub", Text.ofString "mine.txt"]
      then some (.file .empty)
    else if location = [Text.ofString "copy-paste.json"] then some (.file keptBytes)
    else none
  home := []

theorem sound_nestedDisk : nestedDisk.Sound := by
  refine ⟨rfl, fun location occupied => ?_⟩
  by_cases directory : location = [] ∨ location = [Text.ofString "crabSafe"] ∨
      location = [Text.ofString "crabSafe", Text.ofString "sub"]
  · rcases directory with rfl | rfl | rfl
    · exact .inl rfl
    · exact .inr rfl
    · exact .inr rfl
  by_cases file : location =
      [Text.ofString "crabSafe", Text.ofString "sub", Text.ofString "mine.txt"]
  · rw [file]
    exact .inr rfl
  by_cases document : location = [Text.ofString "copy-paste.json"]
  · rw [document]
    exact .inr rfl
  simp only [nestedDisk, if_neg directory, if_neg file, if_neg document] at occupied
  exact absurd rfl occupied

/-- The project of the split directory on that disk. -/
def nestedProject (directory : Text) : Project :=
  ⟨.deno, directory, .preset .core, .splitFiles⟩

/-- A deletion takes everything in the split directory, and from the document only the record. -/
theorem deletion_is_complete_nested :
    let site : Site := ⟨.standard, .shipped⟩
    let before := Workspace.on nestedDisk .warning
    ∃ after, site.delete (nestedProject ".") before = (.ok true, after) ∧
      site.Deleted (nestedProject ".") before true after := by
  intro site before
  have returned : (site.delete (nestedProject ".") before).1 = .ok true := by decide +kernel
  exact ⟨_, eq_of_fst returned, deletion_is_complete site _ before _ true sound_nestedDisk
    (by decide +kernel) (by unfold Outside; decide +kernel) (eq_of_fst returned)⟩

/-- A deletion under a path through a directory in the artifact has removed that directory, and
answers that nothing was there. -/
theorem deletion_untold :
    let site : Site := ⟨.standard, .shipped⟩
    let project := nestedProject "crabSafe/sub/../.."
    let before := Workspace.on nestedDisk .warning
    before.disk.Sound ∧ Path.parentPart ∉ site.config.settingsFile.parts ∧
      site.Outside project before.disk ∧
      ¬ site.documentLocation before.disk <+: site.artifactLocation project before.disk ∧
      before.disk.pathExists (site.artifact project) = .ok true ∧
      ∃ after, site.delete project before = (.ok false, after) ∧
        after.disk.entries [Text.ofString "crabSafe", Text.ofString "sub"] = none := by
  intro site project before
  have returned : (site.delete project before).1 = .ok false := by decide +kernel
  have removed : (site.delete project before).2.disk.entries
      [Text.ofString "crabSafe", Text.ofString "sub"] = none := by decide +kernel
  exact ⟨sound_nestedDisk, by decide +kernel, by unfold Outside; decide +kernel, by decide +kernel,
    by decide +kernel, _, eq_of_fst returned, removed⟩

/-! ## Artifacts that do not exist -/

/-- Nothing exists at an artifact.  If it is absent, its record is taken away and nothing else
changes; if its path is barred, the deletion fails and changes nothing. -/
theorem deletion_of_nothing (site : Site) (project : Project) (before : Workspace)
    (members : Members)
    (nothing : before.disk.pathExists (site.artifact project) = .ok false)
    (rewritable : site.store.Rewritable before.disk members) :
    (before.disk.Absent (site.artifact project) →
      ∃ after, site.delete project before = (.ok false, after) ∧
        (site.store.load after).1 = .ok none ∧
        site.store.Stripped before.disk after.disk members ∧
        ∀ location, location ≠ site.documentLocation before.disk →
          after.disk.entries location = before.disk.entries location) ∧
    (¬ before.disk.Absent (site.artifact project) →
      ∃ fault, before.disk.Barred (site.artifact project) fault ∧
        site.delete project before =
          (.error (.refused (site.artifact project) .delete fault), before)) := by
  constructor
  · intro absent
    obtain ⟨noted, reaches, deleted⟩ := delete_of_absent absent
    have same : noted.disk = before.disk := reaches.disk
    rw [← same] at rewritable
    obtain ⟨after, forgetting⟩ := Store.forget_of_rewritable rewritable
    obtain ⟨leaves, -⟩ := Store.forget_eq_ok forgetting
    obtain ⟨found, stripped⟩ := Store.stripped_of_forget forgetting rfl rfl
    obtain rfl := stripped.held.unique (.inr rewritable.held)
    rw [same] at stripped leaves
    exact ⟨after, deleted after forgetting, Store.load_of_forget forgetting, stripped,
      fun location other => leaves.entries_eq_of_ne other⟩
  · intro present
    obtain ⟨fault, unknown, barred⟩ := (Disk.absent_or_barred nothing).resolve_left present
    exact ⟨fault, barred, delete_of_status_error unknown present⟩

theorem rewritable_nestedDisk : ∃ members,
    (Store.ofConfig .standard).Rewritable nestedDisk members ∧
      (Store.ofConfig .standard).key ∈ members.names := by
  have parsed : (Members.ofFile? keptBytes).map (fun members =>
      ((Json.object (members.erase (Store.ofConfig .standard).key)).toDocument.encode?.isSome,
        decide ((Store.ofConfig .standard).key ∈ members.names))) = some (true, true) := by
    decide +kernel
  obtain ⟨members, known, both⟩ := Option.map_eq_some_iff.mp parsed
  obtain ⟨encodable, recorded⟩ := Prod.mk.inj both
  exact ⟨members, ⟨by decide +kernel, ⟨keptBytes, rfl, known⟩,
    Option.isSome_iff_ne_none.mp encodable⟩, of_decide_eq_true recorded⟩

/-- The chosen directory is gone, and the directory above it, too. -/
theorem deletion_of_nothing_gone :
    let site : Site := ⟨.standard, .shipped⟩
    let project := nestedProject "gone/away"
    let before := Workspace.on nestedDisk .warning
    before.disk.pathExists (site.artifact project) = .ok false ∧
      ∃ after, site.delete project before = (.ok false, after) ∧
        (site.store.load after).1 = .ok none := by
  intro site project before
  have nothing : before.disk.pathExists (site.artifact project) = .ok false := by decide +kernel
  obtain ⟨members, rewritable, -⟩ := rewritable_nestedDisk
  obtain ⟨after, deleted, unrecorded, -⟩ :=
    (deletion_of_nothing site project before members nothing rewritable).1 rfl
  exact ⟨nothing, after, deleted, unrecorded⟩

/-- There is a file now where the chosen directory was, and the record cannot be got rid of. -/
theorem deletion_blocked_by_file :
    let site : Site := ⟨.standard, .shipped⟩
    let project := nestedProject "crabSafe/sub/mine.txt"
    let before := Workspace.on nestedDisk .warning
    before.disk.pathExists (site.artifact project) = .ok false ∧
      (∃ members, site.store.Rewritable before.disk members ∧ site.store.key ∈ members.names) ∧
      site.delete project before =
        (.error (.filesystem (site.artifact project) .delete
          { errno := .notDirectory, path := site.artifact project }), before) := by
  intro site project before
  refine ⟨by decide +kernel, rewritable_nestedDisk, ?_⟩
  have lost : before.disk.locate (site.artifact project) = .error (.system
      { errno := .notDirectory, path := site.artifact project }) := by
    decide +kernel
  have unknown : before.disk.status (site.artifact project) = .error (.system
      { errno := .notDirectory, path := site.artifact project }) := by
    rw [Disk.status, lost]
  refine delete_of_status_error unknown fun absent => ?_
  have same := Fault.system.inj (Except.error.inj (unknown.symm.trans absent))
  exact Errno.noConfusion (congrArg SystemFault.errno same)

end Site

end HelperKit
