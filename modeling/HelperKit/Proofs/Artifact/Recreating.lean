import HelperKit.Proofs.Artifact.Abandoning
import HelperKit.Proofs.Artifact.Descending

/-!
# Recreating a directory

A directory that is recreated under a plain path is empty afterwards, and nothing has changed
beside it but that the directories above it are there.  When that cannot be had, since a file
blocks the path, since the path is too long, or since too many directories are missing, nothing
has changed at all.
-/

namespace HelperKit

open Attempt

/-! ## Directories made one after the other -/

/-- A workspace in which directories are made at some locations, in their order. -/
def Workspace.furnish (workspace : Workspace) (places : List Location) : Workspace :=
  places.foldl (fun reached place => reached.perform (.makeDirectory place)) workspace

namespace Workspace

variable {workspace : Workspace} {places : List Location} {location : Location}

theorem furnish_append (workspace : Workspace) (first second : List Location) :
    workspace.furnish (first ++ second) = (workspace.furnish first).furnish second :=
  List.foldl_append

theorem home_furnish (workspace : Workspace) (places : List Location) :
    (workspace.furnish places).disk.home = workspace.disk.home := by
  induction places generalizing workspace with
  | nil => rfl
  | cons place places induction =>
      exact (induction _).trans (workspace.disk.apply_home _)

theorem entries_furnish (workspace : Workspace) (places : List Location) (location : Location) :
    (workspace.furnish places).disk.entries location =
      if location ∈ places then some .directory else workspace.disk.entries location := by
  induction places generalizing workspace with
  | nil => rfl
  | cons place places induction =>
      have first : (workspace.perform (.makeDirectory place)).disk.entries location =
          if location = place then some .directory else workspace.disk.entries location := rfl
      have further : (workspace.furnish (place :: places)).disk.entries location = _ :=
        induction (workspace.perform (.makeDirectory place))
      rw [further, first]
      by_cases later : location ∈ places
      · simp [later]
      · simp [later]

end Workspace

namespace Disk

variable {disk : Disk} {path : Path}

theorem makingDirectory_of_opens (opens : disk.Opens path) (named : path.parts ≠ [])
    (vacant : disk.entries (disk.target path) = none) :
    disk.makingDirectory path = .ok (.makeDirectory (disk.target path)) := by
  rw [makingDirectory, locate_eq_ok opens]
  simp only [vacant, if_neg named]

theorem makingDirectory_of_locate_error {fault : Fault} (lost : disk.locate path = .error fault) :
    disk.makingDirectory path = .error fault := by
  rw [makingDirectory, lost]

theorem directory_of_not_mem_gaps (unblocked : ¬ disk.Blocked path) {way : Location}
    (onTheWay : way ∈ disk.ways path) (filled : way ∉ disk.gaps path) :
    disk.entries way = some .directory := by
  cases known : disk.entries way with
  | none => exact absurd (mem_gaps_iff.mpr ⟨onTheWay, known⟩) filled
  | some entry =>
      cases entry with
      | file bytes => exact absurd ⟨way, mem_reach_iff.mpr (.inl onTheWay), bytes, known⟩ unblocked
      | directory => rfl

/-- When the gaps on the way of a descending path have been filled, the directory at its end can be
made. -/
theorem makingDirectory_furnish {before : Workspace} (descends : Descends path)
    (named : path.parts ≠ []) (unblocked : ¬ before.disk.Blocked path)
    (vacant : before.disk.entries (before.disk.target path) = none) :
    (before.furnish (before.disk.gaps path)).disk.makingDirectory path =
      .ok (.makeDirectory (before.disk.target path)) := by
  have home := before.home_furnish (before.disk.gaps path)
  have opens : (before.furnish (before.disk.gaps path)).disk.Opens path := by
    refine ⟨descends.vetted, descends.short, fun way onTheWay => ?_⟩
    rw [ways_congr home] at onTheWay
    rw [Workspace.entries_furnish]
    by_cases gap : way ∈ before.disk.gaps path
    · rw [if_pos gap]
    · rw [if_neg gap, directory_of_not_mem_gaps unblocked onTheWay gap]
  have last : before.disk.target path ∉ before.disk.gaps path :=
    fun gap => target_notMem_ways descends.downward named (mem_gaps_iff.mp gap).1
  rw [← target_congr home]
  refine makingDirectory_of_opens opens named ?_
  rw [target_congr home, Workspace.entries_furnish, if_neg last, vacant]

end Disk

namespace Access

variable {path : Path} {before : Workspace} {mayExist : Bool} {anchor : Anchor} {part : Text}
  {above : List Text}

theorem provideDirectory_of_making {effect : Effect}
    (making : before.disk.makingDirectory path = .ok effect) :
    provideDirectory mayExist path before = (.ok (), before.perform effect) := by
  rw [provideDirectory, bind_apply, outcome_apply, makeDirectory_apply, making]
  rfl

theorem provideDirectory_of_fault {report : SystemFault}
    (making : before.disk.makingDirectory path = .error (.system report))
    (passed : report.errno = .noEntry ∨ mayExist = false) :
    provideDirectory mayExist path before = (.error (.system report), before) := by
  rw [provideDirectory, bind_apply, outcome_apply, makeDirectory_apply, making]
  simp only [provideDirectory.accept]
  rcases passed with missing | rfl
  · rw [if_pos missing]
    rfl
  · by_cases missing : report.errno = .noEntry
    · rw [if_pos missing]
      rfl
    · rw [if_neg missing]
      rfl

theorem provideAll_of_opens (missing : Nat)
    (opens : before.disk.Opens ⟨anchor, (part :: above).reverse⟩)
    (vacant : before.disk.entries (before.disk.target ⟨anchor, (part :: above).reverse⟩) = none) :
    provideAll anchor mayExist missing (part :: above) before =
      (.ok (), before.furnish [before.disk.target ⟨anchor, (part :: above).reverse⟩]) := by
  have making := Disk.makingDirectory_of_opens opens (by simp) vacant
  unfold provideAll
  rw [bind_apply, outcome_apply, provideDirectory_of_making making]
  rfl

theorem provideAll_of_noEntry (missing : Nat)
    (lost : before.disk.locate ⟨anchor, (part :: above).reverse⟩ =
      .error (.system { errno := .noEntry, path := ⟨anchor, (part :: above).reverse⟩ })) :
    provideAll anchor mayExist missing (part :: above) before =
      match missing with
      | 0 => (.error .tooDeep, before)
      | missing + 1 =>
          (provideAll anchor true missing above >>= fun _ =>
            provideDirectory mayExist ⟨anchor, (part :: above).reverse⟩) before := by
  have failed : provideDirectory mayExist ⟨anchor, (part :: above).reverse⟩ before = _ :=
    provideDirectory_of_fault (Disk.makingDirectory_of_locate_error lost) (.inl rfl)
  rw [provideAll.eq_def]
  simp only
  rw [bind_apply, outcome_apply, failed]
  cases missing <;> rfl

/-- Where nothing is at the end of a descending path that no file blocks, the missing directories
are made from the highest one down; if they are too many, none is made.  The induction is on the
names of the path from its end, as long as the directory above is missing. -/
theorem provideAll_apply (sound : before.disk.Sound) (reversed : List Text)
    (grounded : before.disk.entries (before.disk.start ⟨anchor, []⟩) = some .directory)
    (descends : Disk.Descends ⟨anchor, reversed.reverse⟩)
    (unblocked : ¬ before.disk.Blocked ⟨anchor, reversed.reverse⟩)
    (vacant : before.disk.entries (before.disk.target ⟨anchor, reversed.reverse⟩) = none)
    (mayExist : Bool) (missing : Nat) :
    provideAll anchor mayExist missing reversed before =
      if (before.disk.gaps ⟨anchor, reversed.reverse⟩).length ≤ missing then
        (.ok (), before.furnish (before.disk.gaps ⟨anchor, reversed.reverse⟩ ++
          [before.disk.target ⟨anchor, reversed.reverse⟩]))
      else (.error .tooDeep, before) := by
  -- By the names from the last one up, as the parent is made first; every one of them may be a gap.
  induction reversed generalizing mayExist missing with
  | nil =>
      have start : before.disk.entries (before.disk.start ⟨anchor, []⟩) = none := vacant
      rw [grounded] at start
      cases start
  | cons part above induction =>
      set path : Path := ⟨anchor, (part :: above).reverse⟩ with pathEq
      have named : path.parts ≠ [] := by simp [pathEq]
      have parent : path.parent = ⟨anchor, above.reverse⟩ := by simp [pathEq, Path.parent]
      have reach : ∀ station ∈ before.disk.reach path.parent, station ∈ before.disk.reach path := by
        intro station member
        rw [Disk.reach_parent_append before.disk path named]
        exact List.mem_append_left _ member
      cases housed : before.disk.entries (before.disk.target path.parent) with
      | some entry =>
          cases entry with
          | file bytes =>
              exact absurd ⟨_, reach _ (Disk.target_mem_reach before.disk path.parent), bytes, housed⟩
                unblocked
          | directory =>
              have opens := sound.opens descends named housed
              rw [provideAll_of_opens missing opens vacant, opens.gaps_eq_nil]
              rfl
      | none =>
          have lost := Disk.locate_of_vacant_parent descends named unblocked housed
          have unblockedParent : ¬ before.disk.Blocked path.parent := by
            rintro ⟨station, member, file⟩
            exact unblocked ⟨station, reach station member, file⟩
          have gaps := Disk.gaps_eq_append named housed
          have descendsParent := descends.parent named
          rw [parent] at descendsParent unblockedParent housed gaps
          rw [provideAll_of_noEntry missing lost, gaps, List.length_append, List.length_singleton]
          cases missing with
          | zero => rfl
          | succ missing =>
              simp only
              rw [bind_apply, induction descendsParent unblockedParent housed true missing]
              by_cases few : (before.disk.gaps ⟨anchor, above.reverse⟩).length ≤ missing
              · rw [if_pos few, if_pos (Nat.succ_le_succ few), ← gaps,
                  Workspace.furnish_append _ (before.disk.gaps path)]
                simp only
                exact provideDirectory_of_making
                  (Disk.makingDirectory_furnish descends named unblocked vacant)
              · rw [if_neg few, if_neg (by omega)]

/-! ## The same for whole paths -/

theorem makeDirectories_reverse (mayExist : Bool) (anchor : Anchor) (reversed : List Text) :
    makeDirectories mayExist ⟨anchor, reversed.reverse⟩ =
      provideAll anchor mayExist maximumMissing reversed := by
  rw [makeDirectories, List.reverse_reverse]

theorem makeDirectories_apply (sound : before.disk.Sound)
    (grounded : before.disk.entries (before.disk.start path) = some .directory)
    (descends : Disk.Descends path) (unblocked : ¬ before.disk.Blocked path)
    (vacant : before.disk.entries (before.disk.target path) = none) (mayExist : Bool) :
    makeDirectories mayExist path before =
      if (before.disk.gaps path).length ≤ maximumMissing then
        (.ok (), before.furnish (before.disk.gaps path ++ [before.disk.target path]))
      else (.error .tooDeep, before) := by
  obtain ⟨anchor, parts⟩ := path
  obtain ⟨reversed, rfl⟩ := List.reverse_surjective parts
  rw [makeDirectories_reverse]
  exact provideAll_apply sound reversed grounded descends unblocked vacant mayExist maximumMissing

theorem makeDirectories_of_opens (opens : before.disk.Opens path) (named : path.parts ≠ [])
    (vacant : before.disk.entries (before.disk.target path) = none) :
    makeDirectories mayExist path before =
      (.ok (), before.furnish [before.disk.target path]) := by
  obtain ⟨anchor, parts⟩ := path
  obtain ⟨reversed, rfl⟩ := List.reverse_surjective parts
  obtain ⟨part, above, rfl⟩ := List.exists_cons_of_ne_nil (mt List.reverse_eq_nil_iff.mpr named)
  rw [makeDirectories_reverse]
  exact provideAll_of_opens maximumMissing opens vacant

theorem makeDirectories_of_locate_error {report : SystemFault} (named : path.parts ≠ [])
    (lost : before.disk.locate path = .error (.system report)) (other : report.errno ≠ .noEntry) :
    makeDirectories false path before = (.error (.system report), before) := by
  obtain ⟨anchor, parts⟩ := path
  obtain ⟨reversed, rfl⟩ := List.reverse_surjective parts
  obtain ⟨part, above, rfl⟩ := List.exists_cons_of_ne_nil (mt List.reverse_eq_nil_iff.mpr named)
  have failed : provideDirectory false ⟨anchor, (part :: above).reverse⟩ before = _ :=
    provideDirectory_of_fault (Disk.makingDirectory_of_locate_error lost) (.inr rfl)
  rw [makeDirectories_reverse]
  unfold provideAll
  rw [bind_apply, outcome_apply, failed]
  simp only [if_neg other]
  rfl

end Access

/-! ## Recreating -/

namespace Disk

variable {disk : Disk} {path : Path}

/-- What becomes of a disk when a directory is recreated: it is there and holds nothing, the
directories above it are there, and all else is as before. -/
structure Recreated (path : Path) (before after : Disk) : Prop where
  home : after.home = before.home
  there : after.entries (before.target path) = some .directory
  empty : ∀ location, before.target path <+: location → location ≠ before.target path →
    after.entries location = none
  paved : ∀ way ∈ before.ways path, after.entries way = some .directory
  others : ∀ location, ¬ before.target path <+: location → location ∉ before.gaps path →
    after.entries location = before.entries location

/-- A directory is recreated when what was in it has been cleared away, if anything was, and the
gaps above it are filled. -/
theorem recreated_furnish {cleared : Workspace} (descends : Descends path)
    (named : path.parts ≠ []) (unblocked : ¬ disk.Blocked path)
    (home : cleared.disk.home = disk.home)
    (below : ∀ location, disk.target path <+: location → location ≠ disk.target path →
      cleared.disk.entries location = none)
    (others : ∀ location, ¬ disk.target path <+: location →
      cleared.disk.entries location = disk.entries location) :
    Recreated path disk (cleared.furnish (disk.gaps path ++ [disk.target path])).disk where
  home := (cleared.home_furnish _).trans home
  there := by
    rw [Workspace.entries_furnish, if_pos (List.mem_append_right _ (List.mem_singleton_self _))]
  empty := by
    intro location inside proper
    have made : location ∉ disk.gaps path ++ [disk.target path] := by
      rw [List.mem_append, List.mem_singleton, not_or]
      refine ⟨fun gap => ?_, proper⟩
      exact not_mem_ways_of_prefix descends.downward named inside (mem_gaps_iff.mp gap).1
    rw [Workspace.entries_furnish, if_neg made, below location inside proper]
  paved := by
    intro way onTheWay
    rw [Workspace.entries_furnish]
    by_cases gap : way ∈ disk.gaps path
    · rw [if_pos (List.mem_append_left _ gap)]
    · have outside : ¬ disk.target path <+: way :=
        fun inside => not_mem_ways_of_prefix descends.downward named inside onTheWay
      rw [others way outside, directory_of_not_mem_gaps unblocked onTheWay gap, ite_self]
  others := by
    intro location outside filled
    have made : location ∉ disk.gaps path ++ [disk.target path] := by
      rw [List.mem_append, List.mem_singleton, not_or]
      refine ⟨filled, ?_⟩
      rintro rfl
      exact outside List.prefix_rfl
    rw [Workspace.entries_furnish, if_neg made, others location outside]

theorem Sound.opens_of_present (sound : disk.Sound) (descends : Descends path)
    (named : path.parts ≠ []) (present : disk.entries (disk.target path) ≠ none) :
    disk.Opens path where
  vetted := descends.vetted
  short := descends.short
  passable := by
    intro way onTheWay
    have above := prefix_target_of_mem_reach descends.downward (mem_reach_iff.mpr (.inl onTheWay))
    refine sound.directory_of_prefix present above fun same => ?_
    exact target_notMem_ways descends.downward named (same ▸ onTheWay)

theorem removingTree_of_plain (downward : Path.parentPart ∉ path.parts) (named : path.parts ≠ [])
    (opens : disk.Opens path) (present : disk.entries (disk.target path) = some .directory) :
    disk.removingTree path = .ok (.removeTree (disk.target path), none) := by
  have remains := wayRemains_of_plain downward opens
  have removable : unremovable? path = none := by
    have proper : path.parts.getLast named ≠ Path.parentPart :=
      fun dots => downward (dots ▸ List.getLast_mem named)
    rw [unremovable?, List.getLast?_eq_some_getLast named]
    simp only [if_neg proper]
  rw [removingTree, locate_eq_ok opens]
  simp only [present, remains, removable, if_true]

theorem Sound.start (sound : disk.Sound) (home : disk.entries disk.home = some .directory)
    (path : Path) : disk.entries (disk.start path) = some .directory := by
  unfold Disk.start
  cases path.anchor with
  | workingDirectory => exact home
  | root => exact sound.root
  | doubleRoot => exact sound.root

end Disk

namespace Site

variable {path : Path} {before : Workspace}

theorem clearDirectory_of_overlong
    (overlong : Disk.vet path = .error (.system { errno := .nameTooLong, path })) :
    clearDirectory path before = (.error (.system { errno := .nameTooLong, path }), before) := by
  have asked : before.disk.pathExists path = .error (.system { errno := .nameTooLong, path }) := by
    unfold Disk.pathExists Disk.test Disk.status Disk.locate
    rw [overlong]
    rfl
  rw [clearDirectory_eq, bind_apply, Access.ask_apply, asked]

/-- A path that a file blocks is reported, and nothing is done. -/
theorem clearDirectory_of_blocked (sound : before.disk.Sound) (descends : Disk.Descends path)
    (named : path.parts ≠ []) (blocked : before.disk.Blocked path) :
    ∃ report, clearDirectory path before = (.error (.system report), before) := by
  obtain ⟨station, member, bytes, file⟩ := blocked
  rw [clearDirectory_eq, bind_apply, Access.ask_apply]
  rcases Disk.mem_reach_iff.mp member with onTheWay | rfl
  · -- The file is on the way: nothing is found to be removed, and nothing can be made.
    have walked := sound.walk_eq_notDirectory descends.downward descends.short onTheWay file
    have lost : before.disk.locate path = .error (.system { errno := .notDirectory, path }) := by
      rw [Disk.locate, descends.vetted, walked]
    have asked : before.disk.pathExists path = .ok false := by
      rw [Disk.pathExists, Disk.test, Disk.status, lost]
      rfl
    refine ⟨{ errno := .notDirectory, path }, ?_⟩
    rw [asked]
    simp only [Bool.false_eq_true, if_false]
    rw [bind_apply, pure_apply]
    have other : Errno.notDirectory ≠ .noEntry := by decide
    exact Access.makeDirectories_of_locate_error named lost other
  · -- The file is at the end: it is found, but is no directory that could be removed.
    have opens := sound.opens_of_present descends named (by simp [file])
    have asked : before.disk.pathExists path = .ok true :=
      Disk.pathExists_eq_true_iff.mpr ⟨opens, by simp [file]⟩
    have removing : before.disk.removingTree path =
        .error (.system { errno := .notDirectory, path, spelling := .object }) := by
      rw [Disk.removingTree, Disk.locate_eq_ok opens]
      simp only [file]
    refine ⟨{ errno := .notDirectory, path, spelling := .object }, ?_⟩
    rw [asked]
    simp only [if_true]
    rw [bind_apply, Access.removeTree_apply, removing]

/-- A directory that is there is removed with all that is in it, and made again. -/
theorem clearDirectory_of_present (sound : before.disk.Sound) (descends : Disk.Descends path)
    (named : path.parts ≠ [])
    (present : before.disk.entries (before.disk.target path) = some .directory) :
    clearDirectory path before = (.ok (), (before.perform
      (.removeTree (before.disk.target path))).furnish [before.disk.target path]) := by
  have opens := sound.opens_of_present descends named (by simp [present])
  have asked : before.disk.pathExists path = .ok true :=
    Disk.pathExists_eq_true_iff.mpr ⟨opens, by simp [present]⟩
  have removing := Disk.removingTree_of_plain descends.downward named opens present
  -- The directories above are not touched by the removal.
  have opensAfter : (before.disk.apply (.removeTree (before.disk.target path))).Opens path :=
    opens.apply fun way onTheWay =>
      ⟨fun removed => Disk.not_mem_ways_of_prefix descends.downward named removed onTheWay,
        fun created => absurd rfl created⟩
  have target : (before.disk.apply (.removeTree (before.disk.target path))).target path =
      before.disk.target path := Disk.target_congr (before.disk.apply_home _)
  have vacant : (before.disk.apply (.removeTree (before.disk.target path))).entries
      (before.disk.target path) = none := Disk.entries_apply_of_removes List.prefix_rfl
  rw [← target] at vacant
  have made : Access.makeDirectories false path
      (before.perform (.removeTree (before.disk.target path))) = _ :=
    Access.makeDirectories_of_opens opensAfter named vacant
  rw [clearDirectory_eq, bind_apply, Access.ask_apply, asked]
  simp only [if_true]
  rw [bind_apply, Access.removeTree_apply, removing]
  simp only
  rw [made, show (before.perform (.removeTree (before.disk.target path))).disk.target path = _ from
    target]

/-- Where nothing is, the missing directories are made, if they are not too many. -/
theorem clearDirectory_of_vacant (sound : before.disk.Sound)
    (grounded : before.disk.entries (before.disk.start path) = some .directory)
    (descends : Disk.Descends path) (unblocked : ¬ before.disk.Blocked path)
    (vacant : before.disk.entries (before.disk.target path) = none) :
    clearDirectory path before =
      if (before.disk.gaps path).length ≤ Access.maximumMissing then
        (.ok (), before.furnish (before.disk.gaps path ++ [before.disk.target path]))
      else (.error .tooDeep, before) := by
  have asked : before.disk.pathExists path = .ok false := by
    obtain ⟨answer, answered⟩ : ∃ answer, before.disk.pathExists path = .ok answer :=
      Disk.test_answers descends.vetted descends.short _
    cases answer with
    | false => exact answered
    | true => exact absurd vacant (Disk.pathExists_eq_true_iff.mp answered).2
  rw [clearDirectory_eq, bind_apply, Access.ask_apply, asked]
  simp only [Bool.false_eq_true, if_false]
  rw [bind_apply, pure_apply]
  exact Access.makeDirectories_apply sound grounded descends unblocked vacant false

theorem recreateDirectory_of_error {fault : Fault}
    (failed : clearDirectory path before = (.error fault, before)) :
    recreateDirectory path before = (.error (.refused path .recreateDirectory fault), before) := by
  rw [recreateDirectory, bind_apply, mapError_apply, failed]
  rfl

theorem recreateDirectory_of_ok {after : Workspace}
    (cleared : clearDirectory path before = (.ok (), after)) :
    recreateDirectory path before =
      (.ok (), after.note ⟨.debug, "Recreated " ++ path.toText⟩) := by
  rw [recreateDirectory, bind_apply, mapError_apply, cleared]
  rfl

theorem recreateDirectory_of_present (sound : before.disk.Sound) (descends : Disk.Descends path)
    (named : path.parts ≠ [])
    (present : before.disk.entries (before.disk.target path) = some .directory)
    (unblocked : ¬ before.disk.Blocked path) :
    ∃ after, recreateDirectory path before = (.ok (), after) ∧
      Disk.Recreated path before.disk after.disk := by
  have cleared := clearDirectory_of_present sound descends named present
  have opens := sound.opens_of_present descends named (by simp [present])
  have recreated : Disk.Recreated path before.disk ((before.perform
      (.removeTree (before.disk.target path))).furnish
        (before.disk.gaps path ++ [before.disk.target path])).disk := by
    refine Disk.recreated_furnish descends named unblocked (before.disk.apply_home _)
      (fun location inside _ => ?_) fun location outside => ?_
    · have removes : (Effect.removeTree (before.disk.target path)).Removes location := inside
      exact Disk.entries_apply_of_removes removes
    · have spares : (Effect.removeTree (before.disk.target path)).Spares location :=
        ⟨outside, fun created => absurd rfl created⟩
      exact Disk.entries_apply_of_spares spares
  rw [opens.gaps_eq_nil] at recreated
  refine ⟨_, recreateDirectory_of_ok cleared, ?_⟩
  rw [(Workspace.reaches_note _ _).disk]
  exact recreated

theorem recreateDirectory_of_vacant (sound : before.disk.Sound)
    (grounded : before.disk.entries (before.disk.start path) = some .directory)
    (descends : Disk.Descends path) (named : path.parts ≠ [])
    (unblocked : ¬ before.disk.Blocked path)
    (vacant : before.disk.entries (before.disk.target path) = none)
    (few : (before.disk.gaps path).length ≤ Access.maximumMissing) :
    ∃ after, recreateDirectory path before = (.ok (), after) ∧
      Disk.Recreated path before.disk after.disk := by
  have cleared := clearDirectory_of_vacant sound grounded descends unblocked vacant
  rw [if_pos few] at cleared
  refine ⟨_, recreateDirectory_of_ok cleared, ?_⟩
  rw [(Workspace.reaches_note _ _).disk]
  refine Disk.recreated_furnish descends named unblocked rfl ?_ fun _ _ => rfl
  exact fun location inside proper => sound.none_of_prefix (by simp [vacant]) inside proper

/-- A path below a thousand directories. -/
def deepPath : Path :=
  ⟨.workingDirectory, List.replicate 1001 (Text.ofString "x")⟩

/-- A path of seventeen long names, which together have more bytes than a path may have. -/
def longPath : Path :=
  ⟨.workingDirectory, List.replicate 17 (List.replicate 240 (CodePoint.char 'a'))⟩

end Site

end HelperKit
