import HelperKit.Disk.Effect
import HelperKit.Proofs.Disk.Lookup
import Mathlib.Data.List.Induction

/-!
# What effects change

An effect creates an entry or removes some, and spares every other location.  A disk
is sound when every entry lies in a directory; the effects that operations name keep
it sound.
-/

namespace HelperKit

/-- An effect takes away what is at a location. -/
def Effect.Removes (effect : Effect) (location : Location) : Prop :=
  match effect with
  | .makeDirectory _ => False
  | .writeFile _ _ => False
  | .removeFile place => location = place
  | .removeTree place => place <+: location
  | .emptyDirectory place => place <+: location ∧ location ≠ place

/-- The entry that an effect creates, if it creates one. -/
def Effect.created? : Effect → Option Entry
  | .makeDirectory _ => some .directory
  | .writeFile _ bytes => some (.file bytes)
  | _ => none

/-- An effect leaves what is at a location as it is. -/
def Effect.Spares (effect : Effect) (location : Location) : Prop :=
  ¬ effect.Removes location ∧ (effect.created? ≠ none → location ≠ effect.location)

namespace Disk

variable {disk : Disk} {effect : Effect} {effects : List Effect} {location : Location}

@[simp]
theorem applyAll_home (disk : Disk) (effects : List Effect) :
    (disk.applyAll effects).home = disk.home := by
  induction effects generalizing disk with
  | nil => rfl
  | cons effect effects induction => rw [applyAll_cons, induction, apply_home]

theorem entries_apply_of_removes (removes : effect.Removes location) :
    (disk.apply effect).entries location = none := by
  cases effect with
  | makeDirectory place => cases removes
  | writeFile place bytes => cases removes
  | removeFile place =>
      have same : location = place := removes
      simp [apply, set, same]
  | removeTree place =>
      have inside : place <+: location := removes
      simp [apply, clear, inside]
  | emptyDirectory place =>
      have inside : place <+: location ∧ location ≠ place := removes
      simp [apply, clear, inside]

theorem entries_apply_of_created {entry : Entry} (created : effect.created? = some entry) :
    (disk.apply effect).entries effect.location = some entry := by
  cases effect <;> cases created <;> simp [apply, set, Effect.location]

theorem entries_apply_of_spares (spares : effect.Spares location) :
    (disk.apply effect).entries location = disk.entries location := by
  obtain ⟨kept, elsewhere⟩ := spares
  cases effect with
  | makeDirectory place =>
      have other : location ≠ place := elsewhere (by simp [Effect.created?])
      simp [apply, set, other]
  | writeFile place bytes =>
      have other : location ≠ place := elsewhere (by simp [Effect.created?])
      simp [apply, set, other]
  | removeFile place =>
      have other : location ≠ place := kept
      simp [apply, set, other]
  | removeTree place =>
      have outside : ¬ place <+: location := kept
      simp [apply, clear, outside]
  | emptyDirectory place =>
      have outside : ¬ (place <+: location ∧ location ≠ place) := kept
      simp only [apply, clear, Bool.and_eq_true, List.isPrefixOf_iff_prefix, bne_iff_ne]
      rw [if_neg outside]

theorem occupied_apply (occupied : disk.entries location ≠ none)
    (kept : ¬ effect.Removes location) : (disk.apply effect).entries location ≠ none := by
  by_cases spares : effect.Spares location
  · rw [entries_apply_of_spares spares]
    exact occupied
  · simp only [Effect.Spares, kept, not_false_eq_true, true_and, not_forall, not_not] at spares
    obtain ⟨created, here⟩ := spares
    obtain ⟨entry, known⟩ := Option.ne_none_iff_exists'.mp created
    rw [here, entries_apply_of_created known]
    simp

/-- What is occupied was so before, or has just been created. -/
theorem occupied_or_created (occupied : (disk.apply effect).entries location ≠ none) :
    disk.entries location ≠ none ∨ location = effect.location := by
  by_cases spares : effect.Spares location
  · rw [entries_apply_of_spares spares] at occupied
    exact .inl occupied
  · have kept : ¬ effect.Removes location :=
      fun removes => occupied (entries_apply_of_removes removes)
    simp only [Effect.Spares, kept, not_false_eq_true, true_and, not_forall, not_not] at spares
    exact .inr spares.2

/-- What every effect of a list spares is as before. -/
theorem entries_applyAll_of_spares (spares : ∀ effect ∈ effects, effect.Spares location) :
    (disk.applyAll effects).entries location = disk.entries location := by
  induction effects generalizing disk with
  | nil => rfl
  | cons effect effects induction =>
      rw [applyAll_cons, induction fun other member => spares other (List.mem_cons_of_mem _ member),
        entries_apply_of_spares (spares effect (by simp))]

/-! ## Sound disks -/

/-- Every entry lies in a directory, and the root is one. -/
structure Sound (disk : Disk) : Prop where
  root : disk.entries [] = some .directory
  housed : ∀ location, disk.entries location ≠ none →
    location = [] ∨ disk.entries location.dropLast = some .directory

theorem Sound.directory_of_prefix (sound : disk.Sound) {place : Location}
    (present : disk.entries location ≠ none) (above : place <+: location)
    (proper : location ≠ place) : disk.entries place = some .directory := by
  induction location using List.reverseRecOn with
  | nil => exact absurd (List.prefix_nil.mp above).symm proper
  | append_singleton front last induction =>
      have housed : disk.entries front = some .directory := by
        rcases sound.housed _ present with empty | housed
        · simp at empty
        · simpa using housed
      rcases List.prefix_concat_iff.mp above with same | higher
      · exact absurd same.symm proper
      · by_cases here : front = place
        · rw [← here]
          exact housed
        · exact induction (by simp [housed]) higher here

theorem Sound.none_of_prefix (sound : disk.Sound) {place : Location}
    (noDirectory : disk.entries place ≠ some .directory) (above : place <+: location)
    (proper : location ≠ place) : disk.entries location = none := by
  by_contra present
  exact noDirectory (sound.directory_of_prefix present above proper)

/-- An effect that a sound disk can have. -/
def Admits (disk : Disk) : Effect → Prop
  | .makeDirectory place =>
      disk.entries place = none ∧ disk.entries place.dropLast = some .directory
  | .writeFile place _ =>
      disk.entries place ≠ some .directory ∧ disk.entries place.dropLast = some .directory
  | .removeFile place => ∃ bytes, disk.entries place = some (.file bytes)
  | .removeTree place => place ≠ [] ∧ disk.entries place = some .directory
  | .emptyDirectory place => disk.entries place = some .directory

theorem Sound.ne_nil (sound : disk.Sound) (vacant : disk.entries location ≠ some .directory) :
    location ≠ [] := by
  rintro rfl
  exact vacant sound.root

/-- A new entry in a directory keeps a disk sound, unless it takes the place of a
directory. -/
private theorem Sound.set (sound : disk.Sound) {entry : Entry}
    (vacant : disk.entries location ≠ some .directory)
    (housed : disk.entries location.dropLast = some .directory) :
    (disk.set location (some entry)).Sound := by
  have nonempty := sound.ne_nil vacant
  have kept : ∀ other, disk.entries other = some .directory →
      (disk.set location (some entry)).entries other = some .directory := by
    intro other directory
    have differ : other ≠ location := by
      rintro rfl
      exact vacant directory
    simp [Disk.set, differ, directory]
  refine ⟨kept [] sound.root, ?_⟩
  intro other present
  by_cases same : other = location
  · subst same
    exact .inr (kept _ housed)
  · have before : disk.entries other ≠ none := by simpa [Disk.set, same] using present
    exact (sound.housed other before).imp_right (kept _)

/-- Taking away what lies below something that goes keeps a disk sound. -/
private theorem Sound.clear (sound : disk.Sound) {gone : Location → Bool}
    (root : gone [] = false)
    (downward : ∀ location, gone location.dropLast = true → gone location = true) :
    (disk.clear gone).Sound := by
  constructor
  · simp [Disk.clear, root, sound.root]
  · intro location present
    have stays : gone location = false := by
      by_contra goes
      simp [Disk.clear, goes] at present
    have before : disk.entries location ≠ none := by simpa [Disk.clear, stays] using present
    refine (sound.housed location before).imp_right fun directory => ?_
    have above : gone location.dropLast = false := by
      by_contra goes
      simp only [Bool.not_eq_false] at goes
      rw [downward location goes] at stays
      cases stays
    simp [Disk.clear, above, directory]

theorem prefix_of_prefix_dropLast {place location : Location} (below : place <+: location.dropLast) :
    place <+: location :=
  below.trans (List.dropLast_prefix location)

/-- The effects that a sound disk admits keep it sound. -/
theorem Sound.apply (sound : disk.Sound) (admits : disk.Admits effect) :
    (disk.apply effect).Sound := by
  -- What is set or cleared never takes a directory away from under something else.
  cases effect with
  | makeDirectory place => exact sound.set (by simp [admits.1]) admits.2
  | writeFile place bytes => exact sound.set admits.1 admits.2
  | removeFile place =>
      obtain ⟨bytes, file⟩ := admits
      have noDirectory : disk.entries place ≠ some .directory := by simp [file]
      have nonempty := sound.ne_nil noDirectory
      have kept : ∀ other, disk.entries other = some .directory →
          (disk.set place none).entries other = some .directory := by
        intro other directory
        have differ : other ≠ place := by
          rintro rfl
          rw [file] at directory
          cases directory
        simp [Disk.set, differ, directory]
      refine ⟨kept [] sound.root, ?_⟩
      intro other present
      have differ : other ≠ place := by
        rintro rfl
        simp [Disk.apply, Disk.set] at present
      have before : disk.entries other ≠ none := by
        simpa [Disk.apply, Disk.set, differ] using present
      exact (sound.housed other before).imp_right (kept _)
  | removeTree place =>
      refine sound.clear ?_ ?_
      · rw [← Bool.not_eq_true, List.isPrefixOf_iff_prefix, List.prefix_nil]
        exact admits.1
      · intro location below
        simp only [List.isPrefixOf_iff_prefix] at below ⊢
        exact prefix_of_prefix_dropLast below
  | emptyDirectory place =>
      refine sound.clear ?_ ?_
      · simp
      · intro location below
        simp only [Bool.and_eq_true, List.isPrefixOf_iff_prefix, bne_iff_ne] at below ⊢
        refine ⟨prefix_of_prefix_dropLast below.1, ?_⟩
        rintro rfl
        have length := below.1.length_le
        rw [List.length_dropLast] at length
        have empty : location = [] := by
          rw [← List.length_eq_zero_iff]
          omega
        rw [empty] at below
        exact below.2 rfl

/-! ## The effects that operations name -/

variable {path : Path}

theorem target_eq_next (disk : Disk) (nonempty : path.parts ≠ []) :
    disk.target path = next (disk.target path.parent) (path.parts.getLast nonempty) := by
  have split : path.parts = path.parts.dropLast ++ [path.parts.getLast nonempty] :=
    (List.dropLast_concat_getLast nonempty).symm
  have whole : disk.target path = (path.parts.dropLast ++
      [path.parts.getLast nonempty]).foldl next (disk.start path) := by rw [← split, target]
  rw [whole, List.foldl_append]
  rfl

theorem target_parent_mem_ways (disk : Disk) (nonempty : path.parts ≠ []) :
    disk.target path.parent ∈ disk.ways path := by
  rw [ways_eq_reach_parent nonempty]
  exact target_mem_reach disk path.parent

/-- Where something can be created, the directory above is there. -/
theorem Sound.housed_target (sound : disk.Sound) (opens : disk.Opens path)
    (nonempty : path.parts ≠ []) (vacant : disk.entries (disk.target path) = none) :
    disk.entries (disk.target path).dropLast = some .directory := by
  have parent := opens.passable _ (target_parent_mem_ways disk nonempty)
  rw [target_eq_next disk nonempty] at vacant ⊢
  unfold next at vacant ⊢
  split
  · -- Two dots lead to a directory that is there.
    rename_i dots
    rw [if_pos dots] at vacant
    rcases sound.housed (disk.target path.parent) (by simp [parent]) with root | above
    · rw [root] at vacant
      rw [above, List.dropLast_nil, sound.root] at vacant
      cases vacant
    · rw [Disk.above, above] at vacant
      cases vacant
  · rw [List.dropLast_concat]
    exact parent

theorem makingDirectory_eq_ok (making : disk.makingDirectory path = .ok effect) :
    disk.Opens path ∧ path.parts ≠ [] ∧ disk.entries (disk.target path) = none ∧
      effect = .makeDirectory (disk.target path) := by
  unfold makingDirectory at making
  split at making
  · cases making
  · rename_i located
    obtain ⟨opens, rfl⟩ := locate_eq_ok_iff.mp located
    split at making
    · cases making
    · rename_i vacant
      split at making
      · cases making
      · rename_i nonempty
        cases making
        exact ⟨opens, nonempty, vacant, rfl⟩

theorem openingFile_eq_ok (opening : disk.openingFile path = .ok location) :
    disk.Opens path ∧ location = disk.target path ∧
      disk.entries (disk.target path) ≠ some .directory ∧
      (disk.entries (disk.target path) = none → path.parts ≠ []) := by
  unfold openingFile at opening
  split at opening
  · cases opening
  · rename_i located
    obtain ⟨opens, rfl⟩ := locate_eq_ok_iff.mp located
    split at opening
    · cases opening
    · rename_i bytes file
      cases opening
      exact ⟨opens, rfl, by simp [file], by simp [file]⟩
    · rename_i vacant
      split at opening
      · cases opening
      · rename_i nonempty
        cases opening
        exact ⟨opens, rfl, by simp [vacant], fun _ => nonempty⟩

theorem removingFile_eq_ok (removing : disk.removingFile path = .ok effect) :
    disk.Opens path ∧ (∃ bytes, disk.entries (disk.target path) = some (.file bytes)) ∧
      effect = .removeFile (disk.target path) := by
  unfold removingFile at removing
  split at removing
  · cases removing
  · rename_i located
    obtain ⟨opens, rfl⟩ := locate_eq_ok_iff.mp located
    split at removing
    · cases removing
    · cases removing
    · rename_i bytes file
      cases removing
      exact ⟨opens, ⟨bytes, file⟩, rfl⟩

theorem removingTree_eq_ok {remaining : Option Fault}
    (removing : disk.removingTree path = .ok (effect, remaining)) :
    disk.Opens path ∧ disk.entries (disk.target path) = some .directory ∧
      ((effect = .removeTree (disk.target path) ∧ remaining = none ∧ unremovable? path = none ∧
          (disk.apply (.emptyDirectory (disk.target path))).wayRemains path = true) ∨
        (effect = .emptyDirectory (disk.target path) ∧
          ∃ errno, remaining = some (.system { errno, path }))) := by
  unfold removingTree at removing
  split at removing
  · cases removing
  · rename_i located
    obtain ⟨opens, rfl⟩ := locate_eq_ok_iff.mp located
    split at removing
    · cases removing
    · cases removing
    · rename_i directory
      refine ⟨opens, directory, ?_⟩
      split at removing
      · rename_i remains
        split at removing
        · rename_i removable
          cases removing
          exact .inl ⟨rfl, rfl, removable, remains⟩
        · rename_i errno _
          cases removing
          exact .inr ⟨rfl, errno, rfl⟩
      · cases removing
        exact .inr ⟨rfl, .noEntry, rfl⟩

/-- A directory that is removed under a path has a name of its own there. -/
theorem target_ne_nil_of_removable (disk : Disk) (removable : unremovable? path = none) :
    disk.target path ≠ [] := by
  rw [unremovable?] at removable
  cases last : path.parts.getLast? with
  | none =>
      rw [last] at removable
      cases known : path.anchor <;> rw [known] at removable <;> cases removable
  | some name =>
      have nonempty : path.parts ≠ [] := by
        intro empty
        rw [empty] at last
        cases last
      have same : path.parts.getLast nonempty = name := by
        rw [List.getLast?_eq_some_getLast nonempty] at last
        exact Option.some.inj last
      have proper : name ≠ Path.parentPart := by
        intro dots
        simp [last, dots] at removable
      rw [target_eq_next disk nonempty, same, next, if_neg proper]
      simp

/-! The effect of every operation is one that a sound disk admits. -/

theorem Sound.admits_makingDirectory (sound : disk.Sound)
    (making : disk.makingDirectory path = .ok effect) : disk.Admits effect := by
  obtain ⟨opens, nonempty, vacant, rfl⟩ := makingDirectory_eq_ok making
  exact ⟨vacant, sound.housed_target opens nonempty vacant⟩

theorem Sound.admits_openingFile (sound : disk.Sound)
    (opening : disk.openingFile path = .ok location) (bytes : ByteArray) :
    disk.Admits (.writeFile location bytes) := by
  obtain ⟨opens, rfl, noDirectory, named⟩ := openingFile_eq_ok opening
  refine ⟨noDirectory, ?_⟩
  cases known : disk.entries (disk.target path) with
  | none => exact sound.housed_target opens (named known) known
  | some entry =>
      rcases sound.housed (disk.target path) (by simp [known]) with root | housed
      · rw [root] at noDirectory
        exact absurd sound.root noDirectory
      · exact housed

theorem Sound.admits_removingFile (removing : disk.removingFile path = .ok effect) :
    disk.Admits effect := by
  obtain ⟨-, file, rfl⟩ := removingFile_eq_ok removing
  exact file

theorem Sound.admits_removingTree {remaining : Option Fault}
    (removing : disk.removingTree path = .ok (effect, remaining)) : disk.Admits effect := by
  obtain ⟨-, directory, ⟨rfl, -, removable, -⟩ | ⟨rfl, -⟩⟩ := removingTree_eq_ok removing
  · exact ⟨target_ne_nil_of_removable disk removable, directory⟩
  · exact directory

end Disk

end HelperKit
