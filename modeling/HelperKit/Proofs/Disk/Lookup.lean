import HelperKit.Disk.Reach

/-!
# Where paths lead

The location that a path leads to is known without the disk.  The disk only decides
whether the path is open: every location on the way has to be a directory.
-/

namespace HelperKit

namespace Disk

variable {disk other : Disk} {path : Path} {location : Location}

/-- The location that a path leads to, if it leads anywhere. -/
def target (disk : Disk) (path : Path) : Location :=
  path.parts.foldl next (disk.start path)

/-- The locations on the way of a path, without its target. -/
def ways (disk : Disk) (path : Path) : List Location :=
  (disk.reach path).dropLast

/-- A path that can be followed to its target, where nothing need be. -/
structure Opens (disk : Disk) (path : Path) : Prop where
  vetted : vet path = .ok ()
  short : ∀ name ∈ path.parts, Name.isTooLong name = false
  passable : ∀ way ∈ disk.ways path, disk.entries way = some .directory

/-! ## Stations -/

theorem stations_ne_nil (location : Location) (names : List Text) :
    stations location names ≠ [] := by
  cases names <;> simp [stations]

theorem stations_append_singleton (location : Location) (names : List Text) (last : Text) :
    stations location (names ++ [last]) =
      stations location names ++ [next (names.foldl next location) last] := by
  induction names generalizing location with
  | nil => rfl
  | cons name names induction => simp [stations, induction]

theorem getLast_stations (location : Location) (names : List Text) :
    (stations location names).getLast (stations_ne_nil location names) =
      names.foldl next location := by
  induction names generalizing location with
  | nil => rfl
  | cons name names induction =>
      have further := induction (next location name)
      simp only [stations, List.foldl_cons]
      rw [List.getLast_cons (stations_ne_nil _ _), further]

/-- A walk arrives when no name is too long and every station before the last is a
directory; where it arrives does not depend on the disk. -/
theorem walk_eq_ok_iff {names : List Text} {final : Location} :
    disk.walk location names = .ok final ↔
      (∀ name ∈ names, Name.isTooLong name = false) ∧
        (∀ station ∈ (stations location names).dropLast,
          disk.entries station = some .directory) ∧
        final = names.foldl next location := by
  induction names generalizing location with
  | nil =>
      simp only [walk, stations, List.dropLast_singleton, List.not_mem_nil, List.foldl_nil]
      constructor
      · intro arrived
        cases arrived
        simp
      · rintro ⟨-, -, rfl⟩
        rfl
  | cons name names induction =>
      have passed : (stations location (name :: names)).dropLast =
          location :: (stations (next location name) names).dropLast := by
        rw [stations, List.dropLast_cons_of_ne_nil (stations_ne_nil _ _)]
      rw [passed, walk]
      simp only [List.forall_mem_cons, List.foldl_cons]
      cases known : disk.entries location with
      | none => simp
      | some entry =>
          cases entry with
          | file bytes => simp
          | directory =>
              by_cases long : Name.isTooLong name = true
              · simp [long]
              · simp only [Bool.not_eq_true] at long
                simp only [long, Bool.false_eq_true, if_false, induction, true_and]

/-! ## Targets -/

theorem reach_eq (disk : Disk) (path : Path) :
    disk.reach path = disk.ways path ++ [disk.target path] := by
  rw [ways, target, reach, ← getLast_stations]
  exact (List.dropLast_concat_getLast _).symm

theorem mem_reach_iff : location ∈ disk.reach path ↔
    location ∈ disk.ways path ∨ location = disk.target path := by
  rw [reach_eq, List.mem_append, List.mem_singleton]

theorem target_mem_reach (disk : Disk) (path : Path) : disk.target path ∈ disk.reach path :=
  mem_reach_iff.mpr (.inr rfl)

/-- A path leads to its target when it is open. -/
theorem locate_eq_ok_iff :
    disk.locate path = .ok location ↔ disk.Opens path ∧ location = disk.target path := by
  unfold locate
  cases vetted : vet path with
  | error fault =>
      constructor
      · intro located
        cases located
      · rintro ⟨opens, -⟩
        rw [opens.vetted] at vetted
        cases vetted
  | ok =>
      have arrives : disk.walk (disk.start path) path.parts = .ok location ↔ _ := walk_eq_ok_iff
      simp only
      cases walked : disk.walk (disk.start path) path.parts with
      | error errno =>
          rw [walked] at arrives
          constructor
          · intro located
            cases located
          · rintro ⟨opens, same⟩
            cases arrives.mpr ⟨opens.short, opens.passable, same⟩
      | ok final =>
          rw [walked] at arrives
          simp only [Except.ok.injEq] at arrives ⊢
          rw [arrives]
          exact ⟨fun ⟨short, passable, same⟩ => ⟨⟨vetted, short, passable⟩, same⟩,
            fun ⟨opens, same⟩ => ⟨opens.short, opens.passable, same⟩⟩

theorem locate_eq_ok (opens : disk.Opens path) : disk.locate path = .ok (disk.target path) :=
  locate_eq_ok_iff.mpr ⟨opens, rfl⟩

theorem status_eq_ok_iff {entry : Entry} : disk.status path = .ok entry ↔
    disk.Opens path ∧ disk.entries (disk.target path) = some entry := by
  unfold status
  cases located : disk.locate path with
  | error fault =>
      constructor
      · intro known
        cases known
      · rintro ⟨opens, -⟩
        rw [locate_eq_ok opens] at located
        cases located
  | ok location =>
      obtain ⟨opens, rfl⟩ := locate_eq_ok_iff.mp located
      cases known : disk.entries (disk.target path) with
      | none => simp [known]
      | some found => simp [known, opens]

theorem test_eq_true_iff {holds : Entry → Bool} : disk.test path holds = .ok true ↔
    ∃ entry, disk.status path = .ok entry ∧ holds entry = true := by
  unfold test
  cases known : disk.status path with
  | ok entry => simp
  | error fault =>
      cases fault with
      | system report =>
          simp only
          split <;> simp
      | embeddedNull => simp
      | unencodable => simp
      | tooDeep => simp

theorem pathExists_eq_true_iff : disk.pathExists path = .ok true ↔
    disk.Opens path ∧ disk.entries (disk.target path) ≠ none := by
  rw [pathExists, test_eq_true_iff]
  simp only [status_eq_ok_iff, and_true, exists_and_left, Option.ne_none_iff_exists']

theorem isFile_eq_true_iff : disk.isFile path = .ok true ↔
    disk.Opens path ∧ ∃ bytes, disk.entries (disk.target path) = some (.file bytes) := by
  rw [isFile, test_eq_true_iff]
  constructor
  · rintro ⟨entry, known, isFile⟩
    rw [status_eq_ok_iff] at known
    cases entry with
    | file bytes => exact ⟨known.1, bytes, known.2⟩
    | directory => cases isFile
  · rintro ⟨opens, bytes, known⟩
    exact ⟨.file bytes, status_eq_ok_iff.mpr ⟨opens, known⟩, rfl⟩

theorem isDirectory_eq_true_iff : disk.isDirectory path = .ok true ↔
    disk.Opens path ∧ disk.entries (disk.target path) = some .directory := by
  rw [isDirectory, test_eq_true_iff]
  constructor
  · rintro ⟨entry, known, isDirectory⟩
    rw [status_eq_ok_iff] at known
    cases entry with
    | file bytes => cases isDirectory
    | directory => exact known
  · intro known
    exact ⟨.directory, status_eq_ok_iff.mpr known, rfl⟩

theorem read_eq_ok_iff {bytes : ByteArray} : disk.read path = .ok bytes ↔
    disk.Opens path ∧ disk.entries (disk.target path) = some (.file bytes) := by
  rw [← status_eq_ok_iff, read]
  cases disk.status path with
  | error fault => simp
  | ok entry => cases entry <;> simp

/-! ## Answers -/

theorem isAbsence_of_walk_error {names : List Text} {errno : Errno}
    (short : ∀ name ∈ names, Name.isTooLong name = false)
    (failed : disk.walk location names = .error errno) : errno.isAbsence = true := by
  induction names generalizing location with
  | nil => cases failed
  | cons name names induction =>
      rw [List.forall_mem_cons] at short
      rw [walk] at failed
      cases known : disk.entries location with
      | none =>
          rw [known] at failed
          cases failed
          rfl
      | some entry =>
          rw [known] at failed
          cases entry with
          | file bytes =>
              cases failed
              rfl
          | directory =>
              simp only [short.1, Bool.false_eq_true, if_false] at failed
              exact induction short.2 failed

/-- A path that can be handed to the file system is answered for, whatever the disk. -/
theorem test_answers (vetted : vet path = .ok ())
    (short : ∀ name ∈ path.parts, Name.isTooLong name = false) (holds : Entry → Bool) :
    ∃ answer, disk.test path holds = .ok answer := by
  unfold test status locate
  rw [vetted]
  cases walked : disk.walk (disk.start path) path.parts with
  | error errno =>
      have absent := isAbsence_of_walk_error short walked
      exact ⟨false, by simp [absent]⟩
  | ok location =>
      cases known : disk.entries location with
      | none => exact ⟨false, by simp [known, Errno.isAbsence]⟩
      | some entry => exact ⟨holds entry, by simp [known]⟩

/-! ## Two disks with one working directory -/

theorem start_congr (home : disk.home = other.home) : disk.start path = other.start path := by
  simp only [start, home]

theorem target_congr (home : disk.home = other.home) : disk.target path = other.target path := by
  rw [target, start_congr home, target]

theorem reach_congr (home : disk.home = other.home) : disk.reach path = other.reach path := by
  rw [reach, start_congr home, reach]

theorem ways_congr (home : disk.home = other.home) : disk.ways path = other.ways path := by
  rw [ways, reach_congr home, ways]

theorem Opens.congr (opens : disk.Opens path) (home : disk.home = other.home)
    (kept : ∀ way ∈ disk.ways path, other.entries way = disk.entries way) : other.Opens path where
  vetted := opens.vetted
  short := opens.short
  passable := by
    intro way member
    rw [← ways_congr home] at member
    rw [kept way member, opens.passable way member]

/-! ## Longer and shorter paths -/

theorem reach_parent_append (disk : Disk) (path : Path) (nonempty : path.parts ≠ []) :
    disk.reach path = disk.reach path.parent ++ [disk.target path] := by
  have split := List.dropLast_concat_getLast nonempty
  have joined : disk.reach path = stations (disk.start path)
      (path.parts.dropLast ++ [path.parts.getLast nonempty]) := by rw [split, reach]
  have reached : disk.target path = next (path.parts.dropLast.foldl next (disk.start path))
      (path.parts.getLast nonempty) := by
    have whole : disk.target path = (path.parts.dropLast ++
        [path.parts.getLast nonempty]).foldl next (disk.start path) := by rw [split, target]
    rw [whole, List.foldl_append]
    rfl
  rw [joined, stations_append_singleton, reached]
  rfl

theorem ways_eq_reach_parent (nonempty : path.parts ≠ []) :
    disk.ways path = disk.reach path.parent := by
  rw [ways, reach_parent_append disk path nonempty, List.dropLast_concat]

end Disk

end HelperKit
