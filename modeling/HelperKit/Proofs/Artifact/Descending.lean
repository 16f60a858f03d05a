import HelperKit.Proofs.Artifact.Deleting

/-!
# Paths that lead straight down

A path without a step upwards leads through locations each of which lies in the one before.  On a
sound disk the first of them that is no directory therefore decides what a lookup meets: where it
is a file, the path is blocked, and where nothing is, nothing is below it either.
-/

namespace HelperKit

/-- A name that the file system takes. -/
structure Name.IsAdmissible (name : Text) : Prop where
  encodable : ∀ point ∈ name, Name.isEncodable point = true
  clean : CodePoint.char '\x00' ∉ name
  short : Name.isTooLong name = false

/-- A path that names something below its start, without a step upwards. -/
structure Path.IsPlain (path : Path) : Prop where
  named : path.parts ≠ []
  downward : Path.parentPart ∉ path.parts
  admissible : ∀ name ∈ path.parts, Name.IsAdmissible name

instance (name : Text) : Decidable (Name.IsAdmissible name) :=
  decidable_of_iff ((∀ point ∈ name, Name.isEncodable point = true) ∧
      CodePoint.char '\x00' ∉ name ∧ Name.isTooLong name = false)
    ⟨fun ⟨encodable, clean, short⟩ => ⟨encodable, clean, short⟩,
      fun admissible => ⟨admissible.encodable, admissible.clean, admissible.short⟩⟩

instance (path : Path) : Decidable path.IsPlain :=
  decidable_of_iff (path.parts ≠ [] ∧ Path.parentPart ∉ path.parts ∧
      ∀ name ∈ path.parts, Name.IsAdmissible name)
    ⟨fun ⟨named, downward, admissible⟩ => ⟨named, downward, admissible⟩,
      fun plain => ⟨plain.named, plain.downward, plain.admissible⟩⟩

namespace Disk

variable {disk : Disk} {path : Path} {location : Location} {names : List Text}

/-- A file is on the way of a path or at its end. -/
def Blocked (disk : Disk) (path : Path) : Prop :=
  ∃ station ∈ disk.reach path, ∃ bytes, disk.entries station = some (.file bytes)

instance (disk : Disk) (path : Path) : Decidable (disk.Blocked path) :=
  decidable_of_iff (∃ station ∈ disk.reach path, (disk.entries station).any Entry.isFile = true) <| by
    have isFile : ∀ entry : Option Entry,
        entry.any Entry.isFile = true ↔ ∃ bytes, entry = some (.file bytes) := by
      rintro (_ | _ | _) <;> simp [Entry.isFile]
    simp only [isFile, Blocked]

/-- The locations on the way of a path at which nothing is, from the highest one down. -/
def gaps (disk : Disk) (path : Path) : List Location :=
  (disk.ways path).filter fun way => (disk.entries way).isNone

theorem mem_gaps_iff : location ∈ disk.gaps path ↔
    location ∈ disk.ways path ∧ disk.entries location = none := by
  rw [gaps, List.mem_filter, Option.isNone_iff_eq_none]

/-- A path that can be handed to the file system and takes no step upwards. -/
structure Descends (path : Path) : Prop where
  downward : Path.parentPart ∉ path.parts
  short : ∀ name ∈ path.parts, Name.isTooLong name = false
  vetted : vet path = .ok ()

theorem Descends.parent (descends : Descends path) (named : path.parts ≠ []) :
    Descends path.parent where
  downward := fun member => descends.downward (List.dropLast_subset _ member)
  short := fun name member => descends.short name (List.dropLast_subset _ member)
  vetted := vet_parent named descends.vetted

/-- The names of a plain path are taken, so that only its length can keep it from being handed
to the file system. -/
theorem vet_of_isPlain (plain : path.IsPlain) : vet path =
    if maximumPathBytes < Name.byteSize path.toText then
      .error (.system { errno := .nameTooLong, path })
    else .ok () := by
  have encodable : ¬ (path.parts.any fun name =>
      name.any fun point => !Name.isEncodable point) = true := by
    simp only [List.any_eq_true, Bool.not_eq_true', not_exists, not_and, Bool.not_eq_false]
    exact fun name member point inside => (plain.admissible name member).encodable point inside
  have clean : ¬ (path.parts.any fun name => name.any (· = .char '\x00')) = true := by
    simp only [List.any_eq_true, decide_eq_true_eq, not_exists, not_and]
    rintro name member point inside rfl
    exact (plain.admissible name member).clean inside
  unfold vet
  rw [if_neg encodable, if_neg clean]

theorem descends_of_isPlain (plain : path.IsPlain)
    (fits : Name.byteSize path.toText ≤ maximumPathBytes) : Descends path where
  downward := plain.downward
  short := fun name member => (plain.admissible name member).short
  vetted := by rw [vet_of_isPlain plain, if_neg (Nat.not_lt_of_le fits)]

/-! ## Where a descending path leads -/

theorem exists_target_eq (disk : Disk) (downward : Path.parentPart ∉ path.parts)
    (named : path.parts ≠ []) :
    ∃ name, disk.target path = disk.target path.parent ++ [name] := by
  have proper : path.parts.getLast named ≠ Path.parentPart := by
    intro dots
    exact downward (dots ▸ List.getLast_mem named)
  exact ⟨_, by rw [target_eq_next disk named, next, if_neg proper]⟩

theorem prefix_parent_of_mem_ways (downward : Path.parentPart ∉ path.parts)
    (named : path.parts ≠ []) (onTheWay : location ∈ disk.ways path) :
    location <+: disk.target path.parent := by
  rw [ways_eq_reach_parent named] at onTheWay
  refine prefix_target_of_mem_reach (fun member => ?_) onTheWay
  exact downward (List.dropLast_subset _ member)

/-- What lies at or below the end of a descending path is not on its way. -/
theorem not_mem_ways_of_prefix (downward : Path.parentPart ∉ path.parts)
    (named : path.parts ≠ []) (below : disk.target path <+: location) :
    location ∉ disk.ways path := by
  intro onTheWay
  obtain ⟨name, reached⟩ := disk.exists_target_eq downward named
  have length := (below.trans (prefix_parent_of_mem_ways downward named onTheWay)).length_le
  rw [reached, List.length_append, List.length_singleton] at length
  omega

theorem target_notMem_ways (downward : Path.parentPart ∉ path.parts) (named : path.parts ≠ []) :
    disk.target path ∉ disk.ways path :=
  not_mem_ways_of_prefix downward named List.prefix_rfl

theorem Sound.opens (sound : disk.Sound) (descends : Descends path) (named : path.parts ≠ [])
    (housed : disk.entries (disk.target path.parent) = some .directory) : disk.Opens path where
  vetted := descends.vetted
  short := descends.short
  passable := by
    intro way onTheWay
    have above := prefix_parent_of_mem_ways descends.downward named onTheWay
    by_cases here : disk.target path.parent = way
    · exact here ▸ housed
    · exact sound.directory_of_prefix (by simp [housed]) above here

theorem Opens.gaps_eq_nil (opens : disk.Opens path) : disk.gaps path = [] := by
  refine List.filter_eq_nil_iff.mpr fun way onTheWay => ?_
  simp [opens.passable way onTheWay]

theorem gaps_eq_append (named : path.parts ≠ [])
    (vacant : disk.entries (disk.target path.parent) = none) :
    disk.gaps path = disk.gaps path.parent ++ [disk.target path.parent] := by
  rw [gaps, ways_eq_reach_parent named, reach_eq, List.filter_append]
  simp [gaps, vacant]

/-! ## What a lookup meets -/

/-- A path that no file blocks misses the directory that it was to lie in. -/
theorem locate_of_vacant_parent (descends : Descends path) (named : path.parts ≠ [])
    (unblocked : ¬ disk.Blocked path) (vacant : disk.entries (disk.target path.parent) = none) :
    disk.locate path = .error (.system { errno := .noEntry, path }) := by
  unfold locate
  rw [descends.vetted]
  cases walked : disk.walk (disk.start path) path.parts with
  | ok final =>
      obtain ⟨-, passable, -⟩ := walk_eq_ok_iff.mp walked
      have directory := passable _ (target_parent_mem_ways disk named)
      rw [vacant] at directory
      cases directory
  | error errno =>
      have absent := isAbsence_of_walk_error descends.short walked
      cases errno with
      | noEntry => rfl
      | notDirectory =>
          obtain ⟨station, onTheWay, file⟩ := walk_notDirectory walked
          exact absurd ⟨station, mem_reach_iff.mpr (.inl onTheWay), file⟩ unblocked
      | _ => cases absent

/-- The stations of names without a step upwards lie below the first one. -/
theorem prefix_start_of_mem_stations {station : Location} (downward : Path.parentPart ∉ names)
    (reached : station ∈ stations location names) : location <+: station := by
  induction names generalizing location with
  | nil =>
      rw [List.mem_singleton.mp reached]
  | cons name names induction =>
      rw [List.mem_cons, not_or] at downward
      rcases List.mem_cons.mp reached with rfl | later
      · exact List.prefix_rfl
      · have further := induction downward.2 later
        rw [next, if_neg (Ne.symm downward.1)] at further
        exact (List.prefix_append location _).trans further

/-- A walk downwards ends at the file that it meets, since all above a file is there. -/
theorem Sound.walk_eq_notDirectory (sound : disk.Sound) (downward : Path.parentPart ∉ names)
    (short : ∀ name ∈ names, Name.isTooLong name = false) {station : Location} {bytes : ByteArray}
    (met : station ∈ (stations location names).dropLast)
    (file : disk.entries station = some (.file bytes)) :
    disk.walk location names = .error .notDirectory := by
  induction names generalizing location with
  | nil => cases met
  | cons name names induction =>
      have passed : (stations location (name :: names)).dropLast =
          location :: (stations (next location name) names).dropLast := by
        rw [stations, List.dropLast_cons_of_ne_nil (stations_ne_nil _ _)]
      rw [passed, List.mem_cons] at met
      rw [List.mem_cons, not_or] at downward
      rw [List.forall_mem_cons] at short
      rw [walk]
      rcases met with rfl | later
      · rw [file]
      · have start := prefix_start_of_mem_stations downward.2 (List.dropLast_subset _ later)
        rw [next, if_neg (Ne.symm downward.1)] at start
        have below : location <+: station := (List.prefix_append location _).trans start
        have proper : station ≠ location := by
          rintro rfl
          have length := start.length_le
          rw [List.length_append, List.length_singleton] at length
          omega
        rw [sound.directory_of_prefix (by simp [file]) below proper]
        simp only [short.1, Bool.false_eq_true, if_false]
        exact induction downward.2 short.2 later

end Disk

end HelperKit
