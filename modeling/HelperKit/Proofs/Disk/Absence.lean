import HelperKit.Proofs.Disk.Change

/-!
# Paths that lead nowhere

A path is absent when something is missing on its way or at its end.  It stays absent as
long as only files come and go, and what was removed under a path is absent there.
-/

namespace HelperKit

namespace Disk

variable {disk other : Disk} {path : Path} {location place : Location} {names : List Text}
  {effect : Effect}

/-- Nothing is found at a path. -/
def Absent (disk : Disk) (path : Path) : Prop :=
  disk.status path = .error (.system { errno := .noEntry, path })

theorem Absent.pathExists (absent : disk.Absent path) : disk.pathExists path = .ok false := by
  unfold Absent at absent
  simp only [Disk.pathExists, test, absent, Errno.isAbsence, if_true]

/-- A path is absent when the walk along it misses something, or ends where nothing is. -/
theorem absent_iff : disk.Absent path ↔ vet path = .ok () ∧
    (disk.walk (disk.start path) path.parts = .error .noEntry ∨
      ∃ final, disk.walk (disk.start path) path.parts = .ok final ∧
        disk.entries final = none) := by
  unfold Absent status locate
  cases vetted : vet path with
  | error fault =>
      constructor
      · intro absent
        unfold vet at vetted
        split at vetted
        · cases vetted
          cases absent
        · split at vetted
          · cases vetted
            cases absent
          · split at vetted
            · cases vetted
              cases absent
            · cases vetted
      · rintro ⟨impossible, -⟩
        cases impossible
  | ok =>
      cases walked : disk.walk (disk.start path) path.parts with
      | error errno =>
          cases errno <;> simp
      | ok final =>
          cases known : disk.entries final with
          | none => simp [known]
          | some entry => simp [known]

/-! ## Staying absent -/

/-- A walk that misses something misses it as long as only files come and go. -/
theorem walk_noEntry_of_kept
    (kept : ∀ place, (∀ bytes, disk.entries place ≠ some (.file bytes)) →
      other.entries place = disk.entries place)
    (missed : disk.walk location names = .error .noEntry) :
    other.walk location names = .error .noEntry := by
  induction names generalizing location with
  | nil => cases missed
  | cons name names induction =>
      rw [walk] at missed ⊢
      cases known : disk.entries location with
      | none =>
          rw [kept location (by simp [known]), known]
      | some entry =>
          rw [known] at missed
          cases entry with
          | file bytes => cases missed
          | directory =>
              rw [kept location (by simp [known]), known]
              simp only at missed ⊢
              split
              · rename_i long
                rw [if_pos long] at missed
                exact missed
              · rename_i short
                rw [if_neg short] at missed
                exact induction missed

theorem walk_ok_of_kept {final : Location}
    (kept : ∀ place, (∀ bytes, disk.entries place ≠ some (.file bytes)) →
      other.entries place = disk.entries place)
    (arrived : disk.walk location names = .ok final) :
    other.walk location names = .ok final := by
  rw [walk_eq_ok_iff] at arrived ⊢
  refine ⟨arrived.1, fun station member => ?_, arrived.2.2⟩
  have directory := arrived.2.1 station member
  rw [kept station (by simp [directory]), directory]

/-- A path stays absent as long as only files come and go. -/
theorem Absent.of_kept (absent : disk.Absent path) (home : disk.home = other.home)
    (kept : ∀ place, (∀ bytes, disk.entries place ≠ some (.file bytes)) →
      other.entries place = disk.entries place) : other.Absent path := by
  rw [absent_iff] at absent ⊢
  obtain ⟨vetted, missed | ⟨final, arrived, vacant⟩⟩ := absent
  · rw [start_congr home] at missed
    exact ⟨vetted, .inl (walk_noEntry_of_kept kept missed)⟩
  · rw [start_congr home] at arrived
    refine ⟨vetted, .inr ⟨final, walk_ok_of_kept kept arrived, ?_⟩⟩
    rw [kept final (by simp [vacant]), vacant]

/-! ## Becoming absent -/

/-- When directories have gone from its way, a walk arrives all the same or misses them. -/
theorem walk_of_thinned (short : ∀ name ∈ names, Name.isTooLong name = false)
    (thinned : ∀ station ∈ (stations location names).dropLast,
      disk.entries station = some .directory ∨ disk.entries station = none) :
    disk.walk location names = .ok (names.foldl next location) ∨
      disk.walk location names = .error .noEntry := by
  induction names generalizing location with
  | nil => exact .inl rfl
  | cons name names induction =>
      have passed : (stations location (name :: names)).dropLast =
          location :: (stations (next location name) names).dropLast := by
        rw [stations, List.dropLast_cons_of_ne_nil (stations_ne_nil _ _)]
      rw [passed, List.forall_mem_cons] at thinned
      rw [List.forall_mem_cons] at short
      rw [walk]
      rcases thinned.1 with directory | vacant
      · simp only [directory, short.1, Bool.false_eq_true, if_false, List.foldl_cons]
        exact induction short.2 thinned.2
      · simp only [vacant]
        exact .inr trivial

/-- A path that was open is absent once directories have gone and it no longer leads to
anything. -/
theorem Opens.absent (opens : disk.Opens path) (home : disk.home = other.home)
    (thinned : ∀ way ∈ disk.ways path,
      other.entries way = disk.entries way ∨ other.entries way = none)
    (gone : ¬ (other.Opens path ∧ other.entries (other.target path) ≠ none)) :
    other.Absent path := by
  have passed : ∀ station ∈ (stations (other.start path) path.parts).dropLast,
      other.entries station = some .directory ∨ other.entries station = none := by
    intro station member
    have onTheWay : station ∈ disk.ways path := by
      rw [ways_congr home]
      exact member
    rcases thinned station onTheWay with same | vacant
    · exact .inl (same.trans (opens.passable station onTheWay))
    · exact .inr vacant
  have walked := walk_of_thinned opens.short passed
  rw [absent_iff]
  refine ⟨opens.vetted, ?_⟩
  rcases walked with arrived | missed
  · refine .inr ⟨_, arrived, ?_⟩
    by_contra present
    obtain ⟨short, passable, -⟩ := walk_eq_ok_iff.mp arrived
    exact gone ⟨⟨opens.vetted, short, passable⟩, present⟩
  · exact .inl missed

theorem absent_of_locate_error {report : SystemFault}
    (failed : disk.locate path = .error (.system report)) (missing : report.errno = .noEntry) :
    disk.Absent path := by
  unfold locate at failed
  cases vetted : vet path with
  | error fault =>
      rw [vetted] at failed
      cases failed
      unfold vet at vetted
      split at vetted
      · cases vetted
      · split at vetted
        · cases vetted
        · split at vetted
          · cases vetted
            cases missing
          · cases vetted
  | ok =>
      rw [vetted] at failed
      simp only at failed
      cases walked : disk.walk (disk.start path) path.parts with
      | ok final =>
          rw [walked] at failed
          cases failed
      | error errno =>
          rw [walked] at failed
          cases failed
          exact absent_iff.mpr ⟨vetted, .inl (missing ▸ walked)⟩

theorem absent_of_vacant (opens : disk.Opens path)
    (vacant : disk.entries (disk.target path) = none) : disk.Absent path := by
  rw [Absent, status, locate_eq_ok opens]
  simp only [vacant]

theorem absent_of_removingFile {report : SystemFault}
    (failed : disk.removingFile path = .error (.system report))
    (missing : report.errno = .noEntry) : disk.Absent path := by
  unfold removingFile at failed
  split at failed
  · rename_i located
    cases failed
    exact absent_of_locate_error located missing
  · rename_i located
    obtain ⟨opens, rfl⟩ := locate_eq_ok_iff.mp located
    split at failed
    · rename_i vacant
      exact absent_of_vacant opens vacant
    · cases failed
      cases missing
    · cases failed

/-- A directory that cannot be removed since it is missing is absent. -/
theorem absent_of_removingTree {report : SystemFault}
    (failed : disk.removingTree path = .error (.system report))
    (missing : report.errno = .noEntry) : disk.Absent path := by
  unfold removingTree at failed
  split at failed
  · rename_i located
    cases failed
    exact absent_of_locate_error located missing
  · rename_i located
    obtain ⟨opens, rfl⟩ := locate_eq_ok_iff.mp located
    split at failed
    · rename_i vacant
      exact absent_of_vacant opens vacant
    · cases failed
      cases missing
    · split at failed
      · split at failed <;> cases failed
      · cases failed

theorem absent_of_removed (opens : disk.Opens path) (nothing : effect.created? = none)
    (removes : effect.Removes (disk.target path)) : (disk.apply effect).Absent path := by
  have home := (disk.apply_home effect).symm
  refine opens.absent home (fun way _ => ?_) fun found => ?_
  · by_cases gone : effect.Removes way
    · exact .inr (entries_apply_of_removes gone)
    · exact .inl (entries_apply_of_spares ⟨gone, fun created => absurd nothing created⟩)
  · rw [← target_congr home] at found
    exact found.2 (entries_apply_of_removes removes)

theorem mem_stations_append {above names : List Text}
    (member : location ∈ stations (above.foldl next place) names) :
    location ∈ stations place (above ++ names) := by
  induction above generalizing place with
  | nil => exact member
  | cons name above induction => exact List.mem_cons_of_mem _ (induction member)

/-- The way of an open path is there. -/
theorem Opens.wayRemains (opens : disk.Opens path) : disk.wayRemains path = true := by
  unfold Disk.wayRemains
  simp only
  by_cases empty : path.parts = []
  · simp [empty, walk]
  · -- Every station of the last part of the way is one of the whole way.
    set up := path.parts.dropLast.takeWhile (· = Path.parentPart) with upEq
    set down := path.parts.dropLast.dropWhile (· = Path.parentPart) with downEq
    have whole : up ++ down = path.parts.dropLast := List.takeWhile_append_dropWhile
    have passable : ∀ station ∈ stations (up.foldl next (disk.start path)) down,
        disk.entries station = some .directory := by
      intro station member
      refine opens.passable station ?_
      rw [ways_eq_reach_parent empty]
      have further := mem_stations_append member
      rw [whole] at further
      exact further
    have arrived : disk.walk (up.foldl next (disk.start path)) down =
        .ok (down.foldl next (up.foldl next (disk.start path))) := by
      refine walk_eq_ok_iff.mpr ⟨fun name member => opens.short name ?_,
        fun station member => passable station (List.dropLast_subset _ member), rfl⟩
      have inWay : name ∈ path.parts.dropLast := by
        rw [← whole]
        exact List.mem_append_right _ member
      exact List.dropLast_subset _ inWay
    have final := passable _ (mem_stations_of_walk arrived)
    rw [arrived]
    simp [final, Entry.isDirectory]

/-- A removal that ends with a missing way has emptied the directory, and the way led through what
was in it. -/
theorem removingTree_lost {report : SystemFault}
    (removing : disk.removingTree path = .ok (effect, some (.system report)))
    (missing : report.errno = .noEntry) :
    disk.Opens path ∧ effect = .emptyDirectory (disk.target path) ∧
      (disk.apply (.emptyDirectory (disk.target path))).wayRemains path = false := by
  unfold removingTree at removing
  split at removing
  · cases removing
  · rename_i located
    obtain ⟨opens, rfl⟩ := locate_eq_ok_iff.mp located
    split at removing
    · cases removing
    · cases removing
    · split at removing
      · split at removing
        · cases removing
        · rename_i errno unremovable
          cases removing
          unfold unremovable? at unremovable
          cases missing
          split at unremovable
          · cases unremovable
          · cases unremovable
          · split at unremovable <;> cases unremovable
      · rename_i lost
        cases removing
        exact ⟨opens, rfl, Bool.eq_false_iff.mpr lost⟩

/-- A directory that was emptied is absent under its path if the way led through what was in it. -/
theorem absent_of_emptied (opens : disk.Opens path)
    (lost : (disk.apply (.emptyDirectory (disk.target path))).wayRemains path = false) :
    (disk.apply (.emptyDirectory (disk.target path))).Absent path := by
  have home := (disk.apply_home (.emptyDirectory (disk.target path))).symm
  refine opens.absent home (fun way _ => ?_) fun found => ?_
  · by_cases gone : (Effect.emptyDirectory (disk.target path)).Removes way
    · exact .inr (entries_apply_of_removes gone)
    · exact .inl (entries_apply_of_spares ⟨gone, fun created => absurd rfl created⟩)
  · rw [found.1.wayRemains] at lost
    cases lost

/-! ## Removing what is not found -/

/-- Nothing is found at a path that cannot be followed, or that ends where nothing is. -/
theorem lost_or_vacant_of_status_error {fault : Fault} (unknown : disk.status path = .error fault) :
    disk.locate path = .error fault ∨ ∃ location, disk.locate path = .ok location ∧
      disk.entries location = none ∧ fault = .system { errno := .noEntry, path } := by
  unfold status at unknown
  cases located : disk.locate path with
  | error lost =>
      rw [located] at unknown
      cases unknown
      exact .inl rfl
  | ok location =>
      rw [located] at unknown
      cases known : disk.entries location with
      | none =>
          simp only [known] at unknown
          cases unknown
          exact .inr ⟨location, rfl, known, rfl⟩
      | some entry =>
          simp only [known] at unknown
          cases unknown

theorem absent_of_status_error {report : SystemFault}
    (unknown : disk.status path = .error (.system report)) (missing : report.errno = .noEntry) :
    disk.Absent path := by
  rcases lost_or_vacant_of_status_error unknown with lost | ⟨-, -, -, same⟩
  · exact absent_of_locate_error lost missing
  · rw [Absent, unknown, same]

theorem removingFile_of_status_error {fault : Fault} (unknown : disk.status path = .error fault) :
    disk.removingFile path = .error fault := by
  unfold removingFile
  rcases lost_or_vacant_of_status_error unknown with lost | ⟨location, located, vacant, rfl⟩
  · simp only [lost]
  · simp only [located, vacant, refuse]

theorem removingTree_of_status_error {fault : Fault} (unknown : disk.status path = .error fault) :
    disk.removingTree path = .error fault := by
  unfold removingTree
  rcases lost_or_vacant_of_status_error unknown with lost | ⟨location, located, vacant, rfl⟩
  · simp only [lost]
  · simp only [located, vacant, refuse]

end Disk

end HelperKit
