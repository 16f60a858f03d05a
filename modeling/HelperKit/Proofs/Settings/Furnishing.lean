import HelperKit.Proofs.Settings.Store
import HelperKit.Proofs.Workspace.Failing

/-!
# New directories on the way to the document

Directories that are made on the way to a document which is not there do not make it appear.
They can let a lookup get further, though, up to a name that is too long: there the absence of
the document is no longer a plain no.
-/

namespace HelperKit

namespace Disk

variable {disk other : Disk} {path : Path} {location : Location}

/-- What was at a location is still there, or a directory was made where nothing was. -/
def FurnishedAt (before after : Disk) (location : Location) : Prop :=
  after.entries location = before.entries location ∨
    before.entries location = none ∧ after.entries location = some .directory

theorem FurnishedAt.file_iff (furnished : FurnishedAt disk other location) {bytes : ByteArray} :
    other.entries location = some (.file bytes) ↔ disk.entries location = some (.file bytes) := by
  rcases furnished with same | ⟨absent, directory⟩
  · rw [same]
  · simp [absent, directory]

/-- A walk goes as before, unless it ended where nothing was. -/
theorem walk_furnished {names : List Text}
    (furnished : ∀ station ∈ stations location names, FurnishedAt disk other station) :
    other.walk location names = disk.walk location names ∨
      disk.walk location names = .error .noEntry := by
  induction names generalizing location with
  | nil => exact .inl rfl
  | cons name names induction =>
      rw [stations, List.forall_mem_cons] at furnished
      rcases furnished.1 with same | ⟨absent, -⟩
      · rw [walk, walk, same]
        cases disk.entries location with
        | none => exact .inl rfl
        | some entry =>
            cases entry with
            | file bytes => exact .inl rfl
            | directory =>
                simp only
                split
                · exact .inl rfl
                · exact induction furnished.2
      · right
        rw [walk, absent]

/-- A path leads to what it led to before, unless it led nowhere. -/
theorem status_furnished (home : disk.home = other.home)
    (furnished : ∀ station ∈ disk.reach path, FurnishedAt disk other station) :
    other.status path = disk.status path ∨
      disk.status path = .error (.system { errno := .noEntry, path }) := by
  unfold status locate
  cases vet path with
  | error fault => exact .inl rfl
  | ok =>
      rw [← start_congr home]
      rcases walk_furnished furnished with same | lost
      · rw [same]
        cases walked : disk.walk (disk.start path) path.parts with
        | error errno => exact .inl rfl
        | ok final =>
            rcases furnished final (mem_stations_of_walk walked) with kept | ⟨absent, -⟩
            · exact .inl (by simp only [kept])
            · exact .inr (by simp only [absent])
      · exact .inr (by simp only [lost])

theorem vetted_of_absent (absent : disk.status path = .error (.system { errno := .noEntry, path })) :
    vet path = .ok () := by
  unfold status locate at absent
  cases vetted : vet path with
  | ok => rfl
  | error fault =>
      rw [vetted] at absent
      rcases vet_eq_error vetted with overlong | unfit
      · cases overlong
        cases absent
      · cases unfit <;> cases absent

theorem prefix_foldl_next {names : List Text} (plain : Path.parentPart ∉ names) (start : Location) :
    start <+: names.foldl next start := by
  induction names generalizing start with
  | nil => exact List.prefix_rfl
  | cons name names induction =>
      rw [List.mem_cons, not_or] at plain
      have down : next start name = start ++ [Name.normal name] := if_neg (Ne.symm plain.1)
      have further := induction plain.2 (next start name)
      rw [down] at further
      rw [List.foldl_cons, down]
      exact (List.prefix_append start _).trans further

theorem prefix_of_mem_stations {names : List Text} {start : Location}
    (plain : Path.parentPart ∉ names) (reached : location ∈ stations start names) :
    location <+: names.foldl next start := by
  induction names generalizing start with
  | nil =>
      rw [List.mem_singleton.mp reached]
      exact List.prefix_rfl
  | cons name names induction =>
      rcases List.mem_cons.mp reached with rfl | later
      · exact prefix_foldl_next plain location
      · exact induction (fun member => plain (List.mem_cons_of_mem name member)) later

theorem prefix_target_of_mem_reach (plain : Path.parentPart ∉ path.parts)
    (reached : location ∈ disk.reach path) : location <+: disk.target path :=
  prefix_of_mem_stations plain reached

/-- On a sound disk no file appears at the end of a path without a step upwards. -/
theorem not_isFile_furnished (sound : disk.Sound) (plain : Path.parentPart ∉ path.parts)
    (home : disk.home = other.home)
    (furnished : ∀ station ∈ disk.reach path, FurnishedAt disk other station)
    (absent : disk.status path = .error (.system { errno := .noEntry, path })) :
    other.isFile path ≠ .ok true := by
  intro isFile
  obtain ⟨opens, bytes, file⟩ := isFile_eq_true_iff.mp isFile
  rw [← target_congr home] at file
  have was : disk.entries (disk.target path) = some (.file bytes) :=
    (furnished _ (target_mem_reach disk path)).file_iff.mp file
  have passable : ∀ way ∈ disk.ways path, disk.entries way = some .directory := by
    intro way member
    have above := prefix_target_of_mem_reach plain (mem_reach_iff.mpr (.inl member))
    refine sound.directory_of_prefix (by simp [was]) above ?_
    rintro rfl
    have directory := opens.passable _ (ways_congr home ▸ member)
    rw [file] at directory
    cases directory
  have found := status_eq_ok_iff.mpr ⟨⟨opens.vetted, opens.short, passable⟩, was⟩
  rw [absent] at found
  cases found

end Disk

namespace Store

open Attempt Disk

variable {store : Store} {before after : Workspace}

theorem load_of_absent (absent : before.disk.isFile store.path = .ok false) :
    (store.load before).1 = .ok none := by
  unfold load
  rw [bind_apply, present_eq_ok_iff.mpr ⟨absent, rfl⟩]
  rfl

/-- New directories on the way to the document do not matter, unless a name on the way is too
long: then loading may fail that found nothing before. -/
theorem load_furnished (sound : before.disk.Sound) (plain : Path.parentPart ∉ store.path.parts)
    (home : before.disk.home = after.disk.home)
    (furnished : ∀ station ∈ before.disk.reach store.path,
      FurnishedAt before.disk after.disk station) :
    (store.load after).1 = (store.load before).1 ∨
      (∃ name ∈ store.path.parts, Name.isTooLong name = true) ∧
        (store.load before).1 = .ok none ∧
        (store.load after).1 =
          .error (.system { errno := .nameTooLong, path := store.path }) := by
  rcases status_furnished home furnished with same | absent
  · exact .inl (load_of_status same)
  · have nothing : before.disk.isFile store.path = .ok false := by
      unfold isFile test
      rw [absent]
      rfl
    have none := load_of_absent nothing
    have noFile := not_isFile_furnished sound plain home furnished absent
    cases asked : after.disk.isFile store.path with
    | ok there =>
        cases there with
        | true => exact absurd asked noFile
        | false => exact .inl ((load_of_absent asked).trans none.symm)
    | error fault =>
        refine .inr ⟨?_, none, ?_⟩
        · by_contra short
          simp only [not_exists, not_and, Bool.not_eq_true] at short
          obtain ⟨answer, answered⟩ : ∃ answer, after.disk.isFile store.path = .ok answer :=
            test_answers (vetted_of_absent absent) short Entry.isFile
          rw [answered] at asked
          cases asked
        · cases overlong_of_test asked
          unfold load present
          rw [bind_apply, mapError_apply, Access.ask_apply, asked]
          rfl

end Store

end HelperKit
