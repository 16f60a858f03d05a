import HelperKit.Proofs.Json.RoundTrip
import HelperKit.Proofs.Project.Record
import HelperKit.Proofs.Workspace.Access
import HelperKit.Settings

/-!
# The document on the disk

The settings document stands for the members of the object in it, and for no members
when it is not there.  Whatever is written as a document holds the members that were
given, and they can be written again.
-/

namespace HelperKit

namespace Members

/-- The members of the object that the bytes of a file hold, if they hold one. -/
def ofFile? (bytes : ByteArray) : Option Members :=
  match (Text.ofFile? bytes).map Json.ofDocument with
  | some (.ok (.object members)) => some members
  | _ => none

/-- Members that a document can hold. -/
def Storable (members : Members) : Prop :=
  Json.Readable Json.maximumDepth (.object members)

variable {members : Members} {bytes : ByteArray}

theorem ofFile?_eq_some_iff : ofFile? bytes = some members ↔
    ∃ characters, Text.ofFile? bytes = some characters ∧
      Json.ofDocument characters = .ok (.object members) := by
  unfold ofFile?
  cases Text.ofFile? bytes with
  | none => simp
  | some characters =>
      simp only [Option.map_some, Option.some.injEq, exists_eq_left']
      split
      · rename_i found read
        rw [Option.some.inj read]
        simp
      · rename_i other
        constructor
        · intro impossible
          cases impossible
        · intro read
          exact absurd (congrArg some read) (other members)

theorem Storable.nil : Storable [] :=
  ⟨by decide, List.nodup_nil, trivial⟩

theorem storable_of_ofFile? (read : ofFile? bytes = some members) : members.Storable := by
  obtain ⟨characters, -, known⟩ := ofFile?_eq_some_iff.mp read
  exact Json.ofDocument_readable known

theorem Storable.distinct (storable : members.Storable) : members.Distinct :=
  storable.2.1

theorem Storable.put (storable : members.Storable) (key : Text) (project : Project) :
    (members.put key project.toRecord).Storable :=
  ⟨storable.1, storable.2.1.put key _,
    storable.2.2.put key (project.readable_toRecord (Json.maximumDepth - 5))⟩

theorem Storable.erase (storable : members.Storable) (key : Text) :
    (members.erase key).Storable :=
  ⟨storable.1, storable.2.1.erase key, storable.2.2.erase key⟩

theorem ofFile?_toDocument (storable : members.Storable)
    (encoded : (Json.object members).toDocument.encode? = some bytes) :
    ofFile? bytes = some members :=
  ofFile?_eq_some_iff.mpr ⟨_, Json.ofFile?_toDocument encoded,
    Json.ofDocument_toDocument storable (Text.isUnicode_of_encode? encoded)⟩

end Members

namespace Disk

variable {disk : Disk} {path : Path} {members : Members} {location : Location}

/-- The members that the document at a path stands for. -/
def Holds (disk : Disk) (path : Path) (members : Members) : Prop :=
  (disk.isFile path ≠ .ok true ∧ members = []) ∨
    ∃ bytes, disk.read path = .ok bytes ∧ Members.ofFile? bytes = some members

/-- What can be read is a file. -/
theorem isFile_eq_true_iff_read :
    disk.isFile path = .ok true ↔ ∃ bytes, disk.read path = .ok bytes := by
  rw [isFile_eq_true_iff]
  simp only [read_eq_ok_iff, exists_and_left]

theorem Holds.storable (holds : disk.Holds path members) : members.Storable := by
  rcases holds with ⟨-, rfl⟩ | ⟨bytes, -, known⟩
  · exact .nil
  · exact Members.storable_of_ofFile? known

theorem Holds.read_of_isFile (holds : disk.Holds path members)
    (present : disk.isFile path = .ok true) :
    ∃ bytes, disk.read path = .ok bytes ∧ Members.ofFile? bytes = some members := by
  rcases holds with ⟨absent, -⟩ | known
  · exact absurd present absent
  · exact known

theorem Holds.unique {others : Members} (first : disk.Holds path members) (second : disk.Holds path others) :
    members = others := by
  rcases first with ⟨absent, rfl⟩ | ⟨bytes, read, known⟩
  · rcases second with ⟨-, rfl⟩ | ⟨bytes, read, -⟩
    · rfl
    · exact absurd (isFile_eq_true_iff_read.mpr ⟨bytes, read⟩) absent
  · obtain ⟨same, reread, found⟩ := second.read_of_isFile (isFile_eq_true_iff_read.mpr ⟨bytes, read⟩)
    rw [read, Except.ok.injEq] at reread
    rw [reread, found] at known
    exact Option.some.inj known.symm

theorem Holds.isFile_of_mem (holds : disk.Holds path members) (nonempty : members ≠ []) :
    disk.isFile path = .ok true := by
  rcases holds with ⟨-, empty⟩ | ⟨bytes, read, -⟩
  · exact absurd empty nonempty
  · exact isFile_eq_true_iff_read.mpr ⟨bytes, read⟩

/-! ## Writing and removing a file -/

theorem Opens.target_not_mem_ways (opens : disk.Opens path)
    (noDirectory : disk.entries (disk.target path) ≠ some .directory) :
    disk.target path ∉ disk.ways path :=
  fun member => noDirectory (opens.passable _ member)

theorem Opens.apply (opens : disk.Opens path) {effect : Effect}
    (spared : ∀ way ∈ disk.ways path, effect.Spares way) : (disk.apply effect).Opens path :=
  opens.congr (disk.apply_home effect).symm fun way member =>
    entries_apply_of_spares (spared way member)

theorem read_apply_writeFile {bytes : ByteArray}
    (opening : disk.openingFile path = .ok location) :
    (disk.apply (.writeFile location bytes)).read path = .ok bytes := by
  obtain ⟨opens, rfl, noDirectory, -⟩ := openingFile_eq_ok opening
  have home := disk.apply_home (.writeFile (disk.target path) bytes)
  rw [read_eq_ok_iff, target_congr home]
  refine ⟨opens.apply ?_, entries_apply_of_created rfl⟩
  intro way member
  refine ⟨id, fun _ same => ?_⟩
  have isTarget : way = disk.target path := same
  exact opens.target_not_mem_ways noDirectory (isTarget ▸ member)

theorem isFile_apply_removeFile {effect : Effect}
    (removing : disk.removingFile path = .ok effect) :
    (disk.apply effect).isFile path = .ok false := by
  obtain ⟨opens, ⟨bytes, file⟩, rfl⟩ := removingFile_eq_ok removing
  have home := disk.apply_home (.removeFile (disk.target path))
  have still : (disk.apply (.removeFile (disk.target path))).Opens path := by
    refine opens.apply fun way member => ⟨fun removes => ?_, fun created => absurd rfl created⟩
    have isTarget : way = disk.target path := removes
    exact opens.target_not_mem_ways (by simp [file]) (isTarget ▸ member)
  have gone : (disk.apply (.removeFile (disk.target path))).entries (disk.target path) = none :=
    entries_apply_of_removes rfl
  unfold isFile test status
  rw [locate_eq_ok still, target_congr home]
  simp only [gone]
  rfl

end Disk

end HelperKit
