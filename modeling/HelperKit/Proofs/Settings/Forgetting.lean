import HelperKit.Proofs.Disk.Absence
import HelperKit.Proofs.Settings.Store
import HelperKit.Proofs.Workspace.Rewriting

/-!
# Forgetting a record

A record can be forgotten whenever the other members of the document have an encoded form, and
forgetting once more has no effect.  The document goes when no other member is left in it.
-/

namespace HelperKit

/-! ## The directory of a document -/

namespace Name

theorem byteSize_append (front back : Text) :
    byteSize (front ++ back) = byteSize front + byteSize back := by
  induction front with
  | nil => simp [byteSize]
  | cons point front induction => simp [byteSize, induction, Nat.add_assoc]

theorem byteSize_join_le (separator : Text) (pieces : List Text) (last : Text) :
    byteSize (Text.join separator pieces) ≤ byteSize (Text.join separator (pieces ++ [last])) := by
  unfold Text.join
  induction pieces with
  | nil => simp [byteSize]
  | cons piece pieces induction =>
      cases pieces with
      | nil =>
          rw [List.singleton_append, List.intercalate_cons_cons, List.intercalate_singleton,
            List.append_assoc, byteSize_append]
          exact Nat.le_add_right _ _
      | cons next pieces =>
          simp only [List.cons_append, List.intercalate_cons_cons, byteSize_append] at induction ⊢
          exact Nat.add_le_add_left induction _

end Name

namespace Disk

variable {disk other : Disk} {path : Path} {members : Members} {bytes : ByteArray}

/-- The text of the directory above is not longer, but for the dot of the working directory. -/
theorem byteSize_parent_le (nonempty : path.parts ≠ [])
    (fits : Name.byteSize path.toText ≤ maximumPathBytes) :
    Name.byteSize path.parent.toText ≤ maximumPathBytes := by
  obtain ⟨anchor, parts⟩ := path
  have split : parts.dropLast ++ [parts.getLast nonempty] = parts :=
    List.dropLast_concat_getLast nonempty
  have shorter := Name.byteSize_join_le [.char '/'] parts.dropLast (parts.getLast nonempty)
  rw [split] at shorter
  cases anchor with
  | workingDirectory =>
      have whole : Path.toText ⟨.workingDirectory, parts⟩ = Text.join [.char '/'] parts := by
        cases parts with
        | nil => exact absurd rfl nonempty
        | cons part parts => rfl
      rw [whole] at fits
      unfold Path.parent
      cases above : parts.dropLast with
      | nil =>
          have dot : Name.byteSize (Path.toText ⟨.workingDirectory, []⟩) = 1 := by decide
          simp only [dot, maximumPathBytes]
          omega
      | cons part rest =>
          rw [above] at shorter
          exact shorter.trans fits
  | root =>
      simp only [Path.toText, Path.parent, Name.byteSize_append] at fits ⊢
      omega
  | doubleRoot =>
      simp only [Path.toText, Path.parent, Name.byteSize_append] at fits ⊢
      omega

/-- What can be handed to the file system lies in a directory that can. -/
theorem vet_parent (nonempty : path.parts ≠ []) (vetted : vet path = .ok ()) :
    vet path.parent = .ok () := by
  have inside : ∀ {holds : Text → Bool}, path.parts.any holds = false →
      path.parent.parts.any holds = false := by
    intro holds none
    rw [List.any_eq_false] at none ⊢
    exact fun name member => none name (List.dropLast_subset _ member)
  unfold vet at vetted ⊢
  split at vetted
  · cases vetted
  · rename_i encodable
    split at vetted
    · cases vetted
    · rename_i clean
      split at vetted
      · cases vetted
      · rename_i short
        rw [Bool.not_eq_true] at encodable clean
        rw [if_neg (by simp [inside encodable]), if_neg (by simp [inside clean]),
          if_neg (by have := byteSize_parent_le nonempty (Nat.le_of_not_lt short); omega)]

theorem isDirectory_parent_of_read (nonempty : path.parts ≠ [])
    (read : disk.read path = .ok bytes) :
    disk.isDirectory path.parent = .ok true := by
  obtain ⟨opens, -⟩ := read_eq_ok_iff.mp read
  have passable : ∀ station ∈ disk.reach path.parent, disk.entries station = some .directory := by
    rw [← ways_eq_reach_parent nonempty]
    exact opens.passable
  refine isDirectory_eq_true_iff.mpr ⟨⟨vet_parent nonempty opens.vetted, ?_, ?_⟩, ?_⟩
  · exact fun name member => opens.short name (List.dropLast_subset _ member)
  · exact fun way member => passable way (List.dropLast_subset _ member)
  · exact passable _ (target_mem_reach disk path.parent)

theorem Holds.of_status (holds : disk.Holds path members)
    (same : other.status path = disk.status path) : other.Holds path members := by
  unfold Holds isFile test read at holds ⊢
  rw [same]
  exact holds

end Disk

namespace Store

open Attempt Disk

variable {store : Store} {before after : Workspace} {members : Members}

theorem forget_of_unrecorded {there : Bool} (holds : before.disk.Holds store.path members)
    (answered : before.disk.isFile store.path = .ok there) (absent : store.key ∉ members.names) :
    ∃ after, store.forget before = (.ok (), after) ∧ before.Reaches [] after := by
  have asked := present_eq_ok_iff.mpr ⟨answered, rfl⟩
  unfold forget
  rw [bind_apply, asked]
  cases there with
  | false => exact ⟨_, rfl, before.reaches_note _⟩
  | true =>
      have read := members_eq_ok_iff.mpr ⟨holds.read_of_isFile answered, rfl⟩
      have unrecorded : ¬ members.has store.key = true := by
        rw [Members.has_eq_true_iff, Members.get?_ne_none_iff]
        exact absent
      simp only [if_true]
      rw [bind_apply, read]
      simp only [if_neg unrecorded]
      exact ⟨_, rfl, before.reaches_note _⟩

theorem forget_again {again : Workspace} (returned : store.forget before = (.ok (), after))
    (same : again.disk = after.disk) :
    ∃ last, store.forget again = (.ok (), last) ∧ again.Reaches [] last := by
  obtain ⟨members, there, holds, answered, absent⟩ := unrecorded_of_forget returned
  rw [← same] at holds answered
  exact forget_of_unrecorded holds answered absent

theorem Leaves.absent {disk left : Disk} (leaves : store.Leaves disk left)
    (there : disk.isFile store.path = .ok true) (lost : left.isFile store.path = .ok false) :
    left.Absent store.path := by
  cases leaves with
  | same =>
      rw [there] at lost
      cases lost
  | removed present => exact absent_of_removed (isFile_eq_true_iff.mp present).1 rfl rfl
  | written present bytes =>
      obtain ⟨old, read⟩ := isFile_eq_true_iff_read.mp present
      have still := isFile_eq_true_iff_read.mpr
        ⟨bytes, read_apply_writeFile (openingFile_of_read read)⟩
      rw [still] at lost
      cases lost

theorem absent_of_forget (returned : store.forget before = (.ok (), after))
    (holds : before.disk.Holds store.path members) (recorded : store.key ∈ members.names) :
    after.disk.Absent store.path ↔ members.erase store.key = [] := by
  obtain ⟨leaves, found, standing, ⟨absent, -⟩ | ⟨-, -, gone⟩⟩ := forget_eq_ok returned
  · obtain rfl := holds.unique standing
    exact absurd recorded absent
  · obtain rfl := holds.unique standing
    have nonempty : members ≠ [] := by
      rintro rfl
      cases recorded
    rw [← gone]
    constructor
    · intro absent
      rw [isFile, test, absent]
      rfl
    · exact leaves.absent (standing.isFile_of_mem nonempty)

/-- A document from which the record was taken, and nothing else: the other members are there in
their order, the document goes with the last of them, and without a record it is untouched. -/
structure Stripped (store : Store) (disk left : Disk) (members : Members) : Prop where
  held : disk.Holds store.path members
  others : left.Holds store.path (members.erase store.key)
  gone_iff : store.key ∈ members.names →
    (left.Absent store.path ↔ members.erase store.key = [])
  untouched : store.key ∉ members.names →
    left.entries (disk.target store.path) = disk.entries (disk.target store.path)

/-- Forgetting takes the record from the document, which may have been looked at before. -/
theorem stripped_of_forget {disk : Disk} (returned : store.forget before = (.ok (), after))
    (status : disk.status store.path = before.disk.status store.path)
    (same : before.disk.entries (disk.target store.path) = disk.entries (disk.target store.path)) :
    ∃ members, store.Stripped disk after.disk members := by
  obtain ⟨-, members, holds, outcome⟩ := forget_eq_ok returned
  refine ⟨members, holds.of_status status, ?_, absent_of_forget returned holds, fun absent => ?_⟩
  · rcases outcome with ⟨absent, reaches⟩ | ⟨-, remaining, -⟩
    · rw [Members.erase_of_not_mem absent, show after.disk = before.disk from reaches.disk]
      exact holds
    · exact remaining
  · rcases outcome with ⟨-, reaches⟩ | ⟨recorded, -⟩
    · rw [show after.disk = before.disk from reaches.disk]
      exact same
    · exact absurd recorded absent

/-! ## Forgetting what can be forgotten -/

/-- The record among the members of a document can be taken away: the document is there, and its
other members have an encoded form. -/
structure Rewritable (store : Store) (disk : Disk) (members : Members) : Prop where
  named : store.path.parts ≠ []
  held : ∃ bytes, disk.read store.path = .ok bytes ∧ Members.ofFile? bytes = some members
  encodable : (Json.object (members.erase store.key)).toDocument.encode? ≠ none

theorem write_of_read {bytes : ByteArray} (named : store.path.parts ≠ [])
    (read : before.disk.read store.path = .ok bytes)
    (encodable : (Json.object members).toDocument.encode? ≠ none) :
    ∃ after, store.write members before = (.ok (), after) := by
  obtain ⟨content, encoded⟩ := Option.ne_none_iff_exists'.mp encodable
  have parent := isDirectory_parent_of_read named read
  have opening : Access.ask (·.openingFile store.path) before =
      (.ok (before.disk.target store.path), before) :=
    Access.ask_eq_ok_iff.mpr ⟨openingFile_of_read read, rfl⟩
  have written : Access.writeText store.path (Json.object members).toDocument before =
      (.ok (), before.perform (.writeFile (before.disk.target store.path) content)) := by
    rw [Access.writeText, bind_apply, opening]
    simp only [encoded]
    rfl
  exact ⟨_, mapError_eq_ok_iff.mpr (bind_eq_ok_iff.mpr
    ⟨(), before, Access.makeDirectories_present parent, written⟩)⟩

/-- A record is forgotten when the document can do without it. -/
theorem forget_of_rewritable (rewritable : store.Rewritable before.disk members) :
    ∃ after, store.forget before = (.ok (), after) := by
  obtain ⟨bytes, read, known⟩ := rewritable.held
  have answered := isFile_eq_true_iff_read.mpr ⟨bytes, read⟩
  by_cases recorded : store.key ∈ members.names
  · have has : members.has store.key = true := by
      rw [Members.has_eq_true_iff, Members.get?_ne_none_iff]
      exact recorded
    unfold forget
    rw [bind_apply, present_eq_ok_iff.mpr ⟨answered, rfl⟩]
    simp only [if_true]
    rw [bind_apply, members_eq_ok_iff.mpr ⟨⟨bytes, read, known⟩, rfl⟩]
    simp only [if_pos has]
    split
    · obtain ⟨opens, file⟩ := read_eq_ok_iff.mp read
      have removing : before.disk.removingFile store.path =
          .ok (.removeFile (before.disk.target store.path)) := by
        rw [removingFile, locate_eq_ok opens]
        simp only [file]
      rw [bind_apply, mapError_apply, Access.removeFile, bind_apply, Access.ask_apply, removing]
      exact ⟨_, rfl⟩
    · obtain ⟨written, writing⟩ := write_of_read rewritable.named read rewritable.encodable
      rw [bind_apply, writing]
      exact ⟨_, rfl⟩
  · obtain ⟨after, returned, -⟩ :=
      forget_of_unrecorded (.inr ⟨bytes, read, known⟩) answered recorded
    exact ⟨after, returned⟩

end Store

end HelperKit
