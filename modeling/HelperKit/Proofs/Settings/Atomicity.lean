import HelperKit.Proofs.Settings.Furnishing
import HelperKit.Proofs.Settings.Sharing

/-!
# Calls that fail

A call of the store that fails before the document is opened for writing leaves every
file as it was: at most directories on the way have been created.  Opening empties the
document before its text is encoded.  Hence members that have no encoded form, which
another tool may have stored under escapes, cost the whole document.
-/

namespace HelperKit

/-! ## New directories -/

/-- One disk is another one with directories where nothing was. -/
structure Disk.Furnishes (before after : Disk) : Prop where
  home : before.home = after.home
  entries : ∀ location, after.entries location = before.entries location ∨
    (before.entries location = none ∧ after.entries location = some .directory)

namespace Disk

variable {before between after : Disk} {path : Path} {location : Location} {effect : Effect}

theorem Furnishes.refl (disk : Disk) : disk.Furnishes disk :=
  ⟨rfl, fun _ => .inl rfl⟩

theorem Furnishes.making (furnishes : before.Furnishes after)
    (making : after.makingDirectory path = .ok effect) : before.Furnishes (after.apply effect) := by
  obtain ⟨-, -, vacant, rfl⟩ := makingDirectory_eq_ok making
  refine ⟨furnishes.home.trans (after.apply_home _).symm, fun location => ?_⟩
  by_cases here : location = after.target path
  · subst here
    refine .inr ⟨?_, entries_apply_of_created rfl⟩
    rcases furnishes.entries (after.target path) with same | ⟨absent, -⟩
    · rw [← same, vacant]
    · exact absent
  · rw [entries_apply_of_spares ⟨id, fun _ => here⟩]
    exact furnishes.entries location

/-- New directories change no file. -/
theorem Furnishes.file_iff (furnishes : before.Furnishes after) {bytes : ByteArray} :
    after.entries location = some (.file bytes) ↔ before.entries location = some (.file bytes) :=
  FurnishedAt.file_iff (furnishes.entries location)

theorem Furnishes.directory (furnishes : before.Furnishes after)
    (directory : before.entries location = some .directory) :
    after.entries location = some .directory := by
  rcases furnishes.entries location with same | ⟨absent, -⟩
  · rw [same, directory]
  · rw [absent] at directory
    cases directory

/-- A file that could be read is read with the same bytes. -/
theorem Furnishes.read (furnishes : before.Furnishes after) {bytes : ByteArray}
    (read : before.read path = .ok bytes) : after.read path = .ok bytes := by
  obtain ⟨opens, file⟩ := read_eq_ok_iff.mp read
  rw [read_eq_ok_iff, ← target_congr furnishes.home, furnishes.file_iff]
  refine ⟨opens.congr furnishes.home fun way member => ?_, file⟩
  rw [opens.passable way member]
  exact furnishes.directory (opens.passable way member)

end Disk

namespace Attempt

theorem Acts.disk_eq {ε α : Type} {operation : Attempt ε α}
    (acts : Acts (fun _ _ => False) operation) (before : Workspace) :
    (operation before).2.disk = before.disk :=
  (acts.reaches_nil before).disk

end Attempt

theorem Access.furnishes_makeDirectories (mayExist : Bool) (path : Path) (before : Workspace) :
    before.disk.Furnishes (makeDirectories mayExist path before).2.disk := by
  have acts : Attempt.Acts (fun disk effect => ∃ path, disk.makingDirectory path = .ok effect)
      (makeDirectories mayExist path) :=
    acts_makeDirectories mayExist fun disk names effect _ making => ⟨_, making⟩
  obtain ⟨effects, reaches, allows⟩ := acts before
  rw [reaches.disk]
  refine allows.applyAll before.disk.Furnishes (.refl before.disk) ?_
  rintro disk effect furnishes ⟨other, making⟩
  exact furnishes.making making

namespace Store

open Attempt Disk

variable {store : Store} {before after : Workspace} {members : Members} {failure : Failure}

/-! ## What a failure leaves -/

/-- What a call leaves that fails while the document was to hold given members: every file
is as it was, or the document is empty since it was opened although the members have no
encoded form. -/
inductive Spoils (path : Path) (members : Members) (before : Disk) : Failure → Disk → Prop where
  | spared {failure : Failure} {after : Disk} (furnishes : before.Furnishes after) :
      Spoils path members before failure after
  | emptied {between : Disk} {location : Location} (furnishes : before.Furnishes between)
      (opening : between.openingFile path = .ok location)
      (unencodable : (Json.object members).toDocument.encode? = none) :
      Spoils path members before .unencodable (between.apply (.writeFile location .empty))

theorem write_eq_error (failed : store.write members before = (.error failure, after)) :
    Spoils store.path members before.disk failure after.disk := by
  unfold write at failed
  obtain ⟨fault, faulted, rfl⟩ := mapError_eq_error_iff.mp failed
  have furnishes := Access.furnishes_makeDirectories true store.path.parent before
  rcases bind_eq_error_iff.mp faulted with unmade | ⟨_, between, made, unwritten⟩
  · rw [unmade] at furnishes
    exact .spared furnishes
  · rw [made] at furnishes
    rw [Access.writeText, bind_apply, Access.ask_apply] at unwritten
    cases opening : between.disk.openingFile store.path with
    | error fault =>
        rw [opening] at unwritten
        cases unwritten
        exact .spared furnishes
    | ok location =>
        simp only [opening] at unwritten
        cases encoded : (Json.object members).toDocument.encode? with
        | some bytes =>
            rw [encoded] at unwritten
            cases unwritten
        | none =>
            rw [encoded] at unwritten
            cases unwritten
            exact .emptied furnishes opening encoded

theorem save_eq_error {project : Project}
    (failed : store.save project before = (.error failure, after)) :
    (∃ members, before.disk.Holds store.path members ∧
      Spoils store.path (members.put store.key project.toRecord) before.disk failure after.disk) ∨
      after.disk = before.disk := by
  rw [save_eq] at failed
  rcases bind_eq_error_iff.mp failed with unread | ⟨members, between, read, unsaved⟩
  · have acts : Acts (fun _ _ => False) store.standing := acts_standing
    have same := acts.disk_eq before
    rw [unread] at same
    exact .inr same
  · obtain ⟨holds, rfl⟩ := standing_eq_ok read
    rcases bind_eq_error_iff.mp unsaved with unwritten | ⟨_, written, -, noted⟩
    · exact .inl ⟨members, holds, write_eq_error unwritten⟩
    · cases noted

theorem forget_eq_error (failed : store.forget before = (.error failure, after)) :
    (∃ members, before.disk.Holds store.path members ∧
      Spoils store.path (members.erase store.key) before.disk failure after.disk) ∨
      after.disk = before.disk := by
  unfold forget at failed
  -- Before the document is written or removed nothing has an effect, and removing fails as a whole.
  rcases bind_eq_error_iff.mp failed with unasked | ⟨there, between, asked, unforgotten⟩
  · have acts : Acts (fun _ _ => False) store.present := acts_present
    have same := acts.disk_eq before
    rw [unasked] at same
    exact .inr same
  obtain ⟨-, rfl⟩ := present_eq_ok_iff.mp asked
  cases there with
  | false => cases unforgotten
  | true =>
      rcases bind_eq_error_iff.mp unforgotten with unread | ⟨members, same, read, unchanged⟩
      · have acts : Acts (fun _ _ => False) store.members := acts_members
        have same := acts.disk_eq between
        rw [unread] at same
        exact .inr same
      obtain ⟨known, rfl⟩ := members_eq_ok_iff.mp read
      have holds : same.disk.Holds store.path members := .inr known
      split at unchanged
      · simp only at unchanged
        split at unchanged
        · rcases bind_eq_error_iff.mp unchanged with unremoved | ⟨_, removed, -, noted⟩
          · obtain ⟨fault, faulted, -⟩ := mapError_eq_error_iff.mp unremoved
            rw [Access.removeFile, bind_apply, Access.ask_apply] at faulted
            cases removing : same.disk.removingFile store.path with
            | error fault =>
                rw [removing] at faulted
                cases faulted
                exact .inr rfl
            | ok effect =>
                rw [removing] at faulted
                cases faulted
          · cases noted
        · rcases bind_eq_error_iff.mp unchanged with unwritten | ⟨_, written, -, noted⟩
          · exact .inl ⟨members, holds, write_eq_error unwritten⟩
          · cases noted
      · cases unchanged

end Store

namespace StoreCall

open Disk

variable {path : Path} {before after : Workspace} {call : StoreCall} {failure : Failure}

/-- A call on the document at a path that was to change it and fails. -/
inductive Fails (path : Path) (before : Workspace) : StoreCall → Failure → Workspace → Prop where
  | save {key : Text} {project : Project} {failure : Failure} {after : Workspace}
      (failed : (Store.mk path key).save project before = (.error failure, after)) :
      Fails path before (.save key project) failure after
  | forget {key : Text} {failure : Failure} {after : Workspace}
      (failed : (Store.mk path key).forget before = (.error failure, after)) :
      Fails path before (.forget key) failure after

theorem Fails.spoils (fails : Fails path before call failure after) :
    (∃ members, before.disk.Holds path members ∧
      Store.Spoils path (turn members call) before.disk failure after.disk) ∨
      after.disk = before.disk := by
  cases fails with
  | save failed => exact Store.save_eq_error failed
  | forget failed => exact Store.forget_eq_error failed

/-- A call that fails leaves the document as it was, and every other file.  The exception is
a call for members that have no encoded form, once the document can be opened: it fails with
the document empty, and leaves the other files alone. -/
theorem failure_spares_or_empties (fails : Fails path before call failure after) :
    ((∀ bytes, before.disk.read path = .ok bytes → after.disk.read path = .ok bytes) ∧
      ∀ location bytes, after.disk.entries location = some (.file bytes) ↔
        before.disk.entries location = some (.file bytes)) ∨
    (failure = .unencodable ∧
      (∃ members, before.disk.Holds path members ∧
        (Json.object (turn members call)).toDocument.encode? = none) ∧
      after.disk.read path = .ok .empty ∧
      ∀ location bytes, location ≠ before.disk.target path →
        (after.disk.entries location = some (.file bytes) ↔
          before.disk.entries location = some (.file bytes))) := by
  rcases fails.spoils with ⟨members, holds, spoils⟩ | same
  · generalize known : after.disk = left at spoils ⊢
    cases spoils with
    | spared furnishes => exact .inl ⟨fun _ => furnishes.read, fun _ _ => furnishes.file_iff⟩
    | @emptied between location furnishes opening unencodable =>
        refine .inr ⟨rfl, ⟨members, holds, unencodable⟩, read_apply_writeFile opening, ?_⟩
        intro other bytes elsewhere
        obtain ⟨-, rfl, -⟩ := openingFile_eq_ok opening
        rw [target_congr furnishes.home] at elsewhere
        rw [entries_apply_of_spares ⟨id, fun _ => elsewhere⟩]
        exact furnishes.file_iff
  · rw [same]
    exact .inl ⟨fun _ read => read, fun _ _ => .rfl⟩

/-! The document of another tool that has stored half of a surrogate pair, as an escape. -/

/-- The text that the other tool has written. -/
def escapedDocument : Text :=
  "\x7b\"other\": \"\\ud800\"\x7d"

/-- The disk with the document in its root. -/
def escapedDisk : Disk where
  entries location :=
    if location = [] then some .directory
    else if location = ["shared.json"] then escapedDocument.encode?.map .file
    else none
  home := []

/-- The workspace after this tool has tried to save its project. -/
def triedOnce : Workspace :=
  ((Store.mk otherPath "crabSafe").save savedProject (.on escapedDisk .warning)).2

/-- The call fails, and leaves the document empty that could be read before. -/
theorem escaped_document_emptied :
    Fails otherPath (.on escapedDisk .warning) (.save "crabSafe" savedProject) .unencodable
        triedOnce ∧
      escapedDisk.read otherPath = .ok (escapedDocument.encode?.getD .empty) ∧
      triedOnce.disk.read otherPath = .ok .empty ∧
      escapedDocument.encode?.getD .empty ≠ .empty := by
  refine ⟨.save ?_, by decide +kernel, by decide +kernel, by decide +kernel⟩
  unfold triedOnce
  exact Attempt.eq_of_fst (by decide +kernel)

/-- The other tool cannot have its document back. -/
theorem failure_spares_or_empties_escaped :
    Fails otherPath (.on escapedDisk .warning) (.save "crabSafe" savedProject) .unencodable
        triedOnce ∧
      (∃ members, escapedDisk.Holds otherPath members ∧
        (Json.object (turn members (.save "crabSafe" savedProject))).toDocument.encode? = none) ∧
      triedOnce.disk.read otherPath = .ok .empty := by
  have fails : Fails otherPath (.on escapedDisk .warning) (.save "crabSafe" savedProject)
      .unencodable triedOnce := by
    refine .save ?_
    unfold triedOnce
    exact Attempt.eq_of_fst (by decide +kernel)
  have readable : escapedDisk.read otherPath = .ok (escapedDocument.encode?.getD .empty) := by
    decide +kernel
  have lost : triedOnce.disk.read otherPath ≠ .ok (escapedDocument.encode?.getD .empty) := by
    decide +kernel
  rcases failure_spares_or_empties fails with ⟨kept, -⟩ | ⟨-, members, emptied, -⟩
  · exact absurd (kept _ readable) lost
  · exact ⟨fails, members, emptied⟩

end StoreCall

end HelperKit
