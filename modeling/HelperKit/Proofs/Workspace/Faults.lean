import HelperKit.Proofs.Settings.Document
import HelperKit.Proofs.Workspace.Access
import HelperKit.Proofs.Workspace.Failing

/-!
# What faults an access

The file system may report a fault for any path.  Every other fault has a cause that can be named:
something in the names of the path, a content that has no encoded form, for which the file is
left empty, or a path of so many names that not all directories on the way to it are created.
-/

namespace HelperKit

open Attempt

namespace Disk

/-- What keeps an access to a path from being carried out: the file system reports something,
the path never reaches it, or more directories are missing on the way than are created. -/
inductive Refuses (path : Path) : Fault → Prop where
  | reported (report : SystemFault) : Refuses path (.system report)
  | unfit {fault : Fault} (unfit : Unfit path fault) : Refuses path fault
  | deep (many : Access.maximumMissing < path.parts.length) : Refuses path .tooDeep

variable {disk : Disk} {path shorter : Path} {fault : Fault}

theorem Refuses.of_sublist (refuses : Refuses shorter fault)
    (part : shorter.parts.Sublist path.parts) : Refuses path fault := by
  cases refuses with
  | reported report => exact .reported report
  | unfit unfit =>
      refine .unfit ?_
      cases unfit with
      | null holds =>
          obtain ⟨name, member, inside⟩ := holds
          exact .null ⟨name, part.subset member, inside⟩
      | odd holds =>
          obtain ⟨name, member, inside⟩ := holds
          exact .odd ⟨name, part.subset member, inside⟩
  | deep many => exact .deep (many.trans_le part.length_le)

theorem refuses_of_locate (failed : disk.locate path = .error fault) :
    Refuses path fault := by
  unfold locate at failed
  split at failed
  · rename_i vetted
    cases failed
    rcases vet_eq_error vetted with overlong | unfit
    · cases overlong
      exact .reported _
    · exact .unfit unfit
  · split at failed
    · cases failed
    · cases failed
      exact .reported _

theorem refuses_of_read (failed : disk.read path = .error fault) :
    Refuses path fault := by
  unfold read status at failed
  split at failed
  · cases failed
  · cases failed
    exact .reported _
  · rename_i original unknown
    cases failed
    split at unknown
    · rename_i lost
      cases unknown
      exact refuses_of_locate lost
    · split at unknown
      · cases unknown
      · cases unknown
        exact .reported _

theorem refuses_of_test {holds : Entry → Bool} (failed : disk.test path holds = .error fault) :
    Refuses path fault := by
  obtain ⟨long⟩ := overlong_of_test failed
  exact .reported _

theorem refuses_of_makingDirectory (failed : disk.makingDirectory path = .error fault) :
    Refuses path fault := by
  unfold makingDirectory at failed
  split at failed
  · rename_i lost
    cases failed
    exact refuses_of_locate lost
  · split at failed
    · cases failed
      exact .reported _
    · split at failed
      · cases failed
        exact .reported _
      · cases failed

theorem refuses_of_openingFile (failed : disk.openingFile path = .error fault) :
    Refuses path fault := by
  unfold openingFile at failed
  split at failed
  · rename_i lost
    cases failed
    exact refuses_of_locate lost
  · split at failed
    · cases failed
      exact .reported _
    · cases failed
    · split at failed
      · cases failed
        exact .reported _
      · cases failed

theorem refuses_of_removingFile (failed : disk.removingFile path = .error fault) :
    Refuses path fault := by
  unfold removingFile at failed
  split at failed
  · rename_i lost
    cases failed
    exact refuses_of_locate lost
  · split at failed
    · cases failed
      exact .reported _
    · cases failed
      exact .reported _
    · cases failed

/-- What remains to be reported after a removal is reported by the file system, too. -/
theorem refuses_of_removingTree (failed : disk.removingTree path = .error fault ∨
      ∃ effect, disk.removingTree path = .ok (effect, some fault)) :
    Refuses path fault := by
  unfold removingTree at failed
  split at failed
  · rename_i lost
    rcases failed with failed | ⟨effect, failed⟩
    · cases failed
      exact refuses_of_locate lost
    · cases failed
  · split at failed
    · rcases failed with failed | ⟨effect, failed⟩ <;> cases failed
      exact .reported _
    · rcases failed with failed | ⟨effect, failed⟩ <;> cases failed
      exact .reported _
    · split at failed
      · split at failed
        · rcases failed with failed | ⟨effect, failed⟩ <;> cases failed
        · rcases failed with failed | ⟨effect, failed⟩ <;> cases failed
          exact .reported _
      · rcases failed with failed | ⟨effect, failed⟩ <;> cases failed
        exact .reported _

end Disk

/-- An access that nothing keeps from being carried out but what refuses its path. -/
def Access.RefusedOnly {α : Type} (path : Path) (access : Access α) : Prop :=
  FailsOnly (fun fault _ => Disk.Refuses path fault) access

/-- What an access to a path is faulted by, with the workspace that it leaves: it is refused, or
the content of the file has no encoded form, and the file is left empty. -/
inductive Faulted (path : Path) : Fault → Workspace → Prop where
  | refused {fault : Fault} (refuses : Disk.Refuses path fault) (after : Workspace) :
      Faulted path fault after
  | emptied {after : Workspace} (empty : after.disk.read path = .ok .empty) :
      Faulted path .unencodable after

namespace Access

variable {α : Type} {path shorter : Path}

theorem RefusedOnly.faulted {access : Access α} (refused : RefusedOnly path access) :
    FailsOnly (Faulted path) access :=
  refused.mono fun _ after refuses => .refused refuses after

theorem RefusedOnly.of_sublist {access : Access α} (refused : RefusedOnly shorter access)
    (part : shorter.parts.Sublist path.parts) : RefusedOnly path access :=
  refused.mono fun _ _ refuses => refuses.of_sublist part

theorem refusedOnly_read (path : Path) : RefusedOnly path (ask (·.read path)) :=
  failsOnly_ask fun _ _ failed => Disk.refuses_of_read failed

theorem refusedOnly_test (path : Path) (holds : Entry → Bool) :
    RefusedOnly path (ask (·.test path holds)) :=
  failsOnly_ask fun _ _ failed => Disk.refuses_of_test failed

theorem refusedOnly_performing {question : Disk → Except Fault Effect}
    (answers : ∀ disk fault, question disk = .error fault → Disk.Refuses path fault) :
    RefusedOnly path (do perform (← ask question)) :=
  failsOnly_bind (failsOnly_ask fun before => answers before.disk) fun _ _ _ _ impossible => by
    cases impossible

theorem refusedOnly_removeFile (path : Path) : RefusedOnly path (removeFile path) :=
  refusedOnly_performing fun _ _ => Disk.refuses_of_removingFile

theorem refusedOnly_removeTree (path : Path) : RefusedOnly path (removeTree path) := by
  intro before fault after failed
  rw [removeTree_apply] at failed
  split at failed
  · rename_i refused
    cases failed
    exact Disk.refuses_of_removingTree (.inl refused)
  · cases failed
  · rename_i remaining
    cases failed
    exact Disk.refuses_of_removingTree (.inr ⟨_, remaining⟩)

/-! ## Directories -/

theorem refusedOnly_makeDirectory (path : Path) : RefusedOnly path (makeDirectory path) :=
  refusedOnly_performing fun _ _ => Disk.refuses_of_makingDirectory

theorem refusedOnly_accept (mayExist : Bool) {fault : Fault} (refuses : Disk.Refuses path fault) :
    RefusedOnly path (provideDirectory.accept mayExist path fault) := by
  have throws : RefusedOnly path (throw fault : Access Unit) := failsOnly_throw fun _ => refuses
  cases fault with
  | system report =>
      unfold provideDirectory.accept
      simp only
      split
      · exact throws
      · split
        · refine failsOnly_bind (refusedOnly_test path Entry.isDirectory) fun there => ?_
          cases there with
          | true => exact failsOnly_pure ()
          | false => exact throws
        · exact throws
  | embeddedNull => exact throws
  | unencodable => exact throws
  | tooDeep => exact throws

theorem refusedOnly_provideDirectory (path : Path) (mayExist : Bool) :
    RefusedOnly path (provideDirectory mayExist path) :=
  failsOnly_outcome_bind (refusedOnly_makeDirectory path) (fun _ => failsOnly_pure ())
    fun _ _ refuses => refusedOnly_accept mayExist refuses

/-- Directories on the way to a path are created one by one, and never more of them than the path
has names.  A path for which too many are missing is thus one of too many names. -/
theorem refusedOnly_provideAll {reversed : List Text} (missing : Nat) (mayExist : Bool)
    (way : reversed.reverse.Sublist path.parts)
    (room : maximumMissing + reversed.length ≤ path.parts.length + missing) :
    RefusedOnly path (provideAll path.anchor mayExist missing reversed) := by
  induction reversed generalizing mayExist missing with
  | nil =>
      unfold provideAll
      exact (refusedOnly_provideDirectory ⟨path.anchor, []⟩ mayExist).of_sublist way
  | cons part above induction =>
      have here : ∀ mayExist, RefusedOnly path
          (provideDirectory mayExist ⟨path.anchor, (part :: above).reverse⟩) :=
        fun mayExist => (refusedOnly_provideDirectory _ mayExist).of_sublist way
      rw [List.reverse_cons] at way
      rw [List.length_cons] at room
      unfold provideAll
      refine failsOnly_outcome_bind (here mayExist) (fun _ => failsOnly_pure ()) ?_
      intro fault _ refuses
      have throws : RefusedOnly path (throw fault : Access Unit) := failsOnly_throw fun _ => refuses
      cases fault with
      | system report =>
          simp only
          split
          · cases missing with
            | zero => exact failsOnly_throw fun _ => .deep (by omega)
            | succ missing =>
                have further := induction missing true
                  ((List.sublist_append_left _ _).trans way) (by omega)
                exact failsOnly_bind further fun _ => here mayExist
          · exact throws
      | embeddedNull => exact throws
      | unencodable => exact throws
      | tooDeep => exact throws

theorem refusedOnly_makeDirectories (path : Path) (mayExist : Bool) :
    RefusedOnly path (makeDirectories mayExist path) :=
  refusedOnly_provideAll maximumMissing mayExist (by rw [List.reverse_reverse])
    (by rw [List.length_reverse, Nat.add_comm])

/-! ## Files -/

/-- A file whose content has no encoded form is left empty. -/
theorem failsOnly_writeText (path : Path) (content : Text) :
    FailsOnly (Faulted path) (writeText path content) := by
  intro before fault after failed
  rw [writeText, bind_apply, ask_apply] at failed
  cases opening : before.disk.openingFile path with
  | error refused =>
      rw [opening] at failed
      cases failed
      exact .refused (Disk.refuses_of_openingFile opening) _
  | ok location =>
      simp only [opening] at failed
      cases encoded : content.encode? with
      | some bytes =>
          rw [encoded] at failed
          cases failed
      | none =>
          rw [encoded] at failed
          cases failed
          exact .emptied (Disk.read_apply_writeFile opening)

theorem failsOnly_writeDocument (json : Json) (path : Path) :
    FailsOnly (Faulted path) (writeDocument json path) := by
  have above : RefusedOnly path (makeDirectories true path.parent) :=
    (refusedOnly_makeDirectories path.parent true).of_sublist (List.dropLast_sublist path.parts)
  exact failsOnly_bind above.faulted fun _ => failsOnly_writeText path _

end Access

end HelperKit
