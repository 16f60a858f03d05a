import HelperKit.Proofs.Workspace.Operation

/-!
# What operations fail with

The failures of an operation put together from others are those of its parts.  The same holds
for operations on the disk, for dialogues, and for errands that do both.
-/

namespace HelperKit

section FailsOnly

variable {ε σ α β : Type} {allowed wider : ε → σ → Prop}

/-- Whatever an operation fails with is allowed in the state that it leaves. -/
def FailsOnly (allowed : ε → σ → Prop) (operation : ExceptT ε (StateM σ) α) : Prop :=
  ∀ before error after, operation before = (.error error, after) → allowed error after

theorem failsOnly_pure (value : α) : FailsOnly allowed (pure value : ExceptT ε (StateM σ) α) := by
  intro before error after failed
  cases failed

theorem failsOnly_throw {error : ε} (permitted : ∀ state, allowed error state) :
    FailsOnly allowed (throw error : ExceptT ε (StateM σ) α) := by
  intro before other after failed
  cases failed
  exact permitted _

theorem failsOnly_bind {first : ExceptT ε (StateM σ) α} {next : α → ExceptT ε (StateM σ) β}
    (firstFails : FailsOnly allowed first) (nextFails : ∀ value, FailsOnly allowed (next value)) :
    FailsOnly allowed (first >>= next) := by
  intro before error after failed
  have unfolded : (first >>= next) before =
      (fun reached : Except ε α × σ => ExceptT.bindCont next reached.1 reached.2)
        (first before) := rfl
  rw [unfolded] at failed
  cases reached : first before with
  | mk result between =>
      rw [reached] at failed
      cases result with
      | error original =>
          cases failed
          exact firstFails before _ _ reached
      | ok value => exact nextFails value between error after failed

theorem FailsOnly.mono {operation : ExceptT ε (StateM σ) α} (fails : FailsOnly allowed operation)
    (weaken : ∀ error after, allowed error after → wider error after) :
    FailsOnly wider operation :=
  fun before error after failed => weaken error after (fails before error after failed)

theorem failsOnly_mapM {operation : α → ExceptT ε (StateM σ) β} {items : List α}
    (fails : ∀ item ∈ items, FailsOnly allowed (operation item)) :
    FailsOnly allowed (items.mapM operation) := by
  induction items with
  | nil => exact failsOnly_pure []
  | cons item items induction =>
      rw [List.forall_mem_cons] at fails
      rw [List.mapM_cons]
      exact failsOnly_bind fails.1 fun value =>
        failsOnly_bind (induction fails.2) fun rest => failsOnly_pure _

end FailsOnly

section ReturnsOnly

variable {ε σ α β : Type} {allowed : α → Prop}

/-- Whatever an operation returns is allowed. -/
def ReturnsOnly (allowed : α → Prop) (operation : ExceptT ε (StateM σ) α) : Prop :=
  ∀ before value after, operation before = (.ok value, after) → allowed value

theorem returnsOnly_pure {value : α} (permitted : allowed value) :
    ReturnsOnly allowed (pure value : ExceptT ε (StateM σ) α) := by
  intro before other after returned
  cases returned
  exact permitted

theorem returnsOnly_bind {first : ExceptT ε (StateM σ) β} {next : β → ExceptT ε (StateM σ) α}
    (nextReturns : ∀ value, ReturnsOnly allowed (next value)) :
    ReturnsOnly allowed (first >>= next) := by
  intro before value after returned
  have unfolded : (first >>= next) before =
      (fun reached : Except ε β × σ => ExceptT.bindCont next reached.1 reached.2)
        (first before) := rfl
  rw [unfolded] at returned
  cases reached : first before with
  | mk result between =>
      rw [reached] at returned
      cases result with
      | error error => cases returned
      | ok found => exact nextReturns found between value after returned

end ReturnsOnly

namespace Attempt

variable {ε δ α : Type} {allowed : ε → Workspace → Prop}

theorem failsOnly_note (level : Level) (message : Text) :
    FailsOnly allowed (note level message : Attempt ε Unit) := by
  intro before error after failed
  cases failed

/-- What comes after an operation that hands its error over. -/
theorem failsOnly_outcome_bind {β : Type} {operation : Attempt δ α}
    {next : Except δ α → Attempt ε β} {original : δ → Workspace → Prop}
    (fails : FailsOnly original operation) (returned : ∀ value, FailsOnly allowed (next (.ok value)))
    (failed : ∀ error state, original error state → FailsOnly allowed (next (.error error))) :
    FailsOnly allowed (outcome operation >>= next) := by
  intro before error after ended
  rw [bind_apply, outcome_apply] at ended
  cases reached : operation before with
  | mk result between =>
      rw [reached] at ended
      cases result with
      | ok value => exact returned value between error after ended
      | error cause => exact failed cause between (fails _ _ _ reached) between error after ended

theorem failsOnly_mapError {convert : δ → ε} {operation : Attempt δ α}
    {original : δ → Workspace → Prop} (fails : FailsOnly original operation)
    (permitted : ∀ error after, original error after → allowed (convert error) after) :
    FailsOnly allowed (mapError convert operation) := by
  intro before error after failed
  obtain ⟨cause, faulted, rfl⟩ := mapError_eq_error_iff.mp failed
  exact permitted cause after (fails before cause after faulted)

end Attempt

theorem Access.failsOnly_ask {α : Type} {allowed : Fault → Workspace → Prop}
    {question : Disk → Except Fault α}
    (answers : ∀ before fault, question before.disk = .error fault → allowed fault before) :
    FailsOnly allowed (Access.ask question) := by
  intro before fault after failed
  rw [Access.ask_apply] at failed
  obtain ⟨refused, rfl⟩ := Prod.mk.inj failed
  exact answers before fault refused

namespace Disk

variable {disk : Disk} {path : Path} {fault : Fault}

/-- A path with a name that is too long, or that is too long as a whole. -/
def IsLong (path : Path) : Prop :=
  (∃ name ∈ path.parts, Name.isTooLong name = true) ∨
    maximumPathBytes < Name.byteSize path.toText

/-- A fault for which a test of a path gives no answer: the path is too long. -/
inductive Overlong (path : Path) : Fault → Prop where
  | mk (long : IsLong path) : Overlong path (.system { errno := .nameTooLong, path })

/-- A fault of a path that is never handed to the file system, for what its names hold. -/
inductive Unfit (path : Path) : Fault → Prop where
  | null (holds : ∃ name ∈ path.parts, CodePoint.char '\x00' ∈ name) : Unfit path .embeddedNull
  | odd (holds : ∃ name ∈ path.parts, ∃ point ∈ name, Name.isEncodable point = false) :
      Unfit path .unencodable

theorem vet_eq_error (vetted : vet path = .error fault) : Overlong path fault ∨ Unfit path fault := by
  unfold vet at vetted
  split at vetted
  · rename_i odd
    cases vetted
    simp only [List.any_eq_true, Bool.not_eq_true'] at odd
    exact .inr (.odd odd)
  · split at vetted
    · rename_i null
      cases vetted
      simp only [List.any_eq_true, decide_eq_true_eq] at null
      obtain ⟨name, member, point, inside, rfl⟩ := null
      exact .inr (.null ⟨name, member, inside⟩)
    · split at vetted
      · rename_i long
        cases vetted
        exact .inl (.mk (.inr long))
      · cases vetted

/-- A walk ends early where nothing is, at a file, or at a name that is too long. -/
theorem errno_of_walk_error {location : Location} {names : List Text} {errno : Errno}
    (failed : disk.walk location names = .error errno) :
    errno.isAbsence = true ∨
      errno = .nameTooLong ∧ ∃ name ∈ names, Name.isTooLong name = true := by
  induction names generalizing location with
  | nil => cases failed
  | cons name names induction =>
      rw [walk] at failed
      split at failed
      · cases failed
        exact .inl rfl
      · cases failed
        exact .inl rfl
      · split at failed
        · rename_i long
          cases failed
          exact .inr ⟨rfl, name, List.mem_cons_self, long⟩
        · rcases induction failed with absent | ⟨same, longer, member, long⟩
          · exact .inl absent
          · exact .inr ⟨same, longer, List.mem_cons_of_mem name member, long⟩

/-- A test answers unless something is too long. -/
theorem overlong_of_test {holds : Entry → Bool} (failed : disk.test path holds = .error fault) :
    Overlong path fault := by
  unfold test status locate at failed
  cases vetted : vet path with
  | error original =>
      rw [vetted] at failed
      rcases vet_eq_error vetted with overlong | unfit
      · cases overlong with
        | mk long =>
            cases failed
            exact .mk long
      · cases unfit <;> cases failed
  | ok =>
      rw [vetted] at failed
      simp only at failed
      cases walked : disk.walk (disk.start path) path.parts with
      | error errno =>
          rw [walked] at failed
          simp only at failed
          split at failed
          · cases failed
          · rename_i present
            cases failed
            obtain ⟨rfl, long⟩ := (errno_of_walk_error walked).resolve_left present
            exact .mk (.inl long)
      | ok location =>
          rw [walked] at failed
          simp only at failed
          cases known : disk.entries location with
          | none =>
              rw [known] at failed
              cases failed
          | some entry =>
              rw [known] at failed
              cases failed

end Disk

end HelperKit
