import HelperKit.Proofs.Disk.Change
import HelperKit.Workspace

/-!
# Running operations

An operation takes a workspace to a result and another workspace.  Whatever it does
to the disk is in the journal: the disk afterwards is the disk before with the
effects of the run applied in order, and what was remembered stays remembered.
-/

namespace HelperKit

namespace Attempt

variable {ε δ α β : Type} {before after : Workspace}

/-! ## Results -/

theorem bind_apply (first : Attempt ε α) (next : α → Attempt ε β) (before : Workspace) :
    (first >>= next) before =
      match first before with
      | (.ok value, between) => next value between
      | (.error error, between) => (.error error, between) := by
  have unfolded : (first >>= next) before =
      (fun reached : Except ε α × Workspace => ExceptT.bindCont next reached.1 reached.2)
        (first before) := rfl
  rw [unfolded]
  cases first before with
  | mk result between => cases result <;> rfl

@[simp]
theorem pure_apply (value : α) (before : Workspace) :
    (pure value : Attempt ε α) before = (.ok value, before) := rfl

@[simp]
theorem throw_apply (error : ε) (before : Workspace) :
    (throw error : Attempt ε α) before = (.error error, before) := rfl

@[simp]
theorem disk_apply (before : Workspace) :
    (disk : Attempt ε Disk) before = (.ok before.disk, before) := rfl

@[simp]
theorem perform_apply (effect : Effect) (before : Workspace) :
    (perform effect : Attempt ε Unit) before = (.ok (), before.perform effect) := rfl

@[simp]
theorem note_apply (level : Level) (message : Text) (before : Workspace) :
    (note level message : Attempt ε Unit) before = (.ok (), before.note ⟨level, message⟩) := rfl

@[simp]
theorem outcome_apply (operation : Attempt δ α) (before : Workspace) :
    (outcome operation : Attempt ε (Except δ α)) before =
      (.ok (operation before).1, (operation before).2) := rfl

theorem mapError_apply (convert : δ → ε) (operation : Attempt δ α) (before : Workspace) :
    mapError convert operation before =
      ((operation before).1.mapError convert, (operation before).2) := by
  have unfolded : mapError convert operation before =
      (fun reached : Except δ α × Workspace => (reached.1.mapError convert, reached.2))
        (operation before) := rfl
  rw [unfolded]

/-- Two operations return a value when the first returns one with which the second
does. -/
theorem bind_eq_ok_iff {first : Attempt ε α} {next : α → Attempt ε β} {value : β} :
    (first >>= next) before = (.ok value, after) ↔
      ∃ found between, first before = (.ok found, between) ∧
        next found between = (.ok value, after) := by
  rw [bind_apply]
  constructor
  · intro returned
    split at returned
    · rename_i found between reached
      exact ⟨found, between, reached, returned⟩
    · cases returned
  · rintro ⟨found, between, reached, returned⟩
    rw [reached]
    exact returned

theorem mapError_eq_ok_iff {convert : δ → ε} {operation : Attempt δ α} {value : α} :
    mapError convert operation before = (.ok value, after) ↔
      operation before = (.ok value, after) := by
  rw [mapError_apply]
  cases operation before with
  | mk result between =>
      cases result with
      | ok found =>
          constructor
          · intro returned
            cases returned
            rfl
          · intro returned
            cases returned
            rfl
      | error error =>
          constructor
          · intro returned
            cases returned
          · intro returned
            cases returned

/-- Two operations fail when the first one does, or the second with what the first one
returned. -/
theorem bind_eq_error_iff {first : Attempt ε α} {next : α → Attempt ε β} {error : ε} :
    (first >>= next) before = (.error error, after) ↔
      first before = (.error error, after) ∨ ∃ found between,
        first before = (.ok found, between) ∧ next found between = (.error error, after) := by
  rw [bind_apply]
  constructor
  · intro failed
    split at failed
    · rename_i found between reached
      exact .inr ⟨found, between, reached, failed⟩
    · rename_i reached
      cases failed
      exact .inl reached
  · rintro (failed | ⟨found, between, reached, failed⟩)
    · rw [failed]
    · rw [reached]
      exact failed

theorem mapError_eq_error_iff {convert : δ → ε} {operation : Attempt δ α} {error : ε} :
    mapError convert operation before = (.error error, after) ↔
      ∃ original, operation before = (.error original, after) ∧ convert original = error := by
  rw [mapError_apply]
  constructor
  · intro failed
    cases reached : operation before with
    | mk result between =>
        rw [reached] at failed
        cases result with
        | ok value => cases failed
        | error original =>
            cases failed
            exact ⟨original, rfl, rfl⟩
  · rintro ⟨original, failed, rfl⟩
    rw [failed]
    rfl

theorem mapM_cons_eq_ok_iff {operation : α → Attempt ε β} {item : α} {items : List α}
    {values : List β} : (item :: items).mapM operation before = (.ok values, after) ↔
      ∃ value between rest, operation item before = (.ok value, between) ∧
        items.mapM operation between = (.ok rest, after) ∧ values = value :: rest := by
  rw [List.mapM_cons, bind_eq_ok_iff]
  constructor
  · rintro ⟨value, between, first, others⟩
    obtain ⟨rest, last, further, collected⟩ := bind_eq_ok_iff.mp others
    cases collected
    exact ⟨value, between, rest, first, further, rfl⟩
  · rintro ⟨value, between, rest, first, further, rfl⟩
    exact ⟨value, between, first, bind_eq_ok_iff.mpr ⟨rest, after, further, rfl⟩⟩

end Attempt

/-- A question to the disk changes nothing. -/
@[simp]
theorem Access.ask_apply {α : Type} (question : Disk → Except Fault α) (before : Workspace) :
    Access.ask question before = (question before.disk, before) := by
  unfold Access.ask
  rw [Attempt.bind_apply, Attempt.disk_apply]
  cases known : question before.disk <;> simp [Access.ask.liftExcept, known]

theorem Access.ask_eq_ok_iff {α : Type} {question : Disk → Except Fault α}
    {before after : Workspace} {value : α} :
    Access.ask question before = (.ok value, after) ↔
      question before.disk = .ok value ∧ after = before := by
  rw [ask_apply]
  constructor
  · intro answered
    exact ⟨congrArg Prod.fst answered, (congrArg Prod.snd answered).symm⟩
  · rintro ⟨answer, rfl⟩
    rw [answer]

/-! ## Accounts -/

/-- A workspace is reached from another one by effects. -/
structure Workspace.Reaches (before : Workspace) (effects : List Effect) (after : Workspace) :
    Prop where
  journal : after.journal = before.journal ++ effects
  disk : after.disk = before.disk.applyAll effects
  remembered : ∀ name text, before.cache.lookup name = some text →
    after.cache.lookup name = some text

namespace Workspace

variable {before between after : Workspace} {first second effects : List Effect}

theorem Reaches.refl (workspace : Workspace) : workspace.Reaches [] workspace where
  journal := by simp
  disk := rfl
  remembered := fun _ _ known => known

theorem Reaches.trans (start : before.Reaches first between)
    (rest : between.Reaches second after) : before.Reaches (first ++ second) after where
  journal := by rw [rest.journal, start.journal, List.append_assoc]
  disk := by rw [rest.disk, start.disk, Disk.applyAll_append]
  remembered := fun name text known => rest.remembered name text (start.remembered name text known)

theorem reaches_perform (workspace : Workspace) (effect : Effect) :
    workspace.Reaches [effect] (workspace.perform effect) where
  journal := rfl
  disk := rfl
  remembered := fun _ _ known => known

theorem reaches_note (workspace : Workspace) (record : LogRecord) :
    workspace.Reaches [] (workspace.note record) := by
  unfold note
  split
  · exact ⟨by simp, rfl, fun _ _ known => known⟩
  · exact Reaches.refl workspace

theorem Reaches.home (reaches : before.Reaches effects after) :
    after.disk.home = before.disk.home := by
  rw [reaches.disk, Disk.applyAll_home]

end Workspace

/-- Effects that can be carried out one after the other, each allowed on the disk that it
meets. -/
def Disk.Allows (allowed : Disk → Effect → Prop) : Disk → List Effect → Prop
  | _, [] => True
  | disk, effect :: effects => allowed disk effect ∧ Allows allowed (disk.apply effect) effects

namespace Disk

variable {allowed weaker : Disk → Effect → Prop} {disk : Disk} {first second effects : List Effect}

theorem allows_append : disk.Allows allowed (first ++ second) ↔
    disk.Allows allowed first ∧ (disk.applyAll first).Allows allowed second := by
  induction first generalizing disk with
  | nil => simp [Allows]
  | cons effect first induction => simp [Allows, induction, and_assoc]

theorem Allows.mono (allows : disk.Allows allowed effects)
    (weaken : ∀ disk effect, allowed disk effect → weaker disk effect) :
    disk.Allows weaker effects := by
  induction effects generalizing disk with
  | nil => trivial
  | cons effect effects induction => exact ⟨weaken _ _ allows.1, induction allows.2⟩

/-- Effects are also allowed otherwise, if an invariant that they keep makes them so. -/
theorem Allows.of_invariant (allows : disk.Allows allowed effects) (invariant : Disk → Prop)
    (initially : invariant disk)
    (step : ∀ disk effect, invariant disk → allowed disk effect →
      weaker disk effect ∧ invariant (disk.apply effect)) : disk.Allows weaker effects := by
  induction effects generalizing disk with
  | nil => trivial
  | cons effect effects induction =>
      have both := step disk effect initially allows.1
      exact ⟨both.1, induction allows.2 both.2⟩

/-- What every allowed effect keeps holds after all of them. -/
theorem Allows.applyAll (allows : disk.Allows allowed effects) (invariant : Disk → Prop)
    (initially : invariant disk)
    (step : ∀ disk effect, invariant disk → allowed disk effect → invariant (disk.apply effect)) :
    invariant (disk.applyAll effects) := by
  induction effects generalizing disk with
  | nil => exact initially
  | cons effect effects induction =>
      exact induction allows.2 (step disk effect initially allows.1)

/-- Where every allowed effect spares a location as long as that is as before, it stays
so. -/
theorem Allows.entries_eq {location : Location} (allows : disk.Allows allowed effects)
    (spares : ∀ other effect, other.home = disk.home →
      other.entries location = disk.entries location → allowed other effect →
        effect.Spares location) :
    (disk.applyAll effects).entries location = disk.entries location := by
  induction effects generalizing disk with
  | nil => rfl
  | cons effect effects induction =>
      have kept : (disk.apply effect).entries location = disk.entries location :=
        entries_apply_of_spares (spares disk effect rfl rfl allows.1)
      rw [applyAll_cons, ← kept]
      refine induction allows.2 fun other later home same permitted => ?_
      exact spares other later (home.trans (disk.apply_home effect)) (same.trans kept) permitted

/-- Where every location that a path leads through is spared, it leads to the same. -/
theorem Allows.status_eq {path : Path} (allows : disk.Allows allowed effects)
    (spares : ∀ station ∈ disk.reach path, ∀ other effect, other.home = disk.home →
      other.entries station = disk.entries station → allowed other effect →
        effect.Spares station) :
    (disk.applyAll effects).status path = disk.status path := by
  refine (status_congr (applyAll_home disk effects).symm fun station member => ?_).symm
  exact (allows.entries_eq (spares station member)).symm

/-- Effects that a sound disk admits keep it sound. -/
theorem Sound.applyAll (sound : disk.Sound)
    (allows : disk.Allows (fun disk effect => disk.Sound → disk.Admits effect) effects) :
    (disk.applyAll effects).Sound :=
  allows.applyAll Sound sound fun _ _ sound admits => sound.apply (admits sound)

end Disk

theorem Attempt.eq_of_fst {ε α : Type} {operation : Attempt ε α} {before : Workspace}
    {result : Except ε α} (ended : (operation before).1 = result) :
    operation before = (result, (operation before).2) :=
  Prod.ext ended rfl

theorem Attempt.disk_eq_of_note {ε : Type} {level : Level} {message : Text}
    {before after : Workspace}
    (noted : (Attempt.note level message : Attempt ε Unit) before = (.ok (), after)) :
    after.disk = before.disk := by
  cases noted
  exact (before.reaches_note _).disk

namespace Attempt

variable {ε δ α β : Type} {allowed : Disk → Effect → Prop}

/-- Whatever an operation does to the disk from a workspace on, it does by effects that
are allowed. -/
def ActsOn (allowed : Disk → Effect → Prop) (operation : Attempt ε α) (before : Workspace) :
    Prop :=
  ∃ effects, before.Reaches effects (operation before).2 ∧ before.disk.Allows allowed effects

/-- Whatever an operation does to the disk, it does by effects that are allowed. -/
def Acts (allowed : Disk → Effect → Prop) (operation : Attempt ε α) : Prop :=
  ∀ before, ActsOn allowed operation before

/-- An operation that is allowed nothing has no effect. -/
theorem Acts.reaches_nil {operation : Attempt ε α} (acts : Acts (fun _ _ => False) operation)
    (before : Workspace) : before.Reaches [] (operation before).2 := by
  obtain ⟨effects, reaches, allows⟩ := acts before
  cases effects with
  | nil => exact reaches
  | cons effect effects => exact allows.1.elim

/-- The second of two operations acts on what the first one left. -/
theorem actsOn_bind {first : Attempt ε α} {next : α → Attempt ε β} {before : Workspace}
    (firstActs : ActsOn allowed first before)
    (nextActs : ∀ value between, first before = (.ok value, between) →
      ActsOn allowed (next value) between) : ActsOn allowed (first >>= next) before := by
  obtain ⟨effects, reaches, allows⟩ := firstActs
  unfold ActsOn
  rw [bind_apply]
  cases reached : first before with
  | mk result between =>
      rw [reached] at reaches
      cases result with
      | error error => exact ⟨effects, reaches, allows⟩
      | ok value =>
          obtain ⟨more, further, moreAllows⟩ := nextActs value between reached
          refine ⟨effects ++ more, reaches.trans further, Disk.allows_append.mpr ⟨allows, ?_⟩⟩
          rw [← reaches.disk]
          exact moreAllows

theorem ActsOn.mapError {operation : Attempt δ α} {before : Workspace} (convert : δ → ε)
    (acts : ActsOn allowed operation before) :
    ActsOn allowed (Attempt.mapError convert operation) before := by
  unfold ActsOn
  rw [mapError_apply]
  exact acts

theorem acts_pure (value : α) : Acts allowed (pure value : Attempt ε α) :=
  fun before => ⟨[], .refl before, trivial⟩

theorem acts_throw (error : ε) : Acts allowed (throw error : Attempt ε α) :=
  fun before => ⟨[], .refl before, trivial⟩

theorem acts_note (level : Level) (message : Text) :
    Acts allowed (note level message : Attempt ε Unit) :=
  fun before => ⟨[], before.reaches_note _, trivial⟩

theorem acts_disk : Acts allowed (disk : Attempt ε Disk) :=
  fun before => ⟨[], .refl before, trivial⟩

theorem acts_ask (question : Disk → Except Fault α) : Acts allowed (Access.ask question) := by
  intro before
  unfold ActsOn
  rw [Access.ask_apply]
  exact ⟨[], .refl before, trivial⟩

theorem acts_bind {first : Attempt ε α} {next : α → Attempt ε β} (firstActs : Acts allowed first)
    (nextActs : ∀ value, Acts allowed (next value)) : Acts allowed (first >>= next) :=
  fun before => actsOn_bind (firstActs before) fun value between _ => nextActs value between

theorem acts_mapM {operation : α → Attempt ε β} {items : List α}
    (acts : ∀ item ∈ items, Acts allowed (operation item)) :
    Acts allowed (items.mapM operation) := by
  induction items with
  | nil => exact acts_pure []
  | cons item items induction =>
      rw [List.forall_mem_cons] at acts
      rw [List.mapM_cons]
      exact acts_bind acts.1 fun _ => acts_bind (induction acts.2) fun _ => acts_pure _

theorem acts_mapError {operation : Attempt δ α} (convert : δ → ε)
    (acts : Acts allowed operation) : Acts allowed (mapError convert operation) :=
  fun before => (acts before).mapError convert

theorem acts_outcome {operation : Attempt δ α} (acts : Acts allowed operation) :
    Acts allowed (outcome operation : Attempt ε (Except δ α)) := by
  intro before
  unfold ActsOn
  rw [outcome_apply]
  exact acts before

end Attempt

end HelperKit
