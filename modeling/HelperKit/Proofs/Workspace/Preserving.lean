import HelperKit.Proofs.Workspace.Operation
import HelperKit.Settings

/-!
# What operations preserve

A property of the state that every part of an operation preserves is preserved by the whole,
whether it returns or not.  What the file system is asked preserves every property of
a workspace that effects and log records leave alone.
-/

namespace HelperKit

section Preserves

variable {ε σ α β : Type} {kept : σ → Prop}

/-- An operation never loses a property of the state. -/
def Preserves (kept : σ → Prop) (operation : ExceptT ε (StateM σ) α) : Prop :=
  ∀ before, kept before → kept (operation before).2

theorem preserves_pure (value : α) : Preserves kept (pure value : ExceptT ε (StateM σ) α) :=
  fun _ holds => holds

theorem preserves_throw (error : ε) : Preserves kept (throw error : ExceptT ε (StateM σ) α) :=
  fun _ holds => holds

theorem preserves_bind {first : ExceptT ε (StateM σ) α} {next : α → ExceptT ε (StateM σ) β}
    (firstKeeps : Preserves kept first) (nextKeeps : ∀ value, Preserves kept (next value)) :
    Preserves kept (first >>= next) := by
  intro before holds
  have between := firstKeeps before holds
  have unfolded : (first >>= next) before =
      (fun reached : Except ε α × σ => ExceptT.bindCont next reached.1 reached.2)
        (first before) := rfl
  rw [unfolded]
  cases reached : first before with
  | mk result rest =>
      rw [reached] at between
      cases result with
      | error error => exact between
      | ok value => exact nextKeeps value rest between

theorem preserves_mapM {operation : α → ExceptT ε (StateM σ) β} {items : List α}
    (keeps : ∀ item ∈ items, Preserves kept (operation item)) :
    Preserves kept (items.mapM operation) := by
  induction items with
  | nil => exact preserves_pure []
  | cons item items induction =>
      rw [List.forall_mem_cons] at keeps
      rw [List.mapM_cons]
      exact preserves_bind keeps.1 fun _ => preserves_bind (induction keeps.2) fun _ =>
        preserves_pure _

end Preserves

/-- A property of a workspace that effects and log records leave alone. -/
structure Workspace.Steady (kept : Workspace → Prop) : Prop where
  perform : ∀ workspace effect, kept workspace → kept (workspace.perform effect)
  note : ∀ workspace record, kept workspace → kept (workspace.note record)

variable {ε δ α : Type} {kept : Workspace → Prop}

namespace Attempt

theorem preserves_mapError {operation : Attempt δ α} (convert : δ → ε)
    (keeps : Preserves kept operation) : Preserves kept (mapError convert operation) := by
  intro before holds
  rw [mapError_apply]
  exact keeps before holds

theorem preserves_outcome {operation : Attempt δ α} (keeps : Preserves kept operation) :
    Preserves kept (outcome operation : Attempt ε (Except δ α)) := by
  intro before holds
  rw [outcome_apply]
  exact keeps before holds

theorem preserves_note (steady : Workspace.Steady kept) (level : Level) (message : Text) :
    Preserves kept (note level message : Attempt ε Unit) :=
  fun before holds => steady.note before _ holds

theorem preserves_perform (steady : Workspace.Steady kept) (effect : Effect) :
    Preserves kept (perform effect : Attempt ε Unit) :=
  fun before holds => steady.perform before effect holds

end Attempt

namespace Access

open Attempt

theorem preserves_ask (question : Disk → Except Fault α) : Preserves kept (ask question) := by
  intro before holds
  rw [ask_apply]
  exact holds

variable (steady : Workspace.Steady kept)

include steady

theorem preserves_provideDirectory (mayExist : Bool) (path : Path) :
    Preserves kept (provideDirectory mayExist path) := by
  have makes : Preserves kept (makeDirectory path) :=
    preserves_bind (preserves_ask _) fun effect => preserves_perform steady effect
  refine preserves_bind (preserves_outcome makes) fun result => ?_
  cases result with
  | ok => exact preserves_pure ()
  | error fault =>
      unfold provideDirectory.accept
      cases fault with
      | system report =>
          simp only
          split
          · exact preserves_throw _
          · split
            · refine preserves_bind (preserves_ask _) fun there => ?_
              split
              · exact preserves_pure ()
              · exact preserves_throw _
            · exact preserves_throw _
      | embeddedNull => exact preserves_throw _
      | unencodable => exact preserves_throw _
      | tooDeep => exact preserves_throw _

theorem preserves_provideAll (anchor : Anchor) (reversed : List Text) :
    ∀ mayExist missing, Preserves kept (provideAll anchor mayExist missing reversed) := by
  induction reversed with
  | nil =>
      intro mayExist missing
      unfold provideAll
      exact preserves_provideDirectory steady mayExist _
  | cons part above induction =>
      intro mayExist missing
      unfold provideAll
      refine preserves_bind
        (preserves_outcome (preserves_provideDirectory steady mayExist _)) fun result => ?_
      cases result with
      | ok => exact preserves_pure ()
      | error fault =>
          cases fault with
          | system report =>
              simp only
              split
              · cases missing with
                | zero => exact preserves_throw _
                | succ missing =>
                    exact preserves_bind (induction true missing) fun _ =>
                      preserves_provideDirectory steady mayExist _
              · exact preserves_throw _
          | embeddedNull => exact preserves_throw _
          | unencodable => exact preserves_throw _
          | tooDeep => exact preserves_throw _

theorem preserves_makeDirectories (mayExist : Bool) (path : Path) :
    Preserves kept (makeDirectories mayExist path) :=
  preserves_provideAll steady path.anchor path.parts.reverse mayExist maximumMissing

theorem preserves_writeText (path : Path) (content : Text) :
    Preserves kept (writeText path content) := by
  refine preserves_bind (preserves_ask _) fun location => ?_
  split
  · exact preserves_perform steady _
  · exact preserves_bind (preserves_perform steady _) fun _ => preserves_throw _

theorem preserves_removeTree (path : Path) : Preserves kept (removeTree path) := by
  refine preserves_bind (preserves_ask _) fun (effect, remaining) => ?_
  refine preserves_bind (preserves_perform steady effect) fun _ => ?_
  cases remaining with
  | none => exact preserves_pure ()
  | some fault => exact preserves_throw fault

end Access

namespace Store

open Attempt

variable (store : Store)

theorem preserves_present : Preserves kept store.present :=
  preserves_mapError _ (Access.preserves_ask _)

theorem preserves_members : Preserves kept store.members := by
  refine preserves_bind (preserves_mapError _ (Access.preserves_ask _)) fun bytes => ?_
  split
  · exact preserves_pure _
  · exact preserves_throw _

variable (steady : Workspace.Steady kept)

include steady

theorem preserves_load : Preserves kept store.load := by
  refine preserves_bind store.preserves_present fun there => ?_
  split
  · refine preserves_bind store.preserves_members fun members => ?_
    split
    · exact preserves_throw _
    · exact preserves_bind (preserves_note steady _ _) fun _ => preserves_pure _
    · exact preserves_pure _
  · exact preserves_bind (preserves_note steady _ _) fun _ => preserves_pure _

theorem preserves_save (project : Project) : Preserves kept (store.save project) := by
  have writes : ∀ members, Preserves kept (store.write members) := fun members =>
    preserves_mapError _ (preserves_bind (Access.preserves_makeDirectories steady _ _) fun _ =>
      Access.preserves_writeText steady _ _)
  refine preserves_bind store.preserves_present fun there => ?_
  split
  · exact preserves_bind store.preserves_members fun members =>
      preserves_bind (writes _) fun _ => preserves_note steady _ _
  · exact preserves_bind (preserves_pure _) fun members =>
      preserves_bind (writes _) fun _ => preserves_note steady _ _

end Store

end HelperKit
