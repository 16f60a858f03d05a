import HelperKit.Proofs.Artifact.Calls

/-!
# Nothing looks at the log

An operation that is run from two states that are alike has the same result, and leaves states
that are alike.  For the operations on a workspace it is enough that the workspaces are alike in
all but their logs: nothing that was recorded has a part in what is done later.
-/

namespace HelperKit

section Respects

variable {ε σ α β : Type} {alike : σ → σ → Prop}

/-- From a state and one that is like it an operation comes to the same result, and leaves states
that are alike. -/
def RespectsAt (alike : σ → σ → Prop) (operation : ExceptT ε (StateM σ) α) (before : σ) :
    Prop :=
  ∀ ⦃other : σ⦄, alike before other →
    (operation before).1 = (operation other).1 ∧ alike (operation before).2 (operation other).2

/-- An operation that makes no difference between states that are alike. -/
def Respects (alike : σ → σ → Prop) (operation : ExceptT ε (StateM σ) α) : Prop :=
  ∀ ⦃before : σ⦄, RespectsAt alike operation before

theorem Respects.respectsAt {operation : ExceptT ε (StateM σ) α}
    (respects : Respects alike operation)
    (before : σ) : RespectsAt alike operation before :=
  @respects before

theorem respects_pure (value : α) : Respects alike (pure value : ExceptT ε (StateM σ) α) :=
  fun _ _ same => ⟨rfl, same⟩

theorem respects_throw (error : ε) : Respects alike (throw error : ExceptT ε (StateM σ) α) :=
  fun _ _ same => ⟨rfl, same⟩

/-- Two runs of an operation that have come to the same so far come to the same behind what is done
next. -/
theorem alike_bind {first : ExceptT ε (StateM σ) α} {next : α → ExceptT ε (StateM σ) β}
    {before other : σ} (results : (first before).1 = (first other).1)
    (states : alike (first before).2 (first other).2)
    (nextRespects : ∀ value between, first before = (.ok value, between) →
      RespectsAt alike (next value) between) :
    ((first >>= next) before).1 = ((first >>= next) other).1 ∧
      alike ((first >>= next) before).2 ((first >>= next) other).2 := by
  have unfolded : ∀ state, (first >>= next) state =
      (fun reached : Except ε α × σ => ExceptT.bindCont next reached.1 reached.2)
        (first state) := fun _ => rfl
  rw [unfolded, unfolded]
  cases reached : first before with
  | mk result between =>
      cases reachedToo : first other with
      | mk otherResult otherBetween =>
          rw [reached, reachedToo] at results states
          cases results
          cases result with
          | error error => exact ⟨rfl, states⟩
          | ok value => exact nextRespects value between reached states

theorem RespectsAt.bind {first : ExceptT ε (StateM σ) α} {next : α → ExceptT ε (StateM σ) β}
    {before : σ} (firstRespects : RespectsAt alike first before)
    (nextRespects : ∀ value between, first before = (.ok value, between) →
      RespectsAt alike (next value) between) : RespectsAt alike (first >>= next) before :=
  fun _ same => alike_bind (firstRespects same).1 (firstRespects same).2 nextRespects

theorem Respects.bind {first : ExceptT ε (StateM σ) α} {next : α → ExceptT ε (StateM σ) β}
    (firstRespects : Respects alike first) (nextRespects : ∀ value, Respects alike (next value)) :
    Respects alike (first >>= next) :=
  fun before => (firstRespects.respectsAt before).bind fun value between _ =>
    (nextRespects value).respectsAt between

theorem respects_mapM {operation : α → ExceptT ε (StateM σ) β}
    (respects : ∀ item, Respects alike (operation item)) (items : List α) :
    Respects alike (items.mapM operation) := by
  induction items with
  | nil => exact respects_pure []
  | cons item items induction =>
      rw [List.mapM_cons]
      exact (respects item).bind fun _ => induction.bind fun _ => respects_pure _

end Respects

/-- Workspaces that differ in their logs alone, and there only in how often a record occurs. -/
structure Workspace.DifferBy (record : LogRecord) (left right : Workspace) : Prop where
  disk : left.disk = right.disk
  journal : left.journal = right.journal
  threshold : left.threshold = right.threshold
  cache : left.cache = right.cache
  log : left.log.filter (· ≠ record) = right.log.filter (· ≠ record)

variable {ignored : LogRecord} {left right : Workspace} {ε δ α : Type}

namespace Workspace

theorem DifferBy.refl (workspace : Workspace) : workspace.DifferBy ignored workspace :=
  ⟨rfl, rfl, rfl, rfl, rfl⟩

theorem DifferBy.symm (differ : left.DifferBy ignored right) : right.DifferBy ignored left :=
  ⟨differ.disk.symm, differ.journal.symm, differ.threshold.symm, differ.cache.symm, differ.log.symm⟩

theorem DifferBy.trans {between : Workspace} (first : left.DifferBy ignored between)
    (second : between.DifferBy ignored right) : left.DifferBy ignored right where
  disk := first.disk.trans second.disk
  journal := first.journal.trans second.journal
  threshold := first.threshold.trans second.threshold
  cache := first.cache.trans second.cache
  log := first.log.trans second.log

theorem DifferBy.perform (differ : left.DifferBy ignored right) (effect : Effect) :
    (left.perform effect).DifferBy ignored (right.perform effect) where
  disk := congrArg (Disk.apply · effect) differ.disk
  journal := congrArg (· ++ [effect]) differ.journal
  threshold := differ.threshold
  cache := differ.cache
  log := differ.log

theorem DifferBy.note (differ : left.DifferBy ignored right) (record : LogRecord) :
    (left.note record).DifferBy ignored (right.note record) := by
  unfold Workspace.note
  rw [differ.threshold]
  split
  · refine ⟨differ.disk, differ.journal, rfl, differ.cache, ?_⟩
    rw [List.filter_append, List.filter_append, differ.log]
  · exact differ

/-- The record itself may be noted in one of the workspaces only. -/
theorem differBy_note (workspace : Workspace) :
    workspace.DifferBy ignored (workspace.note ignored) := by
  unfold Workspace.note
  split
  · refine ⟨rfl, rfl, rfl, rfl, ?_⟩
    rw [List.filter_append]
    simp
  · exact .refl workspace

end Workspace

/-- An operation that does not look at the log. -/
abbrev Attempt.Heedless (ignored : LogRecord) (operation : Attempt ε α) : Prop :=
  Respects (Workspace.DifferBy ignored) operation

open Attempt

namespace Attempt

theorem heedless_disk : (disk : Attempt ε Disk).Heedless ignored :=
  fun _ _ differ => ⟨congrArg Except.ok differ.disk, differ⟩

theorem heedless_perform (effect : Effect) : (perform effect : Attempt ε Unit).Heedless ignored :=
  fun _ _ differ => ⟨rfl, differ.perform effect⟩

theorem heedless_note (level : Level) (message : Text) :
    (note level message : Attempt ε Unit).Heedless ignored :=
  fun _ _ differ => ⟨rfl, differ.note ⟨level, message⟩⟩

theorem Heedless.outcome {operation : Attempt δ α} (heedless : operation.Heedless ignored) :
    (outcome operation : Attempt ε (Except δ α)).Heedless ignored := by
  intro before other differ
  obtain ⟨results, states⟩ := heedless differ
  exact ⟨congrArg Except.ok results, states⟩

theorem Heedless.mapError {operation : Attempt δ α} (heedless : operation.Heedless ignored)
    (convert : δ → ε) : (mapError convert operation).Heedless ignored := by
  intro before other differ
  obtain ⟨results, states⟩ := heedless differ
  rw [mapError_apply, mapError_apply]
  exact ⟨congrArg (Except.mapError convert) results, states⟩

end Attempt

namespace Access

theorem heedless_ask (question : Disk → Except Fault α) : (ask question).Heedless ignored := by
  intro before other differ
  rw [ask_apply, ask_apply]
  exact ⟨congrArg question differ.disk, differ⟩

theorem heedless_makeDirectory (path : Path) : (makeDirectory path).Heedless ignored :=
  (heedless_ask _).bind fun effect => heedless_perform effect

theorem heedless_provideDirectory (mayExist : Bool) (path : Path) :
    (provideDirectory mayExist path).Heedless ignored := by
  refine (heedless_makeDirectory path).outcome.bind fun result => ?_
  cases result with
  | ok => exact respects_pure ()
  | error fault =>
      unfold provideDirectory.accept
      cases fault with
      | system report =>
          simp only
          split
          · exact respects_throw _
          · split
            · refine (heedless_ask _).bind fun there => ?_
              split
              · exact respects_pure ()
              · exact respects_throw _
            · exact respects_throw _
      | embeddedNull => exact respects_throw _
      | unencodable => exact respects_throw _
      | tooDeep => exact respects_throw _

theorem heedless_provideAll (anchor : Anchor) (reversed : List Text) :
    ∀ mayExist missing, (provideAll anchor mayExist missing reversed).Heedless ignored := by
  induction reversed with
  | nil =>
      intro mayExist missing
      unfold provideAll
      exact heedless_provideDirectory mayExist _
  | cons part above induction =>
      intro mayExist missing
      unfold provideAll
      refine (heedless_provideDirectory mayExist _).outcome.bind fun result => ?_
      cases result with
      | ok => exact respects_pure ()
      | error fault =>
          cases fault with
          | system report =>
              simp only
              split
              · cases missing with
                | zero => exact respects_throw _
                | succ missing =>
                    exact (induction true missing).bind fun _ =>
                      heedless_provideDirectory mayExist _
              · exact respects_throw _
          | embeddedNull => exact respects_throw _
          | unencodable => exact respects_throw _
          | tooDeep => exact respects_throw _

theorem heedless_makeDirectories (mayExist : Bool) (path : Path) :
    (makeDirectories mayExist path).Heedless ignored :=
  heedless_provideAll path.anchor path.parts.reverse mayExist maximumMissing

theorem heedless_writeText (path : Path) (content : Text) :
    (writeText path content).Heedless ignored := by
  refine (heedless_ask _).bind fun location => ?_
  split
  · exact heedless_perform _
  · exact (heedless_perform _).bind fun _ => respects_throw _

theorem heedless_removeFile (path : Path) : (removeFile path).Heedless ignored :=
  (heedless_ask _).bind fun effect => heedless_perform effect

theorem heedless_removeTree (path : Path) : (removeTree path).Heedless ignored := by
  refine (heedless_ask _).bind fun (effect, remaining) => ?_
  refine (heedless_perform effect).bind fun _ => ?_
  cases remaining with
  | none => exact respects_pure ()
  | some fault => exact respects_throw fault

end Access

namespace Store

variable (store : Store)

theorem heedless_present : store.present.Heedless ignored :=
  (Access.heedless_ask _).mapError _

theorem heedless_members : store.members.Heedless ignored := by
  refine ((Access.heedless_ask _).mapError _).bind fun bytes => ?_
  split
  · exact respects_pure _
  · exact respects_throw _

theorem heedless_write (members : Members) : (store.write members).Heedless ignored :=
  Heedless.mapError ((Access.heedless_makeDirectories _ _).bind fun _ =>
    Access.heedless_writeText _ _) _

theorem heedless_load : store.load.Heedless ignored := by
  refine store.heedless_present.bind fun there => ?_
  split
  · refine store.heedless_members.bind fun members => ?_
    split
    · exact respects_throw _
    · exact (heedless_note _ _).bind fun _ => respects_pure _
    · exact respects_pure _
  · exact (heedless_note _ _).bind fun _ => respects_pure _

theorem heedless_save (project : Project) : (store.save project).Heedless ignored := by
  refine store.heedless_present.bind fun there => ?_
  split
  · exact store.heedless_members.bind fun members =>
      (store.heedless_write _).bind fun _ => heedless_note _ _
  · exact (respects_pure _).bind fun members =>
      (store.heedless_write _).bind fun _ => heedless_note _ _

theorem heedless_forget : store.forget.Heedless ignored := by
  refine store.heedless_present.bind fun there => ?_
  split
  · refine store.heedless_members.bind fun members => ?_
    split
    · simp only
      split
      · exact ((Access.heedless_removeFile _).mapError _).bind fun _ => heedless_note _ _
      · exact (store.heedless_write _).bind fun _ => heedless_note _ _
    · exact heedless_note _ _
  · exact heedless_note _ _

end Store

theorem Template.heedless_source (folder : TemplateFolder) (name : Text) :
    (Template.source folder name).Heedless ignored := by
  intro before other differ
  rw [source_apply, source_apply, differ.cache, differ.disk]
  cases other.cache.lookup name with
  | some text => exact ⟨rfl, differ⟩
  | none =>
      cases current folder other.disk name with
      | error failure => exact ⟨rfl, differ⟩
      | ok text => exact ⟨rfl, rfl, differ.journal, differ.threshold, rfl, differ.log⟩

namespace Site

variable {site : Site}

theorem heedless_render (project : Project) : (site.render project).Heedless ignored :=
  (respects_mapM (fun _ => Template.heedless_source _ _) _).bind fun _ => respects_pure _

theorem heedless_writeFile (path : Path) (content : Text) :
    (writeFile path content).Heedless ignored :=
  (Access.heedless_writeText path content).mapError _

theorem heedless_writeSingleFile (project : Project) :
    (site.writeSingleFile project).Heedless ignored := by
  have writes : (do
      let text ← site.render project
      writeFile (site.singleFile project) text
      note .info ("Wrote " ++ (site.singleFile project).toText)
      pure (site.singleFile project) : Job Path).Heedless ignored :=
    (heedless_render project).bind fun text => (heedless_writeFile _ text).bind fun _ =>
      (heedless_note _ _).bind fun _ => respects_pure _
  unfold writeSingleFile
  simp only
  split
  · exact (heedless_note _ _).bind fun _ => writes
  · exact writes

theorem heedless_writeFeature (project : Project) (feature : Feature) :
    (site.writeFeature project feature).Heedless ignored :=
  (Template.heedless_source _ _).bind fun text => (heedless_writeFile _ text).bind fun _ =>
    respects_pure _

theorem heedless_writeSplitFiles (project : Project) (replace : Bool) :
    (site.writeSplitFiles project replace).Heedless ignored := by
  have writes : (do
      let written ← project.features.mapM (site.writeFeature project)
      note .info ("Wrote " ++ Text.ofNat written.length ++ " file(s) to " ++
        (site.splitDirectory project).toText)
      pure written : Job (List Path)).Heedless ignored :=
    (respects_mapM (heedless_writeFeature project) _).bind fun _ =>
      (heedless_note _ _).bind fun _ => respects_pure _
  refine ((Access.heedless_ask _).mapError _).bind fun there => ?_
  split
  · split
    · exact (respects_throw _).bind fun _ => writes
    · exact writes
  · exact ((Access.heedless_makeDirectory _).mapError _).bind fun _ => writes

theorem heedless_materialize (project : Project) (replace : Bool) :
    (site.materialize project replace).Heedless ignored := by
  have writes : (site.writeArtifact project replace).Heedless ignored := by
    unfold writeArtifact
    split
    · exact (heedless_writeSingleFile project).bind fun _ => respects_pure _
    · exact heedless_writeSplitFiles project replace
  exact writes.bind fun _ => (site.store.heedless_save project).bind fun _ => respects_pure _

theorem heedless_recreateDirectory (path : Path) : (recreateDirectory path).Heedless ignored := by
  have clears : (clearDirectory path).Heedless ignored := by
    refine (Access.heedless_ask _).bind fun there => ?_
    split
    · exact (Access.heedless_removeTree path).bind fun _ =>
        Access.heedless_makeDirectories false path
    · exact Access.heedless_makeDirectories false path
  exact (clears.mapError _).bind fun _ => heedless_note _ _

theorem heedless_renew (project : Project) : (site.renew project).Heedless ignored := by
  have discarded : (discard (site.materialize project true) : Job PUnit) =
      site.materialize project true >>= fun _ => pure ⟨⟩ := rfl
  have writes : (discard (site.materialize project true) : Job PUnit).Heedless ignored := by
    rw [discarded]
    exact (heedless_materialize project true).bind fun _ => respects_pure _
  unfold renew
  split
  · exact (heedless_recreateDirectory _).bind fun _ => writes
  · exact writes

theorem heedless_delete (project : Project) : (site.delete project).Heedless ignored := by
  have removes : (site.removeArtifact project).Heedless ignored := by
    unfold removeArtifact
    split
    · exact Access.heedless_removeFile _
    · exact Access.heedless_removeTree _
  have forgets : ∀ removed, (do
      site.store.forget
      pure removed : Job Bool).Heedless ignored :=
    fun removed => site.store.heedless_forget.bind fun _ => respects_pure removed
  refine removes.outcome.bind fun result => ?_
  cases result with
  | ok => exact (respects_pure _).bind forgets
  | error fault =>
      simp only
      split
      · split
        · exact (heedless_note _ _).bind fun _ => (respects_pure _).bind forgets
        · exact (respects_throw _).bind forgets
      · exact (respects_throw _).bind forgets

theorem heedless_addFeatures (project : Project) (requested : List Feature) :
    (site.addFeatures project requested).Heedless ignored := by
  unfold addFeatures
  simp only
  split
  · exact (heedless_note _ _).bind fun _ => respects_pure _
  · exact (heedless_renew _).bind fun _ => respects_pure _

theorem heedless_answeredRemoval (project : Project) (dropped : List Feature)
    (answer : Except Failure Bool) :
    (site.answeredRemoval project dropped answer).Heedless ignored := by
  unfold answeredRemoval
  split
  · exact (heedless_note _ _).bind fun _ => respects_pure _
  · split
    · split
      · exact respects_throw _
      · exact (heedless_delete project).bind fun _ => respects_pure _
      · exact (heedless_note _ _).bind fun _ => respects_pure _
    · exact (heedless_renew _).bind fun _ => respects_pure _

end Site

/-- Calls do not look at the log. -/
theorem ArtifactCall.heedless_run (site : Site) (call : ArtifactCall) :
    (call.run site).Heedless ignored := by
  cases call with
  | materialize project replace =>
      exact (Site.heedless_materialize project replace).bind fun _ => respects_pure _
  | add project requested =>
      exact (Site.heedless_addFeatures project requested).bind fun _ => respects_pure _
  | remove project dropped answer =>
      rw [run_remove]
      exact (Site.heedless_answeredRemoval project dropped answer).bind fun _ => respects_pure _
  | delete project => exact (Site.heedless_delete project).bind fun _ => respects_pure _

end HelperKit
