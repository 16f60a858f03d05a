import HelperKit.Proofs.Settings.Document

/-!
# What a store does

A store that returns has read the members that the document stands for.  Saving and
forgetting write what becomes of these members, and loading only looks.
-/

namespace HelperKit

/-- An effect of keeping the document at a path: a directory on the way to it is
created, or the document is removed or written with bytes of a certain kind. -/
inductive Disk.Keeps (path : Path) (written : ByteArray → Prop) (disk : Disk) : Effect → Prop where
  | way {names : List Text} {effect : Effect} (shorter : names <+: path.parts.dropLast)
      (making : disk.makingDirectory ⟨path.anchor, names⟩ = .ok effect) :
      Keeps path written disk effect
  | write {location : Location} {bytes : ByteArray}
      (opening : disk.openingFile path = .ok location) (fitting : written bytes) :
      Keeps path written disk (.writeFile location bytes)
  | remove {effect : Effect} (removing : disk.removingFile path = .ok effect) :
      Keeps path written disk effect

namespace Disk

variable {disk : Disk} {path : Path} {written : ByteArray → Prop} {effect : Effect}
  {effects : List Effect} {location : Location}

theorem Keeps.admits (keeps : disk.Keeps path written effect) (sound : disk.Sound) :
    disk.Admits effect := by
  cases keeps with
  | way shorter making => exact sound.admits_makingDirectory making
  | write opening fitting => exact sound.admits_openingFile opening _
  | remove removing => exact Sound.admits_removingFile removing

theorem Keeps.location_mem_reach (keeps : disk.Keeps path written effect) :
    effect.location ∈ disk.reach path := by
  cases keeps with
  | way shorter making =>
      obtain ⟨-, -, -, rfl⟩ := makingDirectory_eq_ok making
      exact target_mem_reach_of_prefix disk (shorter.trans (List.dropLast_prefix _))
  | write opening fitting =>
      obtain ⟨-, rfl, -⟩ := openingFile_eq_ok opening
      exact target_mem_reach disk path
  | remove removing =>
      obtain ⟨-, -, rfl⟩ := removingFile_eq_ok removing
      exact target_mem_reach disk path

theorem Keeps.spares_of_ne (keeps : disk.Keeps path written effect)
    (differ : location ≠ effect.location) : effect.Spares location := by
  refine ⟨fun removes => ?_, fun _ => differ⟩
  cases keeps with
  | way shorter making =>
      obtain ⟨-, -, -, rfl⟩ := makingDirectory_eq_ok making
      cases removes
  | write opening fitting => cases removes
  | remove removing =>
      obtain ⟨-, -, rfl⟩ := removingFile_eq_ok removing
      exact differ removes

/-- Keeping a document leaves what its path does not lead through as it is. -/
theorem Keeps.spares (keeps : disk.Keeps path written effect) (outside : location ∉ disk.reach path) :
    effect.Spares location := by
  refine keeps.spares_of_ne ?_
  rintro rfl
  exact outside keeps.location_mem_reach

theorem Keeps.spares_of_directory (keeps : disk.Keeps path written effect)
    (directory : disk.entries location = some .directory) : effect.Spares location := by
  have differ : location ≠ effect.location := by
    rintro rfl
    cases keeps with
    | way shorter making =>
        obtain ⟨-, -, vacant, rfl⟩ := makingDirectory_eq_ok making
        simp [Effect.location, vacant] at directory
    | write opening fitting =>
        obtain ⟨-, rfl, noDirectory, -⟩ := openingFile_eq_ok opening
        exact noDirectory directory
    | remove removing =>
        obtain ⟨-, ⟨bytes, file⟩, rfl⟩ := removingFile_eq_ok removing
        simp [Effect.location, file] at directory
  exact keeps.spares_of_ne differ

/-- A path that is open leads to the same while a document is kept that does not lead
through its target. -/
theorem Allows.status_eq_of_keeps {other : Path}
    (allows : disk.Allows (Keeps path written) effects) (opens : disk.Opens other)
    (outside : disk.target other ∉ disk.reach path) :
    (disk.applyAll effects).status other = disk.status other := by
  refine allows.status_eq fun station reached later effect home same keeps => ?_
  rcases mem_reach_iff.mp reached with onTheWay | rfl
  · exact keeps.spares_of_directory (same.trans (opens.passable station onTheWay))
  · rw [← reach_congr home] at outside
    exact keeps.spares outside

theorem Keeps.spares_of_file {bytes : ByteArray} (keeps : disk.Keeps path written effect)
    (file : disk.entries location = some (.file bytes)) (elsewhere : location ≠ disk.target path) :
    effect.Spares location := by
  have differ : location ≠ effect.location := by
    rintro rfl
    cases keeps with
    | way shorter making =>
        obtain ⟨-, -, vacant, rfl⟩ := makingDirectory_eq_ok making
        simp [Effect.location, vacant] at file
    | write opening fitting =>
        obtain ⟨-, rfl, -⟩ := openingFile_eq_ok opening
        exact elsewhere rfl
    | remove removing =>
        obtain ⟨-, -, rfl⟩ := removingFile_eq_ok removing
        exact elsewhere rfl
  exact keeps.spares_of_ne differ

theorem Allows.read_eq_of_keeps {other : Path} {bytes : ByteArray}
    (allows : disk.Allows (Keeps path written) effects) (read : disk.read other = .ok bytes)
    (elsewhere : disk.target other ≠ disk.target path) :
    (disk.applyAll effects).read other = .ok bytes := by
  obtain ⟨opens, file⟩ := read_eq_ok_iff.mp read
  have same : (disk.applyAll effects).status other = disk.status other := by
    refine allows.status_eq fun station reached later effect home kept keeps => ?_
    rcases mem_reach_iff.mp reached with onTheWay | rfl
    · exact keeps.spares_of_directory (kept.trans (opens.passable station onTheWay))
    · refine keeps.spares_of_file (kept.trans file) ?_
      rw [show later.target path = disk.target path from target_congr home]
      exact elsewhere
  rw [Disk.read, same, ← Disk.read]
  exact read

end Disk

namespace Store

open Attempt Disk

variable {store : Store} {before after : Workspace} {members : Members} {project : Project}

/-! ## Reading -/

theorem present_eq_ok_iff {there : Bool} : store.present before = (.ok there, after) ↔
    before.disk.isFile store.path = .ok there ∧ after = before := by
  rw [present, mapError_eq_ok_iff, Access.ask_eq_ok_iff]

theorem decode_eq_ok_iff {bytes : ByteArray} :
    store.decode bytes = .ok members ↔ Members.ofFile? bytes = some members := by
  unfold decode Members.ofFile?
  cases Text.ofFile? bytes with
  | none => simp
  | some characters =>
      simp only [Option.map_some]
      cases Json.ofDocument characters with
      | error refusal => cases refusal <;> simp
      | ok json => cases json <;> simp

theorem members_eq_ok_iff : store.members before = (.ok members, after) ↔
    (∃ bytes, before.disk.read store.path = .ok bytes ∧
      Members.ofFile? bytes = some members) ∧ after = before := by
  unfold Store.members
  rw [bind_eq_ok_iff]
  constructor
  · rintro ⟨bytes, between, asked, decoded⟩
    obtain ⟨read, rfl⟩ := Access.ask_eq_ok_iff.mp (mapError_eq_ok_iff.mp asked)
    cases known : store.decode bytes with
    | error failure =>
        rw [known] at decoded
        cases decoded
    | ok found =>
        rw [known] at decoded
        cases decoded
        exact ⟨⟨bytes, read, decode_eq_ok_iff.mp known⟩, rfl⟩
  · rintro ⟨⟨bytes, read, known⟩, rfl⟩
    refine ⟨bytes, after, mapError_eq_ok_iff.mpr (Access.ask_eq_ok_iff.mpr ⟨read, rfl⟩), ?_⟩
    rw [decode_eq_ok_iff.mpr known]
    rfl

/-- The members that the document stands for. -/
def standing (store : Store) : Job Members := do
  if ← store.present then store.members else pure []

theorem standing_eq_ok (returned : store.standing before = (.ok members, after)) :
    before.disk.Holds store.path members ∧ after = before := by
  obtain ⟨there, between, asked, read⟩ := bind_eq_ok_iff.mp returned
  obtain ⟨answered, rfl⟩ := present_eq_ok_iff.mp asked
  cases there with
  | true =>
      obtain ⟨known, rfl⟩ := members_eq_ok_iff.mp read
      exact ⟨.inr known, rfl⟩
  | false =>
      cases read
      exact ⟨.inl ⟨by simp [answered], rfl⟩, rfl⟩

theorem acts_present {allowed : Disk → Effect → Prop} : Acts allowed store.present :=
  acts_mapError _ (acts_ask _)

theorem acts_members {allowed : Disk → Effect → Prop} : Acts allowed store.members := by
  refine acts_bind (acts_mapError _ (acts_ask _)) fun bytes => ?_
  cases store.decode bytes with
  | error failure => exact acts_throw _
  | ok members => exact acts_pure _

theorem acts_standing {allowed : Disk → Effect → Prop} : Acts allowed store.standing := by
  refine acts_bind acts_present fun there => ?_
  cases there with
  | true => exact acts_members
  | false => exact acts_pure []

theorem acts_load {allowed : Disk → Effect → Prop} : Acts allowed store.load := by
  refine acts_bind acts_present fun there => ?_
  cases there with
  | false => exact acts_bind (acts_note _ _) fun _ => acts_pure _
  | true =>
      refine acts_bind acts_members fun members => ?_
      cases store.projectIn members with
      | error failure => exact acts_throw _
      | ok found =>
          cases found with
          | none => exact acts_bind (acts_note _ _) fun _ => acts_pure _
          | some project => exact acts_pure _

/-- Loading tells what the record of this tool is, and changes nothing. -/
theorem load_of_holds {there : Bool} (holds : before.disk.Holds store.path members)
    (answered : before.disk.isFile store.path = .ok there) :
    (store.load before).1 = store.projectIn members ∧
      before.Reaches [] (store.load before).2 := by
  have asked := present_eq_ok_iff.mpr ⟨answered, rfl⟩
  unfold load
  rw [bind_apply, asked]
  cases there with
  | true =>
      have known := holds.read_of_isFile answered
      have read := members_eq_ok_iff.mpr ⟨known, rfl⟩
      simp only [if_true]
      rw [bind_apply, read]
      simp only
      cases store.projectIn members with
      | error failure => exact ⟨rfl, .refl before⟩
      | ok found =>
          cases found with
          | none => exact ⟨rfl, before.reaches_note _⟩
          | some project => exact ⟨rfl, .refl before⟩
  | false =>
      obtain ⟨-, rfl⟩ | ⟨bytes, read, -⟩ := holds
      · exact ⟨rfl, before.reaches_note _⟩
      · have file := isFile_eq_true_iff_read.mpr ⟨bytes, read⟩
        rw [answered] at file
        cases file

theorem load_eq_ok {found : Option Project} (returned : store.load before = (.ok found, after)) :
    ∃ members, before.disk.Holds store.path members ∧ store.projectIn members = .ok found ∧
      before.Reaches [] after := by
  have answered : ∃ there, before.disk.isFile store.path = .ok there := by
    unfold load at returned
    obtain ⟨there, between, asked, -⟩ := bind_eq_ok_iff.mp returned
    exact ⟨there, (present_eq_ok_iff.mp asked).1⟩
  obtain ⟨there, answered⟩ := answered
  have holds : ∃ members, before.disk.Holds store.path members := by
    cases there with
    | false => exact ⟨[], .inl ⟨by simp [answered], rfl⟩⟩
    | true =>
        have asked := present_eq_ok_iff.mpr ⟨answered, rfl⟩
        unfold load at returned
        rw [bind_apply, asked] at returned
        obtain ⟨members, between, read, -⟩ := bind_eq_ok_iff.mp returned
        exact ⟨members, .inr (members_eq_ok_iff.mp read).1⟩
  obtain ⟨members, holds⟩ := holds
  have loaded := load_of_holds holds answered
  rw [returned] at loaded
  exact ⟨members, holds, loaded.1.symm, loaded.2⟩

/-- What is loaded depends on what the path of the document leads to. -/
theorem load_of_status (same : after.disk.status store.path = before.disk.status store.path) :
    (store.load after).1 = (store.load before).1 := by
  have sameTest : after.disk.isFile store.path = before.disk.isFile store.path := by
    rw [isFile, isFile, test, test, same]
  have sameRead : after.disk.read store.path = before.disk.read store.path := by
    rw [Disk.read, Disk.read, same]
  unfold load present Store.members
  rw [bind_apply, bind_apply, mapError_apply, mapError_apply, Access.ask_apply, Access.ask_apply,
    sameTest]
  cases before.disk.isFile store.path with
  | error fault => rfl
  | ok there =>
      cases there with
      | false => rfl
      | true =>
          simp only [Except.mapError, if_true]
          rw [bind_apply, bind_apply, bind_apply, bind_apply, mapError_apply, mapError_apply,
            Access.ask_apply, Access.ask_apply, sameRead]
          cases before.disk.read store.path with
          | error fault => rfl
          | ok bytes =>
              simp only [Except.mapError]
              cases store.decode bytes with
              | error failure => rfl
              | ok members =>
                  simp only [pure_apply]
                  cases store.projectIn members with
                  | error failure => rfl
                  | ok found => cases found <;> rfl

theorem load_congr (same : after.disk = before.disk) :
    (store.load after).1 = (store.load before).1 :=
  load_of_status (by rw [same])

theorem load_on (store : Store) (before : Workspace) :
    (store.load (.on before.disk .warning)).1 = (store.load before).1 :=
  load_congr rfl

/-! ## Writing -/

theorem acts_write {written : ByteArray → Prop} (members : Members) (empty : written .empty)
    (whole : ∀ bytes, (Json.object members).toDocument.encode? = some bytes → written bytes) :
    Acts (Keeps store.path written) (store.write members) := by
  refine acts_mapError _ (acts_bind ?_ fun _ => ?_)
  · exact Access.acts_makeDirectories true fun disk names effect shorter making =>
      .way shorter making
  · refine Access.acts_writeText _ fun disk location bytes opening content => ?_
    rcases content with encoded | rfl
    · exact .write opening (whole bytes encoded)
    · exact .write opening empty

theorem write_eq_ok (returned : store.write members before = (.ok (), after)) :
    ∃ (between : Workspace) (bytes : ByteArray), (Json.object members).toDocument.encode? = some bytes ∧
      between.disk.openingFile store.path = .ok (between.disk.target store.path) ∧
      after = between.perform (.writeFile (between.disk.target store.path) bytes) := by
  have written := mapError_eq_ok_iff.mp returned
  obtain ⟨_, between, -, text⟩ := bind_eq_ok_iff.mp written
  obtain ⟨location, bytes, opening, encoded, rfl⟩ := Access.writeText_eq_ok text
  obtain ⟨-, rfl, -⟩ := openingFile_eq_ok opening
  exact ⟨between, bytes, encoded, opening, rfl⟩

theorem not_making_of_opens {disk : Disk} {path : Path} {names : List Text} {effect : Effect}
    (opens : disk.Opens path) (shorter : names <+: path.parts.dropLast) :
    disk.makingDirectory ⟨path.anchor, names⟩ ≠ .ok effect := by
  intro making
  obtain ⟨-, named, vacant, -⟩ := makingDirectory_eq_ok making
  have nonempty : path.parts ≠ [] := by
    intro empty
    rw [empty] at shorter
    exact named (List.prefix_nil.mp shorter)
  have onTheWay : disk.target ⟨path.anchor, names⟩ ∈ disk.ways path := by
    have reached : disk.target ⟨path.parent.anchor, names⟩ ∈ disk.reach path.parent :=
      target_mem_reach_of_prefix disk shorter
    rw [ways_eq_reach_parent nonempty]
    exact reached
  rw [opens.passable _ onTheWay] at vacant
  cases vacant

/-- A document that is there is written in its place. -/
theorem write_in_place (present : before.disk.isFile store.path = .ok true)
    (returned : store.write members before = (.ok (), after)) :
    ∃ bytes, (Json.object members).toDocument.encode? = some bytes ∧
      before.Reaches [.writeFile (before.disk.target store.path) bytes] after := by
  have written := mapError_eq_ok_iff.mp returned
  obtain ⟨_, between, provided, text⟩ := bind_eq_ok_iff.mp written
  have acts : Acts (fun disk effect => ∃ names, names <+: store.path.parts.dropLast ∧
      disk.makingDirectory ⟨store.path.anchor, names⟩ = .ok effect)
      (Access.makeDirectories true store.path.parent) :=
    Access.acts_makeDirectories true fun disk names effect shorter making =>
      ⟨names, shorter, making⟩
  obtain ⟨made, reaches, allows⟩ := acts before
  rw [provided] at reaches
  obtain ⟨location, bytes, opening, encoded, rfl⟩ := Access.writeText_eq_ok text
  obtain ⟨-, rfl, -⟩ := openingFile_eq_ok opening
  have opens := (isFile_eq_true_iff.mp present).1
  cases made with
  | cons effect made =>
      obtain ⟨names, shorter, making⟩ := allows.1
      exact absurd making (not_making_of_opens opens shorter)
  | nil =>
      refine ⟨bytes, encoded, ?_⟩
      rw [← target_congr reaches.home]
      exact reaches.trans (between.reaches_perform _)

theorem holds_of_write (storable : members.Storable)
    (returned : store.write members before = (.ok (), after)) :
    ∃ bytes, after.disk.read store.path = .ok bytes ∧
      Members.ofFile? bytes = some members := by
  obtain ⟨between, bytes, encoded, opening, rfl⟩ := write_eq_ok returned
  exact ⟨bytes, read_apply_writeFile opening, Members.ofFile?_toDocument storable encoded⟩

/-! ## Records -/

/-- The project whose record the bytes of a document hold. -/
def recordOf? (store : Store) (bytes : ByteArray) : Option Project :=
  match (Members.ofFile? bytes).map store.projectIn with
  | some (.ok found) => found
  | _ => none

theorem recordOf?_of_ofFile? {bytes : ByteArray} {found : Option Project}
    (read : Members.ofFile? bytes = some members) (verdict : store.projectIn members = .ok found) :
    store.recordOf? bytes = found := by
  simp only [recordOf?, read, Option.map_some, verdict]

theorem recordOf?_empty : store.recordOf? .empty = none := by
  have unread : Members.ofFile? .empty = none := by decide +kernel
  simp only [recordOf?, unread, Option.map_none]

theorem projectIn_put :
    store.projectIn (members.put store.key project.toRecord) = .ok (some project) := by
  simp only [projectIn, Members.get?_put_self, Project.ofRecord_toRecord]

theorem projectIn_eq_error_iff {failure : Failure} :
    store.projectIn members = .error failure ↔ ∃ record complaints,
      members.get? store.key = some record ∧ Project.ofRecord record = .error complaints ∧
        failure = store.invalid (.rejected complaints.length) := by
  unfold projectIn
  cases members.get? store.key with
  | none => simp
  | some record => cases known : Project.ofRecord record <;> simp [known, eq_comm]

theorem projectIn_eq_none_iff :
    store.projectIn members = .ok none ↔ members.get? store.key = none := by
  unfold projectIn
  cases members.get? store.key with
  | none => simp
  | some record => cases known : Project.ofRecord record <;> simp [known]

theorem projectIn_eq_some_iff :
    store.projectIn members = .ok (some project) ↔ ∃ record,
      members.get? store.key = some record ∧ Project.ofRecord record = .ok project := by
  unfold projectIn
  cases members.get? store.key with
  | none => simp
  | some record => cases known : Project.ofRecord record <;> simp [known]

theorem projectIn_of_absent (absent : members.get? store.key = none) :
    store.projectIn members = .ok none :=
  projectIn_eq_none_iff.mpr absent

/-! ## Saving -/

theorem save_eq (store : Store) (project : Project) :
    store.save project = store.standing >>= fun members =>
      store.write (members.put store.key project.toRecord) >>= fun _ =>
        note .debug ("Saved " ++ store.key ++ " to " ++ store.path.toText) := by
  funext before
  unfold save standing
  rw [bind_apply, bind_apply, bind_apply]
  cases store.present before with
  | mk result between =>
      cases result with
      | error failure => rfl
      | ok there =>
          cases there with
          | true => exact bind_apply _ _ between
          | false => rfl

/-- Saving keeps the document, which never holds another record then than the one that is
saved. -/
theorem acts_save (store : Store) (project : Project) : Acts (Keeps store.path fun bytes =>
    store.recordOf? bytes = none ∨ store.recordOf? bytes = some project) (store.save project) := by
  intro before
  rw [save_eq]
  refine actsOn_bind (acts_standing before) fun members between read => ?_
  obtain ⟨holds, rfl⟩ := standing_eq_ok read
  refine actsOn_bind (acts_write _ (.inl recordOf?_empty) ?_ between) fun _ after _ =>
    acts_note _ _ after
  intro bytes encoded
  have stored := Members.ofFile?_toDocument (holds.storable.put store.key project) encoded
  exact .inr (recordOf?_of_ofFile? stored projectIn_put)

theorem save_eq_ok (returned : store.save project before = (.ok (), after)) :
    ∃ members, before.disk.Holds store.path members ∧ ∃ bytes,
      after.disk.read store.path = .ok bytes ∧
        Members.ofFile? bytes = some (members.put store.key project.toRecord) := by
  rw [save_eq] at returned
  obtain ⟨members, between, read, saved⟩ := bind_eq_ok_iff.mp returned
  obtain ⟨holds, rfl⟩ := standing_eq_ok read
  obtain ⟨_, written, writing, noted⟩ := bind_eq_ok_iff.mp saved
  obtain ⟨bytes, known, stored⟩ := holds_of_write (holds.storable.put _ _) writing
  rw [disk_eq_of_note noted]
  exact ⟨members, holds, bytes, known, stored⟩

/-- A document that can be read is written in its place when a project is saved, and nothing
else changes. -/
theorem save_in_place {bytes : ByteArray} (read : before.disk.read store.path = .ok bytes)
    (known : Members.ofFile? bytes = some members)
    (returned : store.save project before = (.ok (), after)) :
    ∃ content,
      (Json.object (members.put store.key project.toRecord)).toDocument.encode? = some content ∧
        after.disk = before.disk.apply (.writeFile (before.disk.target store.path) content) := by
  rw [save_eq] at returned
  obtain ⟨found, between, standing, saved⟩ := bind_eq_ok_iff.mp returned
  obtain ⟨holds, rfl⟩ := standing_eq_ok standing
  cases holds.unique (.inr ⟨bytes, read, known⟩)
  obtain ⟨_, written, writing, noted⟩ := bind_eq_ok_iff.mp saved
  obtain ⟨content, encoded, reaches⟩ :=
    write_in_place (isFile_eq_true_iff_read.mpr ⟨bytes, read⟩) writing
  exact ⟨content, encoded, (disk_eq_of_note noted).trans reaches.disk⟩

/-! ## Forgetting -/

/-- Forgetting keeps the document, which never holds a record then. -/
theorem acts_forget (store : Store) :
    Acts (Keeps store.path fun bytes => store.recordOf? bytes = none) store.forget := by
  intro before
  unfold forget
  refine actsOn_bind (acts_present before) fun there between asked => ?_
  obtain ⟨answered, rfl⟩ := present_eq_ok_iff.mp asked
  cases there with
  | false => exact acts_note _ _ between
  | true =>
      refine actsOn_bind (acts_members between) fun members same read => ?_
      obtain ⟨⟨bytes, -, known⟩, rfl⟩ := members_eq_ok_iff.mp read
      have storable := Members.storable_of_ofFile? known
      split
      · simp only
        split
        · refine acts_bind (acts_mapError _ ?_) (fun _ => acts_note _ _) same
          exact Access.acts_performing fun disk effect removing => .remove removing
        · refine acts_bind (acts_write _ recordOf?_empty ?_) (fun _ => acts_note _ _) same
          intro bytes encoded
          have stored := Members.ofFile?_toDocument (storable.erase store.key) encoded
          exact recordOf?_of_ofFile? stored (projectIn_of_absent Members.get?_erase_self)
      · exact acts_note _ _ same

/-- What forgetting leaves of the disk: it is as it was, or the file of the document is
removed or written anew. -/
inductive Leaves (store : Store) (before : Disk) : Disk → Prop where
  | same : Leaves store before before
  | removed (present : before.isFile store.path = .ok true) :
      Leaves store before (before.apply (.removeFile (before.target store.path)))
  | written (present : before.isFile store.path = .ok true) (bytes : ByteArray) :
      Leaves store before (before.apply (.writeFile (before.target store.path) bytes))

theorem Leaves.entries_eq {before after : Disk} (leaves : store.Leaves before after)
    {location : Location} (noFile : ∀ bytes, before.entries location ≠ some (.file bytes)) :
    after.entries location = before.entries location := by
  have differs : before.isFile store.path = .ok true → location ≠ before.target store.path := by
    rintro present rfl
    obtain ⟨-, bytes, file⟩ := isFile_eq_true_iff.mp present
    exact noFile bytes file
  cases leaves with
  | same => rfl
  | removed present =>
      exact entries_apply_of_spares ⟨differs present, fun created => absurd rfl created⟩
  | written present bytes => exact entries_apply_of_spares ⟨id, fun _ => differs present⟩

/-- Forgetting leaves everything beside the document as it is. -/
theorem Leaves.entries_eq_of_ne {before after : Disk} (leaves : store.Leaves before after)
    {location : Location} (elsewhere : location ≠ before.target store.path) :
    after.entries location = before.entries location := by
  cases leaves with
  | same => rfl
  | removed present => exact entries_apply_of_spares ⟨elsewhere, fun created => absurd rfl created⟩
  | written present bytes => exact entries_apply_of_spares ⟨id, fun _ => elsewhere⟩

theorem Leaves.home {before after : Disk} (leaves : store.Leaves before after) :
    before.home = after.home := by
  cases leaves with
  | same => rfl
  | removed present => exact (before.apply_home _).symm
  | written present bytes => exact (before.apply_home _).symm

/-- A record that is not there is forgotten without any effect.  Otherwise the document
keeps the other members, and is removed if there are none. -/
theorem forget_eq_ok (returned : store.forget before = (.ok (), after)) :
    store.Leaves before.disk after.disk ∧
    ∃ members, before.disk.Holds store.path members ∧
      ((store.key ∉ members.names ∧ before.Reaches [] after) ∨
        (store.key ∈ members.names ∧
          after.disk.Holds store.path (members.erase store.key) ∧
          (after.disk.isFile store.path = .ok false ↔ members.erase store.key = []))) := by
  unfold forget at returned
  obtain ⟨there, between, asked, forgot⟩ := bind_eq_ok_iff.mp returned
  obtain ⟨answered, rfl⟩ := present_eq_ok_iff.mp asked
  cases there with
  | false =>
      have same := disk_eq_of_note forgot
      cases forgot
      rw [same]
      exact ⟨.same, [], .inl ⟨by simp [answered], rfl⟩, .inl ⟨by simp [Members.names],
        between.reaches_note _⟩⟩
  | true =>
      obtain ⟨members, same, read, changed⟩ := bind_eq_ok_iff.mp forgot
      obtain ⟨known, rfl⟩ := members_eq_ok_iff.mp read
      have holds : same.disk.Holds store.path members := .inr known
      have storable := holds.storable.erase store.key
      by_cases present : members.has store.key = true
      · rw [if_pos present] at changed
        rw [Members.has_eq_true_iff, Members.get?_ne_none_iff] at present
        -- The last member takes the document with it.
        by_cases empty : members.erase store.key = []
        · simp only [empty, if_true] at changed
          obtain ⟨_, removed, removing, noted⟩ := bind_eq_ok_iff.mp changed
          obtain ⟨effect, effective, rfl⟩ :=
            Access.performing_eq_ok (mapError_eq_ok_iff.mp removing)
          have gone := isFile_apply_removeFile effective
          obtain ⟨-, -, rfl⟩ := removingFile_eq_ok effective
          rw [disk_eq_of_note noted]
          refine ⟨.removed answered, members, holds, .inr ⟨present, .inl ⟨?_, empty⟩, ?_⟩⟩
          · simp [Workspace.perform, gone]
          · simp [Workspace.perform, gone, empty]
        · simp only [empty, if_false] at changed
          obtain ⟨_, written, writing, noted⟩ := bind_eq_ok_iff.mp changed
          obtain ⟨bytes, -, reaches⟩ := write_in_place answered writing
          obtain ⟨content, reread, held⟩ := holds_of_write storable writing
          have file := isFile_eq_true_iff_read.mpr ⟨content, reread⟩
          rw [disk_eq_of_note noted]
          refine ⟨?_, members, holds, .inr ⟨present, .inr ⟨content, reread, held⟩, ?_⟩⟩
          · rw [reaches.disk]
            exact .written answered bytes
          · simp [file, empty]
      · rw [if_neg present] at changed
        rw [Members.has_eq_true_iff, Members.get?_ne_none_iff] at present
        have kept := disk_eq_of_note changed
        cases changed
        rw [kept]
        exact ⟨.same, members, holds, .inl ⟨present, same.reaches_note _⟩⟩

theorem unrecorded_of_forget (returned : store.forget before = (.ok (), after)) :
    ∃ members there, after.disk.Holds store.path members ∧
      after.disk.isFile store.path = .ok there ∧ store.key ∉ members.names := by
  obtain ⟨-, members, holds, outcome⟩ := forget_eq_ok returned
  rcases outcome with ⟨absent, reaches⟩ | ⟨-, left, gone⟩
  · have same : after.disk = before.disk := reaches.disk
    unfold forget at returned
    obtain ⟨there, between, asked, -⟩ := bind_eq_ok_iff.mp returned
    have answered := (present_eq_ok_iff.mp asked).1
    rw [← same] at holds answered
    exact ⟨members, there, holds, answered, absent⟩
  · have absent : store.key ∉ (members.erase store.key).names := by
      rw [← Members.get?_ne_none_iff, not_not]
      exact Members.get?_erase_self
    by_cases empty : members.erase store.key = []
    · exact ⟨_, false, left, gone.mpr empty, absent⟩
    · exact ⟨_, true, left, left.isFile_of_mem empty, absent⟩

/-- After forgetting there is no project to load. -/
theorem load_of_forget (returned : store.forget before = (.ok (), after)) :
    (store.load after).1 = .ok none := by
  obtain ⟨members, there, holds, answered, absent⟩ := unrecorded_of_forget returned
  rw [← Members.get?_ne_none_iff, not_not] at absent
  rw [(load_of_holds holds answered).1, projectIn_of_absent absent]

/-- After saving, the project that was saved is loaded. -/
theorem load_of_save (returned : store.save project before = (.ok (), after)) :
    (store.load after).1 = .ok (some project) := by
  obtain ⟨members, -, bytes, read, held⟩ := save_eq_ok returned
  have answered := isFile_eq_true_iff_read.mpr ⟨bytes, read⟩
  rw [(load_of_holds (.inr ⟨bytes, read, held⟩) answered).1, projectIn_put]

end Store

end HelperKit
