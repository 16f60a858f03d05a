import HelperKit.Proofs.Json.Acceptance
import HelperKit.Proofs.Settings.Store

/-!
# What a settings file is taken for

Loading looks at the bytes of the settings file alone.  They are sorted by what they are: bytes
that are no text, a text that is no document, a document that is no object, an object without a
record of this tool, and one whose record is accepted or rejected.  Two classes have no failure of
the settings for it: a whole number is too long to be converted, or arrays and objects lie too
deep inside each other to be followed.
-/

namespace HelperKit

namespace Store

open Attempt Disk

variable {store : Store} {before : Workspace} {bytes : ByteArray} {characters : List Char}

/-- The characters of a text file: its bytes are their UTF-8 form but for the line ends. -/
def InFile (bytes : ByteArray) (characters : List Char) : Prop :=
  ∃ string : String, string.toUTF8 = bytes ∧ Text.unifyLineEnds string.toList = characters

/-- The pairs of the object that a file holds, as they are written, where no whole number is too
long. -/
def HoldsPairs (bytes : ByteArray) (pairs : List (Text × Json)) : Prop :=
  ∃ characters, InFile bytes characters ∧ ¬ Json.MeetsLongInteger characters ∧
    Json.IsObjectDocument characters pairs

/-! ## Reading the file -/

theorem ofFile?_iff : Text.ofFile? bytes = some characters ↔ InFile bytes characters :=
  Text.ofFile?_eq_some_iff

/-- What is loaded from a file that can be read. -/
def verdict (store : Store) (bytes : ByteArray) : Except Failure (Option Project) :=
  store.decode bytes >>= store.projectIn

theorem load_of_read (read : before.disk.read store.path = .ok bytes) :
    (store.load before).1 = store.verdict bytes := by
  have present := present_eq_ok_iff.mpr ⟨isFile_eq_true_iff_read.mpr ⟨bytes, read⟩, rfl⟩
  unfold load verdict
  rw [bind_apply, present]
  simp only [if_true]
  rw [bind_apply]
  unfold Store.members
  rw [bind_apply, mapError_apply, Access.ask_apply, read]
  simp only [Except.mapError]
  cases store.decode bytes with
  | error failure => rfl
  | ok members =>
      simp only [pure_apply]
      change _ = store.projectIn members
      cases store.projectIn members with
      | error failure => rfl
      | ok found => cases found <;> rfl

theorem verdict_eq_ok_iff {found : Option Project} : store.verdict bytes = .ok found ↔
    ∃ members, store.decode bytes = .ok members ∧ store.projectIn members = .ok found := by
  unfold verdict
  cases store.decode bytes with
  | error failure => simp [bind, Except.bind]
  | ok members => simp [bind, Except.bind]

theorem verdict_eq_error_iff {failure : Failure} : store.verdict bytes = .error failure ↔
    store.decode bytes = .error failure ∨
      ∃ members, store.decode bytes = .ok members ∧ store.projectIn members = .error failure := by
  unfold verdict
  cases store.decode bytes with
  | error other => simp [bind, Except.bind]
  | ok members => simp [bind, Except.bind]

/-! ## Decoding -/

/-- Why the bytes of a file are not decoded. -/
inductive Undecoded (store : Store) (bytes : ByteArray) : Failure → Prop where
  | undecodable (noText : Text.ofFile? bytes = none) :
      Undecoded store bytes (store.invalid .undecodable)
  | malformed {characters : List Char} {flaw : Json.Flaw} {place : Json.Place}
      (inFile : InFile bytes characters)
      (refused : Json.ofDocument characters = .error (.malformed flaw place)) :
      Undecoded store bytes (store.invalid (.malformed flaw))
  | notObject {characters : List Char} {value : Json} (inFile : InFile bytes characters)
      (read : Json.ofDocument characters = .ok value)
      (other : ∀ members, value ≠ .object members) :
      Undecoded store bytes (store.invalid .notObject)
  | longInteger {characters : List Char} (inFile : InFile bytes characters)
      (refused : Json.ofDocument characters = .error .longInteger) :
      Undecoded store bytes .longInteger
  | tooDeep {characters : List Char} (inFile : InFile bytes characters)
      (refused : Json.ofDocument characters = .error .tooDeep) :
      Undecoded store bytes .tooDeep

theorem decode_eq_error_iff {failure : Failure} :
    store.decode bytes = .error failure ↔ Undecoded store bytes failure := by
  constructor
  · intro failed
    -- Decoding, then reading, then the kind of what was read: each stage fails in its own way.
    unfold decode at failed
    split at failed
    · rename_i noText
      cases failed
      exact .undecodable noText
    · rename_i characters known
      have inFile := ofFile?_iff.mp known
      split at failed
      · rename_i refused
        cases failed
        exact .malformed inFile refused
      · rename_i refused
        cases failed
        exact .longInteger inFile refused
      · rename_i refused
        cases failed
        exact .tooDeep inFile refused
      · cases failed
      · rename_i value read other
        cases failed
        exact .notObject inFile other read
  · intro undecoded
    cases undecoded with
    | undecodable noText => simp only [decode, noText]
    | malformed inFile refused => simp only [decode, ofFile?_iff.mpr inFile, refused]
    | longInteger inFile refused => simp only [decode, ofFile?_iff.mpr inFile, refused]
    | tooDeep inFile refused => simp only [decode, ofFile?_iff.mpr inFile, refused]
    | notObject inFile read other =>
        simp only [decode, ofFile?_iff.mpr inFile, read]

theorem decode_eq_undecodable_iff : store.decode bytes = .error (store.invalid .undecodable) ↔
    ∀ string : String, string.toUTF8 ≠ bytes := by
  constructor
  · intro failed string encoded
    have known := ofFile?_iff.mpr ⟨string, encoded, rfl⟩
    cases decode_eq_error_iff.mp failed with
    | undecodable noText =>
        rw [noText] at known
        cases known
  · intro noString
    refine decode_eq_error_iff.mpr (.undecodable ?_)
    cases known : Text.ofFile? bytes with
    | none => rfl
    | some characters =>
        obtain ⟨string, encoded, -⟩ := ofFile?_iff.mp known
        exact absurd encoded (noString string)

theorem decode_eq_ok_iff_read {members : Members} : store.decode bytes = .ok members ↔
    ∃ characters, InFile bytes characters ∧
      Json.ofDocument characters = .ok (.object members) := by
  rw [decode_eq_ok_iff, Members.ofFile?]
  constructor
  · intro known
    split at known
    · rename_i found read
      cases known
      obtain ⟨characters, inFile, same⟩ := Option.map_eq_some_iff.mp read
      exact ⟨characters, ofFile?_iff.mp inFile, same⟩
    · cases known
  · rintro ⟨characters, inFile, read⟩
    rw [ofFile?_iff.mpr inFile, Option.map_some, read]

/-! ## Sorting what was loaded -/

/-- How loading sorts the bytes of a settings file. -/
structure Classifies (store : Store) (bytes : ByteArray)
    (result : Except Failure (Option Project)) : Prop where
  undecodable : result = .error (store.invalid .undecodable) ↔
    ∀ string : String, string.toUTF8 ≠ bytes
  malformed : (∃ flaw, result = .error (store.invalid (.malformed flaw))) ↔
    ∃ characters, InFile bytes characters ∧ ¬ Json.MeetsLongInteger characters ∧
      ∀ value, ¬ Json.IsDocument characters value
  notObject : result = .error (store.invalid .notObject) ↔
    ∃ characters value, InFile bytes characters ∧ ¬ Json.MeetsLongInteger characters ∧
      Json.IsDocument characters value ∧ ∀ members, value ≠ .object members
  rejected : ∀ count, result = .error (store.invalid (.rejected count)) ↔
    ∃ pairs record complaints, HoldsPairs bytes pairs ∧
      Members.last? pairs store.key = some record ∧
      Project.ofRecord record = .error complaints ∧ complaints.length = count
  unrecorded : result = .ok none ↔
    ∃ pairs, HoldsPairs bytes pairs ∧ ∀ pair ∈ pairs, pair.1 ≠ store.key
  recorded : ∀ project, result = .ok (some project) ↔
    ∃ pairs record, HoldsPairs bytes pairs ∧ Members.last? pairs store.key = some record ∧
      Project.ofRecord record = .ok project
  longInteger : result = .error .longInteger ↔
    ∃ characters, InFile bytes characters ∧ Json.MeetsLongInteger characters
  nothingElse : ∀ failure, result = .error failure →
    failure = .longInteger ∨ ∃ flaw, failure = store.invalid flaw

section Followed

variable (followed : store.decode bytes ≠ .error .tooDeep)
include followed

theorem followed_of_inFile (inFile : InFile bytes characters) :
    Json.ofDocument characters ≠ .error .tooDeep :=
  fun refused => followed (decode_eq_error_iff.mpr (.tooDeep inFile refused))

theorem decode_eq_malformed_iff :
    (∃ flaw, store.decode bytes = .error (store.invalid (.malformed flaw))) ↔
      ∃ characters, InFile bytes characters ∧ ¬ Json.MeetsLongInteger characters ∧
        ∀ value, ¬ Json.IsDocument characters value := by
  constructor
  · rintro ⟨flaw, failed⟩
    cases decode_eq_error_iff.mp failed with
    | malformed inFile refused =>
        exact ⟨_, inFile, (Json.malformed_iff (followed_of_inFile followed inFile)).mp
          ⟨_, _, refused⟩⟩
  · rintro ⟨characters, inFile, noDocument⟩
    obtain ⟨flaw, place, refused⟩ :=
      (Json.malformed_iff (followed_of_inFile followed inFile)).mpr noDocument
    exact ⟨flaw, decode_eq_error_iff.mpr (.malformed inFile refused)⟩

theorem decode_eq_notObject_iff : store.decode bytes = .error (store.invalid .notObject) ↔
    ∃ characters value, InFile bytes characters ∧ ¬ Json.MeetsLongInteger characters ∧
      Json.IsDocument characters value ∧ ∀ members, value ≠ .object members := by
  constructor
  · intro failed
    cases decode_eq_error_iff.mp failed with
    | notObject inFile read other =>
        obtain ⟨short, document⟩ :=
          (Json.ofDocument_eq_iff (followed_of_inFile followed inFile)).mp read
        exact ⟨_, _, inFile, short, document, other⟩
  · rintro ⟨characters, value, inFile, short, document, other⟩
    have read := document.ofDocument_eq (followed_of_inFile followed inFile) short
    exact decode_eq_error_iff.mpr (.notObject inFile read other)

theorem decode_eq_longInteger_iff : store.decode bytes = .error .longInteger ↔
    ∃ characters, InFile bytes characters ∧ Json.MeetsLongInteger characters := by
  constructor
  · intro failed
    cases decode_eq_error_iff.mp failed with
    | longInteger inFile refused =>
        exact ⟨_, inFile, Json.meetsLongInteger_of_ofDocument refused⟩
  · rintro ⟨characters, inFile, meets⟩
    have refused := meets.ofDocument_eq (followed_of_inFile followed inFile)
    exact decode_eq_error_iff.mpr (.longInteger inFile refused)

/-- The members that are decoded come from pairs that the file holds. -/
theorem decode_eq_ok_iff_holdsPairs {members : Members} : store.decode bytes = .ok members ↔
    ∃ pairs, HoldsPairs bytes pairs ∧ Members.ofPairs pairs = members := by
  rw [decode_eq_ok_iff_read]
  constructor
  · rintro ⟨characters, inFile, read⟩
    obtain ⟨short, document⟩ :=
      (Json.ofDocument_eq_iff (followed_of_inFile followed inFile)).mp read
    obtain ⟨pairs, spelled, same⟩ := Json.isDocument_object_iff.mp document
    exact ⟨pairs, ⟨characters, inFile, short, spelled⟩, same⟩
  · rintro ⟨pairs, ⟨characters, inFile, short, spelled⟩, same⟩
    have document := Json.isDocument_object_iff.mpr ⟨pairs, spelled, same⟩
    exact ⟨characters, inFile,
      document.ofDocument_eq (followed_of_inFile followed inFile) short⟩

/-- What is loaded is what the last pair with the key of this tool makes of it. -/
theorem verdict_eq_ok_iff_holdsPairs {found : Option Project} :
    store.verdict bytes = .ok found ↔ ∃ pairs, HoldsPairs bytes pairs ∧
      store.projectIn (Members.ofPairs pairs) = .ok found := by
  rw [verdict_eq_ok_iff]
  constructor
  · rintro ⟨members, decoded, projected⟩
    obtain ⟨pairs, holds, rfl⟩ := (decode_eq_ok_iff_holdsPairs followed).mp decoded
    exact ⟨pairs, holds, projected⟩
  · rintro ⟨pairs, holds, projected⟩
    exact ⟨_, (decode_eq_ok_iff_holdsPairs followed).mpr ⟨pairs, holds, rfl⟩, projected⟩

end Followed

/-! ## The record -/

theorem verdict_eq_error_iff_decode {failure : Failure}
    (other : ∀ count, failure ≠ store.invalid (.rejected count)) :
    store.verdict bytes = .error failure ↔ store.decode bytes = .error failure := by
  rw [verdict_eq_error_iff, or_iff_left]
  rintro ⟨members, -, failed⟩
  obtain ⟨record, complaints, -, -, rfl⟩ := projectIn_eq_error_iff.mp failed
  exact other _ rfl

theorem decode_ne_rejected (count : Nat) :
    store.decode bytes ≠ .error (store.invalid (.rejected count)) := by
  intro failed
  cases decode_eq_error_iff.mp failed

/-- A record is rejected exactly if it is the last one that the file holds and has complaints. -/
theorem verdict_eq_rejected_iff (followed : store.decode bytes ≠ .error .tooDeep) (count : Nat) :
    store.verdict bytes = .error (store.invalid (.rejected count)) ↔
      ∃ pairs record complaints, HoldsPairs bytes pairs ∧
        Members.last? pairs store.key = some record ∧
        Project.ofRecord record = .error complaints ∧ complaints.length = count := by
  rw [verdict_eq_error_iff, or_iff_right (decode_ne_rejected count)]
  constructor
  · rintro ⟨members, decoded, failed⟩
    obtain ⟨pairs, holds, rfl⟩ := (decode_eq_ok_iff_holdsPairs followed).mp decoded
    obtain ⟨record, complaints, found, refused, same⟩ := projectIn_eq_error_iff.mp failed
    rw [Members.get?_ofPairs] at found
    cases same
    exact ⟨pairs, record, complaints, holds, found, refused, rfl⟩
  · rintro ⟨pairs, record, complaints, holds, found, refused, rfl⟩
    rw [← Members.get?_ofPairs] at found
    exact ⟨_, (decode_eq_ok_iff_holdsPairs followed).mpr ⟨pairs, holds, rfl⟩,
      projectIn_eq_error_iff.mpr ⟨record, complaints, found, refused, rfl⟩⟩

/-- Every file that is followed is sorted. -/
theorem classifies_verdict (followed : store.verdict bytes ≠ .error .tooDeep) :
    store.Classifies bytes (store.verdict bytes) := by
  have decoded : store.decode bytes ≠ .error .tooDeep :=
    fun failed => followed (verdict_eq_error_iff.mpr (.inl failed))
  constructor
  case undecodable =>
    rw [verdict_eq_error_iff_decode (by simp [invalid]), decode_eq_undecodable_iff]
  case malformed =>
    rw [← decode_eq_malformed_iff decoded]
    exact exists_congr fun flaw => verdict_eq_error_iff_decode (by simp [invalid])
  case notObject =>
    rw [verdict_eq_error_iff_decode (by simp [invalid]), decode_eq_notObject_iff decoded]
  case rejected => exact verdict_eq_rejected_iff decoded
  case unrecorded =>
    simp only [verdict_eq_ok_iff_holdsPairs decoded, projectIn_eq_none_iff,
      Members.get?_ofPairs, Members.last?_eq_none_iff]
  case recorded =>
    intro project
    simp only [verdict_eq_ok_iff_holdsPairs decoded, projectIn_eq_some_iff,
      Members.get?_ofPairs, exists_and_left]
  case longInteger =>
    rw [verdict_eq_error_iff_decode (by simp [invalid]), decode_eq_longInteger_iff decoded]
  case nothingElse =>
    intro failure failed
    rcases verdict_eq_error_iff.mp failed with undecoded | ⟨members, -, unprojected⟩
    · cases decode_eq_error_iff.mp undecoded with
      | undecodable => exact .inr ⟨_, rfl⟩
      | malformed => exact .inr ⟨_, rfl⟩
      | notObject => exact .inr ⟨_, rfl⟩
      | longInteger => exact .inl rfl
      | tooDeep => exact absurd undecoded decoded
    · obtain ⟨record, complaints, -, -, rfl⟩ := projectIn_eq_error_iff.mp unprojected
      exact .inr ⟨_, rfl⟩

/-- A file that is not followed is an overnested text. -/
theorem overnested_of_verdict (failed : store.verdict bytes = .error .tooDeep) :
    ∃ characters, InFile bytes characters ∧ Json.Overnested characters := by
  rw [verdict_eq_error_iff_decode (by simp [invalid])] at failed
  cases decode_eq_error_iff.mp failed with
  | tooDeep inFile refused => exact ⟨_, inFile, Json.overnested_of_ofDocument refused⟩

/-- What is loaded depends on the member of this tool alone. -/
theorem verdict_congr {others : ByteArray} {first second : Members}
    (one : Members.ofFile? bytes = some first) (other : Members.ofFile? others = some second)
    (same : first.get? store.key = second.get? store.key) :
    store.verdict bytes = store.verdict others := by
  rw [verdict, verdict, decode_eq_ok_iff.mpr one, decode_eq_ok_iff.mpr other]
  change store.projectIn first = store.projectIn second
  rw [projectIn, projectIn, same]

/-- Loading changes nothing.  Without a file there is no project.  A file is sorted by its bytes,
unless something in it lies too deep; the reason that is told for a rejected record counts its
complaints, and nothing beside the record of this tool makes a difference. -/
theorem load_classifies (store : Store) (before : Workspace) :
    (store.load before).2.disk = before.disk ∧
    (before.disk.isFile store.path = .ok false → (store.load before).1 = .ok none) ∧
    ∀ bytes, before.disk.read store.path = .ok bytes →
      (store.Classifies bytes (store.load before).1 ∨
        (store.load before).1 = .error .tooDeep ∧
          ∃ characters, InFile bytes characters ∧ Json.Overnested characters) ∧
      (∀ pairs record complaints, HoldsPairs bytes pairs →
        Members.last? pairs store.key = some record →
        Project.ofRecord record = .error complaints →
        (store.load before).1 ≠ .error .tooDeep →
        ∃ flaw, (store.load before).1 = .error (.invalidSettings store.path store.key flaw) ∧
          flaw.wording = Text.ofNat complaints.length ++ " validation error(s)") ∧
      ∀ (other : Workspace) (others : ByteArray) (first second : Members),
        other.disk.read store.path = .ok others →
        Members.ofFile? bytes = some first → Members.ofFile? others = some second →
        first.get? store.key = second.get? store.key →
        (store.load before).1 = (store.load other).1 := by
  refine ⟨(acts_load.reaches_nil before).disk, fun absent => ?_, fun bytes read => ?_⟩
  · have holds : before.disk.Holds store.path [] := .inl ⟨by simp [absent], rfl⟩
    rw [(load_of_holds holds absent).1, projectIn_of_absent rfl]
  · rw [load_of_read read]
    refine ⟨?_, ?_, ?_⟩
    · by_cases failed : store.verdict bytes = .error .tooDeep
      · exact .inr ⟨failed, overnested_of_verdict failed⟩
      · exact .inl (classifies_verdict failed)
    · intro pairs record complaints holds found refused followed
      have rejected := ((classifies_verdict followed).rejected complaints.length).mpr
        ⟨pairs, record, complaints, holds, found, refused, rfl⟩
      exact ⟨_, rejected, rfl⟩
    · intro other others first second reread one another same
      rw [load_of_read reread]
      exact verdict_congr one another same

/-- The store of this tool in a directory with a settings file. -/
def localStore : Store :=
  ⟨.ofText "settings.json", "crabSafe"⟩

/-- A disk with nothing but a settings file in its root, which may be absent. -/
def localDisk (content : Option ByteArray) : Disk where
  entries location :=
    if location = [] then some .directory
    else if location = ["settings.json"] then content.map .file
    else none
  home := []

/-- An object with two members of this tool, of which the last one is an empty record. -/
def repeatedKey : ByteArray :=
  "\x7b\"crabSafe\":0,\"crabSafe\":\x7b\x7d\x7d".toUTF8

/-- An object with an empty record and a member of another tool. -/
def otherKey : ByteArray :=
  "\x7b\"crabSafe\":\x7b\x7d,\"editor\":true\x7d".toUTF8

/-- Whether the bytes of a file hold an object with an empty record of this tool. -/
def holdsEmptyRecord (bytes : ByteArray) : Bool :=
  match (Members.ofFile? bytes).bind (·.get? localStore.key) with
  | some (.object []) => true
  | _ => false

theorem exists_of_holdsEmptyRecord (holds : holdsEmptyRecord bytes = true) :
    ∃ members, Members.ofFile? bytes = some members ∧
      members.get? localStore.key = some (.object []) := by
  unfold holdsEmptyRecord at holds
  split at holds
  · rename_i found
    exact Option.bind_eq_some_iff.mp found
  · cases holds

/-- A record that is empty lacks its four members, whatever is written beside it and before it. -/
theorem load_classifies_repeated :
    (localStore.load (.on (localDisk none) .warning)).1 = .ok none ∧
    (∃ flaw, (localStore.load (.on (localDisk (some repeatedKey)) .warning)).1 =
        .error (.invalidSettings localStore.path localStore.key flaw) ∧
      flaw.wording = "4 validation error(s)") ∧
    (localStore.load (.on (localDisk (some repeatedKey)) .warning)).1 =
      (localStore.load (.on (localDisk (some otherKey)) .warning)).1 := by
  have absent := (load_classifies localStore (.on (localDisk none) .warning)).2.1
    (by decide +kernel)
  obtain ⟨classified, reasoned, compared⟩ :=
    (load_classifies localStore (.on (localDisk (some repeatedKey)) .warning)).2.2 repeatedKey
      (by decide +kernel)
  have known : (localStore.load (.on (localDisk (some repeatedKey)) .warning)).1 =
      .error (localStore.invalid (.rejected 4)) := by decide +kernel
  have followed : (localStore.load (.on (localDisk (some repeatedKey)) .warning)).1 ≠
      .error .tooDeep := by
    rw [known]
    simp [invalid]
  have sorted := classified.resolve_right fun deep => followed deep.1
  obtain ⟨pairs, record, complaints, held, found, refused, counted⟩ :=
    (sorted.rejected 4).mp known
  obtain ⟨flaw, told, wording⟩ := reasoned pairs record complaints held found refused followed
  rw [counted] at wording
  have holds : holdsEmptyRecord repeatedKey = true := by decide +kernel
  have holdsOther : holdsEmptyRecord otherKey = true := by decide +kernel
  obtain ⟨first, one, empty⟩ := exists_of_holdsEmptyRecord holds
  obtain ⟨second, another, same⟩ := exists_of_holdsEmptyRecord holdsOther
  refine ⟨absent, ⟨flaw, told, wording.trans (by decide +kernel)⟩, ?_⟩
  exact compared (.on (localDisk (some otherKey)) .warning) otherKey first second
    (by decide +kernel) one another (empty.trans same.symm)

end Store

end HelperKit
