import HelperKit.Proofs.Settings.Document

/-!
# Rewriting documents

A document that was read and written is read back as the value that was written, and
writing that value again leaves the disk as it is: reading and writing once brings a
document into its normal form, and doing so any number of times more changes nothing.
Only a value that holds a lone surrogate somewhere cannot be written.
-/

namespace HelperKit

namespace Json

mutual

/-- No string and no name in a value holds a lone surrogate. -/
def IsUnicode : Json → Prop
  | .string text => text.isUnicode = true
  | .array items => ItemsUnicode items
  | .object members => MembersUnicode members
  | _ => True

/-- No element holds a lone surrogate. -/
def ItemsUnicode : List Json → Prop
  | [] => True
  | item :: items => item.IsUnicode ∧ ItemsUnicode items

/-- No member holds a lone surrogate in its name or value. -/
def MembersUnicode : List (Text × Json) → Prop
  | [] => True
  | (name, value) :: members => name.isUnicode = true ∧ value.IsUnicode ∧ MembersUnicode members

end

theorem isUnicode_ofString (string : String) : (Text.ofString string).isUnicode = true :=
  Text.isUnicode_ofChars string.toList

theorem isUnicode_newLine (level : Nat) : (newLine level).isUnicode = true := by
  have spaces : ∀ count, (Text.spaces count).isUnicode = true := by
    intro count
    induction count with
    | zero => rfl
    | succ count induction => simpa [Text.spaces, List.replicate_succ, CodePoint.toChar?] using induction
  simp [newLine, CodePoint.toChar?, spaces]

theorem isUnicode_printInteger (number : Int) : (printInteger number).isUnicode = true := by
  have digits : (Text.ofNat number.natAbs).isUnicode = true := Text.isUnicode_ofChars _
  unfold printInteger
  split <;> simp [digits, isUnicode_ofString]

mutual

/-- What is printed holds a lone surrogate just where the value does. -/
theorem isUnicode_print_iff (level : Nat) (json : Json) :
    (print level json).isUnicode = true ↔ json.IsUnicode := by
  cases json with
  | null => simp [print, IsUnicode, isUnicode_ofString]
  | boolean value => cases value <;> simp [print, IsUnicode, isUnicode_ofString]
  | integer number => simp [print, IsUnicode, isUnicode_printInteger]
  | double number => simp [print, IsUnicode]
  | string text => simp [print, IsUnicode, isUnicode_printString]
  | array items =>
      cases items with
      | nil => simp [print, IsUnicode, ItemsUnicode, isUnicode_ofString]
      | cons item items =>
          simp [print, IsUnicode, ItemsUnicode, isUnicode_ofString, isUnicode_newLine,
            isUnicode_print_iff (level + 1) item, isUnicode_printItems_iff (level + 1) items]
  | object members =>
      cases members with
      | nil => simp [print, IsUnicode, MembersUnicode, isUnicode_ofString]
      | cons member members =>
          obtain ⟨name, value⟩ := member
          simp [print, IsUnicode, MembersUnicode, isUnicode_ofString, isUnicode_newLine,
            isUnicode_printString, isUnicode_print_iff (level + 1) value,
            isUnicode_printMembers_iff (level + 1) members]

theorem isUnicode_printItems_iff (level : Nat) (items : List Json) :
    (printItems level items).isUnicode = true ↔ ItemsUnicode items := by
  cases items with
  | nil => simp [printItems, ItemsUnicode]
  | cons item items =>
      simp [printItems, ItemsUnicode, isUnicode_ofString, isUnicode_newLine,
        isUnicode_print_iff level item, isUnicode_printItems_iff level items]

theorem isUnicode_printMembers_iff (level : Nat) (members : List (Text × Json)) :
    (printMembers level members).isUnicode = true ↔ MembersUnicode members := by
  cases members with
  | nil => simp [printMembers, MembersUnicode]
  | cons member members =>
      obtain ⟨name, value⟩ := member
      simp [printMembers, MembersUnicode, isUnicode_ofString, isUnicode_newLine,
        isUnicode_printString, isUnicode_print_iff level value,
        isUnicode_printMembers_iff level members]

end

theorem encode?_toDocument_iff (json : Json) :
    json.toDocument.encode? ≠ none ↔ json.IsUnicode := by
  rw [← isUnicode_print_iff 0 json, ← Option.isSome_iff_ne_none, Text.isSome_encode?, toDocument,
    Text.isUnicode_append, isUnicode_ofString, Bool.and_true]

end Json

namespace Disk

variable {disk : Disk} {path : Path} {json : Json} {location : Location} {bytes : ByteArray}

/-- The file at a path is the printed form of a document that can be read, in a directory
that is there. -/
structure Prints (disk : Disk) (path : Path) (json : Json) : Prop where
  readable : Json.Readable Json.maximumDepth json
  housed : disk.isDirectory path.parent = .ok true
  printed : ∃ bytes, json.toDocument.encode? = some bytes ∧ disk.read path = .ok bytes

theorem apply_writeFile_eq_self (holds : disk.entries location = some (.file bytes)) :
    disk.apply (.writeFile location bytes) = disk := by
  have entries : (disk.apply (.writeFile location bytes)).entries = disk.entries := by
    funext other
    by_cases same : other = location
    · subst same
      rw [holds]
      exact entries_apply_of_created rfl
    · exact entries_apply_of_spares ⟨id, fun _ => same⟩
  cases disk
  exact congrArg (Disk.mk · _) entries

theorem openingFile_of_read (read : disk.read path = .ok bytes) :
    disk.openingFile path = .ok (disk.target path) := by
  obtain ⟨opens, file⟩ := read_eq_ok_iff.mp read
  unfold openingFile
  rw [locate_eq_ok opens]
  simp only [file]

theorem isDirectory_apply_makingDirectory {effect : Effect}
    (making : disk.makingDirectory path = .ok effect) :
    (disk.apply effect).isDirectory path = .ok true := by
  obtain ⟨opens, -, vacant, rfl⟩ := makingDirectory_eq_ok making
  have home := disk.apply_home (.makeDirectory (disk.target path))
  rw [isDirectory_eq_true_iff, target_congr home]
  refine ⟨opens.apply ?_, entries_apply_of_created rfl⟩
  intro way member
  refine ⟨id, fun _ same => ?_⟩
  have isTarget : way = disk.target path := same
  exact opens.target_not_mem_ways (by simp [vacant]) (isTarget ▸ member)

theorem isDirectory_apply_writeFile {other : Path} (present : disk.isDirectory other = .ok true)
    (noDirectory : disk.entries location ≠ some .directory) :
    (disk.apply (.writeFile location bytes)).isDirectory other = .ok true := by
  obtain ⟨opens, directory⟩ := isDirectory_eq_true_iff.mp present
  have kept : ∀ place, disk.entries place = some .directory →
      (Effect.writeFile location bytes).Spares place := by
    intro place there
    refine ⟨id, fun _ same => ?_⟩
    have here : place = location := same
    exact noDirectory (here ▸ there)
  refine isDirectory_eq_true_iff.mpr ⟨opens.apply fun way member => ?_, ?_⟩
  · exact kept way (opens.passable way member)
  · rw [← target_congr (disk.apply_home _).symm, entries_apply_of_spares (kept _ directory),
      directory]

end Disk

namespace Access

open Attempt

variable {before after : Workspace} {path : Path}

theorem provideDirectory_eq_ok {mayExist : Bool}
    (returned : provideDirectory mayExist path before = (.ok (), after)) :
    after.disk.isDirectory path = .ok true := by
  rw [provideDirectory, bind_apply, outcome_apply, makeDirectory_apply] at returned
  cases making : before.disk.makingDirectory path with
  | ok effect =>
      rw [making] at returned
      cases returned
      exact Disk.isDirectory_apply_makingDirectory making
  | error fault =>
      rw [making] at returned
      cases fault with
      | system report =>
          simp only [provideDirectory.accept] at returned
          split at returned
          · cases returned
          · split at returned
            · obtain ⟨there, between, asked, accepted⟩ := bind_eq_ok_iff.mp returned
              obtain ⟨answered, rfl⟩ := ask_eq_ok_iff.mp asked
              cases there with
              | false => cases accepted
              | true =>
                  cases accepted
                  exact answered
            · cases returned
      | embeddedNull => cases returned
      | unencodable => cases returned
      | tooDeep => cases returned

theorem makeDirectories_eq_ok {mayExist : Bool}
    (returned : makeDirectories mayExist path before = (.ok (), after)) :
    after.disk.isDirectory path = .ok true := by
  obtain ⟨anchor, parts⟩ := path
  unfold makeDirectories at returned
  cases reversed : parts.reverse with
  | nil =>
      have empty : parts = [] := List.reverse_eq_nil_iff.mp reversed
      subst empty
      exact provideDirectory_eq_ok returned
  | cons part above =>
      have whole : (part :: above).reverse = parts := by rw [← reversed, List.reverse_reverse]
      simp only [reversed] at returned
      rcases provideAll_eq_ok returned with once | ⟨-, -, between, -, -, second⟩
      · rw [whole] at once
        exact provideDirectory_eq_ok once
      · rw [whole] at second
        exact provideDirectory_eq_ok second

theorem prints_of_writeDocument {json : Json}
    (readable : Json.Readable Json.maximumDepth json)
    (returned : writeDocument json path before = (.ok (), after)) :
    after.disk.Prints path json := by
  obtain ⟨_, between, provided, text⟩ := bind_eq_ok_iff.mp returned
  have parent := makeDirectories_eq_ok provided
  obtain ⟨location, bytes, opening, encoded, rfl⟩ := writeText_eq_ok text
  refine ⟨readable, ?_, bytes, encoded, Disk.read_apply_writeFile opening⟩
  obtain ⟨-, rfl, noDirectory, -⟩ := Disk.openingFile_eq_ok opening
  exact Disk.isDirectory_apply_writeFile parent noDirectory

end Access

namespace Job

open Attempt

variable {before after : Workspace} {path : Path} {json : Json}

theorem readDocument_eq_ok (returned : readDocument path before = (.ok json, after)) :
    Json.Readable Json.maximumDepth json ∧ after = before := by
  obtain ⟨bytes, between, asked, decoded⟩ := bind_eq_ok_iff.mp returned
  obtain ⟨-, rfl⟩ := Access.ask_eq_ok_iff.mp (mapError_eq_ok_iff.mp asked)
  cases text : Text.ofFile? bytes with
  | none =>
      rw [text] at decoded
      cases decoded
  | some characters =>
      rw [text] at decoded
      simp only at decoded
      cases known : Json.ofDocument characters with
      | error refusal =>
          rw [known] at decoded
          cases decoded
      | ok found =>
          rw [known] at decoded
          cases decoded
          exact ⟨Json.ofDocument_readable known, rfl⟩

theorem readDocument_of_prints (prints : before.disk.Prints path json) :
    readDocument path before = (.ok json, before) := by
  obtain ⟨bytes, encoded, read⟩ := prints.printed
  have asked : mapError Failure.ofFault (Access.ask (·.read path)) before = (.ok bytes, before) :=
    mapError_eq_ok_iff.mpr (Access.ask_eq_ok_iff.mpr ⟨read, rfl⟩)
  rw [readDocument, bind_apply, asked]
  simp only [Json.ofFile?_toDocument encoded,
    Json.ofDocument_toDocument prints.readable (Text.isUnicode_of_encode? encoded)]
  rfl

/-- Reads a document and writes what was read back to its place, so many times. -/
def rewrite (path : Path) : Nat → Job Unit
  | 0 => pure ()
  | rounds + 1 => do
      let json ← readDocument path
      Attempt.mapError .ofFault (Access.writeDocument json path)
      rewrite path rounds

/-- What is printed at a path is written there without any change. -/
theorem writeDocument_of_prints (prints : before.disk.Prints path json) :
    ∃ after, Access.writeDocument json path before = (.ok (), after) ∧
      after.disk = before.disk := by
  obtain ⟨bytes, encoded, read⟩ := prints.printed
  refine ⟨before.perform (.writeFile (before.disk.target path) bytes), ?_, ?_⟩
  · have asked : Access.ask (·.openingFile path) before =
        (.ok (before.disk.target path), before) :=
      Access.ask_eq_ok_iff.mpr ⟨Disk.openingFile_of_read read, rfl⟩
    rw [Access.writeDocument, bind_apply, Access.makeDirectories_present prints.housed]
    simp only [Access.writeText]
    rw [bind_apply, asked]
    simp only [encoded]
    rfl
  · exact Disk.apply_writeFile_eq_self (Disk.read_eq_ok_iff.mp read).2

/-- However often a printed document is read and written back, the disk stays as it is. -/
theorem rewrite_of_prints (prints : before.disk.Prints path json) (rounds : Nat) :
    ∃ after, rewrite path rounds before = (.ok (), after) ∧ after.disk = before.disk := by
  induction rounds generalizing before with
  | zero => exact ⟨before, rfl, rfl⟩
  | succ rounds induction =>
      obtain ⟨between, written, same⟩ := writeDocument_of_prints prints
      obtain ⟨after, rewritten, still⟩ := induction (same ▸ prints)
      refine ⟨after, ?_, still.trans same⟩
      refine bind_eq_ok_iff.mpr ⟨json, before, readDocument_of_prints prints, ?_⟩
      exact bind_eq_ok_iff.mpr ⟨(), between, mapError_eq_ok_iff.mpr written, rewritten⟩

/-- A document that was read can be written unless it holds a lone surrogate.  Once it was
written, the same value is read back, and reading it and writing it back does not change the
disk any more, however often this is done. -/
theorem rewriting_settles (target : Path) {source : Path} {before opened : Workspace}
    (read : readDocument source before = (.ok json, opened)) :
    (json.toDocument.encode? ≠ none ↔ json.IsUnicode) ∧
      ∀ written, Access.writeDocument json target opened = (.ok (), written) →
        (∃ bytes, json.toDocument.encode? = some bytes ∧ written.disk.read target = .ok bytes) ∧
        readDocument target written = (.ok json, written) ∧
        ∀ rounds, ∃ after, rewrite target rounds written = (.ok (), after) ∧
          after.disk = written.disk := by
  obtain ⟨readable, -⟩ := readDocument_eq_ok read
  refine ⟨json.encode?_toDocument_iff, fun written wrote => ?_⟩
  have prints := Access.prints_of_writeDocument readable wrote
  exact ⟨prints.printed, readDocument_of_prints prints, rewrite_of_prints prints⟩

/-- A document with one name twice, escapes that are not needed, and no white space. -/
def looseDocument : Text :=
  "\x7b\"b\":1,\"a\":[\"\\ud83d\\ude00\\r\",NaN],\"b\":-0.0\x7d"

/-- A disk on which that document is the only file. -/
def looseDisk : Disk where
  entries location :=
    if location = [] then some .directory
    else if location = [Text.ofString "in.json"] then looseDocument.encode?.map .file
    else none
  home := []

/-- The document gets its normal form in a directory that is made for it, and keeps it. -/
theorem rewriting_settles_loose :
    let source := Path.ofText "in.json"
    let target := Path.ofText "new/out.json"
    let printed : Text :=
      "\x7b\n  \"b\": -0.0,\n  \"a\": [\n    \"😀\\r\",\n    NaN\n  ]\n\x7d\n"
    ∃ json opened written bytes after,
      readDocument source (.on looseDisk .warning) = (.ok json, opened) ∧
      Access.writeDocument json target opened = (.ok (), written) ∧
      printed.encode? = some bytes ∧ written.disk.read target = .ok bytes ∧
      readDocument target written = (.ok json, written) ∧
      rewrite target 3 written = (.ok (), after) ∧ after.disk = written.disk := by
  intro source target printed
  have document : (readDocument source (.on looseDisk .warning)).1.toOption.map Json.toDocument =
      some printed := by decide +kernel
  cases read : readDocument source (.on looseDisk .warning) with
  | mk result opened =>
      rw [read] at document
      cases result with
      | error failure => cases document
      | ok json =>
          have same : json.toDocument = printed := Option.some.inj document
          obtain ⟨-, settled⟩ := rewriting_settles target read
          obtain ⟨-, rfl⟩ := readDocument_eq_ok read
          have succeeds : (Access.writeDocument json target (.on looseDisk .warning)).1 =
              .ok () := by
            rw [Access.writeDocument, same]
            decide +kernel
          cases wrote : Access.writeDocument json target (.on looseDisk .warning) with
          | mk outcome written =>
              rw [wrote] at succeeds
              cases succeeds
              obtain ⟨⟨bytes, encoded, reread⟩, again, steady⟩ := settled written wrote
              obtain ⟨after, rewritten, unchanged⟩ := steady 3
              exact ⟨json, _, written, bytes, after, rfl, wrote, same ▸ encoded, reread, again,
                rewritten, unchanged⟩

end Job

end HelperKit
