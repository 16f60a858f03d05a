import HelperKit.Proofs.Settings.Store

/-!
# Sharing the document

Several tools keep their records under different keys of one document.  Whatever their
calls, in any order, the document behaves like one ordered map: a call touches the
member of its own key, in its place, and nothing else.
-/

namespace HelperKit

namespace Members

/-- A name is given a value: in its place if it is there, else at the end. -/
inductive Gives (name : Text) (value : Json) : Members → Members → Prop where
  | inPlace {front back : Members} (old : Json) (first : name ∉ front.names)
      (only : name ∉ back.names) :
      Gives name value (front ++ (name, old) :: back) (front ++ (name, value) :: back)
  | atEnd {members : Members} (absent : name ∉ members.names) :
      Gives name value members (members ++ [(name, value)])

/-- The pair of a name is taken away. -/
inductive Drops (name : Text) : Members → Members → Prop where
  | pair {front back : Members} (old : Json) (first : name ∉ front.names)
      (only : name ∉ back.names) :
      Drops name (front ++ (name, old) :: back) (front ++ back)

variable {members : Members} {name : Text} {value : Json}

theorem Distinct.split (distinct : members.Distinct) (member : name ∈ members.names) :
    ∃ front old back, members = front ++ (name, old) :: back ∧ name ∉ names front ∧
      name ∉ names back := by
  obtain ⟨⟨_, old⟩, inside, rfl⟩ := List.mem_map.mp member
  obtain ⟨front, back, rfl⟩ := List.append_of_mem inside
  rw [Distinct, names, List.map_append, List.map_cons, List.nodup_append,
    List.nodup_cons] at distinct
  exact ⟨front, old, back, rfl,
    fun before => distinct.2.2 _ before _ List.mem_cons_self rfl, distinct.2.1.1⟩

theorem put_append_of_not_mem {front back : Members} (first : name ∉ front.names) :
    put (front ++ back) name value = front ++ put back name value := by
  induction front with
  | nil => rfl
  | cons member front induction =>
      rw [names, List.map_cons, List.mem_cons, not_or] at first
      rw [List.cons_append, put_cons, if_neg (Ne.symm first.1), induction first.2,
        List.cons_append]

theorem gives_put (distinct : members.Distinct) :
    Gives name value members (members.put name value) := by
  by_cases member : name ∈ members.names
  · obtain ⟨front, old, back, rfl, first, only⟩ := distinct.split member
    rw [put_append_of_not_mem first, put_cons, if_pos rfl]
    exact .inPlace old first only
  · rw [put_of_not_mem member]
    exact .atEnd member

theorem drops_erase (distinct : members.Distinct) (member : name ∈ members.names) :
    Drops name members (members.erase name) := by
  obtain ⟨front, old, back, rfl, first, only⟩ := distinct.split member
  have split : erase (front ++ (name, old) :: back) name = erase front name ++ erase back name := by
    rw [erase, List.filter_append, ← erase, ← erase, erase_cons, if_pos rfl]
  rw [split, erase_of_not_mem first, erase_of_not_mem only]
  exact .pair old first only

/-- The members whose names nobody owns, in order. -/
def foreign (owned : Text → Bool) (members : Members) : Members :=
  members.filter fun member => !owned member.1

/-- What takes place under an owned name leaves the other members as they are. -/
theorem foreign_eq_of_erase_eq {owned : Text → Bool} {other : Members} (owns : owned name = true)
    (same : members.erase name = other.erase name) :
    members.foreign owned = other.foreign owned := by
  have through : ∀ members : Members, (members.erase name).foreign owned =
      members.foreign owned := by
    intro members
    rw [foreign, foreign, erase, List.filter_filter]
    refine List.filter_congr fun member _ => ?_
    by_cases isName : member.1 = name
    · simp [isName, owns]
    · simp [isName]
  rw [← through members, same, through other]

end Members

/-- A call of the store with a given key.  Loading comes with what it found. -/
inductive StoreCall where
  | save (key : Text) (project : Project)
  | load (key : Text) (found : Option Project)
  | forget (key : Text)

namespace StoreCall

/-- The key of the store that is called. -/
def key : StoreCall → Text
  | .save key _ => key
  | .load key _ => key
  | .forget key => key

/-- What a call makes of the members of the document. -/
def turn (members : Members) : StoreCall → Members
  | .save key project => members.put key project.toRecord
  | .load _ _ => members
  | .forget key => members.erase key

/-- What the calls make of the members of the document. -/
def turns (members : Members) (calls : List StoreCall) : Members :=
  calls.foldl turn members

/-- What a call writes under a key: a project, or that there is none. -/
def written? (key : Text) : StoreCall → Option (Option Project)
  | .save other project => if other = key then some (some project) else none
  | .load _ _ => none
  | .forget other => if other = key then some none else none

/-- What the calls have written last under a key. -/
def lastWritten? (key : Text) : List StoreCall → Option (Option Project)
  | [] => none
  | call :: calls => (lastWritten? key calls).or (call.written? key)

/-- A call on the document at a path that returns. -/
inductive Returns (path : Path) (before : Workspace) : StoreCall → Workspace → Prop where
  | save {key : Text} {project : Project} {after : Workspace}
      (returned : (Store.mk path key).save project before = (.ok (), after)) :
      Returns path before (.save key project) after
  | load {key : Text} {found : Option Project} {after : Workspace}
      (returned : (Store.mk path key).load before = (.ok found, after)) :
      Returns path before (.load key found) after
  | forget {key : Text} {after : Workspace}
      (returned : (Store.mk path key).forget before = (.ok (), after)) :
      Returns path before (.forget key) after

/-- Calls on the document at a path, one after the other, that all return. -/
inductive Runs (path : Path) (start : Workspace) : List StoreCall → Workspace → Prop where
  | nil : Runs path start [] start
  | snoc {calls : List StoreCall} {call : StoreCall} {between after : Workspace}
      (earlier : Runs path start calls between) (last : Returns path between call after) :
      Runs path start (calls ++ [call]) after

/-- What a call does to an ordered map, seen on the disk that holds it: saving gives the key
a value, forgetting takes its pair away, and the file with the last one, and what changes
nothing in the map changes nothing on the disk. -/
def Means (path : Path) (before : Disk) (members : Members) (after : Disk) (left : Members) :
    StoreCall → Prop
  | .save key project => Members.Gives key project.toRecord members left
  | .load key found =>
      after = before ∧ left = members ∧ (found = none ↔ key ∉ members.names) ∧
        (Store.mk path key).projectIn members = .ok found
  | .forget key =>
      (key ∉ members.names ∧ after = before ∧ left = members) ∨
        (Members.Drops key members left ∧ (after.isFile path = .ok false ↔ left = []))

end StoreCall

namespace Store

theorem eq_none_iff_of_projectIn {store : Store} {members : Members} {found : Option Project}
    (verdict : store.projectIn members = .ok found) :
    found = none ↔ store.key ∉ members.names := by
  rw [← Members.get?_ne_none_iff, not_not, ← projectIn_eq_none_iff, verdict]
  simp

end Store

namespace StoreCall

variable {path : Path} {start before after : Workspace} {initial members : Members}
  {calls : List StoreCall} {call : StoreCall} {key : Text}

/-! ## One call -/

/-- A call that returns does to the document what it means for the map. -/
theorem Returns.refines (returned : Returns path before call after)
    (holds : before.disk.Holds path members) :
    after.disk.Holds path (turn members call) ∧
      Means path before.disk members after.disk (turn members call) call := by
  have distinct := holds.storable.distinct
  cases returned with
  | save returned =>
      obtain ⟨found, standing, written⟩ := Store.save_eq_ok returned
      cases standing.unique holds
      exact ⟨.inr written, Members.gives_put distinct⟩
  | load returned =>
      obtain ⟨found, standing, verdict, reaches⟩ := Store.load_eq_ok returned
      cases standing.unique holds
      have same : after.disk = before.disk := reaches.disk
      rw [same]
      exact ⟨holds, rfl, rfl, Store.eq_none_iff_of_projectIn verdict, verdict⟩
  | @forget key _ returned =>
      obtain ⟨-, found, standing, outcome⟩ := Store.forget_eq_ok returned
      cases standing.unique holds
      rcases outcome with ⟨absent, reaches⟩ | ⟨present, left, file⟩
      · have same : after.disk = before.disk := reaches.disk
        have kept : turn members (.forget key) = members := Members.erase_of_not_mem absent
        rw [same, kept]
        exact ⟨holds, .inl ⟨absent, rfl, rfl⟩⟩
      · exact ⟨left, .inr ⟨Members.drops_erase distinct present, file⟩⟩

/-! ## Runs -/

/-- After any run the document holds what the calls made of the initial members. -/
theorem Runs.holds (run : Runs path start calls after)
    (initially : start.disk.Holds path initial) : after.disk.Holds path (turns initial calls) := by
  induction run with
  | nil => exact initially
  | snoc earlier last induction =>
      rw [turns, List.foldl_append]
      exact (last.refines induction).1

theorem turns_append_singleton (initial : Members) (calls : List StoreCall) (call : StoreCall) :
    turns initial (calls ++ [call]) = turn (turns initial calls) call := by
  rw [turns, List.foldl_append]
  rfl

/-- A call touches no member but that of its own key. -/
theorem erase_turn (members : Members) (call : StoreCall) :
    (turn members call).erase call.key = members.erase call.key := by
  cases call with
  | save key project => exact Members.erase_put
  | load key found => rfl
  | forget key =>
      refine Members.erase_of_not_mem ?_
      rw [← Members.get?_ne_none_iff, not_not]
      exact Members.get?_erase_self

/-- Members that no caller owns keep their values and their order. -/
theorem foreign_turns {owned : Text → Bool} (initial : Members)
    (owners : ∀ call ∈ calls, owned call.key = true) :
    (turns initial calls).foreign owned = initial.foreign owned := by
  induction calls generalizing initial with
  | nil => rfl
  | cons call calls induction =>
      rw [List.forall_mem_cons] at owners
      rw [turns, List.foldl_cons, ← turns, induction _ owners.2]
      exact Members.foreign_eq_of_erase_eq owners.1 (erase_turn initial call)

/-- The record of a key is that of the project written last, if any was written. -/
theorem get?_turns (initial : Members) (key : Text) (calls : List StoreCall) :
    (turns initial calls).get? key =
      match lastWritten? key calls with
      | none => initial.get? key
      | some written => written.map Project.toRecord := by
  induction calls generalizing initial with
  | nil => rfl
  | cons call calls induction =>
      rw [turns, List.foldl_cons, ← turns, induction, lastWritten?]
      cases lastWritten? key calls with
      | some written => rfl
      | none =>
          cases call with
          | load other found => rfl
          | save other project =>
              by_cases same : other = key
              · simp [turn, written?, same]
              · simp [turn, written?, same, Members.get?_put_of_ne (Ne.symm same)]
          | forget other =>
              by_cases same : other = key
              · simp [turn, written?, same, Members.get?_erase_self]
              · simp [turn, written?, same, Members.get?_erase_of_ne (Ne.symm same)]

/-- Several tools share a document like an ordered map.  In every state that their calls
lead to, the document holds what these calls made of the members; the next call does to it
what it means for the map; the members that no caller owns are as they were; and a tool
finds what it wrote last, or what was there before it wrote anything. -/
theorem run_refines_ordered_map (initially : start.disk.Holds path initial)
    (run : Runs path start calls before) :
    before.disk.Holds path (turns initial calls) ∧
      (∀ call after, Returns path before call after →
        Means path before.disk (turns initial calls) after.disk (turns initial (calls ++ [call]))
            call ∧
          after.disk.Holds path (turns initial (calls ++ [call]))) ∧
      (∀ owned : Text → Bool, (∀ call ∈ calls, owned call.key = true) →
        (turns initial calls).foreign owned = initial.foreign owned) ∧
      (∀ key project, lastWritten? key calls = some (some project) →
        ((Store.mk path key).load before).1 = .ok (some project)) ∧
      (∀ key found after, lastWritten? key calls = some none →
        (Store.mk path key).load before = (.ok found, after) → found = none) ∧
      (∀ key found after, lastWritten? key calls = none →
        (Store.mk path key).load before = (.ok found, after) →
          (Store.mk path key).projectIn initial = .ok found) := by
  have holds := run.holds initially
  have loaded : ∀ key found after, (Store.mk path key).load before = (.ok found, after) →
      (Store.mk path key).projectIn (turns initial calls) = .ok found := by
    intro key found after returned
    obtain ⟨members, standing, verdict, -⟩ := Store.load_eq_ok returned
    rw [holds.unique standing]
    exact verdict
  refine ⟨holds, ?_, fun owned => foreign_turns initial, ?_, ?_, ?_⟩
  · intro call after returned
    rw [turns_append_singleton]
    exact (returned.refines holds).symm
  · intro key project written
    have record : (turns initial calls).get? key = some project.toRecord := by
      rw [get?_turns, written]
      rfl
    have nonempty : turns initial calls ≠ [] := by
      intro empty
      rw [empty] at record
      cases record
    rw [(Store.load_of_holds holds (holds.isFile_of_mem nonempty)).1]
    simp only [Store.projectIn, record, Project.ofRecord_toRecord]
  · intro key found after written returned
    have absent : (turns initial calls).get? key = none := by
      rw [get?_turns, written]
      rfl
    have verdict := loaded key found after returned
    rw [Store.projectIn_of_absent absent] at verdict
    exact (Except.ok.inj verdict).symm
  · intro key found after written returned
    have record : (turns initial calls).get? key = initial.get? key := by
      rw [get?_turns, written]
    have verdict := loaded key found after returned
    simp only [Store.projectIn, record] at verdict ⊢
    exact verdict

/-! The document of a disk on which another tool has stored a member already. -/

/-- The member of the other tool. -/
def otherMembers : Members :=
  [("other", .array [.boolean true, .null])]

/-- The path of the document. -/
def otherPath : Path :=
  .ofText "shared.json"

/-- The disk with the document in its root. -/
def otherDisk : Disk where
  entries location :=
    if location = [] then some .directory
    else if location = ["shared.json"] then
      (Json.object otherMembers).toDocument.encode?.map .file
    else none
  home := []

theorem holds_otherDisk : otherDisk.Holds otherPath otherMembers := by
  have storable : otherMembers.Storable := by
    simp [otherMembers, Members.Storable, Json.Readable, Json.ReadableMembers,
      Json.ReadableItems, Members.Distinct, Members.names, Json.maximumDepth]
  refine .inr ⟨(Json.object otherMembers).toDocument.encode?.getD .empty, by decide +kernel, ?_⟩
  exact Members.ofFile?_toDocument storable (by decide +kernel)

/-- The project that is saved. -/
def savedProject : Project :=
  ⟨.deno, ".", .preset .core, .singleFile⟩

/-- The workspace after this tool has saved the project. -/
def savedOnce : Workspace :=
  ((Store.mk otherPath "crabSafe").save savedProject (.on otherDisk .warning)).2

/-- This tool saves its project beside the member of the other one. -/
theorem run_refines_ordered_map_two_tools :
    Runs otherPath (.on otherDisk .warning) [.save "crabSafe" savedProject] savedOnce ∧
      savedOnce.disk.Holds otherPath
        (otherMembers ++ [(Text.ofString "crabSafe", savedProject.toRecord)]) ∧
      ((Store.mk otherPath "crabSafe").load savedOnce).1 = .ok (some savedProject) := by
  have saved : (Store.mk otherPath "crabSafe").save savedProject (.on otherDisk .warning) =
      (.ok (), savedOnce) := by
    unfold savedOnce
    exact Attempt.eq_of_fst (by decide +kernel)
  have run := Runs.nil.snoc (.save saved)
  have refined := run_refines_ordered_map holds_otherDisk run
  have appended : turns otherMembers [.save "crabSafe" savedProject] =
      otherMembers ++ [(Text.ofString "crabSafe", savedProject.toRecord)] :=
    Members.put_of_not_mem (by decide)
  rw [List.nil_append, appended] at refined
  exact ⟨run, refined.1, refined.2.2.2.1 "crabSafe" savedProject (by decide)⟩

end StoreCall

end HelperKit
