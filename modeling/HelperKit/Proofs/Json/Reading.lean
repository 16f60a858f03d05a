import HelperKit.Proofs.Json.Spelling

/-!
# What a reading tells

A value that is read is spelled as the grammar says.  Where a reading stops although no flaw was
found, it has come to a place at which a value is due, and a limit is met there: a whole number is
too long, or an array or object lies too deep.
-/

namespace HelperKit

namespace Json

variable {text rest : List Char} {value : Json}

/-! ## What is read is spelled -/

theorem spells_of_constant? (known : constant? text = some (value, rest)) :
    Spells text value rest := by
  obtain ⟨⟨name, found⟩, member, read⟩ := List.exists_of_findSome?_eq_some known
  obtain ⟨left, after, same⟩ := Option.map_eq_some_iff.mp read
  cases same
  rw [after?_eq_some_iff.mp after]
  exact .constant member

mutual

/-- A value that is read is spelled. -/
theorem spells_of_readValue {fuel depth : Nat} {text rest : List Char} {value : Json}
    (read : readValue fuel depth text = .ok (value, rest)) : Spells text value rest := by
  cases fuel with
  | zero =>
      unfold readValue at read
      cases read
  | succ fuel =>
      -- The branches are those of the reader: a string, an object, an array, a constant, a number.
      unfold readValue at read
      split at read
      · split at read
        · rename_i known
          cases read
          exact .string (spellsString_of_readString known)
        · cases read
      · rename_i left
        have blanks := blanks_skipBlanks left
        split at read
        · cases read
        · split at read
          · rename_i closed
            rw [closed] at blanks
            cases read
            exact .object (.empty blanks)
          · split at read
            · rename_i members
              cases read
              exact .object (.filled blanks (spellsMembers_of_readMembers members))
            · cases read
      · rename_i left
        have blanks := blanks_skipBlanks left
        split at read
        · cases read
        · split at read
          · rename_i closed
            rw [closed] at blanks
            cases read
            exact .emptyArray blanks
          · split at read
            · rename_i elements
              cases read
              exact .array blanks (spellsElements_of_readElements elements)
            · cases read
      · split at read
        · rename_i known
          cases read
          exact spells_of_constant? known
        · exact .number (spellsNumber_of_readNumber read)

/-- Members that are read are spelled. -/
theorem spellsMembers_of_readMembers {fuel depth : Nat} {text rest : List Char}
    {pairs : List (Text × Json)} (read : readMembers fuel depth text = .ok (pairs, rest)) :
    SpellsMembers text pairs rest := by
  cases fuel with
  | zero =>
      unfold readMembers at read
      cases read
  | succ fuel =>
      unfold readMembers at read
      split at read
      · split at read
        · cases read
        · rename_i left name after known
          have beforeColon := blanks_skipBlanks after
          split at read
          · rename_i behind colon
            rw [colon] at beforeColon
            have named := SpellsName.colon (spellsString_of_readString known) beforeColon
              (blanks_skipBlanks behind)
            split at read
            · cases read
            · rename_i found between first
              have valued := spells_of_readValue first
              have blanks := blanks_skipBlanks between
              split at read
              · rename_i closed
                rw [closed] at blanks
                cases read
                exact .last named valued blanks
              · rename_i further comma
                rw [comma] at blanks
                split at read
                · cases read
                · rename_i others
                  cases read
                  exact .more named valued blanks (blanks_skipBlanks further)
                    (spellsMembers_of_readMembers others)
              · cases read
          · cases read
      · cases read

/-- Elements that are read are spelled. -/
theorem spellsElements_of_readElements {fuel depth : Nat} {text rest : List Char}
    {items : List Json} (read : readElements fuel depth text = .ok (items, rest)) :
    SpellsElements text items rest := by
  cases fuel with
  | zero =>
      unfold readElements at read
      cases read
  | succ fuel =>
      unfold readElements at read
      split at read
      · cases read
      · rename_i item between first
        have spelled := spells_of_readValue first
        have blanks := blanks_skipBlanks between
        split at read
        · rename_i closed
          rw [closed] at blanks
          cases read
          exact .last spelled blanks
        · rename_i further comma
          rw [comma] at blanks
          split at read
          · cases read
          · rename_i others
            cases read
            exact .more spelled blanks (blanks_skipBlanks further)
              (spellsElements_of_readElements others)
        · cases read

end

/-! ## Where a reading stops at a limit -/

/-- A reading stops although no flaw was found. -/
def Stop.IsLimit (stop : Stop) : Prop :=
  stop = .longInteger ∨ stop = .tooDeep

/-- What stops a reading at a place where so many more arrays and objects may be entered. -/
inductive Hinders : Nat → Stop → List Char → Prop where
  | long {room : Nat} {place : List Char} (long : LongInteger place) :
      Hinders room .longInteger place
  | array {left : List Char} : Hinders 0 .tooDeep ('[' :: left)
  | object {left : List Char} : Hinders 0 .tooDeep ('\x7b' :: left)

theorem not_isLimit_flaw {flaw : Flaw} {left : List Char} : ¬ (Stop.flaw flaw left).IsLimit := by
  rintro (impossible | impossible) <;> cases impossible

/-- Reading a string finds nothing but flaws. -/
theorem flaw_of_stringAfter {opening : List Char} {stop : Stop}
    (read : stringAfter opening text = .error stop) : ∃ flaw left, stop = .flaw flaw left := by
  have prepended : ∀ (point : CodePoint) (reading : Reading Text),
      prepend point reading = .error stop → reading = .error stop := by
    intro point reading same
    cases reading with
    | error other => exact same
    | ok found => cases same
  fun_induction stringAfter opening text with
  | case1 | case3 | case5 | case6 | case8 | case9 =>
      cases read
      exact ⟨_, _, rfl⟩
  | case2 => cases read
  | case4 _ _ _ _ _ _ _ _ induction => exact induction (prepended _ _ read)
  | case7 _ _ _ _ _ _ induction => exact induction (prepended _ _ read)
  | case10 _ _ _ _ _ _ _ _ induction => exact induction (prepended _ _ read)

theorem not_isLimit_of_readString {stop : Stop} (read : readString text = .error stop) :
    ¬ stop.IsLimit := by
  unfold readString at read
  split at read
  · cases read
  · rename_i known
    cases read
    obtain ⟨flaw, left, rfl⟩ := flaw_of_stringAfter known
    exact not_isLimit_flaw

mutual

/-- A value at which a reading stops without a flaw has something in it that hinders. -/
theorem hinders_of_readValue {fuel depth : Nat} {text : List Char} {stop : Stop}
    (read : readValue fuel depth text = .error stop) (limit : stop.IsLimit) :
    ∃ inside room place, depth = inside + room ∧ ValueDue inside text place ∧
      Hinders room stop place := by
  cases fuel with
  | zero =>
      unfold readValue at read
      cases read
      exact absurd limit not_isLimit_flaw
  | succ fuel =>
      -- What is too deep or too long is met here, or further inside by one step of nesting.
      unfold readValue at read
      split at read
      · split at read
        · cases read
        · rename_i known
          cases read
          exact absurd limit (not_isLimit_of_readString known)
      · rename_i left
        split at read
        · cases read
          exact ⟨0, 0, _, rfl, .here, .object⟩
        · split at read
          · cases read
          · split at read
            · cases read
            · rename_i members
              cases read
              obtain ⟨inside, room, place, rfl, due, hinders⟩ :=
                hinders_of_readMembers members limit
              exact ⟨inside + 1, room, place, by omega, .object (blanks_skipBlanks left) due,
                hinders⟩
      · rename_i left
        split at read
        · cases read
          exact ⟨0, 0, _, rfl, .here, .array⟩
        · split at read
          · cases read
          · split at read
            · cases read
            · rename_i elements
              cases read
              obtain ⟨inside, room, place, rfl, due, hinders⟩ :=
                hinders_of_readElements elements limit
              exact ⟨inside + 1, room, place, by omega, .array (blanks_skipBlanks left) due,
                hinders⟩
      · split at read
        · cases read
        · rcases longInteger_of_readNumber read with ⟨flaw, left, rfl⟩ | ⟨rfl, long⟩
          · exact absurd limit not_isLimit_flaw
          · exact ⟨0, depth, _, (Nat.zero_add depth).symm, .here, .long long⟩

/-- Members at which a reading stops without a flaw have something in them that hinders. -/
theorem hinders_of_readMembers {fuel depth : Nat} {text : List Char} {stop : Stop}
    (read : readMembers fuel depth text = .error stop) (limit : stop.IsLimit) :
    ∃ inside room place, depth = inside + room ∧ MemberDue inside text place ∧
      Hinders room stop place := by
  cases fuel with
  | zero =>
      unfold readMembers at read
      cases read
      exact absurd limit not_isLimit_flaw
  | succ fuel =>
      unfold readMembers at read
      split at read
      · split at read
        · rename_i known
          cases read
          exact absurd limit (not_isLimit_of_readString known)
        · rename_i left name after known
          have beforeColon := blanks_skipBlanks after
          split at read
          · rename_i behind colon
            rw [colon] at beforeColon
            have named := SpellsName.colon (spellsString_of_readString known) beforeColon
              (blanks_skipBlanks behind)
            split at read
            · rename_i first
              cases read
              obtain ⟨inside, room, place, same, due, hinders⟩ := hinders_of_readValue first limit
              exact ⟨inside, room, place, same, .here named due, hinders⟩
            · rename_i found between first
              have valued := spells_of_readValue first
              have blanks := blanks_skipBlanks between
              split at read
              · cases read
              · rename_i further comma
                rw [comma] at blanks
                split at read
                · rename_i others
                  cases read
                  obtain ⟨inside, room, place, same, due, hinders⟩ :=
                    hinders_of_readMembers others limit
                  exact ⟨inside, room, place, same,
                    .later named valued blanks (blanks_skipBlanks further) due, hinders⟩
                · cases read
              · cases read
                exact absurd limit not_isLimit_flaw
          · cases read
            exact absurd limit not_isLimit_flaw
      · cases read
        exact absurd limit not_isLimit_flaw

/-- Elements at which a reading stops without a flaw have something in them that hinders. -/
theorem hinders_of_readElements {fuel depth : Nat} {text : List Char} {stop : Stop}
    (read : readElements fuel depth text = .error stop) (limit : stop.IsLimit) :
    ∃ inside room place, depth = inside + room ∧ ElementDue inside text place ∧
      Hinders room stop place := by
  cases fuel with
  | zero =>
      unfold readElements at read
      cases read
      exact absurd limit not_isLimit_flaw
  | succ fuel =>
      unfold readElements at read
      split at read
      · rename_i first
        cases read
        obtain ⟨inside, room, place, same, due, hinders⟩ := hinders_of_readValue first limit
        exact ⟨inside, room, place, same, .here due, hinders⟩
      · rename_i item between first
        have spelled := spells_of_readValue first
        have blanks := blanks_skipBlanks between
        split at read
        · cases read
        · rename_i further comma
          rw [comma] at blanks
          split at read
          · rename_i others
            cases read
            obtain ⟨inside, room, place, same, due, hinders⟩ :=
              hinders_of_readElements others limit
            exact ⟨inside, room, place, same,
              .later spelled blanks (blanks_skipBlanks further) due, hinders⟩
          · cases read
        · cases read
          exact absurd limit not_isLimit_flaw

end

end Json

end HelperKit
