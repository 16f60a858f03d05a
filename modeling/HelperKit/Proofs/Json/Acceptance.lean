import HelperKit.Proofs.Json.Reading

/-!
# Which documents are read

A document is read exactly if it is spelled as the grammar says, as long as no limit is met: its
whole numbers are short enough, and its arrays and objects do not lie too deep.  A text meets the
first limit if a long whole number stands where a value is due, whatever is behind it; every
other text is refused for a flaw.
-/

namespace HelperKit

namespace Json

variable {text rest place : List Char} {value : Json}

/-! ## What is spelled is read -/

/-- A reading stops at a limit. -/
def MeetsLimit {α : Type} (reading : Except Stop α) : Prop :=
  ∃ stop, stop.IsLimit ∧ reading = .error stop

/-- A reading finds something, unless it stops at a limit. -/
def Yields {α : Type} (reading : Except Stop α) (found : α) : Prop :=
  reading = .ok found ∨ MeetsLimit reading

theorem meetsLimit_tooDeep {α : Type} : MeetsLimit (.error .tooDeep : Except Stop α) :=
  ⟨.tooDeep, .inr rfl, rfl⟩

theorem meetsLimit_longInteger {α : Type} : MeetsLimit (.error .longInteger : Except Stop α) :=
  ⟨.longInteger, .inl rfl, rfl⟩

/-- Behind a value that a comma or a closing bracket follows, no number goes on. -/
theorem Blanks.endsNumber_of_cons {first : Char} (blanks : Blanks text (first :: rest))
    (stops : first = ',' ∨ first = ']' ∨ first = '\x7d') : EndsNumber text := by
  refine blanks.endsNumber ?_
  rcases stops with rfl | rfl | rfl <;>
    exact endsNumber_cons rfl (by decide) (by decide) (by decide)

theorem readValue_array {first : List Char} (fuel depth : Nat) (blanks : Blanks text first)
    (solid : Solid first) :
    readValue (fuel + 1) (depth + 1) ('[' :: text) =
      (readElements fuel depth first).map fun (items, left) => (.array items, left) := by
  obtain ⟨character, others, rfl, notBlank, notClosed, -⟩ := solid
  simp only [readValue, blanks.skipBlanks_eq notBlank]
  split
  · rename_i same
    exact absurd (List.cons.inj same).1 notClosed
  · cases readElements fuel depth (character :: others) <;> rfl

theorem readValue_object {others : List Char} (fuel depth : Nat)
    (blanks : Blanks text ('"' :: others)) :
    readValue (fuel + 1) (depth + 1) ('\x7b' :: text) =
      (readMembers fuel depth ('"' :: others)).map fun (pairs, left) =>
        (.object (Members.ofPairs pairs), left) := by
  simp only [readValue, blanks.skipBlanks_eq (show isBlank '"' = false from rfl)]
  split
  · rename_i same
    exact absurd (List.cons.inj same).1 (by decide)
  · cases readMembers fuel depth ('"' :: others) <;> rfl

theorem readElements_stopped {fuel depth : Nat} {stop : Stop}
    (stopped : readValue fuel depth text = .error stop) :
    readElements (fuel + 1) depth text = .error stop := by
  simp only [readElements, stopped]

theorem readElements_last {fuel depth : Nat} {between : List Char} {item : Json}
    (read : readValue fuel depth text = .ok (item, between)) (blanks : Blanks between (']' :: rest)) :
    readElements (fuel + 1) depth text = .ok ([item], rest) := by
  simp only [readElements, read, blanks.skipBlanks_eq (show isBlank ']' = false from rfl)]

theorem readElements_next {fuel depth : Nat} {between after next : List Char} {item : Json}
    (read : readValue fuel depth text = .ok (item, between)) (before : Blanks between (',' :: after))
    (blanks : Blanks after next) (solid : Solid next) :
    readElements (fuel + 1) depth text =
      (readElements fuel depth next).map fun (items, left) => (item :: items, left) := by
  obtain ⟨character, others, rfl, notBlank, -⟩ := solid
  simp only [readElements, read, before.skipBlanks_eq (show isBlank ',' = false from rfl),
    blanks.skipBlanks_eq notBlank]
  cases readElements fuel depth (character :: others) <;> rfl

section Members

variable {fuel depth : Nat} {start between : List Char} {name : Text}
  (named : SpellsName text name start) (solid : Solid start)
include named solid

theorem readMembers_stopped {stop : Stop} (stopped : readValue fuel depth start = .error stop) :
    readMembers (fuel + 1) depth text = .error stop := by
  obtain ⟨character, others, rfl, notBlank, -⟩ := solid
  obtain ⟨string, before, blanks⟩ := named
  have read := string.readString_eq
  cases string with
  | quoted body =>
      simp only [readMembers, read, before.skipBlanks_eq (show isBlank ':' = false from rfl),
        blanks.skipBlanks_eq notBlank, stopped]

variable (valued : readValue fuel depth start = .ok (value, between))
include valued

theorem readMembers_last (closed : Blanks between ('\x7d' :: rest)) :
    readMembers (fuel + 1) depth text = .ok ([(name, value)], rest) := by
  obtain ⟨character, others, rfl, notBlank, -⟩ := solid
  obtain ⟨string, before, blanks⟩ := named
  have read := string.readString_eq
  cases string with
  | quoted body =>
      simp only [readMembers, read, before.skipBlanks_eq (show isBlank ':' = false from rfl),
        blanks.skipBlanks_eq notBlank, valued,
        closed.skipBlanks_eq (show isBlank '\x7d' = false from rfl)]

theorem readMembers_next {after next : List Char} (comma : Blanks between (',' :: after))
    (further : Blanks after next) (begins : ∃ others, next = '"' :: others) :
    readMembers (fuel + 1) depth text =
      (readMembers fuel depth next).map fun (pairs, left) => ((name, value) :: pairs, left) := by
  obtain ⟨character, others, rfl, notBlank, -⟩ := solid
  obtain ⟨string, before, blanks⟩ := named
  obtain ⟨quoted, rfl⟩ := begins
  have read := string.readString_eq
  cases string with
  | quoted body =>
      simp only [readMembers, read, before.skipBlanks_eq (show isBlank ':' = false from rfl),
        blanks.skipBlanks_eq notBlank, valued,
        comma.skipBlanks_eq (show isBlank ',' = false from rfl),
        further.skipBlanks_eq (show isBlank '"' = false from rfl)]
      cases readMembers fuel depth ('"' :: quoted) <;> rfl

end Members

/-- A reading that goes on behind another one stops where the other one stops. -/
theorem MeetsLimit.followed {α β : Type} {first : Except Stop α} {whole : Except Stop β}
    (meets : MeetsLimit first) (stopped : ∀ stop, first = .error stop → whole = .error stop) :
    MeetsLimit whole := by
  obtain ⟨stop, limit, read⟩ := meets
  exact ⟨stop, limit, stopped stop read⟩

theorem MeetsLimit.map {α β : Type} {reading : Except Stop α} (meets : MeetsLimit reading)
    (convert : α → β) : MeetsLimit (reading.map convert) := by
  obtain ⟨stop, limit, rfl⟩ := meets
  exact ⟨stop, limit, rfl⟩

/-- A reading that goes on behind another one finds something if the other one does. -/
theorem Yields.followed {α β : Type} {first : Except Stop α} {found : α} {whole : Except Stop β}
    {result : β} (yields : Yields first found)
    (stopped : ∀ stop, first = .error stop → whole = .error stop)
    (followed : first = .ok found → Yields whole result) : Yields whole result := by
  rcases yields with read | meets
  · exact followed read
  · exact .inr (meets.followed stopped)

theorem Yields.map {α β : Type} {reading : Except Stop α} {found : α}
    (yields : Yields reading found) (convert : α → β) :
    Yields (reading.map convert) (convert found) := by
  rcases yields with rfl | meets
  · exact .inl rfl
  · exact .inr (meets.map convert)

theorem SpellsNumber.readValue_yields (spells : SpellsNumber text value rest)
    (ends : EndsNumber rest) (fuel depth : Nat) :
    Yields (readValue (fuel + 1) depth text) (value, rest) := by
  obtain ⟨digit, others, decimal, form⟩ := spells.numeric
  rw [readValue_eq_readNumber decimal form]
  rcases spells.readNumber_eq ends with read | stopped
  · exact .inl read
  · rw [stopped]
    exact .inr meetsLimit_longInteger

theorem SpellsString.readValue_eq {string : Text} (spells : SpellsString text string rest)
    (fuel depth : Nat) : readValue (fuel + 1) depth text = .ok (.string string, rest) := by
  have read := spells.readString_eq
  cases spells with
  | quoted body => simp only [readValue, read]

mutual

/-- A value that is spelled is found, unless a limit is met. -/
theorem Spells.readValue_yields {text rest : List Char} {value : Json} (fuel depth : Nat) :
    Spells text value rest → EndsNumber rest → 2 * text.length ≤ fuel →
      Yields (readValue fuel depth text) (value, rest)
  -- By the derivation, which fuel for twice the length of the text outlasts.
  | @Spells.constant name value rest member, ends, enough => by
      have positive := Nat.zero_lt_of_lt (@Spells.constant name value rest member).length_lt
      obtain ⟨fuel, rfl⟩ := Nat.exists_eq_succ_of_ne_zero (show fuel ≠ 0 by omega)
      exact .inl (readValue_constant name member fuel depth rest)
  | .number number, ends, enough => by
      have positive := Nat.zero_lt_of_lt number.length_lt
      obtain ⟨fuel, rfl⟩ := Nat.exists_eq_succ_of_ne_zero (show fuel ≠ 0 by omega)
      exact number.readValue_yields ends fuel depth
  | .string spelled, ends, enough => by
      have positive := Nat.zero_lt_of_lt spelled.length_lt
      obtain ⟨fuel, rfl⟩ := Nat.exists_eq_succ_of_ne_zero (show fuel ≠ 0 by omega)
      exact .inl (spelled.readValue_eq fuel depth)
  | .emptyArray blanks, ends, enough => by
      obtain ⟨fuel, rfl⟩ := Nat.exists_eq_succ_of_ne_zero (show fuel ≠ 0 by simp at enough; omega)
      cases depth with
      | zero => exact .inr meetsLimit_tooDeep
      | succ depth =>
          left
          simp only [readValue, blanks.skipBlanks_eq (show isBlank ']' = false from rfl)]
  | .array blanks elements, ends, enough => by
      simp only [List.length_cons] at enough
      obtain ⟨fuel, rfl⟩ := Nat.exists_eq_succ_of_ne_zero (show fuel ≠ 0 by omega)
      cases depth with
      | zero => exact .inr meetsLimit_tooDeep
      | succ depth =>
          have length := blanks.length_le
          rw [readValue_array fuel depth blanks elements.solid]
          exact (elements.readElements_yields fuel depth (by omega)).map _
  | .object spelled, ends, enough => spelled.readValue_yields fuel depth enough

/-- Elements that are spelled are found, unless a limit is met. -/
theorem SpellsElements.readElements_yields {text rest : List Char} {items : List Json}
    (fuel depth : Nat) : SpellsElements text items rest → 2 * text.length < fuel →
      Yields (readElements fuel depth text) (items, rest)
  | .last spelled blanks, enough => by
      obtain ⟨fuel, rfl⟩ := Nat.exists_eq_succ_of_ne_zero (show fuel ≠ 0 by omega)
      have first := spelled.readValue_yields fuel depth
        (blanks.endsNumber_of_cons (.inr (.inl rfl))) (by omega)
      exact first.followed (fun _ => readElements_stopped) fun read =>
        .inl (readElements_last read blanks)
  | .more spelled before blanks others, enough => by
      obtain ⟨fuel, rfl⟩ := Nat.exists_eq_succ_of_ne_zero (show fuel ≠ 0 by omega)
      have first := spelled.readValue_yields fuel depth
        (before.endsNumber_of_cons (.inl rfl)) (by omega)
      refine first.followed (fun _ => readElements_stopped) fun read => ?_
      have length := spelled.length_lt
      have further := before.length_le
      have behind := blanks.length_le
      simp only [List.length_cons] at further
      rw [readElements_next read before blanks others.solid]
      exact (others.readElements_yields fuel depth (by omega)).map _

/-- An object that is spelled is found, unless a limit is met. -/
theorem SpellsObject.readValue_yields {text rest : List Char} {pairs : List (Text × Json)}
    (fuel depth : Nat) : SpellsObject text pairs rest → 2 * text.length ≤ fuel →
      Yields (readValue fuel depth text) (.object (Members.ofPairs pairs), rest)
  | .empty blanks, enough => by
      obtain ⟨fuel, rfl⟩ := Nat.exists_eq_succ_of_ne_zero (show fuel ≠ 0 by simp at enough; omega)
      cases depth with
      | zero => exact .inr meetsLimit_tooDeep
      | succ depth =>
          left
          simp only [readValue, blanks.skipBlanks_eq (show isBlank '\x7d' = false from rfl)]
          rfl
  | .filled blanks members, enough => by
      simp only [List.length_cons] at enough
      obtain ⟨fuel, rfl⟩ := Nat.exists_eq_succ_of_ne_zero (show fuel ≠ 0 by omega)
      cases depth with
      | zero => exact .inr meetsLimit_tooDeep
      | succ depth =>
          have length := blanks.length_le
          have found := members.readMembers_yields fuel depth (by omega)
          obtain ⟨others, rfl⟩ := members.begins
          rw [readValue_object fuel depth blanks]
          exact found.map _

/-- Members that are spelled are found, unless a limit is met. -/
theorem SpellsMembers.readMembers_yields {text rest : List Char} {pairs : List (Text × Json)}
    (fuel depth : Nat) : SpellsMembers text pairs rest → 2 * text.length < fuel →
      Yields (readMembers fuel depth text) (pairs, rest)
  | .last named valued blanks, enough => by
      obtain ⟨fuel, rfl⟩ := Nat.exists_eq_succ_of_ne_zero (show fuel ≠ 0 by omega)
      have length := named.length_lt
      have first := valued.readValue_yields fuel depth
        (blanks.endsNumber_of_cons (.inr (.inr rfl))) (by omega)
      exact first.followed (fun _ => readMembers_stopped named valued.solid) fun read =>
        .inl (readMembers_last named valued.solid read blanks)
  | .more named valued before blanks others, enough => by
      obtain ⟨fuel, rfl⟩ := Nat.exists_eq_succ_of_ne_zero (show fuel ≠ 0 by omega)
      have nameLength := named.length_lt
      have first := valued.readValue_yields fuel depth
        (before.endsNumber_of_cons (.inl rfl)) (by omega)
      refine first.followed (fun _ => readMembers_stopped named valued.solid) fun read => ?_
      have length := valued.length_lt
      have further := before.length_le
      have behind := blanks.length_le
      simp only [List.length_cons] at further
      rw [readMembers_next named valued.solid read before blanks others.begins]
      exact (others.readMembers_yields fuel depth (by omega)).map _

end

/-! ## Long integers that are met -/

theorem ValueDue.solid {inside : Nat} (due : ValueDue inside text place)
    (long : LongInteger place) : Solid text := by
  cases due with
  | here => exact long.numeric.solid
  | array blanks due => exact ⟨_, _, rfl, by decide⟩
  | object blanks due => exact ⟨_, _, rfl, by decide⟩

theorem ElementDue.solid {inside : Nat} (due : ElementDue inside text place)
    (long : LongInteger place) : Solid text := by
  cases due with
  | here due => exact due.solid long
  | later spelled before blanks due => exact spelled.solid

theorem MemberDue.begins {inside : Nat} (due : MemberDue inside text place) :
    ∃ others, text = '"' :: others := by
  cases due with
  | here named due => exact named.begins
  | later named valued before blanks due => exact named.begins

mutual

/-- A value in which a long integer is met is not read to its end. -/
theorem ValueDue.readValue_meetsLimit {inside : Nat} {text place : List Char}
    (long : LongInteger place) (fuel depth : Nat) :
    ValueDue inside text place → 2 * text.length ≤ fuel →
      MeetsLimit (readValue fuel depth text)
  | .here, enough => by
      obtain ⟨digit, others, decimal, form⟩ := long.numeric
      have positive : 0 < text.length := by
        rcases form with rfl | rfl <;> exact Nat.succ_pos _
      obtain ⟨fuel, rfl⟩ := Nat.exists_eq_succ_of_ne_zero (show fuel ≠ 0 by omega)
      rw [readValue_eq_readNumber decimal form, long.readNumber_eq]
      exact meetsLimit_longInteger
  | .array blanks due, enough => by
      simp only [List.length_cons] at enough
      obtain ⟨fuel, rfl⟩ := Nat.exists_eq_succ_of_ne_zero (show fuel ≠ 0 by omega)
      cases depth with
      | zero => exact meetsLimit_tooDeep
      | succ depth =>
          have length := blanks.length_le
          rw [readValue_array fuel depth blanks (due.solid long)]
          exact (due.readElements_meetsLimit long fuel depth (by omega)).map _
  | .object blanks due, enough => by
      simp only [List.length_cons] at enough
      obtain ⟨fuel, rfl⟩ := Nat.exists_eq_succ_of_ne_zero (show fuel ≠ 0 by omega)
      cases depth with
      | zero => exact meetsLimit_tooDeep
      | succ depth =>
          have length := blanks.length_le
          have meets := due.readMembers_meetsLimit long fuel depth (by omega)
          obtain ⟨others, rfl⟩ := due.begins
          rw [readValue_object fuel depth blanks]
          exact meets.map _

/-- Elements in which a long integer is met are not read to their end. -/
theorem ElementDue.readElements_meetsLimit {inside : Nat} {text place : List Char}
    (long : LongInteger place) (fuel depth : Nat) :
    ElementDue inside text place → 2 * text.length < fuel →
      MeetsLimit (readElements fuel depth text)
  | .here due, enough => by
      obtain ⟨fuel, rfl⟩ := Nat.exists_eq_succ_of_ne_zero (show fuel ≠ 0 by omega)
      exact (due.readValue_meetsLimit long fuel depth (by omega)).followed fun _ =>
        readElements_stopped
  | .later spelled before blanks due, enough => by
      obtain ⟨fuel, rfl⟩ := Nat.exists_eq_succ_of_ne_zero (show fuel ≠ 0 by omega)
      have first := spelled.readValue_yields fuel depth
        (before.endsNumber_of_cons (.inl rfl)) (by omega)
      rcases first with read | meets
      · have length := spelled.length_lt
        have further := before.length_le
        have behind := blanks.length_le
        simp only [List.length_cons] at further
        rw [readElements_next read before blanks (due.solid long)]
        exact (due.readElements_meetsLimit long fuel depth (by omega)).map _
      · exact meets.followed fun _ => readElements_stopped

/-- Members in which a long integer is met are not read to their end. -/
theorem MemberDue.readMembers_meetsLimit {inside : Nat} {text place : List Char}
    (long : LongInteger place) (fuel depth : Nat) :
    MemberDue inside text place → 2 * text.length < fuel →
      MeetsLimit (readMembers fuel depth text)
  | .here named due, enough => by
      obtain ⟨fuel, rfl⟩ := Nat.exists_eq_succ_of_ne_zero (show fuel ≠ 0 by omega)
      have length := named.length_lt
      exact (due.readValue_meetsLimit long fuel depth (by omega)).followed fun _ =>
        readMembers_stopped named (due.solid long)
  | .later named valued before blanks due, enough => by
      obtain ⟨fuel, rfl⟩ := Nat.exists_eq_succ_of_ne_zero (show fuel ≠ 0 by omega)
      have nameLength := named.length_lt
      have first := valued.readValue_yields fuel depth
        (before.endsNumber_of_cons (.inl rfl)) (by omega)
      rcases first with read | meets
      · have length := valued.length_lt
        have further := before.length_le
        have behind := blanks.length_le
        simp only [List.length_cons] at further
        rw [readMembers_next named valued.solid read before blanks due.begins]
        exact (due.readMembers_meetsLimit long fuel depth (by omega)).map _
      · exact meets.followed fun _ => readMembers_stopped named valued.solid

end

/-! ## Documents -/

theorem readDocument_eq {start : List Char} (blanks : Blanks text start) (solid : Solid start) :
    readDocument text =
      Except.bind (readValue (2 * text.length + 1) maximumDepth start) fun (json, left) =>
        match skipBlanks left with
        | [] => .ok json
        | left => .error (.flaw .extraData left) := by
  obtain ⟨first, others, rfl, notBlank, -, unmarked⟩ := solid
  unfold readDocument
  split
  · rename_i left
    cases blanks with
    | none => exact absurd rfl unmarked
    | more blank _ => exact absurd blank (by decide)
  · rw [blanks.skipBlanks_eq notBlank]
    cases readValue (2 * text.length + 1) maximumDepth (first :: others) <;> rfl

theorem isDocument_of_readDocument (read : readDocument text = .ok value) :
    IsDocument text value := by
  unfold readDocument at read
  split at read
  · cases read
  · split at read
    · cases read
    · rename_i found left known
      have blanks := blanks_skipBlanks left
      split at read
      · rename_i ended
        rw [ended] at blanks
        cases read
        exact ⟨_, left, blanks_skipBlanks text, spells_of_readValue known, blanks⟩
      · cases read

theorem hinders_of_readDocument {stop : Stop} (read : readDocument text = .error stop)
    (limit : stop.IsLimit) : ∃ start inside room place, maximumDepth = inside + room ∧
      Blanks text start ∧ ValueDue inside start place ∧ Hinders room stop place := by
  unfold readDocument at read
  split at read
  · cases read
    exact absurd limit not_isLimit_flaw
  · split at read
    · rename_i known
      cases read
      obtain ⟨inside, room, place, same, due, hinders⟩ := hinders_of_readValue known limit
      exact ⟨_, inside, room, place, same, blanks_skipBlanks text, due, hinders⟩
    · split at read
      · cases read
      · cases read
        exact absurd limit not_isLimit_flaw

theorem IsDocument.readDocument_yields (document : IsDocument text value) :
    Yields (readDocument text) value := by
  obtain ⟨start, rest, before, spelled, after⟩ := document
  have length := before.length_le
  have found := spelled.readValue_yields (2 * text.length + 1) maximumDepth
    (after.endsNumber endsNumber_nil) (by omega)
  rw [readDocument_eq before spelled.solid]
  refine found.followed (fun stop stopped => by rw [stopped]; rfl) fun read => .inl ?_
  rw [read]
  change (match skipBlanks rest with | [] => _ | left => _) = _
  rw [after.skipBlanks_eq_nil]

theorem MeetsLongInteger.readDocument_meetsLimit (meets : MeetsLongInteger text) :
    MeetsLimit (readDocument text) := by
  obtain ⟨inside, start, place, before, due, long⟩ := meets
  have length := before.length_le
  rw [readDocument_eq before (due.solid long)]
  refine (due.readValue_meetsLimit long (2 * text.length + 1) maximumDepth (by omega)).followed ?_
  intro stop stopped
  rw [stopped]
  rfl

theorem ofDocument_eq_ok_iff : ofDocument text = .ok value ↔ readDocument text = .ok value := by
  unfold ofDocument
  split <;> simp_all

theorem ofDocument_eq_longInteger_iff :
    ofDocument text = .error .longInteger ↔ readDocument text = .error .longInteger := by
  unfold ofDocument
  split <;> simp_all

theorem ofDocument_eq_tooDeep_iff :
    ofDocument text = .error .tooDeep ↔ readDocument text = .error .tooDeep := by
  unfold ofDocument
  split <;> simp_all

theorem isDocument_of_ofDocument (read : ofDocument text = .ok value) : IsDocument text value :=
  isDocument_of_readDocument (ofDocument_eq_ok_iff.mp read)

theorem meetsLongInteger_of_ofDocument (read : ofDocument text = .error .longInteger) :
    MeetsLongInteger text := by
  obtain ⟨start, inside, room, place, -, before, due, hinders⟩ :=
    hinders_of_readDocument (ofDocument_eq_longInteger_iff.mp read) (.inl rfl)
  cases hinders with
  | long long => exact ⟨inside, start, place, before, due, long⟩

/-- Only a document with something inside too many arrays and objects is not followed. -/
theorem overnested_of_ofDocument (read : ofDocument text = .error .tooDeep) :
    Overnested text := by
  obtain ⟨start, inside, room, place, depth, before, due, hinders⟩ :=
    hinders_of_readDocument (ofDocument_eq_tooDeep_iff.mp read) (.inr rfl)
  cases hinders with
  | array =>
      rw [Nat.add_zero] at depth
      exact ⟨start, _, _, before, depth ▸ due, .inl rfl⟩
  | object =>
      rw [Nat.add_zero] at depth
      exact ⟨start, _, _, before, depth ▸ due, .inr rfl⟩

theorem MeetsLongInteger.ofDocument_eq (meets : MeetsLongInteger text)
    (followed : ofDocument text ≠ .error .tooDeep) : ofDocument text = .error .longInteger := by
  obtain ⟨stop, rfl | rfl, read⟩ := meets.readDocument_meetsLimit
  · exact ofDocument_eq_longInteger_iff.mpr read
  · exact absurd (ofDocument_eq_tooDeep_iff.mpr read) followed

/-- A document without a long integer has the value that it spells. -/
theorem IsDocument.ofDocument_eq (document : IsDocument text value)
    (followed : ofDocument text ≠ .error .tooDeep) (short : ¬ MeetsLongInteger text) :
    ofDocument text = .ok value := by
  rcases document.readDocument_yields with read | ⟨stop, rfl | rfl, read⟩
  · exact ofDocument_eq_ok_iff.mpr read
  · exact absurd (meetsLongInteger_of_ofDocument (ofDocument_eq_longInteger_iff.mpr read)) short
  · exact absurd (ofDocument_eq_tooDeep_iff.mpr read) followed

theorem ofDocument_eq_iff (followed : ofDocument text ≠ .error .tooDeep) :
    ofDocument text = .ok value ↔ ¬ MeetsLongInteger text ∧ IsDocument text value := by
  constructor
  · intro read
    refine ⟨fun meets => ?_, isDocument_of_ofDocument read⟩
    rw [meets.ofDocument_eq followed] at read
    cases read
  · exact fun ⟨short, document⟩ => document.ofDocument_eq followed short

/-- A text is refused for a flaw if it is no document, unless a long integer is met first. -/
theorem malformed_iff (followed : ofDocument text ≠ .error .tooDeep) :
    (∃ flaw place, ofDocument text = .error (.malformed flaw place)) ↔
      ¬ MeetsLongInteger text ∧ ∀ value, ¬ IsDocument text value := by
  constructor
  · rintro ⟨flaw, place, refused⟩
    refine ⟨fun meets => ?_, fun value document => ?_⟩
    · rw [meets.ofDocument_eq followed] at refused
      cases refused
    · have short : ¬ MeetsLongInteger text := by
        intro meets
        rw [meets.ofDocument_eq followed] at refused
        cases refused
      rw [document.ofDocument_eq followed short] at refused
      cases refused
  · rintro ⟨short, nothing⟩
    cases read : ofDocument text with
    | ok value => exact absurd (isDocument_of_ofDocument read) (nothing value)
    | error refusal =>
        cases refusal with
        | malformed flaw place => exact ⟨flaw, place, rfl⟩
        | longInteger => exact absurd (meetsLongInteger_of_ofDocument read) short
        | tooDeep => exact absurd read followed

/-- An object in a document is spelled by its pairs. -/
theorem isDocument_object_iff {members : Members} :
    IsDocument text (.object members) ↔
      ∃ pairs, IsObjectDocument text pairs ∧ Members.ofPairs pairs = members := by
  constructor
  · rintro ⟨start, rest, before, spelled, after⟩
    generalize same : Json.object members = value at spelled
    cases spelled with
    | constant member =>
        subst same
        simp [constants] at member
    | number number => cases number <;> cases same
    | string => cases same
    | emptyArray => cases same
    | array => cases same
    | @object _ _ pairs spelled =>
        cases same
        exact ⟨pairs, ⟨start, rest, before, spelled, after⟩, rfl⟩
  · rintro ⟨pairs, ⟨start, rest, before, spelled, after⟩, rfl⟩
    exact ⟨start, rest, before, .object spelled, after⟩

end Json

end HelperKit
