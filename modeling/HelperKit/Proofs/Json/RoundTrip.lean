import HelperKit.Proofs.Json.Readable
import HelperKit.Proofs.Json.Strings

/-!
# Documents are read back

A value that a document can hold is read back from its printed form.  What is found
in a settings file, rewritten and stored therefore comes back unchanged.
-/

namespace HelperKit

namespace Json

/-! ## The beginning of a value -/

theorem after?_eq_some_iff {start text left : List Char} :
    after? start text = some left ↔ text = start ++ left := by
  induction start generalizing text with
  | nil => simp [after?]
  | cons expected start induction =>
      cases text with
      | nil => simp [after?]
      | cons character text =>
          by_cases same : expected = character
          · simp [after?, same, induction]
          · simp [after?, same, Ne.symm same]

/-- A number begins with a digit, or with a minus and a digit. -/
theorem readNumber_head {text : List Char} {reading : Json × List Char}
    (success : readNumber text = .ok reading) :
    ∃ digit rest, isDigit digit = true ∧
      (text = digit :: rest ∨ text = '-' :: digit :: rest) := by
  unfold readNumber at success
  split at success
  rename_i negative body signed
  have first : ∃ digit rest, isDigit digit = true ∧ body = digit :: rest := by
    split at success
    · exact ⟨'0', _, rfl, rfl⟩
    · rename_i digit rest _
      split at success
      · rename_i decimal
        exact ⟨digit, rest, decimal, rfl⟩
      · cases success
    · cases success
  obtain ⟨digit, rest, decimal, same⟩ := first
  refine ⟨digit, rest, decimal, ?_⟩
  split at signed
  · cases signed
    exact .inr (by rw [same])
  · cases signed
    exact .inl same

theorem isDigit_ne {digit other : Char} (decimal : isDigit digit = true)
    (different : isDigit other = false) : digit ≠ other := by
  rintro rfl
  rw [decimal] at different
  cases different

theorem readValue_eq_readNumber {digit : Char} {text others : List Char}
    (decimal : isDigit digit = true)
    (form : text = digit :: others ∨ text = '-' :: digit :: others) (fuel depth : Nat) :
    readValue (fuel + 1) depth text = readNumber text := by
  have other : ∀ character, isDigit character = false → digit ≠ character :=
    fun character => isDigit_ne decimal
  have none : constant? text = none := by
    rcases form with rfl | rfl
    · simp [constant?, constants, after?, Ne.symm (other 'n' rfl), Ne.symm (other 't' rfl),
        Ne.symm (other 'f' rfl), Ne.symm (other 'N' rfl), Ne.symm (other 'I' rfl),
        Ne.symm (other '-' rfl)]
    · simp [constant?, constants, after?, Ne.symm (other 'I' rfl)]
  unfold readValue
  rcases form with rfl | rfl
  · simp [other '"' rfl, other '\x7b' rfl, other '[' rfl, none]
  · simp [none]

theorem readValue_of_readNumber {text : List Char} {reading : Json × List Char}
    (fuel depth : Nat) (success : readNumber text = .ok reading) :
    readValue (fuel + 1) depth text = .ok reading := by
  obtain ⟨digit, rest, decimal, form⟩ := readNumber_head success
  rw [readValue_eq_readNumber decimal form, success]

theorem isBlank_of_isDigit {digit : Char} (decimal : isDigit digit = true) :
    isBlank digit = false := by
  have space : digit ≠ ' ' := isDigit_ne decimal rfl
  have tab : digit ≠ '\t' := isDigit_ne decimal rfl
  have feed : digit ≠ '\n' := isDigit_ne decimal rfl
  have carriage : digit ≠ '\r' := isDigit_ne decimal rfl
  simp [isBlank, space, tab, feed, carriage]

/-- A value begins with a character that stands neither around nor after values. -/
theorem readValue_head {fuel depth : Nat} {text : List Char} {reading : Json × List Char}
    (success : readValue fuel depth text = .ok reading) :
    ∃ first rest, text = first :: rest ∧ isBlank first = false ∧ first ≠ ']' ∧
      first ≠ '\uFEFF' := by
  cases fuel with
  | zero =>
      unfold readValue at success
      cases success
  | succ fuel =>
      unfold readValue at success
      split at success
      · exact ⟨_, _, rfl, by decide⟩
      · exact ⟨_, _, rfl, by decide⟩
      · exact ⟨_, _, rfl, by decide⟩
      · split at success
        · rename_i reading constant
          unfold constant? at constant
          obtain ⟨⟨name, value⟩, member, read⟩ := List.exists_of_findSome?_eq_some constant
          obtain ⟨left, after, -⟩ := Option.map_eq_some_iff.mp read
          rw [after?_eq_some_iff] at after
          simp only [constants, List.mem_cons, Prod.mk.injEq, List.not_mem_nil, or_false] at member
          rcases member with ⟨rfl, -⟩ | ⟨rfl, -⟩ | ⟨rfl, -⟩ | ⟨rfl, -⟩ | ⟨rfl, -⟩ | ⟨rfl, -⟩ <;>
            exact ⟨_, _, after, by decide⟩
        · obtain ⟨digit, rest, decimal, form⟩ := readNumber_head success
          rcases form with rfl | rfl
          · exact ⟨digit, rest, rfl, isBlank_of_isDigit decimal, isDigit_ne decimal rfl,
              isDigit_ne decimal rfl⟩
          · exact ⟨_, _, rfl, by decide⟩

theorem skipBlanks_newLine (level : Nat) {first : Char} {rest : List Char}
    (solid : isBlank first = false) :
    skipBlanks ((newLine level).characters ++ first :: rest) = first :: rest := by
  have spaces : ∀ count, skipBlanks ((Text.spaces count).characters ++ first :: rest) =
      first :: rest := by
    intro count
    induction count with
    | zero => simp [Text.spaces, skipBlanks, solid]
    | succ count induction =>
        simp only [skipBlanks, Text.spaces, List.replicate_succ, Text.characters_char,
          List.cons_append] at induction ⊢
        rw [List.dropWhile_cons_of_pos (by decide), induction]
  simp only [skipBlanks, newLine, Text.characters_char, List.cons_append] at spaces ⊢
  rw [List.dropWhile_cons_of_pos (by decide)]
  exact spaces _

theorem skipBlanks_solid {first : Char} {rest : List Char} (solid : isBlank first = false) :
    skipBlanks (first :: rest) = first :: rest := by
  simp [skipBlanks, solid]

/-! ## Single values -/

theorem readValue_constant (name : String) {value : Json} (member : (name, value) ∈ constants)
    (fuel depth : Nat) (rest : List Char) :
    readValue (fuel + 1) depth (name.toList ++ rest) = .ok (value, rest) := by
  simp only [constants, List.mem_cons, Prod.mk.injEq, List.not_mem_nil, or_false] at member
  rcases member with ⟨rfl, rfl⟩ | ⟨rfl, rfl⟩ | ⟨rfl, rfl⟩ | ⟨rfl, rfl⟩ | ⟨rfl, rfl⟩ | ⟨rfl, rfl⟩ <;>
    simp [readValue, constant?, constants, after?]

theorem readValue_integer {number : Int} {rest : List Char} (fuel depth : Nat)
    (readable : Readable depth (.integer number)) (ends : EndsNumber rest) :
    readValue (fuel + 1) depth ((printInteger number).characters ++ rest) =
      .ok (.integer number, rest) := by
  have short : (Nat.toDigits 10 number.natAbs).length ≤ maximumDigits :=
    (Nat.length_toDigits_le_iff (by decide) (by decide)).mpr readable
  have printed : (printInteger number).characters ++ rest =
      signOf (decide (number < 0)) ++ (Nat.toDigits 10 number.natAbs ++ rest) := by
    by_cases negative : number < 0
    · simp [printInteger, negative, signOf, Text.ofNat, Text.ofString]
    · simp [printInteger, negative, signOf, Text.ofNat, Text.ofString]
  rw [printed]
  exact readValue_of_readNumber fuel depth (readNumber_integer number short ends)

theorem readValue_double {number : Double} {rest : List Char} (fuel depth : Nat)
    (canonical : number.IsCanonical) (ends : EndsNumber rest) :
    readValue (fuel + 1) depth (number.toChars ++ rest) = .ok (.double number, rest) := by
  cases number with
  | nan => exact readValue_constant "NaN" (by simp [constants]) fuel depth rest
  | infinite negative =>
      cases negative with
      | false =>
          exact readValue_constant "Infinity" (by simp [constants]) fuel depth rest
      | true =>
          exact readValue_constant "-Infinity" (by simp [constants]) fuel depth rest
  | finite negative significand exponent =>
      exact readValue_of_readNumber fuel depth (readNumber_finite negative canonical ends)

theorem readValue_string {text : Text} (fuel depth : Nat) (rest : List Char)
    (unicode : text.isUnicode = true) :
    readValue (fuel + 1) depth ((printString text).characters ++ rest) =
      .ok (.string text, rest) := by
  have read := readString_print rest unicode
  obtain ⟨left, begins⟩ : ∃ left, (printString text).characters ++ rest = '"' :: left := by
    simp [printString, Text.ofString]
  rw [begins] at read ⊢
  unfold readValue
  simp only [read]

/-! ## Arrays and objects -/

theorem endsNumber_cons {first : Char} {rest : List Char} (digit : isDigit first = false)
    (point : first ≠ '.') (lower : first ≠ 'e') (upper : first ≠ 'E') :
    EndsNumber (first :: rest) := by
  intro character head
  cases head
  exact ⟨digit, point, lower, upper⟩

theorem endsNumber_newLine (level : Nat) (rest : List Char) :
    EndsNumber ((newLine level).characters ++ rest) := by
  rw [newLine, Text.characters_char, List.cons_append]
  exact endsNumber_cons rfl (by decide) (by decide) (by decide)

theorem readElements_head {fuel depth : Nat} {text : List Char}
    {reading : List Json × List Char} (success : readElements fuel depth text = .ok reading) :
    ∃ first rest, text = first :: rest ∧ isBlank first = false ∧ first ≠ ']' := by
  cases fuel with
  | zero =>
      unfold readElements at success
      cases success
  | succ fuel =>
      unfold readElements at success
      split at success
      · cases success
      · rename_i read
        obtain ⟨first, rest, same, solid, other, -⟩ := readValue_head read
        exact ⟨first, rest, same, solid, other⟩

theorem readMembers_head {fuel depth : Nat} {text : List Char}
    {reading : List (Text × Json) × List Char}
    (success : readMembers fuel depth text = .ok reading) : ∃ rest, text = '"' :: rest := by
  cases fuel with
  | zero =>
      unfold readMembers at success
      cases success
  | succ fuel =>
      unfold readMembers at success
      split at success
      · exact ⟨_, rfl⟩
      · cases success

theorem readValue_of_readElements {fuel depth : Nat} {text rest : List Char} {items : List Json}
    (level : Nat) (elements : readElements fuel depth text = .ok (items, rest)) :
    readValue (fuel + 1) (depth + 1) ('[' :: ((newLine level).characters ++ text)) =
      .ok (.array items, rest) := by
  obtain ⟨first, others, rfl, solid, other⟩ := readElements_head elements
  simp only [readValue, skipBlanks_newLine level solid]
  split
  · rename_i same
    exact absurd (List.cons.inj same).1 other
  · rw [elements]

theorem readValue_of_readMembers {fuel depth : Nat} {text rest : List Char}
    {pairs : List (Text × Json)} (level : Nat)
    (members : readMembers fuel depth text = .ok (pairs, rest)) :
    readValue (fuel + 1) (depth + 1) ('\x7b' :: ((newLine level).characters ++ text)) =
      .ok (.object (Members.ofPairs pairs), rest) := by
  obtain ⟨others, rfl⟩ := readMembers_head members
  simp only [readValue, skipBlanks_newLine level (show isBlank '"' = false from rfl)]
  split
  · rename_i same
    cases same
  · rw [members]

theorem readElements_of_last {fuel depth : Nat} {text rest : List Char} {item : Json}
    (level : Nat) (read : readValue fuel depth text =
      .ok (item, (newLine level).characters ++ ']' :: rest)) :
    readElements (fuel + 1) depth text = .ok ([item], rest) := by
  simp only [readElements, read, skipBlanks_newLine level (show isBlank ']' = false from rfl)]

theorem readElements_of_more {fuel depth : Nat} {text further rest : List Char} {item : Json}
    {items : List Json} (level : Nat) (read : readValue fuel depth text =
      .ok (item, ',' :: ((newLine level).characters ++ further)))
    (elements : readElements fuel depth further = .ok (items, rest)) :
    readElements (fuel + 1) depth text = .ok (item :: items, rest) := by
  obtain ⟨first, others, rfl, solid, -⟩ := readElements_head elements
  simp only [readElements, read, skipBlanks_solid (show isBlank ',' = false from rfl),
    skipBlanks_newLine level solid, elements]

/-- What follows the name of a member. -/
theorem readMembers_eq {name : Text} {fuel depth : Nat} {text left : List Char} {value : Json}
    (unicode : name.isUnicode = true) (read : readValue fuel depth text = .ok (value, left)) :
    readMembers (fuel + 1) depth ((printString name).characters ++ ':' :: ' ' :: text) =
      match skipBlanks left with
      | '\x7d' :: left => .ok ([(name, value)], left)
      | ',' :: left =>
          match readMembers fuel depth (skipBlanks left) with
          | .error stop => .error stop
          | .ok (pairs, left) => .ok ((name, value) :: pairs, left)
      | left => .error (.flaw .expectingComma left) := by
  have nameRead := readString_print (':' :: ' ' :: text) unicode
  obtain ⟨others, begins⟩ : ∃ others,
      (printString name).characters ++ ':' :: ' ' :: text = '"' :: others := by
    simp [printString, Text.ofString]
  rw [begins] at nameRead ⊢
  obtain ⟨first, rest, rfl, solid, -⟩ := readValue_head read
  have skipped : skipBlanks (' ' :: first :: rest) = first :: rest := by
    rw [skipBlanks, List.dropWhile_cons_of_pos (by decide)]
    exact skipBlanks_solid solid
  have unfolded := readMembers.eq_2 depth fuel others
  simp only [nameRead, skipBlanks_solid (show isBlank ':' = false from rfl), skipped, read]
    at unfolded
  exact unfolded

theorem readMembers_of_last {name : Text} {fuel depth : Nat} {text rest : List Char}
    {value : Json} (level : Nat) (unicode : name.isUnicode = true)
    (read : readValue fuel depth text =
      .ok (value, (newLine level).characters ++ '\x7d' :: rest)) :
    readMembers (fuel + 1) depth ((printString name).characters ++ ':' :: ' ' :: text) =
      .ok ([(name, value)], rest) := by
  rw [readMembers_eq unicode read,
    skipBlanks_newLine level (show isBlank '\x7d' = false from rfl)]
  rfl

theorem readMembers_of_more {name : Text} {fuel depth : Nat} {text further rest : List Char}
    {value : Json} {pairs : List (Text × Json)} (level : Nat) (unicode : name.isUnicode = true)
    (read : readValue fuel depth text =
      .ok (value, ',' :: ((newLine level).characters ++ further)))
    (members : readMembers fuel depth further = .ok (pairs, rest)) :
    readMembers (fuel + 1) depth ((printString name).characters ++ ':' :: ' ' :: text) =
      .ok ((name, value) :: pairs, rest) := by
  obtain ⟨others, rfl⟩ := readMembers_head members
  rw [readMembers_eq unicode read, skipBlanks_solid (show isBlank ',' = false from rfl)]
  simp only [skipBlanks_newLine level (show isBlank '"' = false from rfl), members]

@[simp]
theorem length_newLine (level : Nat) : (newLine level).length = 2 * level + 1 := by
  simp [newLine, Text.spaces]

mutual

/-- A value is read back from its printed form. -/
theorem readValue_print (json : Json) (level depth fuel : Nat) (rest : List Char)
    (readable : Readable depth json) (unicode : (print level json).isUnicode = true)
    (enough : (print level json).length < fuel) (ends : EndsNumber rest) :
    readValue fuel depth ((print level json).characters ++ rest) = .ok (json, rest) := by
  obtain ⟨fuel, rfl⟩ := Nat.exists_eq_succ_of_ne_zero (show fuel ≠ 0 by omega)
  -- Along with the items and members below: each level of the value takes one of the depth.
  cases json with
  | null =>
      rw [print]
      exact readValue_constant "null" (by simp [constants]) fuel depth rest
  | boolean value =>
      cases value with
      | true =>
          rw [print]
          exact readValue_constant "true" (by simp [constants]) fuel depth rest
      | false =>
          rw [print]
          exact readValue_constant "false" (by simp [constants]) fuel depth rest
  | integer number =>
      rw [print]
      exact readValue_integer fuel depth readable ends
  | double number =>
      rw [print, Text.characters_ofChars]
      exact readValue_double fuel depth readable ends
  | string text =>
      rw [print] at unicode ⊢
      rw [isUnicode_printString] at unicode
      exact readValue_string fuel depth rest unicode
  | array items =>
      obtain ⟨deep, itemsReadable⟩ := readable
      obtain ⟨depth, rfl⟩ := Nat.exists_eq_succ_of_ne_zero deep.ne'
      cases items with
      | nil =>
          rw [print]
          rfl
      | cons item items =>
          rw [print] at unicode enough ⊢
          simp only [Text.isUnicode_append, Bool.and_eq_true, List.length_append,
            length_newLine] at unicode enough
          have elements := readElements_print item items (level + 1) level depth fuel rest
            itemsReadable (by simp [unicode]) (by rw [List.length_append]; omega)
          have read := readValue_of_readElements (level + 1) elements
          simpa [Text.ofString] using read
  | object members =>
      obtain ⟨deep, distinct, membersReadable⟩ := readable
      obtain ⟨depth, rfl⟩ := Nat.exists_eq_succ_of_ne_zero deep.ne'
      cases members with
      | nil =>
          rw [print]
          rfl
      | cons member members =>
          obtain ⟨name, value⟩ := member
          rw [print] at unicode enough ⊢
          simp only [Text.isUnicode_append, isUnicode_printString, Bool.and_eq_true,
            List.length_append, length_newLine] at unicode enough
          have pairs := readMembers_print name value members (level + 1) level depth fuel rest
            membersReadable (by simp [unicode]) (by simp [unicode])
            (by rw [List.length_append]; omega)
          have read := readValue_of_readMembers (level + 1) pairs
          rw [Members.ofPairs_of_distinct distinct] at read
          simpa [Text.ofString] using read
termination_by fuel

/-- Elements are read back up to the closing bracket. -/
theorem readElements_print (item : Json) (items : List Json) (level outer depth fuel : Nat)
    (rest : List Char) (readable : ReadableItems depth (item :: items))
    (unicode : Text.isUnicode (print level item ++ printItems level items) = true)
    (enough : (print level item ++ printItems level items).length + 1 < fuel) :
    readElements fuel depth (Text.characters (print level item ++ printItems level items) ++
        ((newLine outer).characters ++ ']' :: rest)) = .ok (item :: items, rest) := by
  obtain ⟨fuel, rfl⟩ := Nat.exists_eq_succ_of_ne_zero (show fuel ≠ 0 by omega)
  obtain ⟨itemReadable, itemsReadable⟩ := readable
  rw [List.length_append] at enough
  rw [Text.isUnicode_append, Bool.and_eq_true] at unicode
  cases items with
  | nil =>
      have read := readValue_print item level depth fuel _ itemReadable unicode.1 (by omega)
        (endsNumber_newLine outer (']' :: rest))
      rw [printItems, List.append_nil]
      exact readElements_of_last outer read
  | cons second more =>
      have read := readValue_print item level depth fuel
        (',' :: ((newLine level).characters ++
          (Text.characters (print level second ++ printItems level more) ++
            ((newLine outer).characters ++ ']' :: rest)))) itemReadable unicode.1 (by omega)
        (endsNumber_cons rfl (by decide) (by decide) (by decide))
      rw [printItems] at unicode enough ⊢
      simp only [Text.isUnicode_append, Bool.and_eq_true, List.length_append,
        length_newLine] at unicode enough
      have further := readElements_print second more level outer depth fuel rest itemsReadable
        (by simp [unicode]) (by rw [List.length_append]; omega)
      have elements := readElements_of_more level read further
      simpa [Text.ofString] using elements
termination_by fuel

/-- Members are read back up to the closing brace. -/
theorem readMembers_print (name : Text) (value : Json) (members : List (Text × Json))
    (level outer depth fuel : Nat) (rest : List Char)
    (readable : ReadableMembers depth ((name, value) :: members))
    (nameUnicode : name.isUnicode = true)
    (unicode : Text.isUnicode (print level value ++ printMembers level members) = true)
    (enough : (print level value ++ printMembers level members).length + 1 < fuel) :
    readMembers fuel depth ((printString name).characters ++ ':' :: ' ' ::
        (Text.characters (print level value ++ printMembers level members) ++
          ((newLine outer).characters ++ '\x7d' :: rest))) =
      .ok ((name, value) :: members, rest) := by
  obtain ⟨fuel, rfl⟩ := Nat.exists_eq_succ_of_ne_zero (show fuel ≠ 0 by omega)
  obtain ⟨valueReadable, membersReadable⟩ := readable
  rw [List.length_append] at enough
  rw [Text.isUnicode_append, Bool.and_eq_true] at unicode
  cases members with
  | nil =>
      have read := readValue_print value level depth fuel _ valueReadable unicode.1 (by omega)
        (endsNumber_newLine outer ('\x7d' :: rest))
      rw [printMembers, List.append_nil]
      exact readMembers_of_last outer nameUnicode read
  | cons second more =>
      obtain ⟨nextName, nextValue⟩ := second
      have read := readValue_print value level depth fuel
        (',' :: ((newLine level).characters ++
          ((printString nextName).characters ++ ':' :: ' ' ::
            (Text.characters (print level nextValue ++ printMembers level more) ++
              ((newLine outer).characters ++ '\x7d' :: rest))))) valueReadable unicode.1
        (by omega) (endsNumber_cons rfl (by decide) (by decide) (by decide))
      rw [printMembers] at unicode enough ⊢
      simp only [Text.isUnicode_append, isUnicode_printString, Bool.and_eq_true,
        List.length_append, length_newLine] at unicode enough
      have further := readMembers_print nextName nextValue more level outer depth fuel rest
        membersReadable (by simp [unicode]) (by simp [unicode])
        (by rw [List.length_append]; omega)
      have pairs := readMembers_of_more level nameUnicode read further
      simpa [Text.ofString] using pairs
termination_by fuel

end

/-! ## Control characters -/

/-- A code point as it may stand in a printed document. -/
def IsPlain (point : CodePoint) : Prop :=
  point = .char '\n' ∨ 0x20 ≤ point.value

/-- Whether no character of a list is a control. -/
def arePrintable (characters : List Char) : Bool :=
  characters.all fun character => Nat.ble 0x20 character.toNat

theorem space_le_of_arePrintable {characters : List Char} (printable : arePrintable characters = true) :
    ∀ character ∈ characters, ' ' ≤ character :=
  fun character member => Nat.le_of_ble_eq_true (List.all_eq_true.mp printable character member)

theorem isPlain_ofString {string : String} (printable : arePrintable string.toList = true) :
    ∀ point ∈ Text.ofString string, IsPlain point := by
  intro point member
  obtain ⟨character, inside, rfl⟩ := List.mem_map.mp member
  exact .inr (space_le_of_arePrintable printable character inside)

theorem space_le_digit {number : Nat} :
    ∀ character ∈ Nat.toDigits 10 number, ' ' ≤ character := by
  intro character member
  have digit := areDigits_toDigits number character member
  rw [isDigit, Bool.and_eq_true, decide_eq_true_iff] at digit
  exact Char.le_trans (show ' ' ≤ '0' by decide) digit.1

theorem isPlain_newLine (level : Nat) : ∀ point ∈ newLine level, IsPlain point := by
  intro point member
  rcases List.mem_cons.mp member with rfl | space
  · exact .inl rfl
  · rw [List.eq_of_mem_replicate space]
    exact .inr (by decide)

theorem space_le_layout (decimal : Decimal) :
    ∀ character ∈ Double.layout decimal, ' ' ≤ character := by
  have digits : ∀ character ∈ Nat.toDigits 10 decimal.digits, ' ' ≤ character := space_le_digit
  have zeros : ∀ count, ∀ character ∈ List.replicate count '0', ' ' ≤ character := by
    intro count character member
    rw [List.eq_of_mem_replicate member]
    decide
  have taken : ∀ count, ∀ character ∈ (Nat.toDigits 10 decimal.digits).take count,
      ' ' ≤ character := fun count character member => digits character (List.mem_of_mem_take member)
  have dropped : ∀ count, ∀ character ∈ (Nat.toDigits 10 decimal.digits).drop count,
      ' ' ≤ character := fun count character member => digits character (List.mem_of_mem_drop member)
  unfold Double.layout
  simp only
  split
  · split
    · simp only [List.forall_mem_append]
      exact ⟨⟨space_le_of_arePrintable rfl, zeros _⟩, digits⟩
    · split
      · simp only [List.forall_mem_append]
        exact ⟨⟨taken _, space_le_of_arePrintable rfl⟩, dropped _⟩
      · simp only [List.forall_mem_append]
        exact ⟨⟨digits, zeros _⟩, space_le_of_arePrintable rfl⟩
  · simp only [List.forall_mem_append]
    refine ⟨⟨⟨⟨taken 1, ?_⟩, ?_⟩, zeros _⟩, space_le_digit⟩
    · split
      · simp
      · exact List.forall_mem_cons.mpr ⟨by decide, dropped 1⟩
    · split <;> exact space_le_of_arePrintable rfl

theorem space_le_toChars (number : Double) : ∀ character ∈ number.toChars, ' ' ≤ character := by
  cases number with
  | nan => exact space_le_of_arePrintable rfl
  | infinite negative => cases negative <;> exact space_le_of_arePrintable rfl
  | finite negative significand exponent =>
      rw [Double.toChars, List.forall_mem_append]
      constructor
      · cases negative <;> exact space_le_of_arePrintable rfl
      · split
        · exact space_le_of_arePrintable rfl
        · exact space_le_layout _

theorem isPlain_printString (text : Text) : ∀ point ∈ printString text, IsPlain point :=
  fun _ member => .inr (value_ge_of_mem_printString member)

mutual

/-- A printed value holds no control characters but line feeds. -/
theorem isPlain_print (level : Nat) (json : Json) : ∀ point ∈ print level json, IsPlain point := by
  cases json with
  | null => exact isPlain_ofString rfl
  | boolean value => cases value <;> exact isPlain_ofString rfl
  | integer number =>
      rw [print, printInteger, List.forall_mem_append]
      constructor
      · split <;> exact isPlain_ofString rfl
      · intro point member
        obtain ⟨character, inside, rfl⟩ := List.mem_map.mp member
        exact .inr (space_le_digit character inside)
  | double number =>
      intro point member
      rw [print] at member
      obtain ⟨character, inside, rfl⟩ := List.mem_map.mp member
      exact .inr (space_le_toChars number character inside)
  | string text =>
      rw [print]
      exact isPlain_printString text
  | array items =>
      cases items with
      | nil => exact isPlain_ofString rfl
      | cons item items =>
          rw [print]
          simp only [List.forall_mem_append]
          exact ⟨⟨isPlain_ofString rfl, isPlain_newLine _⟩, isPlain_print (level + 1) item,
            isPlain_printItems (level + 1) items, isPlain_newLine _, isPlain_ofString rfl⟩
  | object members =>
      cases members with
      | nil => exact isPlain_ofString rfl
      | cons member members =>
          obtain ⟨name, value⟩ := member
          rw [print]
          simp only [List.forall_mem_append]
          exact ⟨⟨⟨⟨isPlain_ofString rfl, isPlain_newLine _⟩, isPlain_printString name⟩,
            isPlain_ofString rfl⟩, isPlain_print (level + 1) value,
            isPlain_printMembers (level + 1) members, isPlain_newLine _,
            isPlain_ofString rfl⟩

/-- List counterpart of `isPlain_print` for elements. -/
theorem isPlain_printItems (level : Nat) (items : List Json) :
    ∀ point ∈ printItems level items, IsPlain point := by
  cases items with
  | nil => simp [printItems]
  | cons item items =>
      rw [printItems]
      simp only [List.forall_mem_append]
      exact ⟨⟨isPlain_ofString rfl, isPlain_newLine _⟩, isPlain_print level item,
        isPlain_printItems level items⟩

/-- List counterpart of `isPlain_print` for members. -/
theorem isPlain_printMembers (level : Nat) (members : List (Text × Json)) :
    ∀ point ∈ printMembers level members, IsPlain point := by
  cases members with
  | nil => simp [printMembers]
  | cons member members =>
      obtain ⟨name, value⟩ := member
      rw [printMembers]
      simp only [List.forall_mem_append]
      exact ⟨⟨⟨⟨isPlain_ofString rfl, isPlain_newLine _⟩, isPlain_printString name⟩,
        isPlain_ofString rfl⟩, isPlain_print level value,
        isPlain_printMembers level members⟩

end

/-! ## Documents -/

/-- A document that was printed has the value that was printed. -/
theorem ofDocument_toDocument {json : Json} (readable : Readable maximumDepth json)
    (unicode : json.toDocument.isUnicode = true) :
    ofDocument json.toDocument.characters = .ok json := by
  rw [toDocument, Text.isUnicode_append, Bool.and_eq_true] at unicode
  have characters : json.toDocument.characters = (print 0 json).characters ++ ['\n'] := by
    simp [toDocument, Text.ofString]
  have length : (print 0 json).length ≤ json.toDocument.characters.length := by
    have same := congrArg List.length (Text.isUnicode_iff.mp unicode.1)
    rw [Text.ofChars, List.length_map] at same
    rw [characters, List.length_append, same]
    exact Nat.le_add_right _ _
  have read := readValue_print json 0 maximumDepth (2 * json.toDocument.characters.length + 1)
    ['\n'] readable unicode.1 (by omega)
    (endsNumber_cons rfl (by decide) (by decide) (by decide))
  rw [← characters] at read
  obtain ⟨first, rest, same, solid, -, mark⟩ := readValue_head read
  have whole : readDocument json.toDocument.characters = .ok json := by
    rw [same] at read ⊢
    unfold readDocument
    split
    · rename_i marked
      exact absurd (List.cons.inj marked).1 mark
    · rw [skipBlanks_solid solid, read]
      rfl
  rw [ofDocument, whole]

theorem ofFile?_toDocument {json : Json} {bytes : ByteArray}
    (encoded : json.toDocument.encode? = some bytes) :
    Text.ofFile? bytes = some json.toDocument.characters := by
  apply Text.ofFile?_of_encode? encoded
  intro member
  rw [toDocument, List.mem_append] at member
  rcases member with inside | last
  · rcases isPlain_print 0 json _ inside with feed | large
    · cases feed
    · exact absurd large (by decide)
  · revert last
    decide

end Json

end HelperKit
