import HelperKit.Text.Encoding

/-!
# The characters of a text

Only a text without lone surrogates can be written.  Such a text is the text of its
characters, and a file that it was written to gives these characters back, unless
the text holds carriage returns.
-/

namespace HelperKit

namespace Text

/-- The characters of a text; lone surrogates are left out. -/
def characters (text : Text) : List Char :=
  text.filterMap CodePoint.toChar?

@[simp]
theorem characters_nil : characters [] = [] := rfl

@[simp]
theorem characters_append (first second : Text) :
    (first ++ second).characters = first.characters ++ second.characters := by
  simp [characters]

@[simp]
theorem characters_char (character : Char) (rest : Text) :
    characters (.char character :: rest) = character :: characters rest := by
  simp [characters, CodePoint.toChar?]

@[simp]
theorem characters_ofChars (characters : List Char) :
    (ofChars characters).characters = characters := by
  induction characters with
  | nil => rfl
  | cons character rest induction =>
      change character :: (ofChars rest).characters = character :: rest
      rw [induction]

theorem toChars?_cons (point : CodePoint) (rest : Text) :
    toChars? (point :: rest) =
      point.toChar?.bind fun character => (toChars? rest).map (character :: ·) := by
  unfold toChars?
  rw [List.mapM_cons]
  cases point.toChar? with
  | none => rfl
  | some character => cases rest.mapM CodePoint.toChar? <;> rfl

/-- The characters of a text are known when it is the text of these characters. -/
theorem toChars?_eq_some_iff {text : Text} {characters : List Char} :
    text.toChars? = some characters ↔ text = ofChars characters := by
  induction text generalizing characters with
  | nil => cases characters <;> simp [toChars?, ofChars]
  | cons point rest induction =>
      rw [toChars?_cons]
      cases point with
      | surrogate index => cases characters <;> simp [ofChars, CodePoint.toChar?]
      | char character =>
          cases characters with
          | nil => simp [ofChars, CodePoint.toChar?]
          | cons first others =>
              have further : toChars? rest = some others ↔ rest = ofChars others := induction
              constructor
              · intro known
                obtain ⟨_, read, same⟩ := Option.map_eq_some_iff.mp known
                obtain ⟨rfl, rfl⟩ := List.cons.inj same
                rw [further.mp read]
                rfl
              · intro same
                obtain ⟨point, rest⟩ := List.cons.inj same
                cases point
                exact Option.map_eq_some_iff.mpr ⟨others, further.mpr rest, rfl⟩

theorem isUnicode_iff {text : Text} : text.isUnicode = true ↔ text = ofChars text.characters := by
  unfold isUnicode
  rw [Option.isSome_iff_exists]
  constructor
  · rintro ⟨characters, known⟩
    rw [toChars?_eq_some_iff] at known
    rw [known, characters_ofChars]
  · intro same
    exact ⟨text.characters, toChars?_eq_some_iff.mpr same⟩

@[simp]
theorem isUnicode_ofChars (characters : List Char) : (ofChars characters).isUnicode = true :=
  isUnicode_iff.mpr (by rw [characters_ofChars])

@[simp]
theorem isUnicode_nil : isUnicode [] = true := rfl

@[simp]
theorem isUnicode_cons (point : CodePoint) (rest : Text) :
    isUnicode (point :: rest) = (point.toChar?.isSome && rest.isUnicode) := by
  unfold isUnicode
  rw [toChars?_cons]
  cases point.toChar? with
  | none => rfl
  | some character => simp

@[simp]
theorem isUnicode_append (first second : Text) :
    (first ++ second).isUnicode = (first.isUnicode && second.isUnicode) := by
  induction first with
  | nil => rfl
  | cons point rest induction => simp [induction, Bool.and_assoc]

/-! ## Writing and reading back -/

theorem isSome_encode? (text : Text) : text.encode?.isSome = text.isUnicode := by
  unfold encode? isUnicode
  rw [Option.isSome_map]

theorem isUnicode_of_encode? {text : Text} {bytes : ByteArray}
    (encoded : text.encode? = some bytes) : text.isUnicode = true := by
  rw [← isSome_encode?, encoded]
  rfl

theorem unifyLineEnds_eq_self {characters : List Char} (plain : '\r' ∉ characters) :
    unifyLineEnds characters = characters := by
  induction characters with
  | nil => rfl
  | cons character rest induction =>
      rw [List.mem_cons, not_or] at plain
      unfold unifyLineEnds
      split
      · rename_i empty
        cases empty
      · rename_i same
        exact absurd (List.cons.inj same).1.symm plain.1
      · rename_i same
        exact absurd (List.cons.inj same).1.symm plain.1
      · rename_i same
        obtain ⟨rfl, rfl⟩ := List.cons.inj same
        rw [induction plain.2]

theorem ofFile?_of_encode? {text : Text} {bytes : ByteArray} (encoded : text.encode? = some bytes)
    (plain : .char '\r' ∉ text) : ofFile? bytes = some text.characters := by
  have same := isUnicode_iff.mp (isUnicode_of_encode? encoded)
  have unified : '\r' ∉ text.characters := by
    intro member
    apply plain
    rw [same]
    exact List.mem_map.mpr ⟨'\r', member, rfl⟩
  rw [ofFile?, decode?_of_encode? encoded, toChars?_eq_some_iff.mpr same, Option.map_some,
    unifyLineEnds_eq_self unified]

theorem eq_toUTF8_of_decode? {bytes : ByteArray} {characters : List Char}
    (decoded : decode? bytes = some characters) : bytes = (String.ofList characters).toUTF8 := by
  unfold decode? at decoded
  obtain ⟨string, known, rfl⟩ := Option.map_eq_some_iff.mp decoded
  unfold String.fromUTF8? at known
  split at known
  · cases known
    rw [String.ofList_toList]
    rfl
  · cases known

theorem ofFile?_eq_some_iff {bytes : ByteArray} {characters : List Char} :
    ofFile? bytes = some characters ↔
      ∃ string : String, string.toUTF8 = bytes ∧ unifyLineEnds string.toList = characters := by
  unfold ofFile?
  rw [Option.map_eq_some_iff]
  constructor
  · rintro ⟨decoded, known, unified⟩
    refine ⟨String.ofList decoded, (eq_toUTF8_of_decode? known).symm, ?_⟩
    rw [String.toList_ofList, unified]
  · rintro ⟨string, rfl, unified⟩
    exact ⟨string.toList, decode?_toUTF8 string, unified⟩

end Text

end HelperKit
