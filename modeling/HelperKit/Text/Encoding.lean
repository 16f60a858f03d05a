import HelperKit.Text

/-!
# Texts in files

Files hold texts in UTF-8.  A text with a lone surrogate has no encoded form, and
bytes that are not UTF-8 have no text.  On reading, the line ends `\r\n` and `\r`
become `\n`; on writing nothing is changed.
-/

namespace HelperKit.Text

/-- The UTF-8 bytes of a text, unless it holds a lone surrogate. -/
def encode? (text : Text) : Option ByteArray :=
  text.toChars?.map fun characters => (String.ofList characters).toUTF8

/-- The characters that bytes are the UTF-8 form of. -/
def decode? (bytes : ByteArray) : Option (List Char) :=
  (String.fromUTF8? bytes).map String.toList

/-- Characters with every line end turned into a line feed. -/
def unifyLineEnds : List Char → List Char
  | [] => []
  | '\r' :: '\n' :: rest => '\n' :: unifyLineEnds rest
  | '\r' :: rest => '\n' :: unifyLineEnds rest
  | character :: rest => character :: unifyLineEnds rest

/-- The characters of a text file. -/
def ofFile? (bytes : ByteArray) : Option (List Char) :=
  (decode? bytes).map unifyLineEnds

/-- The bytes of a string are decoded to its characters. -/
theorem decode?_toUTF8 (string : String) : decode? string.toUTF8 = some string.toList := by
  have valid : string.toUTF8.IsValidUTF8 := string.isValidUTF8
  unfold decode? String.fromUTF8?
  rw [dif_pos valid]
  rfl

/-- What was encoded is decoded again. -/
theorem decode?_of_encode? {text : Text} {bytes : ByteArray}
    (encoded : encode? text = some bytes) : decode? bytes = text.toChars? := by
  unfold encode? at encoded
  cases known : text.toChars? with
  | none => simp [known] at encoded
  | some characters =>
      simp only [known, Option.map_some, Option.some.injEq] at encoded
      rw [← encoded, decode?_toUTF8, String.toList_ofList]

end HelperKit.Text
