import HelperKit.Proofs.Json.Grammar
import HelperKit.Proofs.Json.RoundTrip

/-!
# How spellings begin and end

Whatever the grammar spells takes up something of the text, so that the rest is shorter.  A value
begins with a character that is neither blank nor a closing bracket.
-/

namespace HelperKit

namespace Json

variable {text rest : List Char} {value : Json}

/-! ## Beginnings -/

/-- A value begins with a character that stands neither around nor behind values. -/
def Solid (text : List Char) : Prop :=
  ∃ first others, text = first :: others ∧ isBlank first = false ∧ first ≠ ']' ∧ first ≠ '\uFEFF'

/-- A text begins like a number. -/
def Numeric (text : List Char) : Prop :=
  ∃ digit others, isDigit digit = true ∧ (text = digit :: others ∨ text = '-' :: digit :: others)

theorem numeric_of_whole (negative : Bool) {whole : List Char} (isWhole : IsWhole whole)
    (rest : List Char) : Numeric (signOf negative ++ (whole ++ rest)) := by
  obtain ⟨digit, others, rfl⟩ := List.exists_cons_of_ne_nil isWhole.nonempty
  refine ⟨digit, others ++ rest, isWhole.areDigits digit (by simp), ?_⟩
  cases negative with
  | true => exact .inr rfl
  | false => exact .inl rfl

theorem SpellsNumber.numeric (spells : SpellsNumber text value rest) : Numeric text := by
  cases spells with
  | integer negative isWhole => exact numeric_of_whole negative isWhole _
  | double negative isWhole fraction exponent broken => exact numeric_of_whole negative isWhole _

theorem LongInteger.numeric (long : LongInteger text) : Numeric text := by
  cases long with
  | spelled negative isWhole long ends => exact numeric_of_whole negative isWhole _

theorem Numeric.solid (numeric : Numeric text) : Solid text := by
  obtain ⟨digit, others, decimal, rfl | rfl⟩ := numeric
  · exact ⟨digit, others, rfl, isBlank_of_isDigit decimal, isDigit_ne decimal rfl,
      isDigit_ne decimal rfl⟩
  · exact ⟨_, _, rfl, by decide⟩

theorem SpellsObject.begins {pairs : List (Text × Json)} (spells : SpellsObject text pairs rest) :
    ∃ others, text = '\x7b' :: others := by
  cases spells <;> exact ⟨_, rfl⟩

theorem Spells.solid (spells : Spells text value rest) : Solid text := by
  cases spells with
  | constant member =>
      simp only [constants, List.mem_cons, Prod.mk.injEq, List.not_mem_nil, or_false] at member
      rcases member with ⟨rfl, -⟩ | ⟨rfl, -⟩ | ⟨rfl, -⟩ | ⟨rfl, -⟩ | ⟨rfl, -⟩ | ⟨rfl, -⟩ <;>
        exact ⟨_, _, rfl, by decide⟩
  | number number => exact number.numeric.solid
  | string spelled =>
      cases spelled
      exact ⟨_, _, rfl, by decide⟩
  | emptyArray blanks => exact ⟨_, _, rfl, by decide⟩
  | array blanks elements => exact ⟨_, _, rfl, by decide⟩
  | object spelled =>
      obtain ⟨others, rfl⟩ := spelled.begins
      exact ⟨_, _, rfl, by decide⟩

theorem SpellsElements.solid {items : List Json} (spells : SpellsElements text items rest) :
    Solid text := by
  cases spells with
  | last spelled blanks => exact spelled.solid
  | more spelled before blanks others => exact spelled.solid

theorem SpellsName.begins {name : Text} (spells : SpellsName text name rest) :
    ∃ others, text = '"' :: others := by
  obtain ⟨string, before, blanks⟩ := spells
  cases string
  exact ⟨_, rfl⟩

theorem SpellsMembers.begins {pairs : List (Text × Json)}
    (spells : SpellsMembers text pairs rest) : ∃ others, text = '"' :: others := by
  cases spells with
  | last named valued blanks => exact named.begins
  | more named valued before blanks others => exact named.begins

/-! ## Lengths -/

theorem Blanks.length_le (blanks : Blanks text rest) : rest.length ≤ text.length := by
  induction blanks with
  | none => exact le_rfl
  | more blank others induction => exact Nat.le_succ_of_le induction

theorem SpellsPoints.length_lt {points : Text} (spells : SpellsPoints text points rest) :
    rest.length < text.length := by
  induction spells with
  | close => simp
  | plain printable notQuote notSlash others induction => simp; omega
  | escape escaped others induction => simp; omega
  | unit spelled others induction => simp; omega

theorem SpellsString.length_lt {string : Text} (spells : SpellsString text string rest) :
    rest.length < text.length := by
  cases spells with
  | quoted body => exact Nat.lt_succ_of_lt body.length_lt

theorem SpellsFraction.length_le {digits : List Char} (spells : SpellsFraction text digits rest) :
    rest.length ≤ text.length := by
  cases spells with
  | absent => exact le_rfl
  | digits areDigits nonempty => simp; omega

theorem SpellsPower.length_le {power : Option Int} (spells : SpellsPower text power rest) :
    rest.length ≤ text.length := by
  cases spells with
  | absent => exact le_rfl
  | digits begins sign areDigits nonempty =>
      cases sign <;> simp <;> omega

theorem SpellsNumber.length_lt (spells : SpellsNumber text value rest) :
    rest.length < text.length := by
  cases spells with
  | integer negative isWhole =>
      have positive := List.length_pos_of_ne_nil isWhole.nonempty
      simp only [List.length_append]
      omega
  | double negative isWhole fraction exponent broken =>
      have positive := List.length_pos_of_ne_nil isWhole.nonempty
      have fractionLength := fraction.length_le
      have powerLength := exponent.length_le
      simp only [List.length_append]
      omega

theorem SpellsName.length_lt {name : Text} (spells : SpellsName text name rest) :
    rest.length < text.length := by
  obtain ⟨string, before, blanks⟩ := spells
  have stringLength := string.length_lt
  have beforeLength := before.length_le
  have blanksLength := blanks.length_le
  simp only [List.length_cons] at beforeLength
  omega

mutual

theorem Spells.length_lt {text rest : List Char} {value : Json} :
    Spells text value rest → rest.length < text.length
  | .constant member => by
      simp only [constants, List.mem_cons, Prod.mk.injEq, List.not_mem_nil, or_false] at member
      rcases member with ⟨rfl, -⟩ | ⟨rfl, -⟩ | ⟨rfl, -⟩ | ⟨rfl, -⟩ | ⟨rfl, -⟩ | ⟨rfl, -⟩ <;>
        simp <;> omega
  | .number number => number.length_lt
  | .string spelled => spelled.length_lt
  | .emptyArray blanks => by
      have length := blanks.length_le
      simp only [List.length_cons] at length ⊢
      omega
  | .array blanks elements => by
      have length := blanks.length_le
      have further := elements.length_lt
      simp only [List.length_cons]
      omega
  | .object spelled => spelled.length_lt

theorem SpellsElements.length_lt {text rest : List Char} {items : List Json} :
    SpellsElements text items rest → rest.length < text.length
  | .last spelled blanks => by
      have length := spelled.length_lt
      have further := blanks.length_le
      simp only [List.length_cons] at further
      omega
  | .more spelled before blanks others => by
      have length := spelled.length_lt
      have further := before.length_le
      have behind := blanks.length_le
      have last := others.length_lt
      simp only [List.length_cons] at further
      omega

theorem SpellsObject.length_lt {text rest : List Char} {pairs : List (Text × Json)} :
    SpellsObject text pairs rest → rest.length < text.length
  | .empty blanks => by
      have length := blanks.length_le
      simp only [List.length_cons] at length ⊢
      omega
  | .filled blanks members => by
      have length := blanks.length_le
      have further := members.length_lt
      simp only [List.length_cons]
      omega

theorem SpellsMembers.length_lt {text rest : List Char} {pairs : List (Text × Json)} :
    SpellsMembers text pairs rest → rest.length < text.length
  | .last named valued blanks => by
      have name := named.length_lt
      have length := valued.length_lt
      have further := blanks.length_le
      simp only [List.length_cons] at further
      omega
  | .more named valued before blanks others => by
      have name := named.length_lt
      have length := valued.length_lt
      have further := before.length_le
      have behind := blanks.length_le
      have last := others.length_lt
      simp only [List.length_cons] at further
      omega

end

end Json

end HelperKit
