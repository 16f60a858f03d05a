import HelperKit.Proofs.Json.Members
import HelperKit.Proofs.Json.Numeral
import Mathlib.Data.List.TakeWhile

/-!
# What a document can hold

A document is not able to hold every value: its integers have a bounded number of
digits, its numbers of 64 bits are normalized, the names of an object differ, and
arrays and objects lie inside each other up to a bounded depth.  Whatever is read
has these properties.
-/

namespace HelperKit

namespace Json

mutual

/-- A value that can be read where so many arrays and objects may be entered. -/
def Readable (depth : Nat) : Json → Prop
  | .null => True
  | .boolean _ => True
  | .integer number => number.natAbs < 10 ^ maximumDigits
  | .double number => number.IsCanonical
  | .string _ => True
  | .array items => 0 < depth ∧ ReadableItems (depth - 1) items
  | .object members =>
      0 < depth ∧ Members.Distinct members ∧ ReadableMembers (depth - 1) members

/-- All elements can be read. -/
def ReadableItems (depth : Nat) : List Json → Prop
  | [] => True
  | item :: items => Readable depth item ∧ ReadableItems depth items

/-- The values of all members can be read. -/
def ReadableMembers (depth : Nat) : List (Text × Json) → Prop
  | [] => True
  | (_, value) :: members => Readable depth value ∧ ReadableMembers depth members

end

theorem readableMembers_iff {depth : Nat} {members : Members} :
    ReadableMembers depth members ↔ ∀ member ∈ members, Readable depth member.2 := by
  induction members with
  | nil => simp [ReadableMembers]
  | cons first rest induction =>
      obtain ⟨name, value⟩ := first
      simp [ReadableMembers, induction]

theorem ReadableMembers.put {depth : Nat} {members : Members} {value : Json}
    (readable : ReadableMembers depth members) (name : Text) (valueReadable : Readable depth value) :
    ReadableMembers depth (members.put name value) := by
  rw [readableMembers_iff] at readable ⊢
  intro member inside
  rcases Members.mem_put inside with same | known
  · rw [same]
    exact valueReadable
  · exact readable member known

theorem ReadableMembers.erase {depth : Nat} {members : Members}
    (readable : ReadableMembers depth members) (name : Text) :
    ReadableMembers depth (members.erase name) := by
  rw [readableMembers_iff] at readable ⊢
  intro member inside
  exact readable member (List.mem_filter.mp inside).1

/-! ## Numbers and constants -/

theorem digit_lt_ten {digit : Char} (decimal : isDigit digit = true) :
    digit.toNat - '0'.toNat < 10 := by
  simp only [isDigit, Bool.and_eq_true, decide_eq_true_iff, Char.le_def] at decimal
  obtain ⟨-, upper⟩ := decimal
  have upperNat : digit.toNat ≤ '9'.toNat := upper
  have nine : '9'.toNat = 57 := rfl
  have zero : '0'.toNat = 48 := rfl
  omega

theorem numberOf_lt {digits : List Char} (areDigits : AreDigits digits) :
    numberOf digits < 10 ^ digits.length := by
  induction digits with
  | nil => simp [numberOf]
  | cons digit others induction =>
      have first : numberOf [digit] < 10 := by
        have small := digit_lt_ten (areDigits digit (by simp))
        simpa [numberOf] using small
      have further := induction (areDigits.of_sublist (List.sublist_cons_self _ _))
      have split := numberOf_append [digit] others
      rw [List.singleton_append] at split
      rw [split, List.length_cons, pow_succ]
      have carried : numberOf [digit] * 10 ^ others.length ≤ 9 * 10 ^ others.length :=
        Nat.mul_le_mul_right _ (by omega)
      omega

theorem numberAfter_readable {negative : Bool} {whole left rest : List Char} {json : Json}
    {depth : Nat} (areDigits : AreDigits whole)
    (success : numberAfter negative whole left = .ok (json, rest)) : Readable depth json := by
  unfold numberAfter at success
  simp only at success
  split at success
  · split at success
    · rename_i short
      cases success
      have small := numberOf_lt areDigits
      have bound : numberOf whole < 10 ^ maximumDigits :=
        lt_of_lt_of_le small (Nat.pow_le_pow_right (by decide) short)
      unfold Readable
      cases negative <;> simpa using bound
    · cases success
  · cases success
    exact Double.ofDecimal_isCanonical negative _

theorem readNumber_readable {text rest : List Char} {json : Json} {depth : Nat}
    (success : readNumber text = .ok (json, rest)) : Readable depth json := by
  unfold readNumber at success
  split at success
  split at success
  · exact numberAfter_readable (areDigits_zeros 1) success
  · split at success
    · refine numberAfter_readable ?_ success
      intro digit member
      exact List.mem_takeWhile_imp member
    · cases success
  · cases success

theorem constant?_readable {text rest : List Char} {json : Json} {depth : Nat}
    (success : constant? text = some (json, rest)) : Readable depth json := by
  unfold constant? at success
  obtain ⟨⟨name, value⟩, member, read⟩ := List.exists_of_findSome?_eq_some success
  obtain ⟨_, _, same⟩ := Option.map_eq_some_iff.mp read
  cases same
  simp only [constants, List.mem_cons, Prod.mk.injEq, List.not_mem_nil, or_false] at member
  rcases member with ⟨-, rfl⟩ | ⟨-, rfl⟩ | ⟨-, rfl⟩ | ⟨-, rfl⟩ | ⟨-, rfl⟩ | ⟨-, rfl⟩ <;>
    simp [Readable, Double.IsCanonical]

/-! ## Values -/

mutual

/-- Whatever is read can be read. -/
theorem readValue_readable {fuel depth : Nat} {text rest : List Char} {json : Json}
    (success : readValue fuel depth text = .ok (json, rest)) : Readable depth json := by
  cases fuel with
  | zero =>
      unfold readValue at success
      cases success
  | succ fuel =>
      -- Every nested reading is at a smaller depth, which bounds how deep the value is.
      unfold readValue at success
      split at success
      · split at success
        · cases success
          trivial
        · cases success
      · split at success
        · cases success
        · rename_i depth
          split at success
          · cases success
            exact ⟨Nat.succ_pos depth, List.nodup_nil, trivial⟩
          · split at success
            · rename_i pairs left members
              cases success
              have readable := readMembers_readable members
              rw [readableMembers_iff] at readable
              refine ⟨Nat.succ_pos depth, Members.ofPairs_distinct pairs, ?_⟩
              rw [readableMembers_iff]
              exact fun member inside => readable member (Members.mem_ofPairs inside)
            · cases success
      · split at success
        · cases success
        · rename_i depth
          split at success
          · cases success
            exact ⟨Nat.succ_pos depth, trivial⟩
          · split at success
            · rename_i items left elements
              cases success
              exact ⟨Nat.succ_pos depth, readElements_readable elements⟩
            · cases success
      · split at success
        · rename_i reading constant
          cases success
          exact constant?_readable constant
        · exact readNumber_readable success

/-- The values of the members read can be read. -/
theorem readMembers_readable {fuel depth : Nat} {text rest : List Char}
    {pairs : List (Text × Json)} (success : readMembers fuel depth text = .ok (pairs, rest)) :
    ReadableMembers depth pairs := by
  cases fuel with
  | zero =>
      unfold readMembers at success
      cases success
  | succ fuel =>
      unfold readMembers at success
      split at success
      · split at success
        · cases success
        · split at success
          · split at success
            · cases success
            · rename_i value left first
              split at success
              · cases success
                exact ⟨readValue_readable first, trivial⟩
              · split at success
                · cases success
                · rename_i others further
                  cases success
                  exact ⟨readValue_readable first, readMembers_readable further⟩
              · cases success
          · cases success
      · cases success

/-- The elements read can be read. -/
theorem readElements_readable {fuel depth : Nat} {text rest : List Char} {items : List Json}
    (success : readElements fuel depth text = .ok (items, rest)) :
    ReadableItems depth items := by
  cases fuel with
  | zero =>
      unfold readElements at success
      cases success
  | succ fuel =>
      unfold readElements at success
      split at success
      · cases success
      · rename_i item left first
        split at success
        · cases success
          exact ⟨readValue_readable first, trivial⟩
        · split at success
          · cases success
          · rename_i others further
            cases success
            exact ⟨readValue_readable first, readElements_readable further⟩
        · cases success

end

/-- The value of a document can be read again. -/
theorem ofDocument_readable {text : List Char} {json : Json}
    (success : ofDocument text = .ok json) : Readable maximumDepth json := by
  unfold ofDocument at success
  split at success
  · rename_i read
    cases success
    unfold readDocument at read
    split at read
    · cases read
    · split at read
      · cases read
      · rename_i value
        split at read
        · cases read
          exact readValue_readable value
        · cases read
  · cases success
  · cases success
  · cases success

end Json

end HelperKit
