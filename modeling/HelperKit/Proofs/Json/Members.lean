import HelperKit.Json
import Mathlib.Data.List.Induction

/-!
# Members of an object

The members are a map that remembers an order.  Giving a name a value and taking a
name away change what is found under that name alone, and the other members keep
their values and their order.
-/

namespace HelperKit

namespace Members

variable {members : Members} {name other : Text} {value : Json}

/-- No two members have the same name. -/
def Distinct (members : Members) : Prop :=
  members.names.Nodup

@[simp]
theorem get?_nil : get? [] name = none := rfl

theorem get?_cons (first : Text × Json) (rest : Members) :
    get? (first :: rest) name = if first.1 = name then some first.2 else get? rest name := by
  obtain ⟨other, old⟩ := first
  unfold get?
  by_cases same : other = name
  · subst same
    simp
  · have differ : (name == other) = false := by
      simp [Ne.symm same]
    rw [List.lookup_cons, differ, if_neg same]

theorem Distinct.get?_eq_some_iff (distinct : members.Distinct) :
    members.get? name = some value ↔ (name, value) ∈ members := by
  induction members with
  | nil => simp
  | cons first rest induction =>
      obtain ⟨fresh, others⟩ := List.nodup_cons.mp distinct
      rw [get?_cons, List.mem_cons]
      by_cases same : first.1 = name
      · have absent : (name, value) ∉ rest := by
          intro member
          exact fresh (same ▸ List.mem_map_of_mem member)
        subst same
        simp [absent, Prod.ext_iff, eq_comm]
      · rw [if_neg same, induction others]
        simp [Prod.ext_iff, Ne.symm same]

theorem put_cons (first : Text × Json) (rest : Members) :
    put (first :: rest) name value =
      if first.1 = name then (name, value) :: rest else first :: put rest name value := by
  obtain ⟨other, old⟩ := first
  rfl

theorem erase_cons (first : Text × Json) (rest : Members) :
    erase (first :: rest) name =
      if first.1 = name then erase rest name else first :: erase rest name := by
  unfold erase
  by_cases same : first.1 = name
  · simp [same]
  · simp [same]

theorem get?_ne_none_iff : members.get? name ≠ none ↔ name ∈ members.names := by
  induction members with
  | nil => simp [names]
  | cons first rest induction =>
      rw [get?_cons]
      by_cases same : first.1 = name
      · simp [same, names]
      · rw [if_neg same, induction]
        simp [names, Ne.symm same]

theorem has_eq_true_iff : members.has name = true ↔ members.get? name ≠ none := by
  rw [has, Option.isSome_iff_ne_none]

/-! ## Giving a name a value -/

@[simp]
theorem get?_put_self : (members.put name value).get? name = some value := by
  induction members with
  | nil => simp [put, get?_cons]
  | cons first rest induction =>
      rw [put_cons]
      split
      · simp [get?_cons]
      · rename_i differ
        rw [get?_cons, if_neg differ, induction]

theorem get?_put_of_ne (differ : other ≠ name) :
    (members.put name value).get? other = members.get? other := by
  induction members with
  | nil => simp [put, get?_cons, Ne.symm differ]
  | cons first rest induction =>
      rw [put_cons]
      split
      · rename_i same
        rw [get?_cons, get?_cons, if_neg (Ne.symm differ), if_neg (same ▸ Ne.symm differ)]
      · rw [get?_cons, get?_cons, induction]

/-- The other members stay as they are. -/
@[simp]
theorem erase_put : (members.put name value).erase name = members.erase name := by
  induction members with
  | nil => simp [put, erase]
  | cons first rest induction =>
      rw [put_cons]
      split
      · rename_i same
        rw [erase_cons, erase_cons, if_pos rfl, if_pos same]
      · rename_i differ
        rw [erase_cons, erase_cons, if_neg differ, if_neg differ, induction]

/-- Of two values for one name the later one stays. -/
@[simp]
theorem put_put {later : Json} : (members.put name value).put name later = members.put name later := by
  induction members with
  | nil => simp [put]
  | cons first rest induction =>
      rw [put_cons, put_cons]
      split
      · rw [put_cons, if_pos rfl]
      · rename_i differ
        rw [put_cons, if_neg differ, induction]

theorem names_put_of_mem (member : name ∈ members.names) :
    (members.put name value).names = members.names := by
  induction members with
  | nil => cases member
  | cons first rest induction =>
      rw [put_cons]
      split
      · rename_i same
        simp [names, same]
      · rename_i differ
        have further : name ∈ names rest := by
          simpa [names, Ne.symm differ] using member
        have kept := induction further
        rw [names] at kept
        simp [names, kept]

theorem put_of_not_mem (absent : name ∉ members.names) :
    members.put name value = members ++ [(name, value)] := by
  induction members with
  | nil => rfl
  | cons first rest induction =>
      have differ : first.1 ≠ name := by
        rintro rfl
        exact absent (by simp [names])
      have further : name ∉ names rest := by
        intro member
        apply absent
        rw [names, List.map_cons]
        exact List.mem_cons_of_mem _ member
      rw [put_cons, if_neg differ, induction further, List.cons_append]

theorem mem_put {member : Text × Json} (inside : member ∈ members.put name value) :
    member = (name, value) ∨ member ∈ members := by
  induction members with
  | nil => exact .inl (List.mem_singleton.mp inside)
  | cons first rest induction =>
      rw [put_cons] at inside
      split at inside
      · rcases List.mem_cons.mp inside with same | further
        · exact .inl same
        · exact .inr (List.mem_cons_of_mem _ further)
      · rcases List.mem_cons.mp inside with same | further
        · exact .inr (by simp [same])
        · rcases induction further with same | inner
          · exact .inl same
          · exact .inr (List.mem_cons_of_mem _ inner)

theorem Distinct.put (distinct : members.Distinct) (name : Text) (value : Json) :
    (members.put name value).Distinct := by
  unfold Distinct
  by_cases member : name ∈ members.names
  · rw [names_put_of_mem member]
    exact distinct
  · rw [put_of_not_mem member, names, List.map_append, List.map_singleton]
    refine List.nodup_append.mpr ⟨distinct, by simp, ?_⟩
    intro inside known last single same
    have isName : last = name := List.mem_singleton.mp single
    subst same isName
    exact member known

/-! ## Taking a name away -/

theorem get?_erase_self : (members.erase name).get? name = none := by
  induction members with
  | nil => rfl
  | cons first rest induction =>
      rw [erase_cons]
      split
      · exact induction
      · rename_i differ
        rw [get?_cons, if_neg differ, induction]

theorem get?_erase_of_ne (differ : other ≠ name) :
    (members.erase name).get? other = members.get? other := by
  induction members with
  | nil => rfl
  | cons first rest induction =>
      rw [erase_cons]
      split
      · rename_i same
        rw [get?_cons, if_neg (same ▸ Ne.symm differ), induction]
      · rw [get?_cons, get?_cons, induction]

theorem Distinct.erase (distinct : members.Distinct) (name : Text) :
    (members.erase name).Distinct :=
  List.Nodup.sublist (List.Sublist.map _ List.filter_sublist) distinct

theorem erase_of_not_mem (absent : name ∉ members.names) : members.erase name = members := by
  unfold erase
  rw [List.filter_eq_self]
  intro member inside
  have differ : member.1 ≠ name := by
    rintro rfl
    exact absent (List.mem_map.mpr ⟨member, inside, rfl⟩)
  simpa using differ

/-! ## Members from pairs -/

theorem ofPairs_distinct (pairs : List (Text × Json)) : (ofPairs pairs).Distinct := by
  have grown : ∀ members : Members, members.Distinct →
      (pairs.foldl (fun members pair => members.put pair.1 pair.2) members).Distinct := by
    induction pairs with
    | nil => exact fun members distinct => distinct
    | cons first rest induction =>
        exact fun members distinct => induction _ (distinct.put first.1 first.2)
  exact grown [] List.nodup_nil

theorem mem_ofPairs {pairs : List (Text × Json)} {member : Text × Json}
    (inside : member ∈ ofPairs pairs) : member ∈ pairs := by
  have origin : ∀ members : Members,
      member ∈ pairs.foldl (fun members pair => members.put pair.1 pair.2) members →
        member ∈ members ∨ member ∈ pairs := by
    clear inside
    induction pairs with
    | nil => exact fun members inside => .inl inside
    | cons first rest induction =>
        intro members inside
        rcases induction _ inside with early | late
        · rcases mem_put early with same | known
          · exact .inr (by simp [same])
          · exact .inl known
        · exact .inr (List.mem_cons_of_mem _ late)
  rcases origin [] inside with nothing | known
  · cases nothing
  · exact known

/-- Pairs with different names are kept as they are. -/
theorem ofPairs_of_distinct {pairs : Members} (distinct : pairs.Distinct) :
    ofPairs pairs = pairs := by
  have grown : ∀ members : Members, Distinct (members ++ pairs) →
      pairs.foldl (fun members pair => members.put pair.1 pair.2) members =
        members ++ pairs := by
    clear distinct
    induction pairs with
    | nil => simp
    | cons first rest induction =>
        intro members distinct
        have absent : first.1 ∉ members.names := by
          intro member
          rw [Distinct, names, List.map_append] at distinct
          exact (List.nodup_append.mp distinct).2.2 _ member _ (by simp) rfl
        rw [List.foldl_cons, put_of_not_mem absent, induction]
        · simp
        · simpa using distinct
  exact grown [] distinct

/-- The value of the last pair with a name. -/
def last? (pairs : List (Text × Json)) (name : Text) : Option Json :=
  (pairs.filter fun pair => pair.1 = name).getLast?.map Prod.snd

theorem get?_ofPairs (pairs : List (Text × Json)) : (ofPairs pairs).get? name = last? pairs name := by
  induction pairs using List.reverseRecOn with
  | nil => rfl
  | append_singleton pairs pair induction =>
      have put : ofPairs (pairs ++ [pair]) = (ofPairs pairs).put pair.1 pair.2 := by
        simp [ofPairs]
      rw [put, last?, List.filter_append]
      by_cases same : pair.1 = name
      · subst same
        simp
      · rw [get?_put_of_ne (Ne.symm same), induction]
        simp [last?, same]

theorem last?_eq_none_iff {pairs : List (Text × Json)} :
    last? pairs name = none ↔ ∀ pair ∈ pairs, pair.1 ≠ name := by
  simp [last?]

end Members

end HelperKit
