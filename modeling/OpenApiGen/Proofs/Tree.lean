import Mathlib.Data.String.Basic
import OpenApiGen.Proofs.Dict
import OpenApiGen.Tree

/-!
# JSON values as trees

`Json.toTree` is a JSON value as a reader of documents sees it.  Every part of it can be read
(`isReadable_toTree`).  A value that was read from any tree has the members of its objects in
ascending order, so it is read again from its own tree (`Tree.json?_toTree`).
-/

namespace OpenApiGen

/-! ## The tree of a value -/

namespace Json

mutual

/-- A JSON value as a reader of documents sees it. -/
def toTree : Json → Tree
  | null => .atom .null
  | bool b => .atom (.bool b)
  | number n => .atom (.number n)
  | text s => .atom (.text s)
  | array items => .list (itemTrees items)
  | object members => .record (memberTrees members)

/-- The trees of the items of an array. -/
def itemTrees : List Json → List Tree
  | [] => []
  | item :: rest => toTree item :: itemTrees rest

/-- The trees of the members of an object. -/
def memberTrees : List (String × Json) → List (Tree × Tree)
  | [] => []
  | (key, value) :: rest => (.atom (.text key), toTree value) :: memberTrees rest

end

theorem itemTrees_eq_map (items : List Json) : itemTrees items = items.map toTree := by
  induction items with
  | nil => rfl
  | cons item rest ih => rw [itemTrees, ih, List.map_cons]

theorem memberTrees_eq_map (members : List (String × Json)) :
    memberTrees members = members.map fun m => (.atom (.text m.1), m.2.toTree) := by
  induction members with
  | nil => rfl
  | cons member rest ih => rw [memberTrees, ih, List.map_cons]

mutual

theorem isReadable_toTree : ∀ value : Json, value.toTree.isReadable = true
  | null | bool _ | number _ | text _ => rfl
  | array items => areReadable_itemTrees items
  | object members => haveReadable_memberTrees members

theorem areReadable_itemTrees : ∀ items : List Json, Tree.areReadable (itemTrees items) = true
  | [] => rfl
  | item :: rest => by
    rw [itemTrees, Tree.areReadable, isReadable_toTree item, areReadable_itemTrees rest]
    rfl

theorem haveReadable_memberTrees :
    ∀ members : List (String × Json), Tree.haveReadable (memberTrees members) = true
  | [] => rfl
  | (key, value) :: rest => by
    rw [memberTrees, Tree.haveReadable, isReadable_toTree value, haveReadable_memberTrees rest]
    rfl

end

/-! ## Sorted members -/

/-- The keys of members ascend. -/
def Sorted (members : List (String × Json)) : Prop :=
  members.Pairwise fun a b => a.1 < b.1

theorem mem_insertSorted {key : String} {value : Json} {members : List (String × Json)}
    {e : String × Json} (h : e ∈ insertSorted key value members) :
    e = (key, value) ∨ e ∈ members := by
  induction members with
  | nil => exact .inl (List.mem_singleton.1 h)
  | cons member rest ih =>
    obtain ⟨k, v⟩ := member
    rw [insertSorted] at h
    split at h
    · rcases List.mem_cons.1 h with h | h
      · exact .inl h
      · exact .inr (List.mem_cons_of_mem _ h)
    · split at h
      · exact List.mem_cons.1 h
      · rcases List.mem_cons.1 h with h | h
        · exact .inr (h ▸ List.mem_cons_self)
        · exact (ih h).imp_right (List.mem_cons_of_mem _)

theorem sorted_insertSorted {members : List (String × Json)} (sorted : Sorted members)
    (key : String) (value : Json) : Sorted (insertSorted key value members) := by
  induction members with
  | nil => exact List.pairwise_singleton _ _
  | cons member rest ih =>
    obtain ⟨k, v⟩ := member
    obtain ⟨first, tail⟩ := List.pairwise_cons.1 sorted
    rw [insertSorted]
    split
    · next same =>
      subst same
      exact List.pairwise_cons.2 ⟨first, tail⟩
    · next other =>
      split
      · next less =>
        refine List.pairwise_cons.2 ⟨fun e he => ?_, sorted⟩
        rcases List.mem_cons.1 he with rfl | he
        · exact less
        · exact less.trans (first e he)
      · next notLess =>
        refine List.pairwise_cons.2 ⟨fun e he => ?_, ih tail⟩
        rcases mem_insertSorted he with rfl | he
        · exact lt_of_le_of_ne (not_lt.1 notLess) (Ne.symm other)
        · exact first e he

theorem insertSorted_of_lt {key : String} {value : Json} {members : List (String × Json)}
    (h : ∀ e ∈ members, key < e.1) : insertSorted key value members = (key, value) :: members := by
  cases members with
  | nil => rfl
  | cons member rest =>
    have less := h member List.mem_cons_self
    rw [insertSorted, if_neg less.ne, if_pos less]

end Json

/-! ## Values that were read -/

namespace Tree

theorem jsonItems?_itemTrees {items : List Json}
    (again : ∀ v ∈ items, json? v.toTree = some v) :
    jsonItems? (Json.itemTrees items) = some items := by
  induction items with
  | nil => rfl
  | cons item rest ih =>
    obtain ⟨first, tail⟩ := List.forall_mem_cons.1 again
    rw [Json.itemTrees, jsonItems?, first, ih tail]
    rfl

theorem jsonMembers?_memberTrees {members : List (String × Json)} (sorted : Json.Sorted members)
    (again : ∀ e ∈ members, json? e.2.toTree = some e.2) :
    jsonMembers? (Json.memberTrees members) = some members := by
  induction members with
  | nil => rfl
  | cons member rest ih =>
    obtain ⟨key, value⟩ := member
    obtain ⟨less, sortedTail⟩ := List.pairwise_cons.1 sorted
    obtain ⟨first, tail⟩ := List.forall_mem_cons.1 again
    have new : Dict.has rest key = false := by
      unfold Dict.has
      rw [Dict.get?_eq_none_iff.2]
      · rfl
      · intro mem
        obtain ⟨e, he, same⟩ := List.mem_map.1 mem
        exact (less e he).ne same.symm
    rw [Json.memberTrees, jsonMembers?, first, ih sortedTail tail]
    show some (if Dict.has rest key then rest else Json.insertSorted key value rest) = _
    rw [new, Json.insertSorted_of_lt less]
    rfl

mutual

/-- What a tree is as a value, its value's own tree is too. -/
theorem json?_toTree : ∀ {t : Tree} {v : Json}, json? t = some v → json? v.toTree = some v
  | atom a, v, h => by
    cases a <;> cases h <;> rfl
  | list items, v, h => by
    rw [json?, Option.map_eq_some_iff] at h
    obtain ⟨values, hvalues, rfl⟩ := h
    rw [Json.toTree, json?, jsonItems?_itemTrees (jsonItems?_toTree hvalues)]
    rfl
  | record members, v, h => by
    rw [json?, Option.map_eq_some_iff] at h
    obtain ⟨values, hvalues, rfl⟩ := h
    obtain ⟨sorted, again⟩ := jsonMembers?_toTree hvalues
    rw [Json.toTree, json?, jsonMembers?_memberTrees sorted again]
    rfl
  | unreadable, v, h => by cases h

theorem jsonItems?_toTree : ∀ {items : List Tree} {values : List Json},
    jsonItems? items = some values → ∀ v ∈ values, json? v.toTree = some v
  | [], values, h => by
    cases h
    exact List.forall_mem_nil _
  | item :: rest, values, h => by
    obtain ⟨first, hfirst, h⟩ := Option.bind_eq_some_iff.1 h
    obtain ⟨tail, htail, h⟩ := Option.bind_eq_some_iff.1 h
    cases h
    exact List.forall_mem_cons.2 ⟨json?_toTree hfirst, jsonItems?_toTree htail⟩

theorem jsonMembers?_toTree : ∀ {members : List (Tree × Tree)} {values : List (String × Json)},
    jsonMembers? members = some values →
      Json.Sorted values ∧ ∀ e ∈ values, json? e.2.toTree = some e.2
  | [], values, h => by
    cases h
    exact ⟨List.Pairwise.nil, List.forall_mem_nil _⟩
  | (key, value) :: rest, values, h => by
    obtain ⟨name, -, h⟩ := Option.bind_eq_some_iff.1 h
    obtain ⟨v, hv, h⟩ := Option.bind_eq_some_iff.1 h
    obtain ⟨tail, htail, h⟩ := Option.bind_eq_some_iff.1 h
    obtain ⟨sorted, again⟩ := jsonMembers?_toTree htail
    split at h
    · cases h
      exact ⟨sorted, again⟩
    · cases h
      refine ⟨Json.sorted_insertSorted sorted _ _, fun e he => ?_⟩
      rcases Json.mem_insertSorted he with rfl | he
      · exact json?_toTree hv
      · exact again e he

end

/-! ## Parts -/

/-- The items of a list, or the values of a record. -/
def parts : Tree → List Tree
  | list items => items
  | record members => members.map Prod.snd
  | _ => []

/-- No number in a tree is infinite or undefined. -/
inductive Finite : Tree → Prop
  | atom {a : Atom} (proper : a ≠ .nonFinite) : Finite (atom a)
  | list {items : List Tree} (parts : ∀ u ∈ items, Finite u) : Finite (list items)
  | record {members : List (Tree × Tree)} (parts : ∀ m ∈ members, Finite m.2) :
      Finite (record members)
  | unreadable : Finite unreadable

theorem Finite.of_mem_parts {t u : Tree} (h : t.Finite) (mem : u ∈ t.parts) : u.Finite := by
  cases h with
  | list parts => exact parts u mem
  | record parts =>
    obtain ⟨m, hm, rfl⟩ := List.mem_map.1 mem
    exact parts m hm
  | atom _ | unreadable => cases mem

/-- Only null is read as the null value, when there are no numbers without finite value. -/
theorem json?_ne_null {t : Tree} (finite : t.Finite) (notNull : t.isNull = false) :
    json? t ≠ some .null := by
  intro h
  cases finite with
  | @atom a proper =>
    cases a with
    | null => cases notNull
    | nonFinite => exact proper rfl
    | bool _ | number _ | text _ => cases h
  | list _ | record _ =>
    obtain ⟨_, _, h⟩ := Option.map_eq_some_iff.1 h
    cases h
  | unreadable => cases h

end Tree

end OpenApiGen
