import OpenApiGen.Tree

/-!
Records with declared members. A reader asks a tree for the members that it knows, and each comes as
a part that is smaller than the tree, so that readers of nested types end.
-/

namespace OpenApiGen

/-- A tree strictly inside another. -/
abbrev Part (t : Tree) := { u : Tree // sizeOf u < sizeOf t }

/-- What a record says about a declared member. -/
inductive Slot (α : Type)
  | given (a : α)
  /-- The record names its members, but not this one. -/
  | omitted
  /-- The record lists its members and ends before this one. -/
  | missing

/-- The declared members of a record, by name. -/
abbrev Slots (t : Tree) := List (String × Slot (Part t))

namespace Tree

theorem sizeOf_item {items : List Tree} {u : Tree} (h : u ∈ items) :
    sizeOf u < sizeOf (list items) := by
  have := List.sizeOf_lt_of_mem h
  simp only [list.sizeOf_spec]
  omega

theorem sizeOf_member {members : List (Tree × Tree)} {m : Tree × Tree} (h : m ∈ members) :
    sizeOf m.2 < sizeOf (record members) := by
  have := List.sizeOf_lt_of_mem h
  obtain ⟨k, v⟩ := m
  simp only [record.sizeOf_spec, Prod.mk.sizeOf_spec] at this ⊢
  omega

/-- The items of a list. -/
def items? : (t : Tree) → Option (List (Part t))
  | list items => some (items.attach.map fun u => ⟨u.1, sizeOf_item u.2⟩)
  | _ => none

/-- The keys and values of a record. -/
def members? : (t : Tree) → Option (List (Tree × Part t))
  | record members => some (members.attach.map fun m => (m.1.1, ⟨m.1.2, sizeOf_member m.2⟩))
  | _ => none

/-- The items of a list, each read by `f`. -/
def listOf? {α : Type} (t : Tree) (f : Part t → Option α) : Option (List α) := do
  (← t.items?).mapM f

/-- A record as a dictionary whose values are read by `f`. -/
def dictOf? {α : Type} (t : Tree) (f : Part t → Option α) : Option (Dict α) := do
  let entries ← (← t.members?).mapM fun m => do
    let key ← m.1.text?
    let value ← f m.2
    some (key, value)
  some (Dict.ofEntries entries)

/-- The position that a number gives instead of a name. -/
def position? : Tree → Option Nat
  | atom (.number (.int n)) => if 0 ≤ n then some n.toNat else none
  | _ => none

/-- The position, among the declared names, that a key stands for; a key that stands for none of
them gives the number of names. There is none if the key is no name at all. -/
def fieldOf? (names : List String) (key : Tree) : Option Nat :=
  match key.text? with
  | some name => some (names.idxOf name)
  | none => key.position?.map (min names.length)

/-- Puts a value at a position of a list of slots, unless one was given there. -/
def fillSlot {α : Type} (slots : List (Slot α)) (i : Nat) (a : α) : Option (List (Slot α)) :=
  match slots[i]? with
  | some (.given _) => none
  | some _ => some (slots.set i (.given a))
  | none => some slots

/-- The declared members of a record. A declared name that comes twice is refused; a name that is
not declared is skipped. -/
def slots? (t : Tree) (names : List String) : Option (Slots t) :=
  match t with
  | list items =>
    if names.length < items.length then none
    else
      let given := items.attach.map fun u => Slot.given ⟨u.1, sizeOf_item u.2⟩
      some (names.zip (given ++ List.replicate (names.length - items.length) .missing))
  | t => do
    let slots ← (← t.members?).foldlM (fun slots m => do
      fillSlot slots (← fieldOf? names m.1) m.2) (names.map fun _ => Slot.omitted)
    some (names.zip slots)

/-- The constant whose name a tree gives. -/
def choice? {α : Type} (choices : List (String × α)) : Tree → Option α
  | atom (.text name) => choices.lookup name
  | record [(key, value)] => do
    let i ← fieldOf? (choices.map Prod.fst) key
    if value.isNull then choices[i]?.map Prod.snd else none
  | _ => none

end Tree

namespace Slots

variable {t : Tree} {α : Type}

/-- A member that has to be given. -/
def required (slots : Slots t) (name : String) (f : Part t → Option α) : Option α :=
  match slots.lookup name with
  | some (.given part) => f part
  | _ => none

/-- A member that may be omitted or null. -/
def optional (slots : Slots t) (name : String) (f : Part t → Option α) : Option (Option α) :=
  match slots.lookup name with
  | some (.given part) => if part.1.isNull then some none else (f part).map some
  | some .omitted => some none
  | _ => none

/-- A member that has a value when it is omitted. -/
def defaulted (slots : Slots t) (name : String) (default_ : α) (f : Part t → Option α) : Option α :=
  match slots.lookup name with
  | some (.given part) => f part
  | _ => some default_

end Slots

end OpenApiGen
