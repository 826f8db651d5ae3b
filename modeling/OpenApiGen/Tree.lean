import OpenApiGen.Json.Basic

/-!
Documents as they were written, before anything is known of what they mean. The same tree comes from
JSON and from YAML.
-/

namespace OpenApiGen

/-- A value without parts. -/
inductive Atom
  | null
  | bool (b : Bool)
  | number (n : Number)
  /-- A number that is infinite or undefined. -/
  | nonFinite
  | text (s : String)
  deriving DecidableEq, Repr

/-- A document, or a part of one. A list may stand for a record whose members come in the order of
their declaration, and a record of one null member for the name of that member. -/
inductive Tree
  | atom (a : Atom)
  | list (items : List Tree)
  | record (members : List (Tree × Tree))
  /-- A part that can be skipped but that no place accepts. -/
  | unreadable
  deriving Repr

namespace Tree

mutual

/-- Whether every part of a tree can be read. -/
def isReadable : Tree → Bool
  | atom _ => true
  | list items => areReadable items
  | record members => haveReadable members
  | unreadable => false

/-- Whether every item of a list can be read. -/
def areReadable : List Tree → Bool
  | [] => true
  | item :: rest => isReadable item && areReadable rest

/-- Whether the keys and the values of all members can be read. -/
def haveReadable : List (Tree × Tree) → Bool
  | [] => true
  | (key, value) :: rest => isReadable key && isReadable value && haveReadable rest

end

/-- The text that a tree is. -/
def text? : Tree → Option String
  | atom (.text s) => some s
  | _ => none

/-- The truth value that a tree is. -/
def bool? : Tree → Option Bool
  | atom (.bool b) => some b
  | _ => none

/-- Whether the tree is null. -/
def isNull : Tree → Bool
  | atom .null => true
  | _ => false

mutual

/-- The tree as a JSON value. The members of an object are sorted by their keys, and of equal keys
the last one counts. A number without finite value becomes null. -/
def json? : Tree → Option Json
  | atom .null | atom .nonFinite => some .null
  | atom (.bool b) => some (.bool b)
  | atom (.number n) => some (.number n)
  | atom (.text s) => some (.text s)
  | list items => (jsonItems? items).map .array
  | record members => (jsonMembers? members).map .object
  | unreadable => none

/-- The items of a list as JSON values. -/
def jsonItems? : List Tree → Option (List Json)
  | [] => some []
  | item :: rest => do
    let item ← json? item
    let rest ← jsonItems? rest
    some (item :: rest)

/-- The members of a record as members of a JSON object. -/
def jsonMembers? : List (Tree × Tree) → Option (List (String × Json))
  | [] => some []
  | (key, value) :: rest => do
    let key ← key.text?
    let value ← json? value
    let rest ← jsonMembers? rest
    some (if Dict.has rest key then rest else Json.insertSorted key value rest)

end

end Tree

end OpenApiGen
