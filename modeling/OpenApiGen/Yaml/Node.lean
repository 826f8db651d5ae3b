import OpenApiGen.Yaml.Tag

/-!
The nodes of a YAML document, as they were written: aliases are not replaced by what they lead to,
and scalars have no type yet.
-/

namespace OpenApiGen.Yaml

/-- How a scalar is written. -/
inductive Style
  | plain
  | quoted
  | literal
  | folded
  deriving DecidableEq, Repr

/-- A scalar: its text, how it is written, and its tag. -/
structure Scalar where
  text : String
  style : Style := .plain
  tag : Option Tag := none
  deriving DecidableEq, Repr

/-- A node. An alias gives the number of an anchor. -/
inductive Node
  | alias (anchor : Nat)
  | scalar (anchor : Option Nat) (s : Scalar)
  | sequence (anchor : Option Nat) (tag : Option Tag) (items : List Node)
  | mapping (anchor : Option Nat) (tag : Option Tag) (members : List (Node × Node))
  deriving Repr

namespace Node

/-- A scalar without content. -/
def empty : Node :=
  .scalar none { text := "" }

mutual

/-- The number of marks that a node consists of: one for a scalar or an alias, and one for each end
of a container. -/
def marks : Node → Nat
  | .alias _ | .scalar _ _ => 1
  | .sequence _ _ items => marksOfItems items + 2
  | .mapping _ _ members => marksOfMembers members + 2

/-- The number of marks of the items of a sequence. -/
def marksOfItems : List Node → Nat
  | [] => 0
  | item :: rest => marks item + marksOfItems rest

/-- The number of marks of the members of a mapping. -/
def marksOfMembers : List (Node × Node) → Nat
  | [] => 0
  | (key, value) :: rest => marks key + marks value + marksOfMembers rest

end

/-- A node under the number of its anchor, if it has one. -/
def underAnchor (anchor : Option Nat) (node : Node) : List (Nat × Node) :=
  match anchor with
  | some number => [(number, node)]
  | none => []

mutual

/-- The nodes with anchors, in the order in which they start. -/
def anchored : Node → List (Nat × Node)
  | .alias _ => []
  | .scalar anchor s => underAnchor anchor (.scalar anchor s)
  | .sequence anchor tag items =>
    underAnchor anchor (.sequence anchor tag items) ++ anchoredItems items
  | .mapping anchor tag members =>
    underAnchor anchor (.mapping anchor tag members) ++ anchoredMembers members

/-- The nodes with anchors among the items of a sequence. -/
def anchoredItems : List Node → List (Nat × Node)
  | [] => []
  | item :: rest => anchored item ++ anchoredItems rest

/-- The nodes with anchors among the members of a mapping. -/
def anchoredMembers : List (Node × Node) → List (Nat × Node)
  | [] => []
  | (key, value) :: rest => anchored key ++ anchored value ++ anchoredMembers rest

end

end Node

end OpenApiGen.Yaml
