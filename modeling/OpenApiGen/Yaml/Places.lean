import OpenApiGen.Shape
import OpenApiGen.Yaml.Reader
import OpenApiGen.Yaml.Typing

/-!
Reading of YAML nodes by the shape of their places. An alias reads as the node that it leads to. Two
limits keep what is read finite: how often aliases are followed, and how deep containers lie in one
another. What no place asks for counts for neither.
-/

namespace OpenApiGen.Yaml

/-- The deepest that containers may lie in one another. -/
def maxLevels : Nat := 128

/-- Nodes with the numbers of their anchors. -/
abbrev Targets := List (Nat × Node)

/-- A step of reading. It may use up some of the aliases that can still be followed. -/
abbrev Step := StateT Nat Option

/-- The node that a node leads to: itself, unless it is an alias. -/
def follow (targets : Targets) : Node → Step Node
  | .alias number => do
    match (← get), targets.lookup number with
    | left + 1, some target => do
      set left
      pure target
    | _, _ => failure
  | node => pure node

/-! ## Places for values of any type -/

/-- Reads a node where a value of any type may stand. -/
def readAny (targets : Targets) (levels : Nat) (node : Node) : Step Tree := do
  match levels, (← follow targets node) with
  | _, .scalar _ s => return .atom (← s.value?)
  | levels + 1, .sequence _ tag items =>
    if (tag.bind Tag.ownName?).isSome then failure
    return .list (← items.mapM (readAny targets levels))
  | levels + 1, .mapping _ tag members =>
    if (tag.bind Tag.ownName?).isSome then failure
    return .record (← members.mapM fun (key, value) => do
      return (← readAny targets levels key, ← readAny targets levels value))
  | _, _ => failure

/-! ## Places for values of one type -/

/-- The scalar that a node leads to. -/
def scalarAt (targets : Targets) (node : Node) : Step Scalar := do
  match (← follow targets node) with
  | .scalar _ s => pure s
  | _ => failure

/-- The items of the list that a node leads to. A blank stands for an empty list. -/
def itemsAt (targets : Targets) (levels : Nat) (node : Node) : Step (List Node) := do
  match (← follow targets node) with
  | .scalar _ s => if s.isBlank then pure [] else failure
  | .sequence _ _ items => if 0 < levels then pure items else failure
  | _ => failure

/-- The members of the record that a node leads to, under the texts of their keys. A blank stands
for an empty record. -/
def membersAt (targets : Targets) (levels : Nat) (node : Node) :
    Step (List (Node × Node)) := do
  match (← follow targets node) with
  | .scalar _ s => if s.isBlank then pure [] else failure
  | .mapping _ _ members => if 0 < levels then pure members else failure
  | _ => failure

/-- Whether a node that is no alias is something where there may be nothing. -/
def isGiven? : Node → Option Bool
  | .scalar _ s => s.isGiven?
  | _ => some true

mutual

/-- Reads a node in a place of a shape. The tags of containers do not count. -/
def readAs (targets : Targets) (levels : Nat) : Shape → Node → Step Tree
  | .any, node => readAny targets levels node
  | .text, node => return .atom (.text (← scalarAt targets node).text)
  | .flag, node => do
    return .atom (.bool (← (← scalarAt targets node).flag?))
  | .choice, node => do
    return .atom (.text (← (← scalarAt targets node).name?))
  | .optional inner, node => do
    let node ← follow targets node
    if (← isGiven? node) then
      let tree ← readAs targets levels inner node
      if tree.isNull then failure else return tree
    else return .atom .null
  | .list item, node => do
    return .list (← (← itemsAt targets levels node).mapM (readAs targets (levels - 1) item))
  | .dict value, node => do
    return .record (← (← membersAt targets levels node).mapM fun (key, node) => do
      let key ← scalarAt targets key
      return (.atom (.text key.text), ← readAs targets (levels - 1) value node))
  | .record members, node => do
    return .record (← (← membersAt targets levels node).filterMapM fun (key, node) => do
      let key ← scalarAt targets key
      let value ← readMember targets (levels - 1) members key.text node
      return value.map ((.atom (.text key.text), ·)))

/-- Reads a member of a record by its declared shape. Without one it is skipped. -/
def readMember (targets : Targets) (levels : Nat) :
    List (String × Shape) → String → Node → Step (Option Tree)
  | [], _, _ => pure none
  | (declared, shape) :: rest, name, node => do
    if name = declared then return some (← readAs targets levels shape node)
    else readMember targets levels rest name node

end

/-- The tree of a YAML text, read by its shape. As many aliases are followed as a hundred times the
marks of the document. -/
def readTree? (shape : Shape) (text : String) : Option Tree := do
  let root ← readNode? text
  let (tree, _) ← (readAs root.anchored.reverse maxLevels shape root).run (100 * root.marks)
  some tree

end OpenApiGen.Yaml
