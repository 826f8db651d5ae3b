import OpenApiGen.Naming.Model
import OpenApiGen.Schema.Library

/-!
Type declarations: how the type of a schema node is written in a language. A reference to a
component that is an array or a map is spelled out, unless it is being spelled out already; any
other reference names a model.
-/

namespace OpenApiGen

/-- What types are declared with: the profile of a language and the components of a document. -/
structure Resolver where
  profile : Profile
  library : Library

namespace Resolver

/-- The type that an abstract or referenced name stands for. The type table comes first; a type that
needs no model stays as it is. -/
def mapType (r : Resolver) (name : String) : String :=
  let p := r.profile
  match p.types.get? name with
  | some mapped => if p.builtins.contains mapped then mapped else p.toModelName mapped
  | none =>
    if p.builtins.contains name || p.types.hasTarget name then name else p.toModelName name

/-- The name of the model for an anonymous composed schema with a tag. -/
def composedName (r : Resolver) (kind : Composition) (tag : String) : String :=
  r.profile.toModelName (kind.label ++ tag)

/-- The name of the items of an array of anonymous composed schemas, if the array or its items have
a tag. -/
def itemsName? (r : Resolver) (items : Node) (tag : Option String) : Option String :=
  match items with
  | .composed kind _ itemsTag => (tag <|> itemsTag).map fun t => r.composedName kind t ++ "Items"
  | _ => none

/-- The declared type of a node while the aliases in `opened` are spelled out. -/
def declareWithin (r : Resolver) (opened : List String) (node : Node) : Except RefError String :=
  match node with
  | .array items tag =>
    match r.itemsName? items tag with
    | some name => .ok (r.profile.containers.array.wrap name)
    | none => do
      let inner ← r.declareWithin opened items
      .ok (r.profile.containers.array.wrap inner)
  | .map value _ => do
    let inner ← r.declareWithin opened value
    .ok (r.profile.containers.map.wrap inner)
  | .ref name =>
    match _found : r.library.find name with
    | .error e => .error e
    | .ok target =>
      if _new : target.isContainer = true ∧ name ∉ opened then
        r.declareWithin (name :: opened) (target.tagged name)
      else .ok (r.mapType name)
  | .composed kind members tag =>
    match tag, members with
    | some tag, _ => .ok (r.composedName kind tag)
    | none, [single] => r.declareWithin opened single
    | none, _ => .ok (r.mapType "object")
  | .primitive .. | .enum .. | .object .. => .ok (r.mapType node.abstractType)
termination_by (r.library.countOutside opened, sizeOf node)
decreasing_by
  · exact Prod.Lex.right _ (by simp only [Node.array.sizeOf_spec]; omega)
  · exact Prod.Lex.right _ (by simp only [Node.map.sizeOf_spec]; omega)
  · exact Prod.Lex.left _ _ (Dict.countOutside_cons_lt (Library.get?_of_find _found) _new.2)
  · exact Prod.Lex.right _ (by simp; omega)

/-- The declared type of a node, such as `[]int32` or `map[string]Pet`. -/
def declare (r : Resolver) (node : Node) : Except RefError String :=
  r.declareWithin [] node

/-- The element of an array or map, or of the one that a reference leads to. -/
def elementOf (r : Resolver) (node : Node) : Except RefError (Option Node) :=
  match node with
  | .ref name => do .ok (← r.library.find name).element?
  | node => .ok node.element?

/-- What is left of a node when all containers around it are taken off. Each alias in `seen` has
been taken off already and stays. -/
def innermost (r : Resolver) (seen : List String) (node : Node) : Except RefError Node :=
  match node with
  | .array items _ => r.innermost seen items
  | .map value _ => r.innermost seen value
  | .ref name =>
    match _found : r.library.find name with
    | .error e => .error e
    | .ok target =>
      match target.element? with
      | none => .ok node
      | some element => if _new : name ∈ seen then .ok node else r.innermost (name :: seen) element
  | node => .ok node
termination_by (r.library.countOutside seen, sizeOf node)
decreasing_by
  · exact Prod.Lex.right _ (by simp only [Node.array.sizeOf_spec]; omega)
  · exact Prod.Lex.right _ (by simp only [Node.map.sizeOf_spec]; omega)
  · exact Prod.Lex.left _ _ (Dict.countOutside_cons_lt (Library.get?_of_find _found) _new)

/-- The declared type of what is left of a node when all containers around it are taken off. -/
def baseType (r : Resolver) (node : Node) : Except RefError String := do
  r.declare (← r.innermost [] node)

end Resolver

end OpenApiGen
