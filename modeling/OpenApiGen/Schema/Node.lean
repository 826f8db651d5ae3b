import OpenApiGen.Dict
import OpenApiGen.Json.Basic

/-!
Schema nodes: what is left of a schema once all is decided that does not depend on the target
language.
-/

namespace OpenApiGen

/-- How a composed schema joins its members. -/
inductive Composition
  | allOf
  | oneOf
  | anyOf
  deriving DecidableEq, Repr

/-- What the name of an anonymous composed schema starts with. -/
def Composition.label : Composition → String
  | allOf => "AllOf"
  | oneOf => "OneOf"
  | anyOf => "AnyOf"

/-- A schema node. Containers and composed schemas may carry the name of the schema that they come
from, their tag. -/
inductive Node
  /-- A scalar, by the name of its abstract type. -/
  | primitive (typeName : String) (pattern : Option String) (default_ : Option Json)
  | array (items : Node) (tag : Option String)
  /-- A dictionary from texts. -/
  | map (value : Node) (tag : Option String)
  /-- A reference to the component of a name. -/
  | ref (name : String)
  | composed (kind : Composition) (members : List Node) (tag : Option String)
  /-- An enumeration of literals of an abstract type. -/
  | enum (baseType : String) (literals : List String) (default_ : Option Json)
  | object (properties : List (String × Node)) (required : List String)
    (description : Option String)
  deriving Repr

namespace Node

/-- A scalar of an abstract type. -/
def scalar (typeName : String) : Node :=
  .primitive typeName none none

/-- Whether a node is an array or a map. -/
def isContainer : Node → Bool
  | array .. | map .. => true
  | _ => false

/-- The node with a tag, if it has a place for one. -/
def tagged (name : String) : Node → Node
  | array items _ => array items (some name)
  | map value _ => map value (some name)
  | composed kind members _ => composed kind members (some name)
  | node => node

/-- The element of a container. -/
def element? : Node → Option Node
  | array items _ => some items
  | map value _ => some value
  | _ => none

/-- The abstract type that stands for a node. -/
def abstractType : Node → String
  | primitive typeName _ _ => typeName
  | enum baseType _ _ => baseType
  | ref name => name
  | array .. => "array"
  | map .. => "map"
  | composed .. | object .. => "object"

/-- The pattern of a scalar. -/
def pattern? : Node → Option String
  | primitive _ pattern _ => pattern
  | _ => none

/-- The default value of a scalar or an enumeration. -/
def default? : Node → Option Json
  | primitive _ _ d => d
  | enum _ _ d => d
  | _ => none

/-- The description of an object. -/
def description? : Node → Option String
  | object _ _ d => d
  | _ => none

/-- The first reference among the members of an `allOf` schema. It names the parent of the model. -/
def parent? : Node → Option String
  | composed .allOf members _ =>
    members.findSome? fun
      | ref name => some name
      | _ => none
  | _ => none

end Node

end OpenApiGen
