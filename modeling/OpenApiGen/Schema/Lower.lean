import OpenApiGen.Error
import OpenApiGen.Schema.Node
import OpenApiGen.Spec.Basic
import OpenApiGen.Text.Split

/-!
Schema nodes of schemas. A composition comes first, then an enumeration, then the type.
-/

namespace OpenApiGen

/-- The name at the end of the path of a reference: `#/components/schemas/Pet`, `#/definitions/Pet`
and `#/Pet` all lead to `Pet`. -/
def refName (path : String) : Except RefError String :=
  let name := ((Text.splitWhere (· = '/') path.toList).getLast?).getD []
  match name with
  | [] => .error (.malformed path)
  | '#' :: _ => .error (.malformed path)
  | cs => .ok (.ofList cs)

namespace Spec.Schema

/-- The keyword that decides on the type of a schema. -/
def primary (s : Schema) : Option SchemaType :=
  s.type.bind TypeSet.primary

/-- The abstract type of a text, by its format. -/
def textType : Option String → String
  | some "date" => "date"
  | some "date-time" => "DateTime"
  | some "binary" => "binary"
  | some "byte" => "ByteArray"
  | some "uuid" => "UUID"
  | some "password" => "password"
  | some "uri" => "URI"
  | _ => "string"

/-- The abstract type of a schema, by its type and format. An enumeration of texts without a type is
one of texts. -/
def abstractType (s : Schema) : String :=
  match s.primary with
  | some .string => textType s.format
  | some .integer => if s.format = some "int64" then "long" else "integer"
  | some .number =>
    match s.format with
    | some "float" => "float"
    | some "double" => "double"
    | _ => "number"
  | some .boolean => "boolean"
  | some .array => "array"
  | some .object | some .null | none =>
    let isText : Json → Bool
      | .text _ => true
      | _ => false
    if !s.enum.isEmpty && s.enum.all isText then "string" else "object"

/-- The text of an enumeration literal. -/
def literalText : Json → String
  | .text s => s
  | value => value.compact

/-- Whether a schema is one of an array. -/
def isArray (s : Schema) : Bool :=
  s.primary = some .array || (s.primary.isNone && s.items.isSome)

/-- Whether a schema is one of an object or a map. -/
def isObject (s : Schema) : Bool :=
  s.primary = some .object ||
    (s.primary.isNone && (!s.properties.isEmpty || s.additional.isSome))

end Spec.Schema

open Spec in
mutual

/-- The node of a schema. -/
def lowerSchema (s : Schema) : Except RefError Node :=
  match s with
  | { description, properties, required, additional, items, allOf, oneOf, anyOf, enum, pattern,
      default_, tag, .. } => do
    let composed (kind : Composition) (members : List Node) : Except RefError Node := do
      let siblings ←
        if properties.isEmpty then .ok []
        else do
          let properties ← lowerProperties properties
          .ok [Node.object properties required description]
      .ok (.composed kind (members ++ siblings) tag)
    if !allOf.isEmpty then composed .allOf (← lowerAll allOf)
    else if !oneOf.isEmpty then composed .oneOf (← lowerAll oneOf)
    else if !anyOf.isEmpty then composed .anyOf (← lowerAll anyOf)
    else if !enum.isEmpty then
      .ok (.enum s.abstractType (enum.map Schema.literalText) default_)
    else if s.isArray then
      match items with
      | some items => do .ok (.array (← lower items) tag)
      | none => .ok (.array (.scalar "object") tag)
    else if s.isObject then
      match properties, additional with
      | [], some (.schema value) => do .ok (.map (← lower value) tag)
      | [], some (.flag true) => .ok (.map (.scalar "object") tag)
      | properties, _ => do .ok (.object (← lowerProperties properties) required description)
    else .ok (.primitive s.abstractType pattern default_)

/-- The node of a schema or of a reference to one. -/
def lower : OrRef Schema → Except RefError Node
  | .ref path => do .ok (.ref (← refName path))
  | .inline schema => lowerSchema schema

/-- The nodes of the members of a composition. -/
def lowerAll : List (OrRef Schema) → Except RefError (List Node)
  | [] => .ok []
  | s :: rest => do
    let node ← lower s
    let nodes ← lowerAll rest
    .ok (node :: nodes)

/-- The nodes of the properties of an object. -/
def lowerProperties : List (String × OrRef Schema) → Except RefError (List (String × Node))
  | [] => .ok []
  | (name, s) :: rest => do
    let node ← lower s
    let nodes ← lowerProperties rest
    .ok ((name, node) :: nodes)

end

end OpenApiGen
