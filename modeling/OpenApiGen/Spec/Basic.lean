import OpenApiGen.Json.Basic

/-!
OpenAPI documents: the part of them that types, models and operations depend on.
-/

namespace OpenApiGen

/-- Something written in place, or a reference to a component. -/
inductive OrRef (α : Type)
  | ref (path : String)
  | inline (value : α)
  deriving DecidableEq, Repr

namespace Spec

/-- A type keyword of a schema. -/
inductive SchemaType
  | string
  | number
  | integer
  | boolean
  | array
  | object
  | null
  deriving DecidableEq, Repr

/-- The type of a schema: one keyword, or a list of them. -/
inductive TypeSet
  | single (t : SchemaType)
  | multiple (ts : List SchemaType)
  deriving DecidableEq, Repr

/-- The first keyword that is not null; a single keyword counts in any case. -/
def TypeSet.primary : TypeSet → Option SchemaType
  | single t => some t
  | multiple ts => ts.find? (· ≠ .null)

/-- What a schema says about properties that it does not name. -/
inductive Additional (α : Type)
  | flag (allowed : Bool)
  | schema (value : α)
  deriving DecidableEq, Repr

/-- The part of a schema that types and names depend on. -/
structure Schema where
  type : Option TypeSet := none
  format : Option String := none
  description : Option String := none
  /-- The schemas of the properties, by name. -/
  properties : List (String × OrRef Schema) := []
  required : List String := []
  additional : Option (Additional (OrRef Schema)) := none
  items : Option (OrRef Schema) := none
  allOf : List (OrRef Schema) := []
  oneOf : List (OrRef Schema) := []
  anyOf : List (OrRef Schema) := []
  /-- The allowed values, if they are listed. -/
  enum : List Json := []
  pattern : Option String := none
  default_ : Option Json := none
  /-- The name that a generator gave to an anonymous composed schema. -/
  tag : Option String := none

/-- The content of a body in one format. -/
structure MediaType where
  schema : Option (OrRef Schema) := none

/-- Where a parameter is passed. -/
inductive ParameterIn
  | query
  | header
  | path
  | cookie
  deriving DecidableEq, Repr

/-- A parameter of an operation. -/
structure Parameter where
  name : String
  location : ParameterIn
  required : Bool := false
  schema : Option (OrRef Schema) := none

/-- The body of a request, by media type. -/
structure RequestBody where
  content : Dict MediaType := []
  required : Bool := false

/-- A response, by media type. -/
structure Response where
  description : String := ""
  content : Dict MediaType := []

/-- An operation of a path. -/
structure Operation where
  operationId : Option String := none
  summary : Option String := none
  tags : List String := []
  parameters : List (OrRef Parameter) := []
  requestBody : Option (OrRef RequestBody) := none
  /-- Responses by status. -/
  responses : Dict (OrRef Response) := []
  deprecated : Bool := false

/-- The operations of a path, with the parameters that they share. -/
structure PathItem where
  parameters : List (OrRef Parameter) := []
  get : Option Operation := none
  put : Option Operation := none
  post : Option Operation := none
  delete : Option Operation := none
  options : Option Operation := none
  head : Option Operation := none
  patch : Option Operation := none
  trace : Option Operation := none

/-- The operations of a path that are defined, each with its method. -/
def PathItem.operations (item : PathItem) : List (String × Operation) :=
  [("GET", item.get), ("PUT", item.put), ("POST", item.post), ("DELETE", item.delete),
    ("OPTIONS", item.options), ("HEAD", item.head), ("PATCH", item.patch), ("TRACE", item.trace)]
  |>.filterMap fun (method, operation) => operation.map fun o => (method, o)

/-- What references can lead to. -/
structure Components where
  schemas : Dict (OrRef Schema) := []
  parameters : Dict (OrRef Parameter) := []
  requestBodies : Dict (OrRef RequestBody) := []
  responses : Dict (OrRef Response) := []

/-- What the document says about itself. -/
structure Info where
  title : String
  version : String
  description : Option String := none
  deriving DecidableEq, Repr

end Spec

/-- An OpenAPI document. -/
structure Spec where
  openapi : String
  info : Spec.Info
  paths : Dict Spec.PathItem := []
  components : Option Spec.Components := none

end OpenApiGen
