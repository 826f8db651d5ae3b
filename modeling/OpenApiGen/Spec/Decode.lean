import OpenApiGen.Record
import OpenApiGen.Shape
import OpenApiGen.Spec.Basic

/-!
Documents from trees, and the shape of a document. Wherever a reference may stand instead of the
thing itself, the place is for a value of any type, and every part of the value has to be readable.
-/

namespace OpenApiGen.Spec

/-- The path of a reference: the text under `$ref` in a record. -/
def refPath? (t : Tree) : Option String :=
  match t with
  | .record _ => do (← t.slots? ["$ref"]).required "$ref" fun u => u.1.text?
  | _ => none

/-- A reference if the tree is one, else the thing itself. -/
def orRef? {α : Type} (t : Tree) (inline? : Tree → Option α) : Option (OrRef α) :=
  match refPath? t with
  | some path => some (.ref path)
  | none => (inline? t).map .inline

/-- The texts of a list. -/
def texts? (t : Tree) : Option (List String) :=
  t.listOf? fun u => u.1.text?

/-- The type keywords with their names. -/
def SchemaType.names : List (String × SchemaType) :=
  [("string", .string), ("number", .number), ("integer", .integer), ("boolean", .boolean),
    ("array", .array), ("object", .object), ("null", .null)]

/-- A type keyword, or a list of them. -/
def typeSet? (t : Tree) : Option TypeSet :=
  match t.choice? SchemaType.names with
  | some type => some (.single type)
  | none => (t.listOf? fun u => u.1.choice? SchemaType.names).map .multiple

/-- The members of a schema, in the order of their declaration. -/
def schemaFields : List String :=
  ["type", "format", "description", "properties", "required", "additionalProperties", "items",
    "allOf", "oneOf", "anyOf", "enum", "pattern", "default", "x-schema-name"]

/-- The schema, or the reference to one, of a tree. -/
def schema? (t : Tree) : Option (OrRef Schema) :=
  match refPath? t with
  | some path => some (.ref path)
  | none => do
    let slots ← t.slots? schemaFields
    let schemas (u : Part t) : Option (List (OrRef Schema)) :=
      u.1.listOf? fun v => schema? v.1
    let type ← slots.optional "type" fun u => typeSet? u.1
    let format ← slots.optional "format" fun u => u.1.text?
    let description ← slots.optional "description" fun u => u.1.text?
    let properties ← slots.defaulted "properties" [] fun u => u.1.dictOf? fun v => schema? v.1
    let required ← slots.defaulted "required" [] fun u => texts? u.1
    let additional ← slots.optional "additionalProperties" fun u =>
      match u.1.bool? with
      | some allowed => some (Additional.flag allowed)
      | none => (schema? u.1).map .schema
    let items ← slots.optional "items" fun u => schema? u.1
    let allOf ← slots.defaulted "allOf" [] schemas
    let oneOf ← slots.defaulted "oneOf" [] schemas
    let anyOf ← slots.defaulted "anyOf" [] schemas
    let enum ← slots.defaulted "enum" [] fun u => u.1.listOf? fun v => v.1.json?
    let pattern ← slots.optional "pattern" fun u => u.1.text?
    let default_ ← slots.optional "default" fun u => u.1.json?
    let tag ← slots.optional "x-schema-name" fun u => u.1.text?
    let schema : Schema := {
      type := type, format, description, properties, required, additional, items, allOf, oneOf
      anyOf, enum, pattern, default_, tag }
    some (.inline schema)
termination_by sizeOf t
decreasing_by
  all_goals first
    | exact u.2
    | exact Nat.lt_trans v.2 u.2

/-- The media type of a tree. -/
def mediaType? (t : Tree) : Option MediaType := do
  let slots ← t.slots? ["schema"]
  let schema ← slots.optional "schema" fun u => schema? u.1
  some { schema }

/-- The places of parameters with their names. -/
def ParameterIn.names : List (String × ParameterIn) :=
  [("query", .query), ("header", .header), ("path", .path), ("cookie", .cookie)]

/-- The parameter of a tree. -/
def parameter? (t : Tree) : Option Parameter := do
  let slots ← t.slots? ["name", "in", "required", "schema"]
  let name ← slots.required "name" fun u => u.1.text?
  let location ← slots.required "in" fun u => u.1.choice? ParameterIn.names
  let required ← slots.defaulted "required" false fun u => u.1.bool?
  let schema ← slots.optional "schema" fun u => schema? u.1
  some { name, location, required, schema }

/-- The request body of a tree. -/
def requestBody? (t : Tree) : Option RequestBody := do
  let slots ← t.slots? ["content", "required"]
  let content ← slots.defaulted "content" [] fun u => u.1.dictOf? fun v => mediaType? v.1
  let required ← slots.defaulted "required" false fun u => u.1.bool?
  some { content, required }

/-- The response of a tree. -/
def response? (t : Tree) : Option Response := do
  let slots ← t.slots? ["description", "content"]
  let description ← slots.defaulted "description" "" fun u => u.1.text?
  let content ← slots.defaulted "content" [] fun u => u.1.dictOf? fun v => mediaType? v.1
  some { description, content }

/-- A schema or a reference to one. -/
def schemaOrRef? (t : Tree) : Option (OrRef Schema) :=
  if t.isReadable then schema? t else none

/-- A parameter or a reference to one. -/
def parameterOrRef? (t : Tree) : Option (OrRef Parameter) :=
  if t.isReadable then orRef? t parameter? else none

/-- A request body or a reference to one. -/
def requestBodyOrRef? (t : Tree) : Option (OrRef RequestBody) :=
  if t.isReadable then orRef? t requestBody? else none

/-- A response or a reference to one. -/
def responseOrRef? (t : Tree) : Option (OrRef Response) :=
  if t.isReadable then orRef? t response? else none

/-- The members of an operation, in the order of their declaration. -/
def operationMembers : List (String × Shape) :=
  [("operationId", .optional .text), ("summary", .optional .text), ("tags", .list .text),
    ("parameters", .list .any), ("requestBody", .optional .any), ("responses", .dict .any),
    ("deprecated", .flag)]

/-- The operation of a tree. -/
def operation? (t : Tree) : Option Operation := do
  let slots ← t.slots? (operationMembers.map Prod.fst)
  let operationId ← slots.optional "operationId" fun u => u.1.text?
  let summary ← slots.optional "summary" fun u => u.1.text?
  let tags ← slots.defaulted "tags" [] fun u => texts? u.1
  let parameters ← slots.defaulted "parameters" [] fun u =>
    u.1.listOf? fun v => parameterOrRef? v.1
  let requestBody ← slots.optional "requestBody" fun u => requestBodyOrRef? u.1
  let responses ← slots.defaulted "responses" [] fun u => u.1.dictOf? fun v => responseOrRef? v.1
  let deprecated ← slots.defaulted "deprecated" false fun u => u.1.bool?
  some { operationId, summary, tags, parameters, requestBody, responses, deprecated }

/-- The members of a path item, in the order of their declaration. -/
def pathItemMembers : List (String × Shape) :=
  ("parameters", .list .any) ::
    ["get", "put", "post", "delete", "options", "head", "patch", "trace"].map fun method =>
      (method, .optional (.record operationMembers))

/-- The path item of a tree. -/
def pathItem? (t : Tree) : Option PathItem := do
  let slots ← t.slots? (pathItemMembers.map Prod.fst)
  let operation (name : String) := slots.optional name fun u => operation? u.1
  let parameters ← slots.defaulted "parameters" [] fun u =>
    u.1.listOf? fun v => parameterOrRef? v.1
  let get ← operation "get"
  let put ← operation "put"
  let post ← operation "post"
  let delete ← operation "delete"
  let options ← operation "options"
  let head ← operation "head"
  let patch ← operation "patch"
  let trace ← operation "trace"
  some { parameters, get, put, post, delete, options, head, patch, trace }

/-- The members of components, in the order of their declaration. -/
def componentsMembers : List (String × Shape) :=
  [("schemas", .dict .any), ("parameters", .dict .any), ("requestBodies", .dict .any),
    ("responses", .dict .any)]

/-- The components of a tree. -/
def components? (t : Tree) : Option Components := do
  let slots ← t.slots? (componentsMembers.map Prod.fst)
  let schemas ← slots.defaulted "schemas" [] fun u => u.1.dictOf? fun v => schemaOrRef? v.1
  let parameters ← slots.defaulted "parameters" [] fun u =>
    u.1.dictOf? fun v => parameterOrRef? v.1
  let requestBodies ← slots.defaulted "requestBodies" [] fun u =>
    u.1.dictOf? fun v => requestBodyOrRef? v.1
  let responses ← slots.defaulted "responses" [] fun u => u.1.dictOf? fun v => responseOrRef? v.1
  some { schemas, parameters, requestBodies, responses }

/-- The members of an information, in the order of their declaration. -/
def infoMembers : List (String × Shape) :=
  [("title", .text), ("version", .text), ("description", .optional .text)]

/-- The information of a tree. -/
def info? (t : Tree) : Option Info := do
  let slots ← t.slots? (infoMembers.map Prod.fst)
  let title ← slots.required "title" fun u => u.1.text?
  let version ← slots.required "version" fun u => u.1.text?
  let description ← slots.optional "description" fun u => u.1.text?
  some { title, version, description }

/-- The members of a document, in the order of their declaration. -/
def members : List (String × Shape) :=
  [("openapi", .text), ("info", .record infoMembers), ("paths", .dict (.record pathItemMembers)),
    ("components", .optional (.record componentsMembers))]

/-- The document of a tree. -/
def ofTree? (t : Tree) : Option Spec := do
  let slots ← t.slots? (members.map Prod.fst)
  let openapi ← slots.required "openapi" fun u => u.1.text?
  let info ← slots.required "info" fun u => info? u.1
  let paths ← slots.defaulted "paths" [] fun u => u.1.dictOf? fun v => pathItem? v.1
  let components ← slots.optional "components" fun u => components? u.1
  some { openapi, info, paths, components }

end OpenApiGen.Spec
