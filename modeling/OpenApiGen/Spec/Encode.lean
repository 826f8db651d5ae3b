import OpenApiGen.Spec.Decode

/-!
Documents as JSON. Members come in the order of their declaration; one that is empty or absent is
left out.
-/

namespace OpenApiGen.Spec

/-- A member that is there. -/
def member (name : String) (value : Json) : List (String × Json) :=
  [(name, value)]

/-- A member that may be absent. -/
def optionalMember {α : Type} (name : String) (value : Option α) (encode : α → Json) :
    List (String × Json) :=
  match value with
  | some a => [(name, encode a)]
  | none => []

/-- A member that is left out when it has no items. -/
def listMember {α : Type} (name : String) (values : List α) (encode : List α → Json) :
    List (String × Json) :=
  if values.isEmpty then [] else [(name, encode values)]

/-- A list of texts. -/
def encodeTexts (texts : List String) : Json :=
  .array (texts.map .text)

/-- A list of encoded values. -/
def encodeList {α : Type} (encode : α → Json) (values : List α) : Json :=
  .array (values.map encode)

/-- A dictionary of encoded values. -/
def encodeDict {α : Type} (encode : α → Json) (entries : Dict α) : Json :=
  .object (entries.map fun e => (e.1, encode e.2))

/-- A reference to a component. -/
def encodeRef (path : String) : Json :=
  .object [("$ref", .text path)]

/-- A reference, or the encoded thing itself. -/
def encodeOrRef {α : Type} (encode : α → Json) : OrRef α → Json
  | .ref path => encodeRef path
  | .inline value => encode value

/-- The name of a type keyword. -/
def SchemaType.name : SchemaType → String
  | string => "string"
  | number => "number"
  | integer => "integer"
  | boolean => "boolean"
  | array => "array"
  | object => "object"
  | null => "null"

/-- A type as JSON. -/
def encodeTypeSet : TypeSet → Json
  | .single t => .text t.name
  | .multiple ts => encodeTexts (ts.map SchemaType.name)

mutual

/-- A schema as JSON. -/
def encodeSchema : Schema → Json
  | { type, format, description, properties, required, additional, items, allOf, oneOf, anyOf, enum,
      pattern, default_, tag } =>
    .object (
      optionalMember "type" type encodeTypeSet ++
      optionalMember "format" format .text ++
      optionalMember "description" description .text ++
      (if properties.isEmpty then [] else
        [("properties", .object (encodeSchemaDict properties))]) ++
      listMember "required" required encodeTexts ++
      (match additional with
        | some (.flag allowed) => [("additionalProperties", .bool allowed)]
        | some (.schema value) => [("additionalProperties", encodeSchemaOrRef value)]
        | none => []) ++
      (match items with
        | some s => [("items", encodeSchemaOrRef s)]
        | none => []) ++
      (if allOf.isEmpty then [] else [("allOf", .array (encodeSchemas allOf))]) ++
      (if oneOf.isEmpty then [] else [("oneOf", .array (encodeSchemas oneOf))]) ++
      (if anyOf.isEmpty then [] else [("anyOf", .array (encodeSchemas anyOf))]) ++
      listMember "enum" enum .array ++
      optionalMember "pattern" pattern .text ++
      optionalMember "default" default_ id ++
      optionalMember "x-schema-name" tag .text)

/-- A schema or a reference as JSON. -/
def encodeSchemaOrRef : OrRef Schema → Json
  | .ref path => encodeRef path
  | .inline schema => encodeSchema schema

/-- The schemas of a list as JSON. -/
def encodeSchemas : List (OrRef Schema) → List Json
  | [] => []
  | s :: rest => encodeSchemaOrRef s :: encodeSchemas rest

/-- The schemas of a dictionary as JSON. -/
def encodeSchemaDict : List (String × OrRef Schema) → List (String × Json)
  | [] => []
  | (name, s) :: rest => (name, encodeSchemaOrRef s) :: encodeSchemaDict rest

end

/-- A media type as JSON. -/
def encodeMediaType (m : MediaType) : Json :=
  .object (optionalMember "schema" m.schema encodeSchemaOrRef)

/-- The name of a place of parameters. -/
def ParameterIn.name : ParameterIn → String
  | query => "query"
  | header => "header"
  | path => "path"
  | cookie => "cookie"

/-- A parameter as JSON. -/
def encodeParameter (p : Parameter) : Json :=
  .object (
    member "name" (.text p.name) ++
    member "in" (.text p.location.name) ++
    member "required" (.bool p.required) ++
    optionalMember "schema" p.schema encodeSchemaOrRef)

/-- A request body as JSON. -/
def encodeRequestBody (b : RequestBody) : Json :=
  .object (
    member "content" (encodeDict encodeMediaType b.content) ++
    member "required" (.bool b.required))

/-- A response as JSON. -/
def encodeResponse (r : Response) : Json :=
  .object (
    member "description" (.text r.description) ++
    listMember "content" r.content (encodeDict encodeMediaType))

/-- An operation as JSON. -/
def encodeOperation (o : Operation) : Json :=
  .object (
    optionalMember "operationId" o.operationId .text ++
    optionalMember "summary" o.summary .text ++
    listMember "tags" o.tags encodeTexts ++
    listMember "parameters" o.parameters (encodeList (encodeOrRef encodeParameter)) ++
    optionalMember "requestBody" o.requestBody (encodeOrRef encodeRequestBody) ++
    listMember "responses" o.responses (encodeDict (encodeOrRef encodeResponse)) ++
    member "deprecated" (.bool o.deprecated))

/-- A path item as JSON. -/
def encodePathItem (item : PathItem) : Json :=
  .object (
    listMember "parameters" item.parameters (encodeList (encodeOrRef encodeParameter)) ++
    optionalMember "get" item.get encodeOperation ++
    optionalMember "put" item.put encodeOperation ++
    optionalMember "post" item.post encodeOperation ++
    optionalMember "delete" item.delete encodeOperation ++
    optionalMember "options" item.options encodeOperation ++
    optionalMember "head" item.head encodeOperation ++
    optionalMember "patch" item.patch encodeOperation ++
    optionalMember "trace" item.trace encodeOperation)

/-- Components as JSON. -/
def encodeComponents (c : Components) : Json :=
  .object (
    listMember "schemas" c.schemas (encodeDict encodeSchemaOrRef) ++
    listMember "parameters" c.parameters (encodeDict (encodeOrRef encodeParameter)) ++
    listMember "requestBodies" c.requestBodies (encodeDict (encodeOrRef encodeRequestBody)) ++
    listMember "responses" c.responses (encodeDict (encodeOrRef encodeResponse)))

/-- The information about a document as JSON. -/
def encodeInfo (i : Info) : Json :=
  .object (
    member "title" (.text i.title) ++
    member "version" (.text i.version) ++
    optionalMember "description" i.description .text)

/-- A document as JSON. -/
def toJson (s : Spec) : Json :=
  .object (
    member "openapi" (.text s.openapi) ++
    member "info" (encodeInfo s.info) ++
    listMember "paths" s.paths (encodeDict encodePathItem) ++
    optionalMember "components" s.components encodeComponents)

end OpenApiGen.Spec
