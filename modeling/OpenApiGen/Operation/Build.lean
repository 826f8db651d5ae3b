import OpenApiGen.Model.Build
import OpenApiGen.Operation.Basic
import OpenApiGen.Operation.Reference
import OpenApiGen.Text.Route

/-!
Operations of a document. Parameters of an operation come after those of its path and replace those
of the same name and place; a body becomes one parameter, a form one for each of its fields.
Required parameters come first.
-/

namespace OpenApiGen

/-- The place of a parameter. -/
def Location.ofIn : Spec.ParameterIn → Location
  | .path => .path
  | .query => .query
  | .header => .header
  | .cookie => .cookie

/-- The parameter without another of the same name and place, then the parameter. -/
def replaceParameter (params : List OperationParameter) (p : OperationParameter) :
    List OperationParameter :=
  (params.filter fun q => !(q.baseName = p.baseName && q.location = p.location)) ++ [p]

/-- The parameters with the flag for those that another one follows. -/
def markFollowed : List OperationParameter → List OperationParameter
  | [] => []
  | p :: rest => { p with hasMore := !rest.isEmpty } :: markFollowed rest

/-- Required parameters first, else in their order. -/
def requiredFirst (params : List OperationParameter) : List OperationParameter :=
  params.filter (·.required) ++ params.filter (!·.required)

/-- The media types of forms. -/
def formMediaTypes : List String :=
  ["application/x-www-form-urlencoded", "multipart/form-data"]

namespace Resolver

/-- The parameter of a name, a node and a place. -/
def parameterOf (r : Resolver) (name : String) (node : Node) (location : Location)
    (required : Bool) : Except RefError OperationParameter := do
  let baseType ← r.baseType node
  let dataType ← r.declare node
  let container ← r.containerOf node
  let plain : OperationParameter := {
    baseName := name
    paramName := r.profile.toParamName name
    dataType
    baseType
    location := some location
    required
    container
    isPrimitive := r.profile.builtins.isPrimitive baseType
    pattern := node.pattern? }
  match node with
  | .enum _ literals _ =>
    .ok { plain with isEnum := true, enumValues := literals, firstEnumValue := literals.head? }
  | _ => .ok plain

/-- The node of an optional schema, or a scalar in its place. -/
def nodeOr (typeName : String) : Option (OrRef Spec.Schema) → Except RefError Node
  | some schema => lower schema
  | none => .ok (.scalar typeName)

/-- The parameter of a declaration. A parameter in the path is always required. -/
def declaredParameter (r : Resolver) (p : Spec.Parameter) : Except RefError OperationParameter := do
  let node ← nodeOr "string" p.schema
  r.parameterOf p.name node (.ofIn p.location) (p.required || p.location = .path)

/-- The parameters of a form, if its schema is that of an object. -/
def formParameters (r : Resolver) (media : Spec.MediaType) :
    Except RefError (Option (List OperationParameter)) := do
  match media.schema with
  | none => .ok none
  | some schema =>
    let node ← lower schema
    let target ← match node with
      | .ref name => r.library.find name
      | node => .ok node
    match target with
    | .object entries required _ => do
      let params ← entries.mapM fun e => r.parameterOf e.1 e.2 .form (required.contains e.1)
      .ok (some params)
    | _ => .ok none

/-- The parameters of a request body: those of a form, if there is one and no JSON, and else a
single one. -/
def bodyParameters (r : Resolver) (body : Spec.RequestBody) :
    Except RefError (List OperationParameter) := do
  let json := body.content.find? fun e => Text.contains "json" e.1
  let form := body.content.find? fun e => formMediaTypes.any fun m => Text.startsWith m e.1
  let fields ← match json, form with
    | none, some (_, media) => r.formParameters media
    | _, _ => .ok none
  match fields, json <|> body.content.head? with
  | some params, _ => .ok params
  | none, none => .ok []
  | none, some (_, media) => do
    let node ← nodeOr "object" media.schema
    .ok [← r.parameterOf "body" node .body body.required]

/-- The media type of a response that its type is taken from. -/
def responseMedia? (content : Dict Spec.MediaType) : Option Spec.MediaType :=
  content.get? "application/json" <|> content.values.find? fun m => m.schema.isSome

/-- The node that an operation returns: that of its first successful response with content. -/
def returnNode? (spec : Spec) : Dict (OrRef Spec.Response) → Except RefError (Option Node)
  | [] => .ok none
  | (status, response) :: rest =>
    if Text.startsWith "2" status then do
      let response ← spec.resolveResponse response
      if response.content.isEmpty then returnNode? spec rest
      else
        match (responseMedia? response.content).bind Spec.MediaType.schema with
        | some schema => (lower schema).map some
        | none => .ok none
    else returnNode? spec rest

/-- The descriptor of an operation, given all parameters that are declared for it. -/
def operation (r : Resolver) (spec : Spec) (method path : String) (o : Spec.Operation)
    (declared : List (OrRef Spec.Parameter)) : Except RefError Operation := do
  let rawId := match o.operationId.filter (· ≠ "") with
    | some id => id
    | none => Text.routeName method path
  let own ← declared.foldlM (fun params p => do
    let p ← spec.resolveParameter p
    .ok (replaceParameter params (← r.declaredParameter p))) []
  let body ← match o.requestBody with
    | some body => do r.bodyParameters (← spec.resolveRequestBody body)
    | none => .ok []
  let parameters := markFollowed (requiredFirst (own ++ body))
  let plain : Operation := {
    operationId := r.profile.toOperationId rawId
    declaredId := o.operationId
    httpMethod := Text.toUppercase method
    path
    tags := o.tags
    summary := o.summary
    parameters
    hasRequiredParams := parameters.any (·.required)
    deprecated := o.deprecated }
  match ← returnNode? spec o.responses with
  | none => .ok plain
  | some node => do
    let returnType ← r.declare node
    let returnBaseType ← r.baseType node
    let returnContainer ← r.containerOf node
    .ok { plain with
      returnType := some returnType
      returnBaseType := some returnBaseType
      returnContainer }

/-- The operations of a document, by path and method. -/
def operations (r : Resolver) (spec : Spec) : Except RefError (List Operation) := do
  let perPath ← spec.paths.mapM fun (path, item) =>
    item.operations.mapM fun (method, o) =>
      r.operation spec method path o (item.parameters ++ o.parameters)
  .ok perPath.flatten

end Resolver

end OpenApiGen
