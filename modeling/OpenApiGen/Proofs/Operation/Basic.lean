import OpenApiGen.Operation.Build
import OpenApiGen.Proofs.Results

/-!
# Operations in steps

An operation takes its own parameters, those of its body and its result one after the other
(`Resolver.operation_eq`).  A body gives the parameters for the fields of a form, or one for itself
(`Resolver.bodyParameters_eq`).  Each operation that is described is built of one of the document
(`Resolver.exists_operation_of_mem`).
-/

namespace OpenApiGen.Resolver

/-! ## Bodies -/

/-- The node that stands for a form, or that a reference in its place leads to. -/
def formNode (r : Resolver) : Node → Except RefError Node
  | .ref name => r.library.find name
  | node => .ok node

/-- The parameters for the fields of a node, if it is an object. -/
def formFields (r : Resolver) : Node → Except RefError (Option (List OperationParameter))
  | .object entries required _ => do
    let params ← entries.mapM fun e => r.parameterOf e.1 e.2 .form (required.contains e.1)
    .ok (some params)
  | _ => .ok none

theorem formParameters_eq (r : Resolver) (media : Spec.MediaType) :
    r.formParameters media = match media.schema with
      | none => .ok none
      | some schema => (do r.formFields (← r.formNode (← lower schema))) := by
  unfold formParameters
  cases media.schema with
  | none => rfl
  | some schema =>
    refine bind_congr fun node => ?_
    cases node with
    | ref name =>
      refine bind_congr fun target => ?_
      cases target <;> rfl
    | _ => rfl

/-- The content of a body in JSON. -/
def jsonContent? (body : Spec.RequestBody) : Option (String × Spec.MediaType) :=
  body.content.find? fun e => Text.contains "json" e.1

/-- The content of a body as a form. -/
def formContent? (body : Spec.RequestBody) : Option (String × Spec.MediaType) :=
  body.content.find? fun e => formMediaTypes.any fun m => Text.startsWith m e.1

/-- The parameters for the fields of a body that is a form. -/
def fieldParameters (r : Resolver) (body : Spec.RequestBody) :
    Except RefError (Option (List OperationParameter)) :=
  match jsonContent? body, formContent? body with
  | none, some (_, media) => r.formParameters media
  | _, _ => .ok none

/-- The parameter for a body as a whole, if it has content. -/
def wholeParameter (r : Resolver) (body : Spec.RequestBody) :
    Except RefError (List OperationParameter) :=
  match jsonContent? body <|> body.content.head? with
  | none => .ok []
  | some (_, media) => do
    let node ← nodeOr "object" media.schema
    .ok [← r.parameterOf "body" node .body body.required]

theorem bodyParameters_eq (r : Resolver) (body : Spec.RequestBody) : r.bodyParameters body = (do
    match ← r.fieldParameters body with
    | some params => .ok params
    | none => r.wholeParameter body) := by
  unfold bodyParameters fieldParameters wholeParameter jsonContent? formContent?
  dsimp only
  generalize (body.content.find? fun e => Text.contains "json" e.1) = json
  generalize (body.content.find? fun e => formMediaTypes.any fun m => Text.startsWith m e.1) = form
  generalize (json <|> body.content.head?) = single
  cases json with
  | some e => cases single <;> rfl
  | none => cases form with
    | none => cases single <;> rfl
    | some e =>
      refine bind_congr fun fields => ?_
      cases fields <;> cases single <;> rfl

/-! ## Operations -/

/-- The parameters that are declared for an operation; of those with one name and place the last
counts. -/
def ownParameters (r : Resolver) (spec : Spec) (declared : List (OrRef Spec.Parameter)) :
    Except RefError (List OperationParameter) :=
  declared.foldlM (fun params p => do
    let p ← spec.resolveParameter p
    .ok (replaceParameter params (← r.declaredParameter p))) []

/-- The parameters of an optional request body. -/
def requestParameters (r : Resolver) (spec : Spec) :
    Option (OrRef Spec.RequestBody) → Except RefError (List OperationParameter)
  | none => .ok []
  | some body => do r.bodyParameters (← spec.resolveRequestBody body)

/-- An operation with the type that it returns, if it returns any. -/
def returning (r : Resolver) (spec : Spec) (responses : Dict (OrRef Spec.Response))
    (plain : Operation) : Except RefError Operation := do
  match ← returnNode? spec responses with
  | none => .ok plain
  | some node => do
    let returnType ← r.declare node
    let returnBaseType ← r.baseType node
    let returnContainer ← r.containerOf node
    .ok { plain with
      returnType := some returnType
      returnBaseType := some returnBaseType
      returnContainer }

/-- What an operation says apart from its result, given its parameters in order. -/
def outline (r : Resolver) (method path : String) (o : Spec.Operation)
    (parameters : List OperationParameter) : Operation where
  operationId := r.profile.toOperationId (match o.operationId.filter (· ≠ "") with
    | some id => id
    | none => Text.routeName method path)
  declaredId := o.operationId
  httpMethod := Text.toUppercase method
  path
  tags := o.tags
  summary := o.summary
  parameters
  hasRequiredParams := parameters.any (·.required)
  deprecated := o.deprecated

theorem operation_eq (r : Resolver) (spec : Spec) (method path : String) (o : Spec.Operation)
    (declared : List (OrRef Spec.Parameter)) : r.operation spec method path o declared = (do
      let own ← r.ownParameters spec declared
      let body ← r.requestParameters spec o.requestBody
      r.returning spec o.responses
        (r.outline method path o (markFollowed (requiredFirst (own ++ body))))) := by
  unfold operation requestParameters
  cases o.requestBody with
  | none => rfl
  | some body =>
    simp only [bind_assoc]
    rfl

theorem operations_eq (r : Resolver) (spec : Spec) : r.operations spec =
    (spec.paths.mapM fun entry => entry.2.operations.mapM fun e =>
      r.operation spec e.1 entry.1 e.2 (entry.2.parameters ++ e.2.parameters)) >>=
      fun perPath => .ok perPath.flatten :=
  rfl

/-- Each operation is built of one of the document. -/
theorem exists_operation_of_mem {r : Resolver} {spec : Spec} {operations : List Operation}
    (h : r.operations spec = .ok operations) {op : Operation} (mem : op ∈ operations) :
    ∃ e ∈ spec.paths, ∃ m ∈ e.2.operations,
      r.operation spec m.1 e.1 m.2 (e.2.parameters ++ m.2.parameters) = .ok op := by
  rw [operations_eq] at h
  obtain ⟨perPath, built, h⟩ := bind_eq_ok_iff.1 h
  cases h
  obtain ⟨atPath, memPath, memOp⟩ := List.mem_flatten.1 mem
  obtain ⟨e, he, hpath⟩ := exists_mem_of_mapM built memPath
  obtain ⟨m, hm, made⟩ := exists_mem_of_mapM hpath memOp
  exact ⟨e, he, m, hm, made⟩

end OpenApiGen.Resolver
