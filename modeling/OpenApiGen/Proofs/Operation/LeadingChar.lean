import OpenApiGen.Proofs.Operation.Basic
import OpenApiGen.Proofs.Results
import OpenApiGen.Proofs.Schema.LeadingChar

/-!
# Leading characters in operations

The name of a parameter can be made again from its base name (`OperationParameter.named`).  A
profile that keeps leading characters describes the same operations but for these names
(`Resolver.operations_keeping`).
-/

namespace OpenApiGen

/-- A parameter with the name that a profile makes of its base name. -/
def OperationParameter.named (p : Profile) (q : OperationParameter) : OperationParameter :=
  { q with paramName := p.toParamName q.baseName }

/-- An operation with the names of parameters that a profile makes. -/
def Operation.named (p : Profile) (o : Operation) : Operation :=
  { o with parameters := o.parameters.map (OperationParameter.named p) }

/-- No raw name of a parameter starts with a sign that can be kept. -/
def Operation.Plain (o : Operation) : Prop :=
  ∀ q ∈ o.parameters, startsWithSign q.baseName = false

theorem Operation.Plain.named_keeping {p : Profile} {o : Operation} (h : o.Plain) :
    o.named (p.keeping true) = o.named (p.keeping false) := by
  have parameters : o.parameters.map (OperationParameter.named (p.keeping true)) =
      o.parameters.map (OperationParameter.named (p.keeping false)) := by
    refine List.map_congr_left fun q mem => ?_
    have name := (p.restores_toParamName q.baseName).eq_of_plain (h q mem)
    exact congrArg (fun paramName => { q with paramName }) name
  unfold named
  rw [parameters]

/-! ## Lists of parameters -/

variable {p : Profile}

@[simp] theorem replaceParameter_named (qs : List OperationParameter) (q : OperationParameter) :
    replaceParameter (qs.map (OperationParameter.named p)) (q.named p) =
      (replaceParameter qs q).map (OperationParameter.named p) := by
  simp only [replaceParameter, List.filter_map, List.map_append]
  rfl

@[simp] theorem requiredFirst_named (qs : List OperationParameter) :
    requiredFirst (qs.map (OperationParameter.named p)) =
      (requiredFirst qs).map (OperationParameter.named p) := by
  simp only [requiredFirst, List.filter_map, List.map_append]
  rfl

@[simp] theorem markFollowed_named (qs : List OperationParameter) :
    markFollowed (qs.map (OperationParameter.named p)) =
      (markFollowed qs).map (OperationParameter.named p) := by
  induction qs with
  | nil => rfl
  | cons q rest ih =>
    simp only [List.map_cons, markFollowed, ih, List.isEmpty_map]
    rfl

namespace Resolver

variable {r : Resolver} {keep : Bool}

/-! ## Parameters -/

@[simp] theorem parameterOf_keeping (name : String) (node : Node) (location : Location)
    (required : Bool) : (r.keeping keep).parameterOf name node location required =
      OperationParameter.named (r.profile.keeping keep) <$>
        r.parameterOf name node location required := by
  simp only [parameterOf, declare_keeping, baseType_keeping, containerOf_keeping, map_bind]
  cases node <;> rfl

@[simp] theorem declaredParameter_keeping (q : Spec.Parameter) :
    (r.keeping keep).declaredParameter q =
      OperationParameter.named (r.profile.keeping keep) <$> r.declaredParameter q := by
  simp [declaredParameter]

@[simp] theorem ownParameters_keeping (spec : Spec) (declared : List (OrRef Spec.Parameter)) :
    (r.keeping keep).ownParameters spec declared =
      List.map (OperationParameter.named (r.profile.keeping keep)) <$>
        r.ownParameters spec declared := by
  refine foldlM_eq_map (h := List.map (OperationParameter.named (r.profile.keeping keep)))
    (fun known parameter => ?_) declared []
  simp

/-! ## Bodies -/

@[simp] theorem formNode_keeping (node : Node) :
    (r.keeping keep).formNode node = r.formNode node :=
  rfl

@[simp] theorem formFields_keeping (node : Node) : (r.keeping keep).formFields node =
    Option.map (List.map (OperationParameter.named (r.profile.keeping keep))) <$>
      r.formFields node := by
  cases node with
  | object entries required description =>
    have params : (entries.mapM fun e =>
          (r.keeping keep).parameterOf e.1 e.2 .form (required.contains e.1)) =
        List.map (OperationParameter.named (r.profile.keeping keep)) <$>
          entries.mapM fun e => r.parameterOf e.1 e.2 .form (required.contains e.1) :=
      mapM_eq_map (fun e => parameterOf_keeping e.1 e.2 .form (required.contains e.1)) entries
    simp only [formFields, params, bind_map_left, map_bind]
    rfl
  | _ => rfl

@[simp] theorem fieldParameters_keeping (body : Spec.RequestBody) :
    (r.keeping keep).fieldParameters body =
      Option.map (List.map (OperationParameter.named (r.profile.keeping keep))) <$>
        r.fieldParameters body := by
  unfold fieldParameters
  split
  · rw [formParameters_eq, formParameters_eq]
    split
    · rfl
    · simp
  · rfl

@[simp] theorem wholeParameter_keeping (body : Spec.RequestBody) :
    (r.keeping keep).wholeParameter body =
      List.map (OperationParameter.named (r.profile.keeping keep)) <$> r.wholeParameter body := by
  unfold wholeParameter
  split
  · rfl
  · simp

@[simp] theorem requestParameters_keeping (spec : Spec) (body : Option (OrRef Spec.RequestBody)) :
    (r.keeping keep).requestParameters spec body =
      List.map (OperationParameter.named (r.profile.keeping keep)) <$>
        r.requestParameters spec body := by
  cases body with
  | none => rfl
  | some body =>
    simp only [requestParameters, bodyParameters_eq, fieldParameters_keeping, bind_map_left,
      map_bind]
    refine bind_congr fun body => bind_congr fun fields => ?_
    cases fields with
    | none => exact wholeParameter_keeping body
    | some qs => rfl

/-! ## Operations -/

@[simp] theorem returning_keeping (spec : Spec) (responses : Dict (OrRef Spec.Response))
    (plain : Operation) :
    (r.keeping keep).returning spec responses (plain.named (r.profile.keeping keep)) =
      Operation.named (r.profile.keeping keep) <$> r.returning spec responses plain := by
  simp only [returning, map_bind]
  refine bind_congr fun node? => ?_
  cases node? with
  | none => rfl
  | some node =>
    simp only [declare_keeping, baseType_keeping, containerOf_keeping, map_bind]
    rfl

@[simp] theorem outline_keeping (method path : String) (o : Spec.Operation)
    (qs : List OperationParameter) :
    (r.keeping keep).outline method path o
        (qs.map (OperationParameter.named (r.profile.keeping keep))) =
      (r.outline method path o qs).named (r.profile.keeping keep) := by
  simp only [outline, Operation.named, List.any_map]
  rfl

@[simp] theorem operation_keeping (spec : Spec) (method path : String) (o : Spec.Operation)
    (declared : List (OrRef Spec.Parameter)) :
    (r.keeping keep).operation spec method path o declared =
      Operation.named (r.profile.keeping keep) <$> r.operation spec method path o declared := by
  -- Its own parameters and those of its body are one list before they are ordered and marked.
  simp [operation_eq, ← List.map_append]

@[simp] theorem operations_keeping (spec : Spec) : (r.keeping keep).operations spec =
    List.map (Operation.named (r.profile.keeping keep)) <$> r.operations spec := by
  have perPath : (spec.paths.mapM fun entry => entry.2.operations.mapM fun e =>
        (r.keeping keep).operation spec e.1 entry.1 e.2 (entry.2.parameters ++ e.2.parameters)) =
      List.map (List.map (Operation.named (r.profile.keeping keep))) <$>
        spec.paths.mapM fun entry => entry.2.operations.mapM fun e =>
          r.operation spec e.1 entry.1 e.2 (entry.2.parameters ++ e.2.parameters) := by
    refine mapM_eq_map (fun entry => ?_) spec.paths
    exact mapM_eq_map (fun e => operation_keeping spec e.1 entry.1 e.2 _) entry.2.operations
  rw [operations_eq, operations_eq, perPath, bind_map_left, map_bind]
  refine bind_congr fun operations => ?_
  rw [← List.map_flatten]
  rfl

end Resolver

end OpenApiGen
