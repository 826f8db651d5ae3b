import OpenApiGen.Proofs.Model.Extension
import OpenApiGen.Proofs.Operation.Basic

/-!
# Operations and further components

An operation that can be built over the components of a document is built the same over more of them
(`Resolver.Le.operations`).
-/

namespace OpenApiGen

/-- A document with the same paths and at least the same components, in any order. -/
structure Spec.Le (s s' : Spec) : Prop where
  paths : s'.paths = s.paths
  schemas : Dict.Le (s.component Components.schemas) (s'.component Components.schemas)
  parameters : Dict.Le (s.component Components.parameters) (s'.component Components.parameters)
  requestBodies :
    Dict.Le (s.component Components.requestBodies) (s'.component Components.requestBodies)
  responses : Dict.Le (s.component Components.responses) (s'.component Components.responses)

/-! ## References -/

namespace Spec

theorem findParameter_ref_nameless {parameters : Dict (OrRef Parameter)} {seen : List String}
    {path : String} {e : RefError} (nameless : refName path = .error e) :
    findParameter parameters seen (.ref path) = .error e := by
  rw [findParameter, nameless]

theorem findParameter_ref_seen {parameters : Dict (OrRef Parameter)} {seen : List String}
    {path name : String} (named : refName path = .ok name) (old : name ∈ seen) :
    findParameter parameters seen (.ref path) = .error (.unresolved path) := by
  rw [findParameter, named]
  dsimp only
  rw [dif_pos old]

theorem findParameter_ref {parameters : Dict (OrRef Parameter)} {seen : List String}
    {path name : String} {next : OrRef Parameter} (named : refName path = .ok name)
    (new : name ∉ seen) (found : parameters.get? name = some next) :
    findParameter parameters seen (.ref path) = findParameter parameters (name :: seen) next := by
  rw [findParameter, named]
  dsimp only
  rw [dif_neg new]
  split
  · next missing =>
    rw [found] at missing
    cases missing
  · next other found' =>
    rw [found] at found'
    cases found'
    rfl

theorem findParameter_ref_missing {parameters : Dict (OrRef Parameter)} {seen : List String}
    {path name : String} (named : refName path = .ok name) (new : name ∉ seen)
    (missing : parameters.get? name = none) :
    findParameter parameters seen (.ref path) = .error (.unresolved path) := by
  rw [findParameter, named]
  dsimp only
  rw [dif_neg new]
  split
  · rfl
  · next found =>
    rw [missing] at found
    cases found

theorem findParameter_of_le {parameters parameters' : Dict (OrRef Parameter)}
    (le : Dict.Le parameters parameters') {seen : List String} {reference : OrRef Parameter}
    {p : Parameter} (h : findParameter parameters seen reference = .ok p) :
    findParameter parameters' seen reference = .ok p := by
  induction seen, reference using findParameter.induct parameters with
  | case1 seen parameter =>
    rw [findParameter] at h ⊢
    exact h
  | case2 seen path e malformed =>
    rw [findParameter_ref_nameless malformed] at h
    cases h
  | case3 seen path name named old =>
    rw [findParameter_ref_seen named old] at h
    cases h
  | case4 seen path name named new missing =>
    rw [findParameter_ref_missing named new missing] at h
    cases h
  | case5 seen path name named new next found ih =>
    rw [findParameter_ref named new found] at h
    rw [findParameter_ref named new (le name next found)]
    exact ih h

theorem findInline_of_le {α : Type} {components components' : Dict (OrRef α)}
    (le : Dict.Le components components') {reference : OrRef α} {a : α}
    (h : findInline components reference = .ok a) : findInline components' reference = .ok a := by
  cases reference with
  | inline value => exact h
  | ref path =>
    refine bind_ok_imp h (fun _ => id) fun name h => ?_
    split at h
    · next value found =>
      rw [le name _ found]
      exact h
    · cases h

namespace Le

variable {s s' : Spec}

theorem resolveParameter (le : s.Le s') {reference : OrRef Parameter} {p : Parameter}
    (h : s.resolveParameter reference = .ok p) : s'.resolveParameter reference = .ok p :=
  findParameter_of_le le.parameters h

theorem resolveRequestBody (le : s.Le s') {reference : OrRef RequestBody} {b : RequestBody}
    (h : s.resolveRequestBody reference = .ok b) : s'.resolveRequestBody reference = .ok b :=
  findInline_of_le le.requestBodies h

theorem resolveResponse (le : s.Le s') {reference : OrRef Response} {r : Response}
    (h : s.resolveResponse reference = .ok r) : s'.resolveResponse reference = .ok r :=
  findInline_of_le le.responses h

end Le

end Spec

/-! ## Parameters -/

namespace Resolver.Le

variable {r r' : Resolver} {s s' : Spec}

theorem parameterOf (le : r.Le r') {name : String} {node : Node} {location : Location}
    {required : Bool} {p : OperationParameter}
    (h : r.parameterOf name node location required = .ok p) :
    r'.parameterOf name node location required = .ok p := by
  unfold Resolver.parameterOf at h ⊢
  rw [le.profile]
  refine bind_ok_imp h (fun _ => le.baseType) fun baseType h => ?_
  refine bind_ok_imp h (fun _ => le.declare) fun dataType h => ?_
  exact bind_ok_imp h (fun _ => le.containerOf) fun _ => id

theorem declaredParameter (le : r.Le r') {p : Spec.Parameter} {q : OperationParameter}
    (h : r.declaredParameter p = .ok q) : r'.declaredParameter p = .ok q :=
  bind_ok_imp h (fun _ => id) fun _ => le.parameterOf

theorem formNode (le : r.Le r') {node target : Node} (h : r.formNode node = .ok target) :
    r'.formNode node = .ok target := by
  cases node with
  | ref name => exact le.find h
  | _ => exact h

theorem formFields (le : r.Le r') {node : Node} {params : Option (List OperationParameter)}
    (h : r.formFields node = .ok params) : r'.formFields node = .ok params := by
  cases node with
  | object entries required description =>
    refine bind_ok_imp h (fun _ h => ?_) fun _ => id
    exact mapM_ok_imp h fun _ _ => le.parameterOf
  | _ => exact h

theorem formParameters (le : r.Le r') {media : Spec.MediaType}
    {params : Option (List OperationParameter)} (h : r.formParameters media = .ok params) :
    r'.formParameters media = .ok params := by
  rw [formParameters_eq] at h ⊢
  obtain ⟨schema⟩ := media
  cases schema with
  | none => exact h
  | some schema =>
    refine bind_ok_imp h (fun _ => id) fun node h => ?_
    exact bind_ok_imp h (fun _ => le.formNode) fun _ => le.formFields

theorem fieldParameters (le : r.Le r') {body : Spec.RequestBody}
    {params : Option (List OperationParameter)} (h : r.fieldParameters body = .ok params) :
    r'.fieldParameters body = .ok params := by
  unfold Resolver.fieldParameters at h ⊢
  split at h
  · exact le.formParameters h
  · exact h

theorem wholeParameter (le : r.Le r') {body : Spec.RequestBody}
    {params : List OperationParameter} (h : r.wholeParameter body = .ok params) :
    r'.wholeParameter body = .ok params := by
  unfold Resolver.wholeParameter at h ⊢
  split at h
  · exact h
  · refine bind_ok_imp h (fun _ => id) fun node h => ?_
    exact bind_ok_imp h (fun _ => le.parameterOf) fun _ => id

theorem bodyParameters (le : r.Le r') {body : Spec.RequestBody} {params : List OperationParameter}
    (h : r.bodyParameters body = .ok params) : r'.bodyParameters body = .ok params := by
  rw [bodyParameters_eq] at h ⊢
  refine bind_ok_imp h (fun _ => le.fieldParameters) fun fields h => ?_
  cases fields with
  | none => exact le.wholeParameter h
  | some params => exact h

theorem ownParameters (le : r.Le r') (specLe : s.Le s') {declared : List (OrRef Spec.Parameter)}
    {params : List OperationParameter} (h : r.ownParameters s declared = .ok params) :
    r'.ownParameters s' declared = .ok params := by
  refine foldlM_ok_imp h fun known reference more h => ?_
  refine bind_ok_imp h (fun _ => specLe.resolveParameter) fun p h => ?_
  exact bind_ok_imp h (fun _ => le.declaredParameter) fun _ => id

theorem requestParameters (le : r.Le r') (specLe : s.Le s')
    {body : Option (OrRef Spec.RequestBody)} {params : List OperationParameter}
    (h : r.requestParameters s body = .ok params) : r'.requestParameters s' body = .ok params := by
  cases body with
  | none => exact h
  | some reference =>
    exact bind_ok_imp h (fun _ => specLe.resolveRequestBody) fun _ => le.bodyParameters

/-! ## Results -/

theorem returnNode? (specLe : s.Le s') {responses : Dict (OrRef Spec.Response)}
    {node : Option Node} (h : Resolver.returnNode? s responses = .ok node) :
    Resolver.returnNode? s' responses = .ok node := by
  induction responses with
  | nil => exact h
  | cons e rest ih =>
    obtain ⟨status, reference⟩ := e
    rw [Resolver.returnNode?] at h ⊢
    split at h
    · next success =>
      rw [if_pos success]
      refine bind_ok_imp h (fun _ => specLe.resolveResponse) fun response h => ?_
      split at h
      · next empty =>
        rw [if_pos empty]
        exact ih h
      · next content =>
        rw [if_neg content]
        exact h
    · next other =>
      rw [if_neg other]
      exact ih h

theorem returning (le : r.Le r') (specLe : s.Le s') {responses : Dict (OrRef Spec.Response)}
    {plain op : Operation} (h : r.returning s responses plain = .ok op) :
    r'.returning s' responses plain = .ok op := by
  refine bind_ok_imp h (fun _ => returnNode? specLe) fun node h => ?_
  cases node with
  | none => exact h
  | some node =>
    refine bind_ok_imp h (fun _ => le.declare) fun returnType h => ?_
    refine bind_ok_imp h (fun _ => le.baseType) fun returnBaseType h => ?_
    exact bind_ok_imp h (fun _ => le.containerOf) fun _ => id

theorem outline (le : r.Le r') (method path : String) (o : Spec.Operation)
    (parameters : List OperationParameter) :
    r'.outline method path o parameters = r.outline method path o parameters := by
  unfold Resolver.outline
  rw [le.profile]

/-! ## Operations -/

theorem operation (le : r.Le r') (specLe : s.Le s') {method path : String} {o : Spec.Operation}
    {declared : List (OrRef Spec.Parameter)} {op : Operation}
    (h : r.operation s method path o declared = .ok op) :
    r'.operation s' method path o declared = .ok op := by
  rw [operation_eq] at h ⊢
  refine bind_ok_imp h (fun _ => le.ownParameters specLe) fun own h => ?_
  refine bind_ok_imp h (fun _ => le.requestParameters specLe) fun body h => ?_
  rw [le.outline]
  exact le.returning specLe h

theorem operations (le : r.Le r') (specLe : s.Le s') {ops : List Operation}
    (h : r.operations s = .ok ops) : r'.operations s' = .ok ops := by
  unfold Resolver.operations at h ⊢
  rw [specLe.paths]
  refine bind_ok_imp h (fun perPath h => ?_) fun _ => id
  refine mapM_ok_imp h fun entry _ h => ?_
  exact mapM_ok_imp h fun _ _ => le.operation specLe

end Resolver.Le

end OpenApiGen
