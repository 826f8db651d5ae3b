import OpenApiGen.Proofs.Operation.Faults
import OpenApiGen.Proofs.Operation.Merging
import OpenApiGen.Profile.Go

/-!
# Parameters of operations

The parameters of an operation have distinct names and places.  Of the declarations of one name and
place, at the path or at the operation, the last one makes the parameter; those of the body follow,
required ones come first, and flags say which are followed by another (`Resolver.Merges`).  An
operation that is built has its parameters in this way (`Resolver.merges_operation`).
-/

namespace OpenApiGen

/-- The name and the place that a declared parameter has when it is built. -/
def Spec.Parameter.key (d : Spec.Parameter) : String × Option Location :=
  (d.name, some (.ofIn d.location))

namespace Resolver

variable {r : Resolver} {spec : Spec}

/-! ## Declared parameters -/

/-- A parameter has the name, the place and the requiredness that it is built with, and no flag for
one that follows. -/
theorem of_parameterOf {name : String} {node : Node} {location : Location} {required : Bool}
    {q : OperationParameter} (h : r.parameterOf name node location required = .ok q) :
    q.key = (name, some location) ∧ q.required = required ∧ q.unfollowed = q := by
  unfold parameterOf at h
  obtain ⟨baseType, -, h⟩ := bind_eq_ok_iff.1 h
  obtain ⟨dataType, -, h⟩ := bind_eq_ok_iff.1 h
  obtain ⟨container, -, h⟩ := bind_eq_ok_iff.1 h
  cases node <;> cases h <;> exact ⟨rfl, rfl, rfl⟩

theorem of_declaredParameter {d : Spec.Parameter} {q : OperationParameter}
    (h : r.declaredParameter d = .ok q) :
    q.key = d.key ∧ q.required = (d.required || d.location = .path) ∧ q.unfollowed = q := by
  obtain ⟨node, -, h⟩ := bind_eq_ok_iff.1 h
  exact of_parameterOf h

/-- The parameters that are declared for an operation are those of the last declarations. -/
theorem exists_declared_of_ownParameters {references : List (OrRef Spec.Parameter)}
    {own : List OperationParameter} (h : r.ownParameters spec references = .ok own) :
    ∃ declared, references.mapM spec.resolveParameter = .ok declared ∧
      (lastOfEach Spec.Parameter.key declared).mapM r.declaredParameter = .ok own := by
  obtain ⟨declared, params, resolved, built, rfl⟩ := exists_mapM_of_foldlM h
  refine ⟨declared, resolved, ?_⟩
  rw [foldl_replaceParameter, List.filter_nil, List.nil_append]
  exact mapM_lastOfEach built fun d q made => (of_declaredParameter made).1

/-! ## Parameters of bodies -/

/-- Parameters that a body gives: they have distinct names, lie in the body and have no flags. -/
structure InBody (params : List OperationParameter) : Prop where
  distinct : (params.map OperationParameter.key).Nodup
  location : ∀ q ∈ params, q.location = some .body ∨ q.location = some .form
  unfollowed : ∀ q ∈ params, q.unfollowed = q

theorem inBody_of_formFields {node : Node} (keyed : node.Keyed)
    {params : List OperationParameter} (h : r.formFields node = .ok (some params)) :
    InBody params := by
  cases node with
  | object entries required description =>
    obtain ⟨params', built, h⟩ := bind_eq_ok_iff.1 h
    cases h
    have keys : params.map OperationParameter.key =
        entries.map fun e => (e.1, some Location.form) :=
      map_eq_of_mapM built fun e q made => (of_parameterOf made).1
    refine ⟨?_, fun q mem => .inr ?_, fun q mem => ?_⟩
    · rw [keys]
      exact List.Nodup.of_map Prod.fst (by rwa [List.map_map])
    · obtain ⟨e, -, made⟩ := exists_mem_of_mapM built mem
      exact congrArg Prod.snd (of_parameterOf made).1
    · obtain ⟨e, -, made⟩ := exists_mem_of_mapM built mem
      exact (of_parameterOf made).2.2
  | _ => cases h

theorem keyed_of_formNode (keyed : r.library.Keyed) {node target : Node} (plain : node.Keyed)
    (h : r.formNode node = .ok target) : target.Keyed := by
  cases node with
  | ref name => exact keyed.nodes name target (Dict.mem_of_get? (Library.get?_of_find h))
  | _ =>
    cases h
    exact plain

theorem inBody_of_wholeParameter {body : Spec.RequestBody} {params : List OperationParameter}
    (h : r.wholeParameter body = .ok params) : InBody params := by
  unfold wholeParameter at h
  split at h
  · cases h
    exact ⟨List.nodup_nil, List.forall_mem_nil _, List.forall_mem_nil _⟩
  · obtain ⟨node, -, h⟩ := bind_eq_ok_iff.1 h
    obtain ⟨q, made, h⟩ := bind_eq_ok_iff.1 h
    cases h
    obtain ⟨key, -, flag⟩ := of_parameterOf made
    refine ⟨List.nodup_singleton _, List.forall_mem_singleton.2 (.inl ?_),
      List.forall_mem_singleton.2 flag⟩
    exact congrArg Prod.snd key

theorem inBody_of_bodyParameters (keyed : r.library.Keyed) {body : Spec.RequestBody}
    (fields : body.Keyed) {params : List OperationParameter}
    (h : r.bodyParameters body = .ok params) : InBody params := by
  rw [bodyParameters_eq] at h
  obtain ⟨form?, form, h⟩ := bind_eq_ok_iff.1 h
  cases form? with
  | none => exact inBody_of_wholeParameter h
  | some params' =>
    cases h
    unfold fieldParameters at form
    split at form
    · next name media _ found =>
      rw [formParameters_eq] at form
      cases schema : media.schema with
      | none =>
        rw [schema] at form
        cases form
      | some s =>
        rw [schema] at form
        obtain ⟨node, lowered, form⟩ := bind_eq_ok_iff.1 form
        obtain ⟨target, followed, form⟩ := bind_eq_ok_iff.1 form
        have mem : (name, media) ∈ body.content := List.mem_of_find?_eq_some found
        have plain : node.Keyed :=
          keyed_lower lowered fun s' inline => fields _ mem s' (schema.trans (inline ▸ rfl))
        exact inBody_of_formFields (keyed_of_formNode keyed plain followed) form
    · cases form

theorem inBody_of_requestParameters (keyed : r.library.Keyed)
    {reference? : Option (OrRef Spec.RequestBody)}
    (fields : ∀ reference body, reference? = some reference →
      spec.resolveRequestBody reference = .ok body → body.Keyed)
    {params : List OperationParameter} (h : r.requestParameters spec reference? = .ok params) :
    InBody params := by
  cases reference? with
  | none =>
    cases h
    exact ⟨List.nodup_nil, List.forall_mem_nil _, List.forall_mem_nil _⟩
  | some reference =>
    obtain ⟨body, resolved, h⟩ := bind_eq_ok_iff.1 h
    exact inBody_of_bodyParameters keyed (fields reference body rfl resolved) h

/-! ## Operations -/

/-- The result of an operation says nothing of its parameters. -/
theorem parameters_of_returning {responses : Dict (OrRef Spec.Response)} {plain op : Operation}
    (h : r.returning spec responses plain = .ok op) :
    op.parameters = plain.parameters ∧ op.hasRequiredParams = plain.hasRequiredParams := by
  obtain ⟨node?, -, h⟩ := bind_eq_ok_iff.1 h
  cases node? with
  | none =>
    cases h
    exact ⟨rfl, rfl⟩
  | some node =>
    obtain ⟨returnType, -, h⟩ := bind_eq_ok_iff.1 h
    obtain ⟨returnBaseType, -, h⟩ := bind_eq_ok_iff.1 h
    obtain ⟨returnContainer, -, h⟩ := bind_eq_ok_iff.1 h
    cases h
    exact ⟨rfl, rfl⟩

/-- An operation has parameters made of the last declarations of each name and place, in the order
of these declarations, and after them those of its body; then required ones come first. -/
structure Merges (r : Resolver) (declared : List Spec.Parameter) (body : List OperationParameter)
    (op : Operation) : Prop where
  distinct : (op.parameters.map OperationParameter.key).Nodup
  lastWins : ∀ d ∈ declared, ∃ last q,
    (declared.filter fun d' => d'.key = d.key).getLast? = some last ∧
      (op.parameters.filter fun q' => q'.key = d.key) = [q] ∧
      r.declaredParameter last = .ok q.unfollowed
  order : ∃ own, (lastOfEach Spec.Parameter.key declared).mapM r.declaredParameter = .ok own ∧
    op.parameters.map OperationParameter.unfollowed =
      (own ++ body).mergeSort fun q q' => q.required || !q'.required
  followed : ∀ i (h : i < op.parameters.length),
    op.parameters[i].hasMore = false ↔ i + 1 = op.parameters.length
  required : op.hasRequiredParams = true ↔
    ∃ q, op.parameters.head? = some q ∧ q.required = true

/-- Declared parameters with distinct names and places keep them beside those of a body. -/
theorem nodup_keys_append {declared : List Spec.Parameter} {own body : List OperationParameter}
    (built : declared.mapM r.declaredParameter = .ok own)
    (distinct : (declared.map Spec.Parameter.key).Nodup) (inBody : InBody body) :
    ((own ++ body).map OperationParameter.key).Nodup := by
  have keys : own.map OperationParameter.key = declared.map Spec.Parameter.key :=
    map_eq_of_mapM built fun d q made => (of_declaredParameter made).1
  rw [List.map_append, List.nodup_append, keys]
  refine ⟨distinct, inBody.distinct, fun k memOwn k' memBody same => ?_⟩
  obtain ⟨d, -, rfl⟩ := List.mem_map.1 memOwn
  obtain ⟨q, mem, rfl⟩ := List.mem_map.1 memBody
  have location : q.location = some (.ofIn d.location) := (congrArg Prod.snd same).symm
  rcases inBody.location q mem with h | h <;> rw [h] at location <;>
    cases hd : d.location <;> rw [hd] at location <;> cases location

/-- The last declaration of a name and a place makes a parameter. -/
theorem exists_last_declared {declared : List Spec.Parameter} {own : List OperationParameter}
    (built : (lastOfEach Spec.Parameter.key declared).mapM r.declaredParameter = .ok own)
    {d : Spec.Parameter} (mem : d ∈ declared) : ∃ last q,
      (declared.filter fun d' => d'.key = d.key).getLast? = some last ∧ last.key = d.key ∧
        q ∈ own ∧ r.declaredParameter last = .ok q := by
  have found : (declared.filter fun d' => d'.key = d.key) ≠ [] :=
    fun none_ => filter_key_eq_nil_iff.1 none_ (List.mem_map_of_mem mem)
  obtain ⟨last, getLast⟩ := Option.isSome_iff_exists.1 (List.getLast?_isSome.2 found)
  have mem' : last ∈ (lastOfEach Spec.Parameter.key declared).filter fun d' => d'.key = d.key := by
    rw [filter_lastOfEach, getLast]
    exact List.mem_singleton_self last
  obtain ⟨left, same⟩ := List.mem_filter.1 mem'
  obtain ⟨q, memOwn, made⟩ := exists_value_of_mapM built left
  exact ⟨last, q, getLast, of_decide_eq_true same, memOwn, made⟩

theorem merges_of_built {declared : List Spec.Parameter} {own body : List OperationParameter}
    (built : (lastOfEach Spec.Parameter.key declared).mapM r.declaredParameter = .ok own)
    (inBody : InBody body) {op : Operation}
    (parameters : op.parameters = markFollowed (requiredFirst (own ++ body)))
    (required : op.hasRequiredParams = op.parameters.any (·.required)) :
    r.Merges declared body op := by
  have unmarked : op.parameters.map OperationParameter.unfollowed = requiredFirst (own ++ body) := by
    rw [parameters, map_unfollowed_markFollowed]
    refine (List.map_congr_left fun q mem => ?_).trans (List.map_id _)
    rcases List.mem_append.1 ((requiredFirst_perm _).subset mem) with mem | mem
    · obtain ⟨d, -, made⟩ := exists_mem_of_mapM built mem
      exact (of_declaredParameter made).2.2
    · exact inBody.unfollowed q mem
  have distinct : (op.parameters.map OperationParameter.key).Nodup := by
    rw [parameters, map_markFollowed (fun _ => rfl), ((requiredFirst_perm _).map _).nodup_iff]
    exact nodup_keys_append built (nodup_map_lastOfEach ..) inBody
  refine ⟨distinct, fun d mem => ?_, ⟨own, built, ?_⟩, ?_, ?_⟩
  · obtain ⟨last, q, getLast, same, memOwn, made⟩ := exists_last_declared built mem
    have memMarked : q ∈ op.parameters.map OperationParameter.unfollowed := by
      rw [unmarked]
      exact (requiredFirst_perm _).symm.subset (List.mem_append_left _ memOwn)
    obtain ⟨q', mem', rfl⟩ := List.mem_map.1 memMarked
    have key : q'.key = d.key := (of_declaredParameter made).1.trans same
    exact ⟨last, q', getLast, key ▸ filter_key_eq_singleton distinct mem', made⟩
  · rw [unmarked, requiredFirst_eq_mergeSort]
  · rw [parameters]
    exact hasMore_markFollowed _
  · rw [required, parameters, any_required_markFollowed, Option.any_eq_true]

/-- An operation that is built merges the parameters that are declared for it with those of its
body. -/
theorem merges_of_inBody {references : List (OrRef Spec.Parameter)} {o : Spec.Operation}
    {method path : String} {op : Operation}
    (inBody : ∀ body, r.requestParameters spec o.requestBody = .ok body → InBody body)
    (h : r.operation spec method path o references = .ok op) :
    ∃ declared body, references.mapM spec.resolveParameter = .ok declared ∧
      r.requestParameters spec o.requestBody = .ok body ∧ r.Merges declared body op := by
  rw [operation_eq] at h
  obtain ⟨own, hown, h⟩ := bind_eq_ok_iff.1 h
  obtain ⟨body, hbody, h⟩ := bind_eq_ok_iff.1 h
  obtain ⟨declared, resolved, built⟩ := exists_declared_of_ownParameters hown
  obtain ⟨parameters, required⟩ := parameters_of_returning h
  refine ⟨declared, body, resolved, hbody, ?_⟩
  exact merges_of_built built (inBody body hbody) parameters (by rw [required, parameters]; rfl)

/-- Let properties have distinct names, in each component and in the form of the body, as they have
in a document that was read.  Then an operation that is built merges the parameters of its path with
its own and with those of its body. -/
theorem merges_operation {item : Spec.PathItem} {o : Spec.Operation} {method path : String}
    {op : Operation} (keyed : r.library.Keyed)
    (fields : ∀ reference body, o.requestBody = some reference →
      spec.resolveRequestBody reference = .ok body → body.Keyed)
    (h : r.operation spec method path o (item.parameters ++ o.parameters) = .ok op) :
    ∃ declared body,
      (item.parameters ++ o.parameters).mapM spec.resolveParameter = .ok declared ∧
        r.requestParameters spec o.requestBody = .ok body ∧ r.Merges declared body op :=
  merges_of_inBody (fun _ => inBody_of_requestParameters keyed fields) h

/-- An operation that requires a parameter of its path.  It has a form with a field of that name. -/
def filterPets : Spec.Operation where
  parameters := [.inline { name := "limit", location := .query, required := true }]
  requestBody := some (.inline {
    content := [("multipart/form-data", {
      schema := some (.inline { properties := [("limit", .inline {})] }) })] })

/-- A path with a parameter that is declared elsewhere. -/
def petPath : Spec.PathItem where
  parameters := [.ref "#/components/parameters/Limit", .inline { name := "id", location := .path }]
  post := some filterPets

/-- A document with the path. -/
def petFilter : Spec where
  openapi := "3.0.3"
  info := { title := "Pets", version := "1" }
  paths := [("/pets/{id}", petPath)]
  components := some { parameters := [("Limit", .inline { name := "limit", location := .query })] }

theorem sound_petFilter : petFilter.Sound where
  named := by decide
  schemas := by decide
  parameters := by
    intro path mem
    cases List.mem_singleton.1 mem
    exact ⟨"Limit", _, .refl, rfl⟩
  bodies := nofun
  responses := nofun

/-- The operation has one parameter of the name and the place, and it is required. -/
theorem merges_operation_petFilter : ∃ op declared body q,
    operation ⟨.go, []⟩ petFilter "POST" "/pets/{id}" filterPets
        (petPath.parameters ++ filterPets.parameters) = .ok op ∧
      Merges ⟨.go, []⟩ declared body op ∧
      (op.parameters.filter fun q' => q'.key = ("limit", some .query)) = [q] ∧
      q.required = true := by
  obtain ⟨op, run⟩ := (failsWith_operation_of_mem (r := ⟨.go, []⟩) rfl
    (List.mem_singleton_self ("/pets/{id}", petPath))
    (List.mem_singleton_self ("POST", filterPets))).exists_eq_ok sound_petFilter.not_fault
  have fields (reference : OrRef Spec.RequestBody) (body : Spec.RequestBody)
      (given : filterPets.requestBody = some reference)
      (resolved : petFilter.resolveRequestBody reference = .ok body) : body.Keyed := by
    cases given
    cases resolved
    intro e mem schema h
    cases List.mem_singleton.1 mem
    cases h
    decide
  have keyed : Library.Keyed [] := ⟨List.nodup_nil, fun _ _ mem => absurd mem List.not_mem_nil⟩
  obtain ⟨declared, body, resolved, -, merges⟩ := merges_operation keyed fields run
  have inline (p : Spec.Parameter) : petFilter.resolveParameter (.inline p) = .ok p := by
    rw [Spec.resolveParameter, Spec.findParameter]
  have named : refName "#/components/parameters/Limit" = .ok "Limit" := rfl
  have limit : petFilter.resolveParameter (.ref "#/components/parameters/Limit") =
      .ok { name := "limit", location := .query } := by
    rw [Spec.resolveParameter, Spec.findParameter_ref named List.not_mem_nil rfl,
      Spec.findParameter]
  cases resolved.symm.trans
    (mapM_eq_ok_iff.2 (.cons limit (.cons (inline _) (.cons (inline _) .nil))))
  obtain ⟨last, q, getLast, alone, made⟩ := merges.lastWins
    { name := "limit", location := .query, required := true } (by simp)
  cases getLast
  have required : q.required = true := (of_declaredParameter made).2.1
  exact ⟨op, _, body, q, run, merges, alone, required⟩

end Resolver

end OpenApiGen
