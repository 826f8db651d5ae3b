import Mathlib.Data.Option.Basic
import OpenApiGen.Proofs.Model.Lookup
import OpenApiGen.Proofs.Operation.Extension
import OpenApiGen.Proofs.Spec.References

/-!
# Why operations fail

Operations fail for a reference of the document only, and what the error says of the reference is
true (`Resolver.failsWith_operations`).
-/

namespace OpenApiGen

/-! ## References to components -/

namespace Spec

variable {spec : Spec}

section

variable {α : Type} {components : Dict (OrRef α)} {places : List (OrRef α)} {reference : OrRef α}

theorem mem_paths_of_mem {path : String} (mem : .ref path ∈ places) :
    path ∈ places.filterMap OrRef.path? :=
  List.mem_filterMap.2 ⟨_, mem, rfl⟩

/-- What a reference leads to stands where references can stand, if components do.  One that leads
to nothing that is written in place has no name, or it is the one that the error names. -/
theorem endsIn_findInline (sub : components.values ⊆ places)
    (occurs : places.filterMap OrRef.path? ⊆ spec.refPaths)
    (notInline : ∀ path ∈ places.filterMap OrRef.path?,
      (∀ value, components.get? (simpleName path) ≠ some (.inline value)) →
        spec.Fault (.unresolved path))
    (mem : reference ∈ places) :
    EndsIn (fun value => .inline value ∈ places) spec.Fault (findInline components reference) := by
  cases reference with
  | inline value => exact .ok mem
  | ref path =>
    have mem := mem_paths_of_mem mem
    have named : EndsIn (fun name => simpleName path = name) spec.Fault (refName path) :=
      ⟨fun _ h => (refName_eq_ok_iff.1 h).2, fun _ h => fault_of_refName (occurs mem) h⟩
    refine named.bind fun name same => ?_
    subst same
    split
    · next found => exact .ok (sub (List.mem_map_of_mem (Dict.mem_of_get? found)))
    · next other => exact .fail (notInline path mem other)

end

theorem endsIn_resolveRequestBody {reference : OrRef RequestBody}
    (mem : reference ∈ spec.bodyPlaces) :
    EndsIn (fun body => .inline body ∈ spec.bodyPlaces) spec.Fault
      (spec.resolveRequestBody reference) :=
  endsIn_findInline (List.subset_append_left _ _) spec.bodyPaths_subset_refPaths
    (fun _ => .body) mem

theorem endsIn_resolveResponse {reference : OrRef Response}
    (mem : reference ∈ spec.responsePlaces) :
    EndsIn (fun response => .inline response ∈ spec.responsePlaces) spec.Fault
      (spec.resolveResponse reference) :=
  endsIn_findInline (List.subset_append_left _ _) spec.responsePaths_subset_refPaths
    (fun _ => .response) mem

theorem mem_parameterPlaces_of_get? {name : String} {next : OrRef Parameter}
    (found : (spec.component Components.parameters).get? name = some next) :
    next ∈ spec.parameterPlaces :=
  List.mem_append_left _ (List.mem_append_left _ (List.mem_map_of_mem (Dict.mem_of_get? found)))

/-- A reference to a parameter leads to one of the document.  On the way, each parameter that was
passed leads on to the one that is referred to now; so one that is met again leads to itself. -/
theorem endsIn_findParameter {seen : List String} {reference : OrRef Parameter}
    (mem : reference ∈ spec.parameterPlaces) (passed : ∀ path, reference = .ref path →
      ∀ name ∈ seen, Relation.TransGen spec.LeadsOn name (simpleName path)) :
    EndsIn (fun p => .inline p ∈ spec.parameterPlaces) spec.Fault
      (findParameter (spec.component Components.parameters) seen reference) := by
  induction seen, reference using findParameter.induct (spec.component Components.parameters) with
  | case1 seen parameter =>
    rw [findParameter]
    exact .ok mem
  | case2 seen path e nameless =>
    have occurs := spec.parameterPaths_subset_refPaths (mem_paths_of_mem mem)
    rw [findParameter_ref_nameless nameless]
    exact .fail (fault_of_refName occurs nameless)
  | case3 seen path name named old =>
    obtain ⟨-, rfl⟩ := refName_eq_ok_iff.1 named
    rw [findParameter_ref_seen named old]
    exact .fail (.parameterLoop (mem_paths_of_mem mem) (passed path rfl _ old))
  | case4 seen path name named new missing =>
    obtain ⟨-, rfl⟩ := refName_eq_ok_iff.1 named
    rw [findParameter_ref_missing named new missing]
    exact .fail (.parameter (mem_paths_of_mem mem) (Dict.get?_eq_none_iff.1 missing))
  | case5 seen path name named new next found ih =>
    obtain ⟨-, rfl⟩ := refName_eq_ok_iff.1 named
    rw [findParameter_ref named new found]
    refine ih (mem_parameterPlaces_of_get? found) ?_
    rintro onward rfl
    have step : spec.LeadsOn (simpleName path) (simpleName onward) := ⟨onward, found, rfl⟩
    exact List.forall_mem_cons.2 ⟨.single step, fun name h => (passed path rfl name h).tail step⟩

theorem endsIn_resolveParameter {reference : OrRef Parameter}
    (mem : reference ∈ spec.parameterPlaces) :
    EndsIn (fun p => .inline p ∈ spec.parameterPlaces) spec.Fault
      (spec.resolveParameter reference) :=
  endsIn_findParameter mem fun _ _ => List.forall_mem_nil _

end Spec

/-! ## Parameters -/

namespace Resolver

variable {r : Resolver} {spec : Spec}

theorem missing_parameterOf (r : Resolver) (name : String) (node : Node) (location : Location)
    (required : Bool) : FailsWith (r.library.Misses node.typeRefs)
      (r.parameterOf name node location required) := by
  unfold parameterOf
  refine (r.looksUp_baseType node).missing.bind fun baseType _ => ?_
  refine (r.missing_declare node).bind fun dataType _ => ?_
  refine (r.missing_containerOf node).bind fun container _ => ?_
  split
  · exact .ok _
  · exact .ok _

theorem endsIn_nodeOr (typeName : String) {schema : Option (OrRef Spec.Schema)}
    (occurs : ∀ s, schema = some s → s ∈ spec.schemaPlaces) :
    EndsIn spec.Mentions spec.Fault (nodeOr typeName schema) := by
  cases schema with
  | none => exact .ok (List.forall_mem_nil _)
  | some s => exact Spec.endsIn_lower (occurs s rfl)

theorem mentions_of_mem_entries {entries : List (String × Node)} {required : List String}
    {description : Option String} (mentioned : spec.Mentions (.object entries required description))
    {e : String × Node} (mem : e ∈ entries) : spec.Mentions e.2 :=
  fun name h => mentioned name (Node.refs_subset_entryRefs mem h)

theorem mem_contentSchemas_of_responseMedia? {content : Dict Spec.MediaType}
    {s : OrRef Spec.Schema} (h : (responseMedia? content).bind Spec.MediaType.schema = some s) :
    s ∈ Spec.contentSchemas content := by
  obtain ⟨media, hmedia, hs⟩ := Option.bind_eq_some_iff.1 h
  refine List.mem_filterMap.2 ⟨media, ?_, hs⟩
  rcases (Option.orElse_eq_some _ _ _).1 hmedia with found | ⟨-, found⟩
  · exact List.mem_map_of_mem (Dict.mem_of_get? found)
  · exact List.mem_of_find?_eq_some found

theorem endsIn_returnNode? {responses : Dict (OrRef Spec.Response)}
    (occurs : ∀ e ∈ responses, e.2 ∈ spec.responsePlaces) :
    EndsIn (fun node? => ∀ node, node? = some node → spec.Mentions node) spec.Fault
      (returnNode? spec responses) := by
  have nothing : ∀ node, none = some node → spec.Mentions node := nofun
  induction responses with
  | nil => exact .ok nothing
  | cons e rest ih =>
    obtain ⟨status, reference⟩ := e
    obtain ⟨mem, later⟩ := List.forall_mem_cons.1 occurs
    rw [returnNode?]
    split
    · refine (Spec.endsIn_resolveResponse mem).bind fun response inline => ?_
      split
      · exact ih later
      · split
        · next s hs =>
          have place := Spec.mem_schemaPlaces_of_response inline
            (mem_contentSchemas_of_responseMedia? hs)
          refine (Spec.endsIn_lower place).bind fun node mentioned => .ok ?_
          rintro _ (_ | _)
          exact mentioned
        · exact .ok nothing
    · exact ih later

section

variable (lowered : Library.ofSpec spec = .ok r.library)

include lowered

theorem failsWith_of_missing {node : Node} (mentioned : spec.Mentions node) {names : List String}
    (sub : names ⊆ node.refs) {α : Type} {x : Except RefError α}
    (h : FailsWith (r.library.Misses names) x) : FailsWith spec.Fault x :=
  h.mono fun _ missing => missing.fault lowered fun name mem => mentioned name (sub mem)

theorem failsWith_parameterOf {node : Node} (mentioned : spec.Mentions node) (name : String)
    (location : Location) (required : Bool) :
    FailsWith spec.Fault (r.parameterOf name node location required) :=
  failsWith_of_missing lowered mentioned node.typeRefs_subset_refs
    (r.missing_parameterOf name node location required)

theorem failsWith_declaredParameter {p : Spec.Parameter} (mem : .inline p ∈ spec.parameterPlaces) :
    FailsWith spec.Fault (r.declaredParameter p) := by
  have occurs (s : OrRef Spec.Schema) (h : p.schema = some s) : s ∈ spec.schemaPlaces :=
    Spec.mem_schemaPlaces_of_parameter mem h
  refine (endsIn_nodeOr "string" occurs).failsWith_bind fun node mentioned => ?_
  exact failsWith_parameterOf lowered mentioned _ _ _

theorem failsWith_ownParameters {declared : List (OrRef Spec.Parameter)}
    (occurs : ∀ reference ∈ declared, reference ∈ spec.parameterPlaces) :
    FailsWith spec.Fault (r.ownParameters spec declared) := by
  refine FailsWith.foldlM (fun reference mem known => ?_) []
  refine (Spec.endsIn_resolveParameter (occurs reference mem)).failsWith_bind fun p inline => ?_
  exact (failsWith_declaredParameter lowered inline).bind fun _ _ => .ok _

theorem endsIn_formNode {node : Node} (mentioned : spec.Mentions node) :
    EndsIn spec.Mentions spec.Fault (r.formNode node) := by
  cases node with
  | ref name =>
    constructor
    · intro target found
      exact Library.mentions_of_mem lowered (Dict.mem_of_get? (Library.get?_of_find found))
    · exact failsWith_of_missing lowered mentioned (List.Subset.refl _)
        (r.library.looksUp_find name).missing
  | _ => exact .ok mentioned

theorem failsWith_formFields {node : Node} (mentioned : spec.Mentions node) :
    FailsWith spec.Fault (r.formFields node) := by
  cases node with
  | object entries required description =>
    refine FailsWith.bind (.mapM fun e mem => ?_) fun params _ => .ok (some params)
    exact failsWith_parameterOf lowered (mentions_of_mem_entries mentioned mem) _ _ _
  | _ => exact .ok none

theorem failsWith_formParameters {media : Spec.MediaType}
    (occurs : ∀ s, media.schema = some s → s ∈ spec.schemaPlaces) :
    FailsWith spec.Fault (r.formParameters media) := by
  rw [formParameters_eq]
  obtain ⟨schema⟩ := media
  cases schema with
  | none => exact .ok none
  | some schema =>
    refine (Spec.endsIn_lower (occurs schema rfl)).failsWith_bind fun node mentioned => ?_
    refine (endsIn_formNode lowered mentioned).failsWith_bind fun target mentioned => ?_
    exact failsWith_formFields lowered mentioned

theorem failsWith_fieldParameters {body : Spec.RequestBody}
    (mem : .inline body ∈ spec.bodyPlaces) : FailsWith spec.Fault (r.fieldParameters body) := by
  unfold fieldParameters
  split
  · next e hjson hform =>
    refine failsWith_formParameters lowered fun s hs => Spec.mem_schemaPlaces_of_body mem ?_
    exact Spec.mem_contentSchemas (List.mem_of_find?_eq_some hform) hs
  · exact .ok none

theorem failsWith_wholeParameter {body : Spec.RequestBody}
    (mem : .inline body ∈ spec.bodyPlaces) : FailsWith spec.Fault (r.wholeParameter body) := by
  unfold wholeParameter
  split
  · exact .ok []
  · next e media single =>
    have content : (e, media) ∈ body.content := by
      rcases (Option.orElse_eq_some _ _ _).1 single with json | ⟨-, first⟩
      · exact List.mem_of_find?_eq_some json
      · exact List.mem_of_head? first
    have occurs (s : OrRef Spec.Schema) (h : media.schema = some s) : s ∈ spec.schemaPlaces :=
      Spec.mem_schemaPlaces_of_body mem (Spec.mem_contentSchemas content h)
    refine (endsIn_nodeOr "object" occurs).failsWith_bind fun node mentioned => ?_
    exact (failsWith_parameterOf lowered mentioned _ _ _).bind fun p _ => .ok [p]

theorem failsWith_bodyParameters {body : Spec.RequestBody} (mem : .inline body ∈ spec.bodyPlaces) :
    FailsWith spec.Fault (r.bodyParameters body) := by
  rw [bodyParameters_eq]
  refine (failsWith_fieldParameters lowered mem).bind fun fields _ => ?_
  cases fields with
  | none => exact failsWith_wholeParameter lowered mem
  | some params => exact .ok params

theorem failsWith_requestParameters {body : Option (OrRef Spec.RequestBody)}
    (occurs : ∀ reference, body = some reference → reference ∈ spec.bodyPlaces) :
    FailsWith spec.Fault (r.requestParameters spec body) := by
  cases body with
  | none => exact .ok []
  | some reference =>
    refine (Spec.endsIn_resolveRequestBody (occurs reference rfl)).failsWith_bind fun _ inline => ?_
    exact failsWith_bodyParameters lowered inline

theorem failsWith_returning {responses : Dict (OrRef Spec.Response)}
    (occurs : ∀ e ∈ responses, e.2 ∈ spec.responsePlaces) (plain : Operation) :
    FailsWith spec.Fault (r.returning spec responses plain) := by
  refine (endsIn_returnNode? occurs).failsWith_bind fun node? mentioned => ?_
  cases node? with
  | none => exact .ok plain
  | some node =>
    refine failsWith_of_missing lowered (mentioned node rfl) node.typeRefs_subset_refs ?_
    refine (r.missing_declare node).bind fun returnType _ => ?_
    refine (r.looksUp_baseType node).missing.bind fun returnBaseType _ => ?_
    exact (r.missing_containerOf node).bind fun container _ => .ok _

/-! ## Operations -/

theorem failsWith_operation {o : Spec.Operation} (mem : o ∈ spec.allOperations)
    {declared : List (OrRef Spec.Parameter)}
    (occurs : ∀ reference ∈ declared, reference ∈ spec.parameterPlaces) (method path : String) :
    FailsWith spec.Fault (r.operation spec method path o declared) := by
  rw [operation_eq]
  refine (failsWith_ownParameters lowered occurs).bind fun own _ => ?_
  refine (failsWith_requestParameters lowered fun reference h => ?_).bind fun body _ => ?_
  · exact List.mem_append_right _ (List.mem_filterMap.2 ⟨o, mem, h⟩)
  · refine failsWith_returning lowered (fun e he => ?_) _
    exact List.mem_append_right _ (List.mem_flatMap.2 ⟨o, mem, List.mem_map_of_mem he⟩)

/-- An operation of a document, with the parameters of its path before its own. -/
theorem failsWith_operation_of_mem {e : String × Spec.PathItem} (he : e ∈ spec.paths)
    {m : String × Spec.Operation} (hm : m ∈ e.2.operations) : FailsWith spec.Fault
      (r.operation spec m.1 e.1 m.2 (e.2.parameters ++ m.2.parameters)) := by
  have mem : m.2 ∈ spec.allOperations := List.mem_flatMap.2 ⟨e, he, List.mem_map_of_mem hm⟩
  refine failsWith_operation lowered mem (List.forall_mem_append.2 ⟨?_, ?_⟩) m.1 e.1
  · intro reference h
    exact List.mem_append_left _ (List.mem_append_right _ (List.mem_flatMap.2 ⟨e, he, h⟩))
  · intro reference h
    exact List.mem_append_right _ (List.mem_flatMap.2 ⟨m.2, mem, h⟩)

theorem failsWith_operations : FailsWith spec.Fault (r.operations spec) := by
  unfold operations
  refine FailsWith.bind (.mapM fun e he => .mapM fun m hm => ?_) fun _ _ => .ok _
  exact failsWith_operation_of_mem lowered he hm

end

end Resolver

end OpenApiGen
