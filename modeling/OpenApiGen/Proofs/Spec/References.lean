import Mathlib.Logic.Relation
import OpenApiGen.Operation.Reference
import OpenApiGen.Proofs.Dict
import OpenApiGen.Proofs.Schema.Library
import OpenApiGen.Proofs.Schema.Lookup

/-!
# References of documents

Where a document can refer to parameters, request bodies, responses and schemas, and when all of
these references lead somewhere (`Spec.Sound`).  An error is a fault of the document (`Spec.Fault`)
if one of its references leads nowhere in the way that the error says; a sound document has none
(`Spec.Sound.not_fault`).  Component schemas fail for a fault only (`Library.failsWith_ofSpec`), and
a component schema that is missed is one (`Library.Misses.fault`).
-/

namespace OpenApiGen

variable {α : Type}

/-- The path of a reference. -/
def OrRef.path? : OrRef α → Option String
  | ref path => some path
  | inline _ => none

/-- What is written in place. -/
def OrRef.value? : OrRef α → Option α
  | ref _ => none
  | inline value => some value

namespace Spec

/-! ## Places of references -/

/-- The operations of all paths. -/
def allOperations (spec : Spec) : List Operation :=
  spec.paths.flatMap fun e => e.2.operations.map Prod.snd

/-- Where parameters can stand: among the components, at a path and at an operation. -/
def parameterPlaces (spec : Spec) : List (OrRef Parameter) :=
  (spec.component Components.parameters).values ++
    spec.paths.flatMap (fun e => e.2.parameters) ++
    spec.allOperations.flatMap Operation.parameters

/-- Where request bodies can stand. -/
def bodyPlaces (spec : Spec) : List (OrRef RequestBody) :=
  (spec.component Components.requestBodies).values ++
    spec.allOperations.filterMap Operation.requestBody

/-- Where responses can stand. -/
def responsePlaces (spec : Spec) : List (OrRef Response) :=
  (spec.component Components.responses).values ++
    spec.allOperations.flatMap fun o => o.responses.values

/-- The schemas of a body or a response in all its formats. -/
def contentSchemas (content : Dict MediaType) : List (OrRef Schema) :=
  content.values.filterMap MediaType.schema

/-- Where schemas can stand that are no parts of others: among the components, and in parameters,
bodies and responses. -/
def schemaPlaces (spec : Spec) : List (OrRef Schema) :=
  (spec.component Components.schemas).values ++
    (spec.parameterPlaces.filterMap OrRef.value?).filterMap Parameter.schema ++
    (spec.bodyPlaces.filterMap OrRef.value?).flatMap (fun body => contentSchemas body.content) ++
    (spec.responsePlaces.filterMap OrRef.value?).flatMap fun response =>
      contentSchemas response.content

/-- The paths of the references to parameters. -/
def parameterPaths (spec : Spec) : List String :=
  spec.parameterPlaces.filterMap OrRef.path?

/-- The paths of the references to request bodies. -/
def bodyPaths (spec : Spec) : List String :=
  spec.bodyPlaces.filterMap OrRef.path?

/-- The paths of the references to responses. -/
def responsePaths (spec : Spec) : List String :=
  spec.responsePlaces.filterMap OrRef.path?

/-- The paths of the references to schemas, at any depth of other schemas. -/
def schemaPaths (spec : Spec) : List String :=
  spec.schemaPlaces.flatMap schemaReferences

/-- The paths of all references. -/
def refPaths (spec : Spec) : List String :=
  spec.parameterPaths ++ spec.bodyPaths ++ spec.responsePaths ++ spec.schemaPaths

theorem parameterPaths_subset_refPaths (spec : Spec) : spec.parameterPaths ⊆ spec.refPaths :=
  fun _ mem => by simp [refPaths, mem]

theorem bodyPaths_subset_refPaths (spec : Spec) : spec.bodyPaths ⊆ spec.refPaths :=
  fun _ mem => by simp [refPaths, mem]

theorem responsePaths_subset_refPaths (spec : Spec) : spec.responsePaths ⊆ spec.refPaths :=
  fun _ mem => by simp [refPaths, mem]

theorem schemaPaths_subset_refPaths (spec : Spec) : spec.schemaPaths ⊆ spec.refPaths :=
  fun _ mem => by simp [refPaths, mem]

/-! ## References that lead somewhere -/

/-- A component is a reference to another parameter. -/
def LeadsOn (spec : Spec) (name next : String) : Prop :=
  ∃ path, (spec.component Components.parameters).get? name = some (.ref path) ∧
    simpleName path = next

/-- References lead from a component to a parameter that is written in place. -/
def ReachesParameter (spec : Spec) (name : String) : Prop :=
  ∃ last parameter, Relation.ReflTransGen spec.LeadsOn name last ∧
    (spec.component Components.parameters).get? last = some (.inline parameter)

/-- All references of a document have a name at their end and lead somewhere. -/
structure Sound (spec : Spec) : Prop where
  named : ∀ path ∈ spec.refPaths, HasName path
  schemas : ∀ path ∈ spec.schemaPaths,
    simpleName path ∈ (spec.component Components.schemas).keys
  parameters : ∀ path ∈ spec.parameterPaths, spec.ReachesParameter (simpleName path)
  bodies : ∀ path ∈ spec.bodyPaths, ∃ body,
    (spec.component Components.requestBodies).get? (simpleName path) = some (.inline body)
  responses : ∀ path ∈ spec.responsePaths, ∃ response,
    (spec.component Components.responses).get? (simpleName path) = some (.inline response)

/-- What an error says of a reference of the document is true. -/
inductive Fault (spec : Spec) : RefError → Prop
  | malformed {path : String} (occurs : path ∈ spec.refPaths) (nameless : ¬ HasName path) :
      Fault spec (.malformed path)
  | schema {path : String} (occurs : path ∈ spec.schemaPaths)
      (missing : simpleName path ∉ (spec.component Components.schemas).keys) :
      Fault spec (.unresolved (simpleName path))
  | parameter {path : String} (occurs : path ∈ spec.parameterPaths)
      (missing : simpleName path ∉ (spec.component Components.parameters).keys) :
      Fault spec (.unresolved path)
  | parameterLoop {path : String} (occurs : path ∈ spec.parameterPaths)
      (loop : Relation.TransGen spec.LeadsOn (simpleName path) (simpleName path)) :
      Fault spec (.unresolved path)
  | body {path : String} (occurs : path ∈ spec.bodyPaths)
      (notInline : ∀ body, (spec.component Components.requestBodies).get? (simpleName path) ≠
        some (.inline body)) : Fault spec (.unresolved path)
  | response {path : String} (occurs : path ∈ spec.responsePaths)
      (notInline : ∀ response, (spec.component Components.responses).get? (simpleName path) ≠
        some (.inline response)) : Fault spec (.unresolved path)

variable {spec : Spec}

theorem LeadsOn.eq {name next next' : String} (h : spec.LeadsOn name next)
    (h' : spec.LeadsOn name next') : next = next' := by
  obtain ⟨path, found, rfl⟩ := h
  obtain ⟨path', found', rfl⟩ := h'
  rw [found] at found'
  cases found'
  rfl

theorem ReachesParameter.mem_keys {name : String} (h : spec.ReachesParameter name) :
    name ∈ (spec.component Components.parameters).keys := by
  obtain ⟨last, parameter, chain, found⟩ := h
  rcases chain.cases_head with rfl | ⟨next, ⟨path, here, -⟩, -⟩
  · exact Dict.mem_keys_of_get? found
  · exact Dict.mem_keys_of_get? here

/-- References that come to a parameter do not come back to where they started. -/
theorem ReachesParameter.not_loop {name : String} (h : spec.ReachesParameter name) :
    ¬ Relation.TransGen spec.LeadsOn name name := by
  obtain ⟨last, parameter, chain, found⟩ := h
  induction chain using Relation.ReflTransGen.head_induction_on with
  | refl =>
    intro loop
    obtain ⟨next, ⟨path, found', -⟩, -⟩ := Relation.TransGen.head'_iff.1 loop
    rw [found] at found'
    cases found'
  | head step _ ih =>
    intro loop
    obtain ⟨next, step', back⟩ := Relation.TransGen.head'_iff.1 loop
    obtain rfl := step.eq step'
    exact ih (Relation.TransGen.tail' back step)

theorem Sound.not_fault (sound : spec.Sound) (e : RefError) : ¬ spec.Fault e := by
  intro fault
  cases fault with
  | malformed occurs nameless => exact nameless (sound.named _ occurs)
  | schema occurs missing => exact missing (sound.schemas _ occurs)
  | parameter occurs missing => exact missing (sound.parameters _ occurs).mem_keys
  | parameterLoop occurs loop => exact (sound.parameters _ occurs).not_loop loop
  | body occurs notInline =>
    obtain ⟨body, found⟩ := sound.bodies _ occurs
    exact notInline body found
  | response occurs notInline =>
    obtain ⟨response, found⟩ := sound.responses _ occurs
    exact notInline response found

/-! ## Schemas -/

theorem mem_schemaPlaces_of_component {e : String × OrRef Schema}
    (mem : e ∈ spec.component Components.schemas) : e.2 ∈ spec.schemaPlaces := by
  unfold schemaPlaces
  simp only [List.mem_append]
  exact .inl (.inl (.inl (List.mem_map_of_mem mem)))

theorem mem_schemaPlaces_of_parameter {p : Parameter} (mem : .inline p ∈ spec.parameterPlaces)
    {s : OrRef Schema} (h : p.schema = some s) : s ∈ spec.schemaPlaces := by
  unfold schemaPlaces
  simp only [List.mem_append, List.mem_filterMap]
  exact .inl (.inl (.inr ⟨p, ⟨_, mem, rfl⟩, h⟩))

theorem mem_contentSchemas {content : Dict MediaType} {e : String × MediaType} (mem : e ∈ content)
    {s : OrRef Schema} (h : e.2.schema = some s) : s ∈ contentSchemas content :=
  List.mem_filterMap.2 ⟨e.2, List.mem_map_of_mem mem, h⟩

theorem mem_schemaPlaces_of_body {body : RequestBody} (mem : .inline body ∈ spec.bodyPlaces)
    {s : OrRef Schema} (h : s ∈ contentSchemas body.content) : s ∈ spec.schemaPlaces := by
  unfold schemaPlaces
  simp only [List.mem_append, List.mem_flatMap, List.mem_filterMap]
  exact .inl (.inr ⟨body, ⟨_, mem, rfl⟩, h⟩)

theorem mem_schemaPlaces_of_response {response : Response}
    (mem : .inline response ∈ spec.responsePlaces) {s : OrRef Schema}
    (h : s ∈ contentSchemas response.content) : s ∈ spec.schemaPlaces := by
  unfold schemaPlaces
  simp only [List.mem_append, List.mem_flatMap, List.mem_filterMap]
  exact .inr ⟨response, ⟨_, mem, rfl⟩, h⟩

/-- Whatever a node refers to, the document refers to. -/
def Mentions (spec : Spec) (node : Node) : Prop :=
  ∀ name ∈ node.refs, Leads spec.schemaPaths name

theorem fault_of_refName {path : String} (occurs : path ∈ spec.refPaths) {e : RefError}
    (h : refName path = .error e) : spec.Fault e := by
  obtain ⟨nameless, rfl⟩ := refName_eq_error_iff.1 h
  exact .malformed occurs nameless

theorem endsIn_lower {s : OrRef Schema} (mem : s ∈ spec.schemaPlaces) :
    EndsIn spec.Mentions spec.Fault (lower s) := by
  have sub : schemaReferences s ⊆ spec.schemaPaths :=
    fun _ h => List.mem_flatMap.2 ⟨s, mem, h⟩
  refine ((traced_lower s).of_subset sub).mono (fun _ => id) ?_
  rintro e ⟨path, occurs, h⟩
  exact fault_of_refName (spec.schemaPaths_subset_refPaths occurs) h

end Spec

/-! ## Components -/

namespace Library

variable {spec : Spec} {library : Library}

theorem failsWith_ofSpec (spec : Spec) : FailsWith spec.Fault (ofSpec spec) := by
  unfold ofSpec
  refine FailsWith.bind (.mapM fun e mem => ?_) fun _ _ => .ok _
  exact (Spec.endsIn_lower (Spec.mem_schemaPlaces_of_component mem)).error.bind fun _ _ => .ok _

theorem mentions_of_mem (lowered : ofSpec spec = .ok library) {c : String × Node}
    (mem : c ∈ library) : spec.Mentions c.2 := by
  obtain ⟨s, hs, hnode⟩ := exists_lower_of_mem lowered mem
  exact (Spec.endsIn_lower (Spec.mem_schemaPlaces_of_component hs)).value c.2 hnode

/-- A component that is missed is a fault of the document, if the document refers to it. -/
theorem Misses.fault (lowered : ofSpec spec = .ok library) {names : List String} {e : RefError}
    (h : library.Misses names e) (mentioned : ∀ name ∈ names, Leads spec.schemaPaths name) :
    spec.Fault e := by
  obtain ⟨name, gone, rfl, mem⟩ := h
  have leads : Leads spec.schemaPaths name := by
    rcases mem with mem | ⟨c, hc, mem⟩
    · exact mentioned name mem
    · exact mentions_of_mem lowered hc name (c.2.modelRefs_subset_refs mem)
  obtain ⟨path, occurs, named⟩ := leads
  obtain ⟨-, rfl⟩ := refName_eq_ok_iff.1 named
  rw [keys_ofSpec lowered] at gone
  exact .schema occurs gone

end Library

end OpenApiGen
