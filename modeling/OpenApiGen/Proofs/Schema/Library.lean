import OpenApiGen.Operation.Reference
import OpenApiGen.Proofs.Dict
import OpenApiGen.Proofs.Schema.Lower
import OpenApiGen.Schema.Library

/-!
# Component schemas with distinct names

Names in a dictionary of a document are distinct.  `Spec.Keyed` says so of the dictionaries that
models are built from, and the library of such a document inherits it (`Library.keyed_ofSpec`).
-/

namespace OpenApiGen

/-- Component schemas have distinct names, and so have the properties of each. -/
structure Spec.Keyed (spec : Spec) : Prop where
  schemas : (spec.component Components.schemas).keys.Nodup
  properties : ∀ name schema, (name, .inline schema) ∈ spec.component Components.schemas →
    (schema.properties.map Prod.fst).Nodup

/-- A form in a body, unless a reference stands in its place, has fields with distinct names. -/
def Spec.RequestBody.Keyed (body : Spec.RequestBody) : Prop :=
  ∀ e ∈ body.content, ∀ schema, e.2.schema = some (.inline schema) →
    (schema.properties.map Prod.fst).Nodup

/-- The properties of an object have distinct keys. -/
def Node.Keyed : Node → Prop
  | object entries _ _ => (entries.map Prod.fst).Nodup
  | _ => True

/-- Components have distinct names, and so have the properties of each. -/
structure Library.Keyed (library : Library) : Prop where
  names : library.keys.Nodup
  nodes : ∀ name node, (name, node) ∈ library → node.Keyed

theorem keys_lowerProperties {properties : List (String × OrRef Spec.Schema)}
    {entries : List (String × Node)} (h : lowerProperties properties = .ok entries) :
    entries.map Prod.fst = properties.map Prod.fst := by
  induction properties generalizing entries with
  | nil =>
    rw [lowerProperties] at h
    cases h
    rfl
  | cons e rest ih =>
    rw [lowerProperties] at h
    obtain ⟨node, -, h⟩ := bind_eq_ok_iff.1 h
    obtain ⟨nodes, hnodes, h⟩ := bind_eq_ok_iff.1 h
    cases h
    rw [List.map_cons, List.map_cons, ih hnodes]

theorem keyed_lowerSchema {s : Spec.Schema} {node : Node} (h : lowerSchema s = .ok node)
    (distinct : (s.properties.map Prod.fst).Nodup) : node.Keyed := by
  have fields : EndsIn (fun entries => (entries.map Prod.fst).Nodup) (fun _ => True)
      (lowerProperties s.properties) :=
    ⟨fun entries h => keys_lowerProperties h ▸ distinct, fun _ _ => trivial⟩
  have any {α : Type} (x : Except RefError α) : EndsIn (fun _ => True) (fun _ => True) x :=
    ⟨fun _ _ => trivial, fun _ _ => trivial⟩
  have keyed : EndsIn Node.Keyed (fun _ => True) (lowerSchema s) := by
    apply endsIn_lowerSchema (fun ms _ => any (lowerAll ms)) fields (fun e _ => any (lower e))
      fun v _ => any (lower v)
    case object => exact fun _ => id
    all_goals simp [Node.Keyed]
  exact keyed.value node h

theorem keyed_lower {s : OrRef Spec.Schema} {node : Node} (h : lower s = .ok node)
    (distinct : ∀ schema, s = .inline schema → (schema.properties.map Prod.fst).Nodup) :
    node.Keyed := by
  cases s with
  | ref path =>
    rw [lower] at h
    obtain ⟨name, -, h⟩ := bind_eq_ok_iff.1 h
    cases h
    trivial
  | inline schema =>
    rw [lower] at h
    exact keyed_lowerSchema h (distinct schema rfl)

namespace Library

/-- The library of a document holds the node of each component schema, in order. -/
theorem ofSpec_eq_ok_iff {spec : Spec} {library : Library} : ofSpec spec = .ok library ↔
    List.Forall₂ (fun s n => n.1 = s.1 ∧ lower s.2 = .ok n.2)
      (spec.component Spec.Components.schemas) library := by
  have step (s : String × OrRef Spec.Schema) (n : String × Node) :
      (lower s.2 >>= fun node => .ok (s.1, node)) = .ok n ↔ n.1 = s.1 ∧ lower s.2 = .ok n.2 := by
    rw [bind_eq_ok_iff]
    constructor
    · rintro ⟨node, hnode, h⟩
      cases h
      exact ⟨rfl, hnode⟩
    · rintro ⟨hname, hnode⟩
      exact ⟨n.2, hnode, by rw [← hname]⟩
  simp only [← step]
  rw [← mapM_eq_ok_iff]
  unfold ofSpec
  rw [bind_eq_ok_iff]
  constructor
  · rintro ⟨nodes, hnodes, h⟩
    cases h
    exact hnodes
  · intro h
    exact ⟨library, h, rfl⟩

theorem keys_ofSpec {spec : Spec} {library : Library} (h : ofSpec spec = .ok library) :
    library.keys = (spec.component Spec.Components.schemas).keys := by
  replace h := ofSpec_eq_ok_iff.1 h
  generalize spec.component Spec.Components.schemas = schemas at h ⊢
  induction h with
  | nil => rfl
  | cons step _ ih => exact congrArg₂ List.cons step.1 ih

/-- A component has the node of the schema of its name. -/
theorem get?_ofSpec_iff {spec : Spec} {library : Library} (h : ofSpec spec = .ok library)
    {name : String} {node : Node} : library.get? name = some node ↔
      ∃ s, (spec.component Spec.Components.schemas).get? name = some s ∧ lower s = .ok node :=
  Dict.get?_eq_some_iff_of_forall₂ (f := fun _ => lower) (ofSpec_eq_ok_iff.1 h)

/-- Each component has the node of a schema. -/
theorem exists_lower_of_mem {spec : Spec} {library : Library} (h : ofSpec spec = .ok library)
    {c : String × Node} (mem : c ∈ library) :
    ∃ s ∈ spec.component Spec.Components.schemas, lower s.2 = .ok c.2 := by
  replace h := ofSpec_eq_ok_iff.1 h
  generalize spec.component Spec.Components.schemas = schemas at h ⊢
  induction h with
  | nil => cases mem
  | @cons s c' _ _ step _ ih =>
    rcases List.mem_cons.1 mem with rfl | mem
    · exact ⟨s, List.mem_cons_self, step.2⟩
    · obtain ⟨s', hs, lowered⟩ := ih mem
      exact ⟨s', List.mem_cons_of_mem _ hs, lowered⟩

theorem keyed_ofSpec {spec : Spec} (keyed : spec.Keyed) {library : Library}
    (h : ofSpec spec = .ok library) : library.Keyed := by
  have names : library.keys.Nodup := by
    rw [keys_ofSpec h]
    exact keyed.schemas
  refine ⟨names, fun name node mem => ?_⟩
  obtain ⟨s, hs, hnode⟩ := (get?_ofSpec_iff h).1 (Dict.get?_of_mem names mem)
  refine keyed_lower hnode fun schema inline => ?_
  exact keyed.properties name schema (inline ▸ Dict.mem_of_get? hs)

end Library

end OpenApiGen
