import OpenApiGen.Proofs.Model.Flattening
import OpenApiGen.Proofs.Schema.Lookup

/-!
# What models look up

A model is built if and only if all components are there that it follows, and so are all models
(`Resolver.exists_models_iff`).  If one is missing, the error names one of those that are
(`Resolver.looksUp_models`).
-/

namespace OpenApiGen.Resolver

open Library

variable {r : Resolver}

/-! ## Properties -/

theorem missing_containerOf (r : Resolver) (node : Node) :
    FailsWith (r.library.Misses node.typeRefs) (r.containerOf node) := by
  cases node with
  | ref name =>
    rw [Node.typeRefs_of_not_isContainer rfl, Node.declaredRefs]
    exact ((r.library.looksUp_find name).then_ok _).missing
  | _ => exact .ok _

theorem looksUp_property (r : Resolver) (key : String) (node : Node) (required : Bool) :
    r.library.LooksUp node.typeRefs (r.property key node required) := by
  unfold property
  refine .after (r.missing_declare node) fun dataType _ => ?_
  refine (r.looksUp_baseType node).before fun baseType _ => ?_
  refine (r.missing_containerOf node).bind fun container _ => ?_
  split
  · exact .ok _
  · exact .ok _

theorem looksUp_properties (r : Resolver) (entries : List (String × Node))
    (required : List String) : r.library.LooksUp (entries.flatMap fun e => e.2.typeRefs)
      (r.properties entries required) :=
  .mapM fun e _ => r.looksUp_property e.1 e.2 _

/-! ## Flattening -/

/-- Flattening looks up what the node follows, as long as the components that are being looked at
are there. -/
theorem looksUp_contributed_and (r : Resolver) :
    (∀ visiting node, (∀ name ∈ visiting, name ∈ r.library.keys) →
      r.library.LooksUp node.flattenedRefs (r.contributed visiting node)) ∧
    (∀ visiting known members, (∀ name ∈ visiting, name ∈ r.library.keys) →
      r.library.LooksUp (Node.flattenedRefsAll members)
        (r.contributedByAll visiting known members)) := by
  apply contributed.mutual_induct r
    (fun visiting node => (∀ name ∈ visiting, name ∈ r.library.keys) →
      r.library.LooksUp node.flattenedRefs (r.contributed visiting node))
    (fun visiting known members => (∀ name ∈ visiting, name ∈ r.library.keys) →
      r.library.LooksUp (Node.flattenedRefsAll members)
        (r.contributedByAll visiting known members))
  case case1 =>
    intro visiting entries required description there
    rw [contributed, Node.flattenedRefs]
    exact r.looksUp_properties entries required
  case case2 =>
    intro visiting members tag ih there
    rw [contributed, Node.flattenedRefs]
    exact ih there
  case case3 =>
    intro visiting node notObject notAllOf there
    rw [contributed.eq_3 _ _ _ notObject notAllOf, Node.flattenedRefs.eq_3 _ notObject notAllOf]
    exact .ok _
  case case4 =>
    intro visiting known there
    rw [contributedByAll]
    exact .ok _
  case case5 =>
    intro visiting known name rest seen ih there
    rw [contributedByAll, dif_pos seen, Node.flattenedRefsAll]
    have h := ih there
    refine ⟨fun ps same => ?_, h.missing.mono fun _ => .mono (List.subset_cons_self _ _)⟩
    exact List.forall_mem_cons.2 ⟨there name seen, h.found ps same⟩
  case case6 =>
    intro visiting known name rest new e missing there
    rw [contributedByAll_ref_missing new missing, Node.flattenedRefsAll]
    constructor
    · intro ps same
      cases same
    · refine (looksUp_of_find_error missing).missing.mono fun _ => .mono ?_
      exact List.cons_subset_cons name (List.nil_subset _)
  case case7 =>
    intro visiting known name rest new target found ihTarget ihRest there
    have hname := Dict.mem_keys_of_get? (get?_of_find found)
    rw [contributedByAll_ref new found, Node.flattenedRefsAll]
    have target := (ihTarget (List.forall_mem_cons.2 ⟨hname, there⟩)).of_component
      (Dict.mem_of_get? (get?_of_find found)) target.flattenedRefs_subset_modelRefs
    exact target.bind fun inherited _ => ihRest inherited there
  case case8 =>
    intro visiting known member rest notRef ihMember ihRest there
    rw [contributedByAll.eq_3 _ _ _ _ _ notRef, Node.flattenedRefsAll.eq_3 _ _ notRef]
    exact (ihMember there).bind fun inherited _ => ihRest inherited there

theorem looksUp_contributed {visiting : List String}
    (there : ∀ name ∈ visiting, name ∈ r.library.keys) (node : Node) :
    r.library.LooksUp node.flattenedRefs (r.contributed visiting node) :=
  r.looksUp_contributed_and.1 visiting node there

/-! ## Models -/

theorem looksUp_model {name : String} (there : name ∈ r.library.keys) (node : Node) :
    r.library.LooksUp node.modelRefs (r.model name node) := by
  unfold model
  cases node with
  | object entries required description =>
    rw [Node.modelRefs, Node.flattenedRefs]
    exact (r.looksUp_properties entries required).before fun _ _ => .ok _
  | composed kind members tag =>
    have own : ∀ other ∈ [name], other ∈ r.library.keys := List.forall_mem_singleton.2 there
    exact (looksUp_contributed own _).before fun _ _ => .ok _
  | array items tag | map value tag =>
    rw [Node.modelRefs_of_isContainer rfl, ← Node.typeRefs_tagged rfl name]
    refine .after (r.missing_declare _) fun dataType _ => ?_
    exact (r.looksUp_baseType _).before fun _ _ => .ok _
  | enum | primitive | ref =>
    show r.library.LooksUp (Node.typeRefs _) _
    rw [Node.typeRefs_of_not_isContainer rfl]
    exact (r.looksUp_declare _).before fun _ _ => .ok _

/-- Building models looks up what each component follows. -/
theorem looksUp_models (r : Resolver) :
    r.library.LooksUp (r.library.flatMap fun c => c.2.modelRefs) r.models :=
  .mapM fun c mem => looksUp_model (Dict.mem_keys_of_mem mem) c.2

/-- Models can be built if and only if each component that one of them follows is there. -/
theorem exists_models_iff (r : Resolver) : (∃ built, r.models = .ok built) ↔
    ∀ c ∈ r.library, ∀ name ∈ c.2.modelRefs, name ∈ r.library.keys := by
  have all : (∀ c ∈ r.library, ∀ name ∈ c.2.modelRefs, name ∈ r.library.keys) ↔
      ∀ name ∈ r.library.flatMap fun c => c.2.modelRefs, name ∈ r.library.keys := by
    simp only [List.mem_flatMap]
    exact ⟨fun h name ⟨c, hc, mem⟩ => h c hc name mem, fun h c hc name mem => h name ⟨c, hc, mem⟩⟩
  constructor
  · rintro ⟨built, h⟩
    exact all.2 (r.looksUp_models.found built h)
  · intro closed
    exact r.looksUp_models.exists_eq_ok (all.1 closed) closed

end OpenApiGen.Resolver
