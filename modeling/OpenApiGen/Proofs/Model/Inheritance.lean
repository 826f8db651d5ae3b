import Mathlib
import OpenApiGen.Profile.Builtin
import OpenApiGen.Proofs.Model.Build

/-!
# Inheritance declares every property once

A model has the properties of its parent among its own (`Resolver.inheriting_models`), since the
parent can be reached from it.  Reconciliation leaves each property to the last model of the chain
of parents that has it.  So the properties that are left along a chain are, taken together, those
of its first model (`perm_flatMap_chain`).
-/

namespace OpenApiGen

/-- The models that follow from a model by the names of parents, up to one without parent. -/
inductive ParentChain (models : List Model) : Model → List Model → Prop
  | root {m : Model} (last : m.parentName = none) : ParentChain models m []
  | step {m parent : Model} {ancestors : List Model} (named : m.parentName = some parent.name)
      (mem : parent ∈ models) (rest : ParentChain models parent ancestors) :
      ParentChain models m (parent :: ancestors)

/-- What models have in common before they are reconciled: each has all properties of its parent. -/
structure Inheriting (models : List Model) : Prop where
  names : (models.map Model.name).Nodup
  own : ∀ m ∈ models, m.ownProperties = markOrdering m.allVars
  distinct : ∀ m ∈ models, (baseNames m.allVars).Nodup
  inherited : ∀ m ∈ models, ∀ parent ∈ models, m.parentName = some parent.name →
    baseNames parent.allVars ⊆ baseNames m.allVars

/-! ## Models as they are built -/

theorem Resolver.inheriting_models {r : Resolver} (keyed : r.library.Keyed) {built : List Model}
    (h : r.models = .ok built) : Inheriting built := by
  have names : built.map Model.name = r.library.keys := names_models h
  have source : ∀ m ∈ built, ∃ node, r.library.get? m.name = some node ∧
      r.model m.name node = .ok m := by
    intro m mem
    exact (get?_byName_iff keyed.names h).1 (get?_byName_of_mem (names ▸ keyed.names) mem)
  refine ⟨names ▸ keyed.names, fun m mem => ?_, fun m mem => ?_, ?_⟩
  · obtain ⟨node, -, step⟩ := source m mem
    exact (model_cases step).2.2.1
  · obtain ⟨node, found, step⟩ := source m mem
    exact nodup_baseNames_model step (keyed.nodes _ _ (Dict.mem_of_get? found))
  · intro m mem parent memParent named key hkey
    obtain ⟨node, found, step⟩ := source m mem
    obtain ⟨parentNode, hp, parentStep⟩ := source parent memParent
    have edge : parent.name ∈ r.library.parentsOf m.name := by
      unfold Library.parentsOf
      rw [found]
      exact Node.parent?_mem_allOfRefs ((model_cases step).2.1 ▸ named)
    rw [mem_baseNames_model_iff hp parentStep] at hkey
    obtain ⟨listing, reached, listed⟩ := hkey
    rw [mem_baseNames_model_iff found step]
    exact ⟨listing, .step List.not_mem_nil edge reached, listed⟩

/-! ## Chains -/

namespace ParentChain

variable {models : List Model} {m : Model} {ancestors : List Model}

theorem subset (chain : ParentChain models m ancestors) : ∀ a ∈ ancestors, a ∈ models := by
  induction chain with
  | root _ => simp
  | step _ mem _ ih => exact List.forall_mem_cons.2 ⟨mem, ih⟩

/-- A map over models that keeps their names and parents keeps chains, and makes no new ones. -/
theorem of_map {f : Model → Model} (name : ∀ m, (f m).name = m.name)
    (parentName : ∀ m, (f m).parentName = m.parentName) {reconciled : List Model}
    (chain : ParentChain (models.map f) (f m) reconciled) :
    ∃ ancestors, ParentChain models m ancestors ∧ reconciled = ancestors.map f := by
  generalize hm : f m = m' at chain
  induction chain generalizing m with
  | root last => exact ⟨[], .root (by rw [← parentName, hm, last]), rfl⟩
  | step named mem _ ih =>
    obtain ⟨parent, memParent, rfl⟩ := List.mem_map.1 mem
    obtain ⟨ancestors, chain, rfl⟩ := ih rfl
    refine ⟨parent :: ancestors, .step ?_ memParent chain, rfl⟩
    rw [← parentName, hm, named, name]

/-- Reconciliation walks along the chain of parents. -/
theorem ancestorsAlong_eq {built : Dict Model}
    (entries : ∀ a ∈ models, built.get? a.name = some a) (chain : ParentChain models m ancestors)
    {visited : List String} (fresh : (ancestors.map Model.name).Nodup)
    (new : ∀ a ∈ ancestors, a.name ∉ visited) :
    Model.ancestorsAlong built visited m.parentName = ancestors := by
  induction chain generalizing visited with
  | root last => rw [last, Model.ancestorsAlong]
  | @step m parent ancestors named mem _ ih =>
    obtain ⟨hparent, hrest⟩ := List.nodup_cons.1 fresh
    obtain ⟨newParent, newRest⟩ := List.forall_mem_cons.1 new
    rw [named, Model.ancestorsAlong_of_get? newParent (entries parent mem), ih hrest]
    intro a ha hvisited
    rcases List.mem_cons.1 hvisited with same | hvisited
    · exact hparent (same ▸ List.mem_map_of_mem ha)
    · exact newRest a ha hvisited

theorem baseNames_subset (inheriting : Inheriting models) (memModel : m ∈ models)
    (chain : ParentChain models m ancestors) :
    ∀ a ∈ ancestors, baseNames a.allVars ⊆ baseNames m.allVars := by
  induction chain with
  | root _ => simp
  | @step m parent _ named mem _ ih =>
    have first := inheriting.inherited m memModel parent mem named
    exact List.forall_mem_cons.2 ⟨first, fun a ha => List.Subset.trans (ih mem a ha) first⟩

end ParentChain

/-! ## Properties along a chain -/

theorem perm_filter_append {all some : List String} (distinctAll : all.Nodup)
    (distinctSome : some.Nodup) (sub : some ⊆ all) :
    all.Perm (all.filter (fun key => !some.contains key) ++ some) := by
  refine (List.perm_ext_iff_of_nodup distinctAll ?_).2 fun key => ?_
  · refine List.nodup_append.2 ⟨distinctAll.filter _, distinctSome, fun a ha b hb => ?_⟩
    rintro rfl
    simp [hb] at ha
  · by_cases h : key ∈ some
    · simp [h, sub h]
    · simp [h]

namespace Inheriting

variable {models : List Model} {m : Model} {ancestors : List Model}

theorem ancestors_eq (inheriting : Inheriting models) (chain : ParentChain models m ancestors)
    (fresh : ((m :: ancestors).map Model.name).Nodup) :
    m.ancestors (byName models) = ancestors := by
  obtain ⟨hm, hancestors⟩ := List.nodup_cons.1 fresh
  refine chain.ancestorsAlong_eq (fun a => get?_byName_of_mem inheriting.names) hancestors ?_
  intro a ha same
  rw [List.mem_singleton] at same
  exact hm (same ▸ List.mem_map_of_mem ha)

theorem baseNames_ownProperties (inheriting : Inheriting models) (mem : m ∈ models) :
    baseNames m.ownProperties = baseNames m.allVars := by
  simp [inheriting.own m mem]

/-- A model of a chain keeps what its parent does not have; what the parent has covers the rest. -/
theorem perm_flatMap_chain (inheriting : Inheriting models) (mem : m ∈ models)
    (chain : ParentChain models m ancestors) (fresh : ((m :: ancestors).map Model.name).Nodup) :
    (baseNames m.allVars).Perm ((m :: ancestors).flatMap fun a =>
      baseNames (a.reconcileHierarchy .properties (byName models)).ownProperties) := by
  induction chain with
  | @root m last =>
    have none : m.ancestors (byName models) = [] := inheriting.ancestors_eq (.root last) fresh
    rw [List.flatMap_cons, List.flatMap_nil, List.append_nil, Model.reconcileHierarchy_eq_foldl,
      none, List.foldl_nil, inheriting.baseNames_ownProperties mem]
  | @step m parent rest named memParent chain ih =>
    have kept : baseNames (m.reconcileHierarchy .properties (byName models)).ownProperties =
        (baseNames m.allVars).filter fun key => !(baseNames parent.allVars).contains key := by
      rw [Model.reconcileHierarchy_eq_foldl,
        inheriting.ancestors_eq (.step named memParent chain) fresh,
        Model.baseNames_foldl_reconcile, inheriting.baseNames_ownProperties mem]
      refine List.filter_congr fun key _ => ?_
      rw [List.all_cons, inheriting.baseNames_ownProperties memParent]
      -- What a further ancestor has, the parent has too.
      cases h : (baseNames parent.allVars).contains key with
      | true => rfl
      | false =>
        rw [Bool.not_false, Bool.true_and, List.all_eq_true]
        intro a ha
        rw [inheriting.baseNames_ownProperties (chain.subset a ha), Bool.not_eq_true',
          ← Bool.not_eq_true, List.contains_iff_mem]
        intro hkey
        have := chain.baseNames_subset inheriting memParent a ha hkey
        rw [← List.contains_iff_mem, h] at this
        cases this
    rw [List.flatMap_cons, kept]
    refine (perm_filter_append (inheriting.distinct m mem) (inheriting.distinct parent memParent)
      (inheriting.inherited m mem parent memParent named)).trans ?_
    exact List.Perm.append_left _ (ih memParent (List.nodup_cons.1 fresh).2)

end Inheriting

/-- Along the parents of a reconciled model, up to one without parent and without meeting a name
again, each of the model's properties is declared, and declared once. -/
theorem allVars_perm_declared {spec : Spec} (keyed : spec.Keyed) {library : Library}
    (lowered : Library.ofSpec spec = .ok library) {profile : Profile} {built : List Model}
    (modelled : Resolver.models { profile, library } = .ok built) {m : Model}
    (mem : m ∈ reconcileModels .properties built) {ancestors : List Model}
    (chain : ParentChain (reconcileModels .properties built) m ancestors)
    (fresh : ((m :: ancestors).map Model.name).Nodup) :
    (baseNames m.allVars).Nodup ∧
      (baseNames m.allVars).Perm
        ((m :: ancestors).flatMap fun a => baseNames a.ownProperties) := by
  have inheriting : Inheriting built :=
    Resolver.inheriting_models (Library.keyed_ofSpec keyed lowered) modelled
  rw [reconcileModels_eq_map] at mem chain
  obtain ⟨child, memChild, rfl⟩ := List.mem_map.1 mem
  obtain ⟨parents, builtChain, rfl⟩ :=
    chain.of_map (Model.name_reconcileHierarchy _) (Model.parentName_reconcileHierarchy _)
  have vars : (child.reconcileHierarchy .properties (byName built)).allVars = child.allVars := by
    rw [Model.reconcileHierarchy_eq_foldl]
    refine Model.allVars_foldl_reconcile (fun none => ?_) _
    rw [inheriting.own child memChild, none, markOrdering]
  have names : ((child :: parents).map Model.name).Nodup := by
    rw [← List.map_cons, List.map_map] at fresh
    have same : Model.name ∘ Model.reconcileHierarchy .properties (byName built) = Model.name :=
      funext (Model.name_reconcileHierarchy _)
    rwa [same] at fresh
  rw [vars, ← List.map_cons, List.flatMap_map]
  exact ⟨inheriting.distinct child memChild,
    inheriting.perm_flatMap_chain memChild builtChain names⟩

/-- A document with dogs, which are pets and say so twice. -/
def kennel : Spec :=
  let text : OrRef Spec.Schema := .inline { type := some (.single .string) }
  let pet : Spec.Schema := { properties := [("name", text)] }
  let extra : Spec.Schema := { properties := [("name", text), ("bark", text)] }
  { openapi := "3.0.3"
    info := { title := "Kennel", version := "1" }
    components := some {
      schemas := [
        ("Dog", .inline { allOf := [.ref "#/components/schemas/Pet", .inline extra] }),
        ("Pet", .inline pet)] } }

theorem keyed_kennel : kennel.Keyed := by
  refine ⟨by decide, fun name schema mem => ?_⟩
  rcases List.mem_cons.1 mem with h | h
  · cases h
    exact List.nodup_nil
  · rcases List.mem_cons.1 h with h | h
    · cases h
      decide
    · cases h

theorem allVars_perm_declared_dog : ∃ library built dog pet,
    Library.ofSpec kennel = .ok library ∧
    Resolver.models { profile := Language.go.profile, library } = .ok built ∧
    dog ∈ reconcileModels .properties built ∧ dog.name = "Dog" ∧ pet.name = "Pet" ∧
    ParentChain (reconcileModels .properties built) dog [pet] ∧
    (baseNames dog.allVars).Nodup ∧ (baseNames dog.allVars).Perm
      ([dog, pet].flatMap fun a => baseNames a.ownProperties) := by
  let petNode : Node := .object [("name", .scalar "string")] [] none
  let extra : Node := .object [("name", .scalar "string"), ("bark", .scalar "string")] [] none
  let library : Library := [("Dog", .composed .allOf [.ref "Pet", extra] none), ("Pet", petNode)]
  have lowered : Library.ofSpec kennel = .ok library := rfl
  have : ∃ built, Resolver.models { profile := Language.go.profile, library } = .ok built := by
    simp [library, extra, petNode, Resolver.models, Resolver.model, Resolver.contributed,
      Resolver.contributedByAll, Resolver.properties, Resolver.property, Resolver.declare,
      Resolver.baseType, Resolver.innermost, Resolver.containerOf, Resolver.declareWithin,
      Node.scalar, Library.find, Dict.get?, List.lookup, bind, Except.bind, pure, Except.pure]
  obtain ⟨built, modelled⟩ := this
  obtain ⟨dog, _, hdog, afterDog, rfl⟩ :=
    List.forall₂_cons_left_iff.1 (mapM_eq_ok_iff.1 modelled)
  obtain ⟨pet, _, hpet, afterPet, rfl⟩ := List.forall₂_cons_left_iff.1 afterDog
  obtain rfl := List.forall₂_nil_left_iff.1 afterPet
  obtain ⟨dogName, dogParent, -, -⟩ := Resolver.model_cases hdog
  obtain ⟨petName, petParent, -, -⟩ := Resolver.model_cases hpet
  replace dogParent : dog.parentName = some "Pet" := dogParent
  replace petParent : pet.parentName = none := petParent
  have mem (m : Model) (h : m ∈ [dog, pet]) :
      m.reconcileHierarchy .properties (byName [dog, pet]) ∈
        reconcileModels .properties [dog, pet] :=
    List.mem_map_of_mem h
  have chain : ParentChain (reconcileModels .properties [dog, pet])
      (dog.reconcileHierarchy .properties (byName [dog, pet]))
      [pet.reconcileHierarchy .properties (byName [dog, pet])] := by
    refine .step ?_ (mem _ (by simp)) (.root ?_)
    · simp [dogParent, petName]
    · simp [petParent]
  refine ⟨library, _, _, _, lowered, modelled, mem _ (by simp), ?_, ?_, chain, ?_⟩
  · simp [dogName]
  · simp [petName]
  · refine allVars_perm_declared keyed_kennel lowered modelled (mem _ (by simp)) chain ?_
    simp [dogName, petName]

end OpenApiGen
