import Mathlib
import OpenApiGen.Profile.Builtin
import OpenApiGen.Proofs.Model.Flattening

/-!
# Models and reachable components

A model has the keys of all components that can be reached from its own over references of `allOf`
schemas, each of them once, whatever cycles these references form
(`Resolver.mem_baseNames_iff_reachable`).  Flattening ends on every document, as each call that it
nests leaves fewer components or a smaller node (`Library.wellFounded_nests`).
-/

namespace OpenApiGen

namespace Library

/-- A component takes properties from another one. -/
def TakesFrom (library : Library) (name parent : String) : Prop :=
  parent ∈ library.parentsOf name

theorem reaches_nil_iff {library : Library} {n m : String} :
    library.Reaches [] n m ↔ Relation.ReflTransGen library.TakesFrom n m := by
  constructor
  · intro h
    induction h with
    | here _ => exact .refl
    | step _ edge _ ih => exact .head edge ih
  · intro h
    induction h using Relation.ReflTransGen.head_induction_on with
    | refl => exact .here List.not_mem_nil
    | head edge _ ih => exact .step List.not_mem_nil edge ih

/-! ## Flattening ends -/

/-- Flattening a node, while some components are being looked at, requires flattening another node
first: a member that is written in place, or the component of a member that is a reference. -/
inductive Nests (library : Library) : List String × Node → List String × Node → Prop
  | inline {visiting : List String} {members : List Node} {tag : Option String} {member : Node}
      (mem : member ∈ members) (notRef : ∀ name, member ≠ .ref name) :
      Nests library (visiting, .composed .allOf members tag) (visiting, member)
  | component {visiting : List String} {members : List Node} {tag : Option String} {name : String}
      {target : Node} (mem : .ref name ∈ members) (new : name ∉ visiting)
      (found : library.get? name = some target) :
      Nests library (visiting, .composed .allOf members tag) (name :: visiting, target)

/-- No flattening is nested without end. -/
theorem wellFounded_nests (library : Library) :
    WellFounded fun inner outer => library.Nests outer inner := by
  refine Dict.wellFounded_of_countOutside library Prod.fst (fun call => sizeOf call.2) ?_
  intro inner outer nested
  cases nested with
  | inline mem _ =>
    refine Prod.Lex.right _ ?_
    have := List.sizeOf_lt_of_mem mem
    simp only [Node.composed.sizeOf_spec]
    omega
  | component _ new found => exact Prod.Lex.left _ _ (Dict.countOutside_cons_lt found new)

end Library

namespace Resolver

variable {r : Resolver} {name : String} {node : Node} {m : Model}

/-- The keys of a model, given that the properties of its own schema have distinct keys as in any
document that was read: each occurs once, and they are those of all components that can be reached.
No component has to be free of cycles for that, nor for flattening to end. -/
theorem mem_baseNames_iff_reachable (found : r.library.get? name = some node)
    (distinct : node.Keyed) (h : r.model name node = .ok m) :
    Acc (fun inner outer => r.library.Nests outer inner) ([name], node) ∧
      (baseNames m.ownProperties).Nodup ∧
      ∀ key, key ∈ baseNames m.ownProperties ↔
        ∃ n, Relation.ReflTransGen r.library.TakesFrom name n ∧ key ∈ r.library.keysOf n := by
  have own : baseNames m.ownProperties = baseNames m.allVars := by
    obtain ⟨-, -, hown, -⟩ := model_cases h
    rw [hown, baseNames_markOrdering]
  refine ⟨r.library.wellFounded_nests.apply _, ?_, fun key => ?_⟩
  · rw [own]
    exact nodup_baseNames_model h distinct
  · rw [own, mem_baseNames_model_iff found h]
    simp only [Library.Supplies, Library.reaches_nil_iff]

/-- Two components that take their properties from each other. -/
def mutualLibrary : Library :=
  [("Hen", .composed .allOf [.ref "Egg", .object [("lays", .scalar "boolean")] [] none] none),
    ("Egg", .composed .allOf [.ref "Hen", .object [("size", .scalar "integer")] [] none] none)]

theorem mem_baseNames_hen_iff_reachable : ∃ node m,
    mutualLibrary.get? "Hen" = some node ∧ node.Keyed ∧
      Resolver.model ⟨.go, mutualLibrary⟩ "Hen" node = .ok m ∧
      Acc (fun inner outer => mutualLibrary.Nests outer inner) (["Hen"], node) ∧
      (baseNames m.ownProperties).Nodup ∧
      ∀ key, key ∈ baseNames m.ownProperties ↔
        ∃ n, Relation.ReflTransGen mutualLibrary.TakesFrom "Hen" n ∧
          key ∈ mutualLibrary.keysOf n := by
  let r : Resolver := ⟨.go, mutualLibrary⟩
  have built : ∃ m, r.model "Hen" (.composed .allOf
      [.ref "Egg", .object [("lays", .scalar "boolean")] [] none] none) = .ok m := by
    simp [r, mutualLibrary, model, contributed, contributedByAll, properties, property, declare,
      declareWithin, baseType, innermost, containerOf, Node.scalar, Library.find, Dict.get?,
      List.lookup, bind, Except.bind, pure, Except.pure]
  obtain ⟨m, h⟩ := built
  exact ⟨_, m, rfl, trivial, h, mem_baseNames_iff_reachable (r := r) rfl trivial h⟩

end Resolver

end OpenApiGen
