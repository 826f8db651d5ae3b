import OpenApiGen.Model.Build
import OpenApiGen.Proofs.Profile
import OpenApiGen.Proofs.Schema.Declaration

/-!
# References and the classes they name

A reference to a component that is neither an array nor a map is declared by a name.  It is the name
of the class that is generated for the component, unless the component is called like a type that
the language knows already (`Resolver.declare_ref_eq_className`).
-/

namespace OpenApiGen

/-! ## Names of types -/

/-- The names that mean a type of a language without any model: those of its type table, the types
that they stand for, and the built-in types. -/
def Language.typeNames (language : Language) : List String :=
  let p := language.profile
  p.types.entries.keys ++ p.types.entries.values ++ p.builtins.primitives ++ p.builtins.includes

theorem Language.mem_typeNames_iff {language : Language} {o : Options} {p : Profile}
    (h : language.profile.withOptions o = .ok p) {name : String} :
    name ∈ language.typeNames ↔
      (∃ t, p.types.get? name = some t) ∨
        (p.builtins.contains name || p.types.hasTarget name) = true := by
  obtain ⟨types, builtins⟩ := Profile.types_of_withOptions h
  have key : (∃ t, p.types.get? name = some t) ↔ name ∈ p.types.entries.keys := by
    rw [← not_iff_not, ← Dict.get?_eq_none_iff]
    exact not_exists.trans Option.eq_none_iff_forall_ne_some.symm
  rw [key]
  unfold typeNames Builtins.contains TypeTable.hasTarget
  rw [types, builtins]
  simp only [List.mem_append, Bool.or_eq_true, List.contains_iff_mem]
  tauto

namespace Resolver

variable {r : Resolver} {name : String}

/-- A name that means no type of the language is mapped to the name of a class. -/
theorem mapType_of_notMem_typeNames {language : Language} {o : Options}
    (h : language.profile.withOptions o = .ok r.profile) (unknown : name ∉ language.typeNames) :
    r.mapType name = r.profile.toModelName name := by
  rw [Language.mem_typeNames_iff h, not_or, not_exists] at unknown
  rw [mapType_of_get?_none (Option.eq_none_iff_forall_ne_some.2 unknown.1), if_neg unknown.2]

/-! ## Names of classes -/

theorem className_model {node : Node} {m : Model} (h : r.model name node = .ok m) :
    m.className = r.profile.toModelName name := by
  unfold model at h
  dsimp only at h
  generalize r.profile.toModelName name = className at h ⊢
  cases node with
  | array items tag | map value tag =>
    obtain ⟨dataType, -, h⟩ := bind_eq_ok_iff.1 h
    obtain ⟨itemType, -, h⟩ := bind_eq_ok_iff.1 h
    cases h
    rfl
  | _ =>
    obtain ⟨part, -, h⟩ := bind_eq_ok_iff.1 h
    cases h
    rfl

/-- Let a component be neither an array nor a map.  Wherever a type refers to it, also within the
aliases in `opened`, it is declared by the name of the component's class, if the language has no
type of the component's own name.  Such a type goes before the class: a name of the type table is
declared as what it stands for there, and any other name of a type as itself. -/
theorem declare_ref_eq_className {language : Language} {o : Options} {p : Profile}
    (h : language.profile.withOptions o = .ok p) {library : Library} {node : Node}
    (found : library.get? name = some node) (plain : node.isContainer = false) {m : Model}
    (built : Resolver.model ⟨p, library⟩ name node = .ok m) (opened : List String) :
    (name ∉ language.typeNames →
      Resolver.declareWithin ⟨p, library⟩ opened (.ref name) = .ok m.className) ∧
    (∀ t, language.profile.types.get? name = some t →
      Resolver.declareWithin ⟨p, library⟩ opened (.ref name) =
        .ok (if language.profile.builtins.contains t then t else p.toModelName t)) ∧
    (name ∈ language.typeNames → language.profile.types.get? name = none →
      Resolver.declareWithin ⟨p, library⟩ opened (.ref name) = .ok name) := by
  let r : Resolver := ⟨p, library⟩
  have declared : r.declareWithin opened (.ref name) = .ok (r.mapType name) :=
    declareWithin_ref_of_not_container found plain
  obtain ⟨types, builtins⟩ := Profile.types_of_withOptions h
  rw [declared, ← types, ← builtins, Language.mem_typeNames_iff h, className_model built]
  refine ⟨fun unknown => ?_, fun t mapped => ?_, fun known unmapped => ?_⟩
  · rw [not_or, not_exists] at unknown
    rw [mapType_of_get?_none (Option.eq_none_iff_forall_ne_some.2 unknown.1), if_neg unknown.2]
  · rw [mapType_of_get? mapped]
  · have own := known.resolve_left fun ⟨t, mapped⟩ => by
      rw [unmapped] at mapped
      cases mapped
    rw [mapType_of_get?_none unmapped, if_pos own]

theorem declare_ref_pet_eq_className :
    let library : Library := [("Pet", .object [] [] none)]
    ∃ p m, Language.swift5.profile.withOptions { modelPrefix := some "Api" } = .ok p ∧
      library.get? "Pet" = some (.object [] [] none) ∧
      Resolver.model ⟨p, library⟩ "Pet" (.object [] [] none) = .ok m ∧
      "Pet" ∉ Language.swift5.typeNames ∧
      Resolver.declareWithin ⟨p, library⟩ [] (.ref "Pet") = .ok m.className := by
  intro library
  have unknown : "Pet" ∉ Language.swift5.typeNames := by decide +kernel
  refine ⟨_, _, rfl, rfl, rfl, unknown, ?_⟩
  exact (declare_ref_eq_className (o := { modelPrefix := some "Api" }) rfl rfl rfl rfl []).1 unknown

/-- In Go a component called `File` has a class of that name, which no reference to it names. -/
theorem declare_ref_file_ne_className :
    let r : Resolver := ⟨.go, [("File", .object [] [] none)]⟩
    ∃ m, Language.go.profile.withOptions {} = .ok r.profile ∧
      r.library.get? "File" = some (.object [] [] none) ∧
      r.model "File" (.object [] [] none) = .ok m ∧ m.className = "File" ∧
      r.declare (.ref "File") = .ok "*os.File" := by
  intro r
  have className : Profile.go.toModelName "File" = "File" := by decide +kernel
  have mapped : r.mapType "File" = "*os.File" := by decide +kernel
  obtain ⟨m, built⟩ : ∃ m, r.model "File" (.object [] [] none) = .ok m := ⟨_, rfl⟩
  refine ⟨m, rfl, rfl, built, ?_, ?_⟩
  · rw [className_model built, className]
  · have found : r.library.get? "File" = some (.object [] [] none) := rfl
    rw [declare, declareWithin_ref_of_not_container found rfl, mapped]

end Resolver

end OpenApiGen
