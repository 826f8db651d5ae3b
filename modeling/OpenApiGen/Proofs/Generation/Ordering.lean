import OpenApiGen.Proofs.Generation.References
import OpenApiGen.Proofs.Generation.Views
import OpenApiGen.Proofs.Model.Hierarchy

/-!
# Flags for positions in the result of a run

A model is fresh when it is built, and all later steps keep it so: reconciliation tells it anew
where it takes properties away, and marks and decoration do not touch what freshness is about.  So
in the result of a run what follows from own properties agrees with them (`fresh_of_generateWith`).

The copies of properties among all variables and among those of the parent are made before positions
are flagged, and are never flagged later.  So they say of no property that another one follows,
which is right only for lists of one property (`separated_views_iff`).
-/

namespace OpenApiGen

/-! ## Built models -/

namespace Resolver

variable {r : Resolver} {name : String} {node : Node} {m : Model}

/-- To tell what follows from the own properties is the last step of building a model. -/
theorem exists_refreshed_of_model (h : r.model name node = .ok m) :
    ∃ plain : Model, plain.refreshed = m ∧ plain.parentVars = [] := by
  unfold model at h
  dsimp only at h
  cases node with
  | enum base literals default_ =>
    obtain ⟨dataType, -, h⟩ := bind_eq_ok_iff.1 h
    cases h
    exact ⟨_, rfl, rfl⟩
  | object entries required description | composed kind members tag =>
    obtain ⟨ps, -, h⟩ := bind_eq_ok_iff.1 h
    cases h
    exact ⟨_, rfl, rfl⟩
  | array items tag | map value tag =>
    obtain ⟨dataType, -, h⟩ := bind_eq_ok_iff.1 h
    obtain ⟨itemType, -, h⟩ := bind_eq_ok_iff.1 h
    cases h
    exact ⟨_, rfl, rfl⟩
  | primitive typeName pattern default_ | ref target =>
    obtain ⟨dataType, -, h⟩ := bind_eq_ok_iff.1 h
    cases h
    exact ⟨_, rfl, rfl⟩

theorem fresh_model (h : r.model name node = .ok m) : m.Fresh := by
  obtain ⟨plain, rfl, -⟩ := exists_refreshed_of_model h
  exact Model.fresh_refreshed plain

theorem parentVars_model (h : r.model name node = .ok m) : m.parentVars = [] := by
  obtain ⟨plain, rfl, none⟩ := exists_refreshed_of_model h
  exact none

theorem unplaced_property {key : String} {required : Bool} {p : Property}
    (h : r.property key node required = .ok p) : p.hasMore = false ∧ p.hasMoreRequired = false := by
  obtain ⟨-, -, -, -, -, unplaced⟩ := property_cases h
  exact unplaced

theorem unplaced_allVars (h : r.model name node = .ok m) : Unplaced m.allVars := by
  intro p mem
  obtain ⟨key, node, required, made⟩ := exists_property_of_mem_allVars h mem
  exact unplaced_property made

end Resolver

/-! ## Later steps -/

theorem Unplaced.map {ps : List Property} (h : Unplaced ps) {f : Property → Property}
    (hasMore : ∀ p, (f p).hasMore = p.hasMore)
    (hasMoreRequired : ∀ p, (f p).hasMoreRequired = p.hasMoreRequired) : Unplaced (ps.map f) := by
  intro p mem
  obtain ⟨q, there, rfl⟩ := List.mem_map.1 mem
  rw [hasMore, hasMoreRequired]
  exact h q there

theorem Model.Fresh.markRecursive {m : Model} (h : m.Fresh) (r : Resolver) :
    (r.markRecursive m).Fresh := by
  rw [r.markRecursive_eq]
  exact h.map (f := Property.marked r.profile.builtins m.className) (fun _ => rfl) (fun _ => rfl)
    (fun _ => rfl) (fun _ => rfl) (fun _ => rfl) rfl rfl rfl

namespace Language

variable {language : Language} {options : Options} {m : Model}

@[simp] theorem baseName_decorateOwn (className : String) (p : Property) :
    (language.decorateOwn options className p).baseName = p.baseName := by
  cases language <;> rfl

@[simp] theorem baseName_decorate (p : Property) :
    (language.decorate options p).baseName = p.baseName := by
  cases language <;> rfl

theorem fresh_decorateModel (h : m.Fresh) : (language.decorateModel options m).Fresh := by
  refine h.map (f := language.decorateOwn options m.className) ?_ ?_ ?_ ?_
    (baseName_decorateOwn m.className) rfl rfl rfl
  all_goals cases language <;> exact fun _ => rfl

theorem unplaced_map_decorate {ps : List Property} (h : Unplaced ps) :
    Unplaced (ps.map (language.decorate options)) := by
  refine h.map ?_ ?_
  all_goals cases language <;> exact fun _ => rfl

end Language

namespace Resolver

variable {r : Resolver} {built : List Model} {b : Model} {language : Language} {options : Options}
  {name : String} {node : Node}

theorem fresh_finished (made : r.model name node = .ok b) :
    (r.finished language options built b).Fresh :=
  Language.fresh_decorateModel
    (((fresh_model made).reconcileHierarchy r.profile.reconcile (byName built)).markRecursive r)

theorem baseNames_finished_sublist (made : r.model name node = .ok b) :
    (baseNames (r.finished language options built b).ownProperties).Sublist
      (baseNames b.allVars) := by
  have among := Model.ownAmongAll_of_model made
  have left := (among.reconcileHierarchy r.profile.reconcile (byName built)).baseNames_sublist
  rw [among.allVars_reconcileHierarchy] at left
  have finished : baseNames (r.finished language options built b).ownProperties =
      baseNames (b.reconcileHierarchy r.profile.reconcile (byName built)).ownProperties := by
    unfold finished Language.decorateModel
    rw [r.markRecursive_eq]
    dsimp only [baseNames]
    rw [List.map_map, List.map_map]
    exact List.map_congr_left fun p _ => Language.baseName_decorateOwn _ _
  rwa [finished]

theorem unplaced_finished (modelled : r.models = .ok built) (mem : b ∈ built) :
    Unplaced (r.finished language options built b).allVars ∧
      Unplaced (r.finished language options built b).parentVars := by
  have unplaced : ∀ a ∈ built, Unplaced a.allVars := by
    intro a memBuilt
    obtain ⟨name, node, made⟩ := exists_model_of_mem modelled memBuilt
    exact unplaced_allVars made
  obtain ⟨name, node, made⟩ := exists_model_of_mem modelled mem
  constructor
  · show Unplaced ((r.markRecursive _).allVars.map (language.decorate options))
    refine Language.unplaced_map_decorate ?_
    rw [r.markRecursive_eq]
    dsimp only
    rw [(Model.ownAmongAll_of_model made).allVars_reconcileHierarchy]
    exact (unplaced b mem).map (f := Property.marked _ _) (fun _ => rfl) fun _ => rfl
  · rw [parentVars_finished]
    refine Language.unplaced_map_decorate ?_
    rcases Model.parentVars_reconcileHierarchy_cases r.profile.reconcile built b with
      none | ⟨parent, memParent, copied⟩
    · rw [none, parentVars_model made]
      intro p never
      cases never
    · rw [copied]
      exact unplaced parent memParent

end Resolver

/-! ## Runs -/

variable {profile : Profile} {options : Options} {spec : Spec} {out : Output} {m : Model}

/-- Pets have an identity and a name, which dogs take over. -/
def breeds : Spec :=
  let text : OrRef Spec.Schema := .inline { type := some (.single .string) }
  schemaDocument
    [("Pet", .inline { properties := [("id", text), ("name", text)], required := ["id", "name"] }),
      ("Dog", .inline {
        allOf := [.ref "#/components/schemas/Pet", .inline { properties := [("bark", text)] }] })]

/-- The nodes of the schemas in `breeds`. -/
def breedsLibrary : Library :=
  [("Pet", .object [("id", .scalar "string"), ("name", .scalar "string")] ["id", "name"] none),
    ("Dog", .composed .allOf [.ref "Pet", .object [("bark", .scalar "string")] [] none] none)]

/-- In each language there is a run for `breeds`, where pets have two variables and a dog is a
pet. -/
theorem exists_generate_breeds (language : Language) : ∃ out pet dog,
    generateWith language.profile {} breeds = .ok out ∧ pet ∈ out.models ∧ dog ∈ out.models ∧
      pet.name = "Pet" ∧ dog.name = "Dog" ∧ dog.parentName = some "Pet" ∧
      baseNames pet.allVars = ["id", "name"] := by
  let r : Resolver := ⟨language.profile, breedsLibrary⟩
  have configured : language.profile.withOptions {} = .ok language.profile := by
    cases language <;> rfl
  have lowered : Library.ofSpec breeds = .ok breedsLibrary := rfl
  have closed : ∀ c ∈ breedsLibrary, ∀ name ∈ c.2.modelRefs, name ∈ breedsLibrary.keys := by
    decide
  obtain ⟨built, modelled⟩ := r.exists_models_iff.2 closed
  obtain ⟨pet, _, hpet, afterPet, rfl⟩ :=
    List.forall₂_cons_left_iff.1 (mapM_eq_ok_iff.1 modelled)
  obtain ⟨dog, _, hdog, afterDog, rfl⟩ := List.forall₂_cons_left_iff.1 afterPet
  obtain rfl := List.forall₂_nil_left_iff.1 afterDog
  have run : generateWith language.profile {} breeds =
      .ok ((r.output [pet, dog] []).decorated {}) :=
    generateWith_eq_ok_iff.2 ⟨_, configured, _, describe_eq_ok_iff.2
      ⟨breedsLibrary, lowered, _, modelled, [], rfl, rfl⟩, rfl⟩
  have finished (b : Model) (mem : b ∈ [pet, dog]) :
      r.finished r.profile.language {} [pet, dog] b ∈
        ((r.output [pet, dog] []).decorated {}).models := by
    rw [r.models_output_decorated]
    exact List.mem_map_of_mem mem
  obtain ⟨petName, -, -, petVars⟩ := Resolver.model_cases hpet
  obtain ⟨dogName, dogParent, -, -⟩ := Resolver.model_cases hdog
  have vars : baseNames pet.allVars = ["id", "name"] := by
    rw [Resolver.contributed] at petVars
    exact Resolver.baseNames_properties petVars
  refine ⟨_, _, _, run, finished pet (by simp), finished dog (by simp),
    Resolver.name_finished.trans petName, Resolver.name_finished.trans dogName,
    Resolver.parentName_finished.trans dogParent, ?_⟩
  rw [Resolver.allVars_finished hpet, baseNames, List.map_map, ← vars]
  exact List.map_congr_left fun p _ => by simp

/-- In a run with any profile, on a document whose component schemas have distinct names and so have
the properties of each: what follows from the own properties of a model agrees with them, and they
have distinct names. -/
theorem fresh_of_generateWith (keyed : spec.Keyed) (h : generateWith profile options spec = .ok out)
    (mem : m ∈ out.models) : m.Fresh ∧ (baseNames m.ownProperties).Nodup := by
  obtain ⟨r, built, lowered, modelled, -, models⟩ := exists_built_of_generateWith h
  rw [models] at mem
  obtain ⟨b, memBuilt, rfl⟩ := List.mem_map.1 mem
  obtain ⟨⟨name, node⟩, memLibrary, made⟩ := exists_mem_of_mapM modelled memBuilt
  have distinct : node.Keyed := (Library.keyed_ofSpec keyed lowered).nodes name node memLibrary
  refine ⟨Resolver.fresh_finished made, ?_⟩
  exact (Resolver.nodup_baseNames_model made distinct).sublist
    (Resolver.baseNames_finished_sublist made)

theorem fresh_of_generateWith_breeds :
    breeds.Keyed ∧ ∃ out dog, generateWith Language.swift5.profile {} breeds = .ok out ∧
      dog ∈ out.models ∧ dog.name = "Dog" ∧ dog.Fresh ∧ (baseNames dog.ownProperties).Nodup := by
  have keyed : breeds.Keyed := by
    refine ⟨by decide, fun name schema mem => ?_⟩
    rcases List.mem_cons.1 mem with h | h
    · cases h
      decide
    · cases List.mem_singleton.1 h
      decide
  obtain ⟨out, -, dog, run, -, mem, -, name, -⟩ := exists_generate_breeds .swift5
  exact ⟨keyed, out, dog, run, mem, name, fresh_of_generateWith keyed run mem⟩

theorem unplaced_of_generateWith (h : generateWith profile options spec = .ok out)
    (mem : m ∈ out.models) : Unplaced m.allVars ∧ Unplaced m.parentVars := by
  obtain ⟨r, built, -, modelled, -, models⟩ := exists_built_of_generateWith h
  rw [models] at mem
  obtain ⟨b, memBuilt, rfl⟩ := List.mem_map.1 mem
  exact Resolver.unplaced_finished modelled memBuilt

/-- In a run with any profile, no property says that another one follows, among all variables of a
model and among those of its parent.  So the properties that another one follows say so just when
there is none. -/
theorem separated_views_iff (h : generateWith profile options spec = .ok out)
    (mem : m ∈ out.models) :
    Unplaced m.allVars ∧ Unplaced m.parentVars ∧
      (Separated m.allVars ↔ m.allVars.length ≤ 1) ∧
      (Separated m.parentVars ↔ m.parentVars.length ≤ 1) := by
  obtain ⟨all, parent⟩ := unplaced_of_generateWith h mem
  exact ⟨all, parent, all.separated_iff, parent.separated_iff⟩

theorem separated_views_iff_breeds :
    ∃ out dog, generateWith Language.pythonFlask.profile {} breeds = .ok out ∧ dog ∈ out.models ∧
      dog.name = "Dog" ∧ Unplaced dog.allVars ∧ Unplaced dog.parentVars ∧
      (Separated dog.allVars ↔ dog.allVars.length ≤ 1) ∧
      (Separated dog.parentVars ↔ dog.parentVars.length ≤ 1) := by
  obtain ⟨out, -, dog, run, -, mem, -, name, -⟩ := exists_generate_breeds .pythonFlask
  exact ⟨out, dog, run, mem, name, separated_views_iff run mem⟩

/-- In Go a pet has two variables, and the first one does not say that another one follows; neither
does its copy in a dog. -/
theorem not_separated_views_breeds :
    ∃ out pet dog, generate .go {} breeds = .ok out ∧ pet ∈ out.models ∧ dog ∈ out.models ∧
      ¬ Separated pet.allVars ∧ ¬ Separated dog.parentVars := by
  obtain ⟨out, pet, dog, run, memPet, memDog, pet_, dog_, parent, vars⟩ :=
    exists_generate_breeds .go
  have named : dog.parentName = some pet.name := by rw [parent, pet_]
  have other : pet.name ≠ dog.name := by
    rw [pet_, dog_]
    decide
  have two : pet.allVars.length = 2 := by
    rw [← List.length_map (f := Property.baseName)]
    exact congrArg List.length vars
  have copied : dog.parentVars.length = 2 := by
    rw [(parentVars_of_generateWith (by decide) run memDog memPet named other).1, List.length_map,
      two]
  refine ⟨out, pet, dog, run, memPet, memDog, ?_, ?_⟩
  · rw [(unplaced_of_generateWith run memPet).1.separated_iff, two]
    decide
  · rw [(unplaced_of_generateWith run memDog).2.separated_iff, copied]
    decide

end OpenApiGen
