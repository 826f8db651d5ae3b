import Mathlib
import OpenApiGen.Proofs.Generation.Basic
import OpenApiGen.Proofs.Operation.Extension

/-!
# Runs and further components

The models and operations of a document depend on the components that they refer to, and neither on
their order nor on any others (`generate_of_le`).
-/

namespace OpenApiGen

variable {s s' : Spec}

theorem Library.le_of_le (le : s.Le s') {library library' : Library}
    (h : ofSpec s = .ok library) (h' : ofSpec s' = .ok library') : Dict.Le library library' := by
  intro name node found
  obtain ⟨schema, hschema, lowered⟩ := (get?_ofSpec_iff h).1 found
  exact (get?_ofSpec_iff h').2 ⟨schema, le.schemas name schema hschema, lowered⟩

theorem Resolver.Le.model?_output {r r' : Resolver} (le : r.Le r')
    (distinct : r.library.keys.Nodup) (distinct' : r'.library.keys.Nodup)
    {built built' : List Model} (h : r.models = .ok built) (h' : r'.models = .ok built')
    (operations operations' : List Operation) {name : String} (mem : name ∈ r.library.keys) :
    ∃ m, (r.output built operations).model? name = some m ∧
      (r'.output built' operations').model? name = some m := by
  obtain ⟨m, found⟩ := exists_model distinct h mem
  have models := le.models distinct distinct' h h'
  have hname : m.name = name := by
    obtain ⟨node, -, step⟩ := (get?_byName_iff distinct h).1 found
    exact (model_cases step).1
  subst hname
  refine ⟨r.markRecursive (m.reconcileHierarchy r.profile.reconcile (byName built)), ?_, ?_⟩
  · rw [Resolver.model?_output distinct h, found]
    rfl
  · rw [Resolver.model?_output distinct' h', models _ m found, Option.map_some, le.markRecursive,
      le.profile, Model.reconcileHierarchy_of_le models (grounded distinct h) found]

theorem describe_of_le {profile : Profile} (le : s.Le s')
    (distinct : (s.component Spec.Components.schemas).keys.Nodup)
    (distinct' : (s'.component Spec.Components.schemas).keys.Nodup) {o o' : Output}
    (h : describe profile s = .ok o) (h' : describe profile s' = .ok o') :
    o'.language = o.language ∧ o'.operations = o.operations ∧
      ∀ name ∈ (s.component Spec.Components.schemas).keys,
        ∃ m, o.model? name = some m ∧ o'.model? name = some m := by
  obtain ⟨library, lowered, built, modelled, operations, described, rfl⟩ := describe_eq_ok_iff.1 h
  obtain ⟨library', lowered', built', modelled', operations', described', rfl⟩ :=
    describe_eq_ok_iff.1 h'
  have resolverLe : Resolver.Le { profile, library } { profile, library := library' } :=
    ⟨rfl, Library.le_of_le le lowered lowered'⟩
  refine ⟨rfl, ?_, ?_⟩
  · exact Except.ok.inj (described'.symm.trans (resolverLe.operations le described))
  · rw [← Library.keys_ofSpec lowered] at distinct ⊢
    rw [← Library.keys_ofSpec lowered'] at distinct'
    intro name mem
    exact resolverLe.model?_output distinct distinct' modelled modelled' operations operations' mem

/-- Runs for one language with the same settings have one profile. -/
theorem exists_describe_of_generate {language : Language} {options : Options} {out out' : Output}
    (h : generate language options s = .ok out) (h' : generate language options s' = .ok out') :
    ∃ profile o o', describe profile s = .ok o ∧ describe profile s' = .ok o' ∧
      o.decorated options = out ∧ o'.decorated options = out' := by
  obtain ⟨profile, configured, o, ran, decorated⟩ := generate_eq_ok_iff.1 h
  obtain ⟨profile', configured', o', ran', decorated'⟩ := generate_eq_ok_iff.1 h'
  obtain rfl : profile = profile' := Except.ok.inj (configured.symm.trans configured')
  exact ⟨profile, o, o', ran, ran', decorated, decorated'⟩

/-- Decoration changes the results of both runs alike. -/
theorem decorated_of_le {profile : Profile} (le : s.Le s')
    (distinct : (s.component Spec.Components.schemas).keys.Nodup)
    (distinct' : (s'.component Spec.Components.schemas).keys.Nodup) {o o' : Output}
    (h : describe profile s = .ok o) (h' : describe profile s' = .ok o') (options : Options) :
    (∀ name ∈ (s.component Spec.Components.schemas).keys,
      ∃ m, (o.decorated options).model? name = some m ∧
        (o'.decorated options).model? name = some m) ∧
    (o'.decorated options).operations = (o.decorated options).operations := by
  obtain ⟨sameLanguage, operations, models⟩ := describe_of_le le distinct distinct' h h'
  refine ⟨fun name mem => ?_, Output.operations_decorated sameLanguage operations options⟩
  obtain ⟨m, found, found'⟩ := models name mem
  obtain ⟨f, decorated, decorated'⟩ := Output.exists_model?_decorated sameLanguage options name
  refine ⟨f m, ?_, ?_⟩
  · rw [decorated, found, Option.map_some]
  · rw [decorated', found', Option.map_some]

/-- Let a document have all components of another one with the same paths, in any order and perhaps
among further ones; names of component schemas are distinct, as in any document that was read.  If
there is a run for either, then each component schema of the smaller one has the same model in both,
and the operations are the same. -/
theorem generate_of_le {language : Language} {options : Options} (le : s.Le s')
    (distinct : (s.component Spec.Components.schemas).keys.Nodup)
    (distinct' : (s'.component Spec.Components.schemas).keys.Nodup) {out out' : Output}
    (h : generate language options s = .ok out) (h' : generate language options s' = .ok out') :
    (∀ name ∈ (s.component Spec.Components.schemas).keys,
      ∃ m, out.model? name = some m ∧ out'.model? name = some m) ∧
    out'.operations = out.operations := by
  obtain ⟨profile, o, o', ran, ran', rfl, rfl⟩ := exists_describe_of_generate h h'
  exact decorated_of_le le distinct distinct' ran ran' options

/-- An operation that returns a dog. -/
def fetchDog : Spec.Operation where
  responses := [("200", .ref "#/components/responses/Dog")]

/-- A document with an operation that returns a dog, for given component schemas. -/
def petShop (schemas : Dict (OrRef Spec.Schema)) : Spec where
  openapi := "3.0.3"
  info := { title := "Pet shop", version := "1" }
  paths := [("/dog", { get := some fetchDog })]
  components := some {
    schemas
    responses := [("Dog", .inline {
      content := [("application/json", { schema := some (.ref "#/components/schemas/Dog") })] })] }

/-- Pets have a name. -/
def petSchema : OrRef Spec.Schema :=
  .inline { properties := [("name", .inline { type := some (.single .string) })] }

/-- A kind of pets is a pet. -/
def kindSchema : OrRef Spec.Schema :=
  .inline { allOf := [.ref "#/components/schemas/Pet"] }

/-- The node of `petSchema`. -/
def petNode : Node := .object [("name", .scalar "string")] [] none

/-- The node of `kindSchema`. -/
def kindNode : Node := .composed .allOf [.ref "Pet"] none

theorem exists_models_of_pets {r : Resolver} (pet : r.library.find "Pet" = .ok petNode)
    (nodes : ∀ e ∈ r.library, e.2 = petNode ∨ e.2 = kindNode) : ∃ built, r.models = .ok built := by
  have pets : ∃ ps, r.properties [("name", .scalar "string")] [] = .ok ps := by
    simp [Resolver.properties, Resolver.property, Resolver.declare, Resolver.declareWithin,
      Resolver.baseType, Resolver.innermost, Resolver.containerOf, Node.scalar, bind, Except.bind,
      pure, Except.pure]
  obtain ⟨ps, hps⟩ := pets
  have kinds (visiting : List String) : ∃ all, r.contributed visiting kindNode = .ok all := by
    rw [kindNode, Resolver.contributed]
    by_cases seen : "Pet" ∈ visiting
    · rw [Resolver.contributedByAll, dif_pos seen, Resolver.contributedByAll]
      exact ⟨_, rfl⟩
    · rw [Resolver.contributedByAll_ref seen pet, petNode, Resolver.contributed, hps]
      exact ⟨_, Resolver.contributedByAll.eq_1 ..⟩
  refine exists_mapM_eq_ok fun e mem => ?_
  rcases nodes e mem with same | same
  · rw [same]
    exact ⟨_, bind_eq_ok_iff.2 ⟨ps, hps, rfl⟩⟩
  · rw [same]
    obtain ⟨all, hall⟩ := kinds [e.1]
    exact ⟨_, bind_eq_ok_iff.2 ⟨all, hall, rfl⟩⟩

theorem exists_generate_petShop {schemas : Dict (OrRef Spec.Schema)} {library : Library}
    (lowered : Library.ofSpec (petShop schemas) = .ok library)
    (pet : library.find "Pet" = .ok petNode) (dog : library.find "Dog" = .ok kindNode)
    (nodes : ∀ e ∈ library, e.2 = petNode ∨ e.2 = kindNode) :
    ∃ out, generate .go {} (petShop schemas) = .ok out := by
  have : ∃ profile, Language.go.profile.withOptions {} = .ok profile := ⟨_, rfl⟩
  obtain ⟨profile, configured⟩ := this
  let r : Resolver := { profile, library }
  obtain ⟨built, modelled⟩ := exists_models_of_pets (r := r) pet nodes
  have declared : r.declare (.ref "Dog") = .ok (r.mapType "Dog") := by
    unfold Resolver.declare
    rw [Resolver.declareWithin_ref dog, if_neg]
    rintro ⟨container, -⟩
    cases container
  have based : r.baseType (.ref "Dog") = .ok (r.mapType "Dog") := by
    refine bind_eq_ok_iff.2 ⟨.ref "Dog", ?_, declared⟩
    rw [Resolver.innermost_ref dog]
    rfl
  have contained : r.containerOf (.ref "Dog") = .ok none :=
    bind_eq_ok_iff.2 ⟨_, dog, rfl⟩
  have returned : Resolver.returnNode? (petShop schemas) fetchDog.responses =
      .ok (some (.ref "Dog")) := by
    cbv
  have returning (plain : Operation) : ∃ op,
      r.returning (petShop schemas) fetchDog.responses plain = .ok op :=
    ⟨_, bind_eq_ok_iff.2 ⟨_, returned, bind_eq_ok_iff.2 ⟨_, declared,
      bind_eq_ok_iff.2 ⟨_, based, bind_eq_ok_iff.2 ⟨_, contained, rfl⟩⟩⟩⟩⟩
  obtain ⟨op, returning⟩ := returning (r.outline "GET" "/dog" fetchDog [])
  have operated : r.operation (petShop schemas) "GET" "/dog" fetchDog [] = .ok op := by
    rw [Resolver.operation_eq]
    exact bind_eq_ok_iff.2 ⟨[], rfl, bind_eq_ok_iff.2 ⟨[], rfl, returning⟩⟩
  have described : r.operations (petShop schemas) = .ok [op] := by
    refine bind_eq_ok_iff.2 ⟨[[op]], mapM_eq_ok_iff.2 (.cons ?_ .nil), rfl⟩
    exact mapM_eq_ok_iff.2 (.cons operated .nil)
  exact ⟨_, generate_eq_ok_iff.2 ⟨profile, configured, _,
    describe_eq_ok_iff.2 ⟨library, lowered, built, modelled, _, described, rfl⟩, rfl⟩⟩

theorem generate_of_le_petShop :
    let small := petShop [("Dog", kindSchema), ("Pet", petSchema)]
    let large := petShop [("Pet", petSchema), ("Cat", kindSchema), ("Dog", kindSchema)]
    small.Le large ∧ ∃ out out', generate .go {} small = .ok out ∧
      generate .go {} large = .ok out' ∧
      (∀ name ∈ ["Dog", "Pet"], ∃ m, out.model? name = some m ∧ out'.model? name = some m) ∧
      out'.operations = out.operations := by
  intro small large
  have sub : [("Dog", kindSchema), ("Pet", petSchema)] ⊆
      [("Pet", petSchema), ("Cat", kindSchema), ("Dog", kindSchema)] := by
    simp
  have le : small.Le large :=
    { paths := rfl
      schemas := Dict.le_of_subset (by decide) sub
      parameters := Dict.Le.refl _
      requestBodies := Dict.Le.refl _
      responses := Dict.Le.refl _ }
  obtain ⟨out, h⟩ : ∃ out, generate .go {} small = .ok out := by
    have lowered : Library.ofSpec small = .ok [("Dog", kindNode), ("Pet", petNode)] := rfl
    exact exists_generate_petShop lowered rfl rfl (by simp)
  obtain ⟨out', h'⟩ : ∃ out, generate .go {} large = .ok out := by
    have lowered : Library.ofSpec large =
        .ok [("Pet", petNode), ("Cat", kindNode), ("Dog", kindNode)] := rfl
    exact exists_generate_petShop lowered rfl rfl (by simp)
  exact ⟨le, out, out', h, h', generate_of_le le (by decide) (by decide) h h'⟩

end OpenApiGen
