import OpenApiGen.Proofs.Generation.Basic
import OpenApiGen.Proofs.Generation.Decoration
import OpenApiGen.Proofs.Model.ClassName
import OpenApiGen.Proofs.Model.Hierarchy
import OpenApiGen.Proofs.Profile
import OpenApiGen.Proofs.Schema.Declaration

/-!
# The lists of properties in the result of a run

What a run says of a property in one list of a model, it says in the others, with two exceptions.
In JavaScript own properties alone have a documentation type, so that they are among all variables
in every other respect (`ownProperties_among_allVars`).  And the variables of a parent are marked as
recursive in its own model, but not in those that inherit from it (`parentVars_eq_map_allVars`).
-/

namespace OpenApiGen

/-! ## Decoration -/

/-- A property without a type in documentation comments. -/
def Property.undocumented (p : Property) : Property :=
  { p with jsdocType := none }

theorem Property.undocumented_eq {p : Property} (h : p.jsdocType = none) : p.undocumented = p := by
  rw [undocumented, ← h]

namespace Language

variable {language : Language} {options : Options} {m : Model}

@[simp] theorem unordered_decorate (p : Property) :
    (language.decorate options p).unordered = language.decorate options p.unordered := by
  cases language <;> rfl

@[simp] theorem isRecursive_decorate (p : Property) :
    (language.decorate options p).isRecursive = p.isRecursive := by
  cases language <;> rfl

/-- Decoration does not look at marks. -/
@[simp] theorem unmarked_decorate_marked (b : Builtins) (className : String) (p : Property) :
    (language.decorate options (p.marked b className)).unmarked =
      language.decorate options p.unmarked := by
  cases language <;> rfl

@[simp] theorem refersTo_decorate (b : Builtins) (className : String) (p : Property) :
    (language.decorate options p).refersTo b className = p.refersTo b className := by
  cases language <;> rfl

theorem ownAmongAll_decorateModel (other : language ≠ .javascript) (among : m.OwnAmongAll) :
    (language.decorateModel options m).OwnAmongAll := by
  refine among.map unordered_decorate ?_ rfl
  cases language with
  | javascript => exact absurd rfl other
  | _ => rfl

theorem undocumented_sublist_decorateModel (among : m.OwnAmongAll)
    (undocumented : ∀ p ∈ m.allVars, p.jsdocType = none) :
    (((javascript.decorateModel options m).ownProperties.map Property.undocumented).map
      Property.unordered).Sublist
        ((javascript.decorateModel options m).allVars.map Property.unordered) := by
  have own : (javascript.decorateModel options m).ownProperties.map Property.undocumented =
      m.ownProperties.map Property.undocumented := by
    unfold decorateModel
    rw [List.map_map]
    rfl
  have vars : (javascript.decorateModel options m).allVars =
      m.allVars.map Property.undocumented := by
    rw [List.map_congr_left fun p mem => Property.undocumented_eq (undocumented p mem)]
    rfl
  rw [own, vars, map_unordered_map (g := Property.undocumented) fun _ => rfl,
    map_unordered_map (g := Property.undocumented) fun _ => rfl]
  exact List.Sublist.map _ among

end Language

/-! ## Runs -/

/-- The model of a run that is made of one that was built. -/
def Resolver.finished (r : Resolver) (language : Language) (options : Options)
    (built : List Model) (b : Model) : Model :=
  language.decorateModel options
    (r.markRecursive (b.reconcileHierarchy r.profile.reconcile (byName built)))

theorem Resolver.models_output_decorated (r : Resolver) (options : Options) (built : List Model)
    (operations : List Operation) : ((r.output built operations).decorated options).models =
      built.map (r.finished r.profile.language options built) := by
  rw [Output.models_decorated]
  unfold output
  rw [reconcileModels_eq_map, List.map_map, List.map_map]
  rfl

variable {profile : Profile} {options : Options} {spec : Spec} {out : Output} {m : Model}

/-- Each model of a run is made of one that was built with the settings of the run. -/
theorem exists_settings_of_generateWith (h : generateWith profile options spec = .ok out) :
    ∃ r : Resolver, ∃ built, profile.withOptions options = .ok r.profile ∧
      Library.ofSpec spec = .ok r.library ∧ r.models = .ok built ∧
      out.models = built.map (r.finished out.language options built) := by
  obtain ⟨configured, settings, o, ran, rfl⟩ := generateWith_eq_ok_iff.1 h
  obtain ⟨library, lowered, built, modelled, operations, -, rfl⟩ := describe_eq_ok_iff.1 ran
  refine ⟨⟨configured, library⟩, built, settings, lowered, modelled, ?_⟩
  rw [Output.language_decorated, Resolver.models_output_decorated]
  rfl

theorem exists_built_of_generateWith (h : generateWith profile options spec = .ok out) :
    ∃ r : Resolver, ∃ built, Library.ofSpec spec = .ok r.library ∧ r.models = .ok built ∧
      r.profile.builtins = profile.builtins ∧
      out.models = built.map (r.finished out.language options built) := by
  obtain ⟨r, built, settings, lowered, modelled, models⟩ := exists_settings_of_generateWith h
  exact ⟨r, built, lowered, modelled, (Profile.types_of_withOptions settings).2, models⟩

namespace Resolver

variable {r : Resolver} {built : List Model} {b : Model} {language : Language}

@[simp] theorem name_finished : (r.finished language options built b).name = b.name :=
  Model.name_reconcileHierarchy _ b

@[simp] theorem parentName_finished :
    (r.finished language options built b).parentName = b.parentName :=
  Model.parentName_reconcileHierarchy _ b

@[simp] theorem className_finished :
    (r.finished language options built b).className = b.className :=
  Model.className_reconcileHierarchy _ b

/-- The variables of a model are those that were built, marked and decorated. -/
theorem allVars_finished {name : String} {node : Node} (made : r.model name node = .ok b) :
    (r.finished language options built b).allVars = b.allVars.map fun p =>
      language.decorate options (p.marked r.profile.builtins b.className) := by
  show (r.markRecursive _).allVars.map (language.decorate options) = _
  rw [markRecursive_eq]
  dsimp only
  rw [(Model.ownAmongAll_of_model made).allVars_reconcileHierarchy,
    Model.className_reconcileHierarchy, List.map_map]
  rfl

@[simp] theorem parentVars_finished : (r.finished language options built b).parentVars =
    (b.reconcileHierarchy r.profile.reconcile (byName built)).parentVars.map
      (language.decorate options) :=
  rfl

end Resolver

/-! ## A document of trees -/

/-- A document where a node leads to the next one, and a leaf is a node. -/
def trees : Spec where
  openapi := "3.0.3"
  info := { title := "Trees", version := "1" }
  components := some {
    schemas := [
      ("Node", .inline { properties := [("next", .ref "#/components/schemas/Node")] }),
      ("Leaf", .inline { allOf := [.ref "#/components/schemas/Node"] })] }

/-- The nodes of the schemas in `trees`. -/
def treesLibrary : Library :=
  [("Node", .object [("next", .ref "Node")] [] none), ("Leaf", .composed .allOf [.ref "Node"] none)]

theorem exists_property_next {r : Resolver} (library : r.library = treesLibrary) :
    ∃ p, r.property "next" (.ref "Node") false = .ok p ∧ p.dataType = r.mapType "Node" := by
  have found : r.library.find "Node" = .ok (.object [("next", .ref "Node")] [] none) := by
    rw [library]
    rfl
  have declared : r.declare (.ref "Node") = .ok (r.mapType "Node") :=
    Resolver.declareWithin_ref_of_not_container (Library.get?_of_find found) rfl
  have based : r.baseType (.ref "Node") = .ok (r.mapType "Node") := by
    refine bind_eq_ok_iff.2 ⟨.ref "Node", ?_, declared⟩
    rw [Resolver.innermost_ref found]
    rfl
  exact ⟨_, bind_eq_ok_iff.2 ⟨_, declared, bind_eq_ok_iff.2 ⟨_, based,
    bind_eq_ok_iff.2 ⟨none, bind_eq_ok_iff.2 ⟨_, found, rfl⟩, rfl⟩⟩⟩, rfl⟩

/-- In each language the class of a node is no built-in type, whatever words are reserved. -/
theorem builtin_className_node (language : Language) :
    language.profile.builtins.contains (language.profile.toModelName "Node") = false := by
  have camel : Text.toUpperCamel (Text.sanitize (language.profile.affixed "Node")) = "Node" := by
    cases language <;> decide +kernel
  have free : ∀ name ∈ ["Node", language.profile.rules.modelMarker ++ "Node"],
      language.profile.builtins.contains name = false := by
    cases language <;> decide +kernel
  unfold Profile.toModelName Profile.modelNameReported
  dsimp only
  rw [camel, if_neg (by decide)]
  split
  · exact free _ (by simp [GeneratedName.ofRenaming])
  · rw [if_neg (by decide)]
    exact free _ (by simp)

theorem mapType_node (language : Language) (library : Library) :
    Resolver.mapType ⟨language.profile, library⟩ "Node" = language.profile.toModelName "Node" := by
  have unmapped : language.profile.types.get? "Node" = none ∧
      (language.profile.builtins.contains "Node" ||
        language.profile.types.hasTarget "Node") = false := by
    cases language <;> decide +kernel
  rw [Resolver.mapType_of_get?_none unmapped.1, unmapped.2]
  rfl

/-- In each language there is a run for `trees`, where the parent of the leaf has a variable of its
own type. -/
theorem exists_generate_trees (language : Language) :
    ∃ out node leaf, generate language {} trees = .ok out ∧ out.language = language ∧
      node ∈ out.models ∧ leaf ∈ out.models ∧
      node.name = "Node" ∧ leaf.name = "Leaf" ∧ node.parentName = none ∧
      leaf.parentName = some "Node" ∧ node.ownProperties ≠ [] ∧
      ∃ p ∈ node.allVars, p.refersTo language.profile.builtins node.className = true := by
  let r : Resolver := ⟨language.profile, treesLibrary⟩
  have sameLanguage : r.profile.language = language := by
    cases language <;> rfl
  have configured : language.profile.withOptions {} = .ok language.profile := by
    cases language <;> rfl
  obtain ⟨p, made, dataType⟩ := exists_property_next (r := r) rfl
  have next : r.properties [("next", .ref "Node")] [] = .ok [p] :=
    mapM_eq_ok_iff.2 (.cons made .nil)
  have inherited : r.contributed ["Leaf"] (.composed .allOf [.ref "Node"] none) =
      .ok (Resolver.addMissing [] [p]) := by
    rw [Resolver.contributed, Resolver.contributedByAll_ref (by decide) rfl, Resolver.contributed,
      next]
    exact Resolver.contributedByAll.eq_1 ..
  obtain ⟨node, hnode⟩ : ∃ m, r.model "Node" (.object [("next", .ref "Node")] [] none) = .ok m :=
    ⟨_, bind_eq_ok_iff.2 ⟨[p], next, rfl⟩⟩
  obtain ⟨leaf, hleaf⟩ : ∃ m, r.model "Leaf" (.composed .allOf [.ref "Node"] none) = .ok m :=
    ⟨_, bind_eq_ok_iff.2 ⟨_, inherited, rfl⟩⟩
  have modelled : r.models = .ok [node, leaf] := mapM_eq_ok_iff.2 (.cons hnode (.cons hleaf .nil))
  have run : generate language {} trees = .ok ((r.output [node, leaf] []).decorated {}) :=
    generate_eq_ok_iff.2 ⟨_, configured, _, describe_eq_ok_iff.2
      ⟨treesLibrary, rfl, _, modelled, [], rfl, rfl⟩, rfl⟩
  obtain ⟨nodeName, nodeParent, nodeOwn, nodeVars⟩ := Resolver.model_cases hnode
  obtain ⟨leafName, leafParent, -, -⟩ := Resolver.model_cases hleaf
  rw [Resolver.contributed, next, Except.ok.injEq] at nodeVars
  have models := r.models_output_decorated {} [node, leaf] []
  refine ⟨_, r.finished language {} [node, leaf] node, r.finished language {} [node, leaf] leaf,
    run, ?_, ?_, ?_, Resolver.name_finished.trans nodeName, Resolver.name_finished.trans leafName,
    Resolver.parentName_finished.trans nodeParent, Resolver.parentName_finished.trans leafParent,
    ?_, ?_⟩
  · rw [Output.language_decorated]
    exact sameLanguage
  · rw [models, sameLanguage]
    exact List.mem_cons_self
  · rw [models, sameLanguage]
    exact List.mem_cons_of_mem _ List.mem_cons_self
  · unfold Resolver.finished Language.decorateModel
    rw [Model.reconcileHierarchy_of_root nodeParent, r.markRecursive_eq, nodeOwn, ← nodeVars]
    exact List.cons_ne_nil _ _
  · rw [Resolver.allVars_finished hnode, ← nodeVars, Resolver.className_finished,
      Resolver.className_model hnode]
    refine ⟨_, List.mem_singleton_self _, ?_⟩
    rw [Language.refersTo_decorate]
    have self : r.profile.builtins.isSelf (r.profile.toModelName "Node") (r.mapType "Node") := by
      rw [Builtins.isSelf, mapType_node, builtin_className_node]
      exact beq_self_eq_true _
    show (r.profile.builtins.isSelf _ p.dataType || _) = true
    rw [dataType, self, Bool.true_or]

/-! ## Own properties -/

/-- The documentation types in a model for JavaScript. -/
theorem jsdocTypes_of_generateWith (h : generateWith profile options spec = .ok out)
    (mem : m ∈ out.models) (language : out.language = .javascript) :
    (∀ p ∈ m.allVars, p.jsdocType = none) ∧ ∀ p ∈ m.ownProperties,
      p.jsdocType = some (Decoration.propertyJsdocType m.className p) := by
  obtain ⟨r, built, -, modelled, -, models⟩ := exists_built_of_generateWith h
  rw [models, language] at mem
  obtain ⟨b, memBuilt, rfl⟩ := List.mem_map.1 mem
  obtain ⟨name, node, made⟩ := Resolver.exists_model_of_mem modelled memBuilt
  constructor
  · intro p memVar
    rw [Resolver.allVars_finished made] at memVar
    obtain ⟨q, memBuilt, rfl⟩ := List.mem_map.1 memVar
    obtain ⟨key, node, required, made⟩ := Resolver.exists_property_of_mem_allVars made memBuilt
    exact (Resolver.unmarked_property made).2
  · intro p memOwn
    obtain ⟨q, -, rfl⟩ := List.mem_map.1 memOwn
    rfl

theorem ownProperties_eq_nil_of_documented {type : Property → String}
    (undocumented : ∀ p ∈ m.allVars, p.jsdocType = none)
    (documented : ∀ p ∈ m.ownProperties, p.jsdocType = some (type p)) (among : m.OwnAmongAll) :
    m.ownProperties = [] := by
  refine List.eq_nil_iff_forall_not_mem.2 fun p memOwn => ?_
  obtain ⟨q, memVar, same⟩ := List.mem_map.1 (among.subset (List.mem_map_of_mem memOwn))
  have kept : q.unordered.jsdocType = p.unordered.jsdocType := congrArg Property.jsdocType same
  have none : p.jsdocType = none := kept.symm.trans (undocumented q memVar)
  rw [documented p memOwn] at none
  cases none

/-- In a run with any profile, the own properties of a model are among all its variables, in their
order and the same in all but their positions, unless the language is JavaScript.  There only own
properties are given a documentation type, and all else about them is the same; so a model has its
own properties among its variables just when it has none. -/
theorem ownProperties_among_allVars (h : generateWith profile options spec = .ok out)
    (mem : m ∈ out.models) :
    (out.language ≠ .javascript →
      (m.ownProperties.map Property.unordered).Sublist (m.allVars.map Property.unordered)) ∧
    (out.language = .javascript →
      ((m.ownProperties.map Property.undocumented).map Property.unordered).Sublist
        (m.allVars.map Property.unordered) ∧
      (∀ p ∈ m.allVars, p.jsdocType = none) ∧
      (∀ p ∈ m.ownProperties,
        p.jsdocType = some (Decoration.propertyJsdocType m.className p)) ∧
      ((m.ownProperties.map Property.unordered).Sublist (m.allVars.map Property.unordered) ↔
        m.ownProperties = [])) := by
  obtain ⟨r, built, -, modelled, -, models⟩ := exists_built_of_generateWith h
  have source := mem
  rw [models] at source
  obtain ⟨b, memBuilt, rfl⟩ := List.mem_map.1 source
  obtain ⟨name, node, made⟩ := Resolver.exists_model_of_mem modelled memBuilt
  have among := ((Model.ownAmongAll_of_model made).reconcileHierarchy r.profile.reconcile
    (byName built)).markRecursive r
  refine ⟨fun other => Language.ownAmongAll_decorateModel other among, fun language => ?_⟩
  obtain ⟨undocumented, documented⟩ := jsdocTypes_of_generateWith h mem language
  refine ⟨?_, undocumented, documented, ?_⟩
  · rw [language] at undocumented ⊢
    refine Language.undocumented_sublist_decorateModel among fun p memVar => ?_
    exact undocumented p (List.mem_map_of_mem memVar)
  refine ⟨ownProperties_eq_nil_of_documented undocumented documented, fun none => ?_⟩
  rw [none, List.map_nil]
  exact List.nil_sublist _

theorem ownProperties_among_allVars_trees :
    ∃ out node, generateWith Language.javascript.profile {} trees = .ok out ∧
      node ∈ out.models ∧ node.name = "Node" ∧
      ((node.ownProperties.map Property.undocumented).map Property.unordered).Sublist
        (node.allVars.map Property.unordered) := by
  obtain ⟨out, node, -, run, language, mem, -, name, -⟩ := exists_generate_trees .javascript
  exact ⟨out, node, run, mem, name, ((ownProperties_among_allVars run mem).2 language).1⟩

/-- In JavaScript the own property of a node is not among its variables. -/
theorem not_ownProperties_among_allVars_trees :
    ∃ out node, generate .javascript {} trees = .ok out ∧ node ∈ out.models ∧
      ¬ (node.ownProperties.map Property.unordered).Sublist
        (node.allVars.map Property.unordered) := by
  obtain ⟨out, node, -, run, language, mem, -, -, -, -, -, some, -⟩ :=
    exists_generate_trees .javascript
  obtain ⟨undocumented, documented⟩ := jsdocTypes_of_generateWith run mem language
  refine ⟨out, node, run, mem, fun among => some ?_⟩
  exact ownProperties_eq_nil_of_documented undocumented documented among

/-! ## Variables of the parent -/

/-- A model has the variables of its parent as they were before they were marked. -/
theorem parentVars_of_generateWith (distinct : (spec.component Spec.Components.schemas).keys.Nodup)
    (h : generateWith profile options spec = .ok out) {parent : Model} (mem : m ∈ out.models)
    (memParent : parent ∈ out.models) (named : m.parentName = some parent.name)
    (other : parent.name ≠ m.name) :
    m.parentVars = parent.allVars.map Property.unmarked ∧
      ∀ p ∈ parent.allVars, p.isRecursive = p.refersTo profile.builtins parent.className := by
  obtain ⟨r, built, lowered, modelled, builtins, models⟩ := exists_built_of_generateWith h
  rw [models] at mem memParent
  obtain ⟨b, memBuilt, rfl⟩ := List.mem_map.1 mem
  obtain ⟨b', memBuilt', rfl⟩ := List.mem_map.1 memParent
  obtain ⟨name', node', made'⟩ := Resolver.exists_model_of_mem modelled memBuilt'
  have unmarked : ∀ p ∈ b'.allVars, p.isRecursive = false := by
    intro p memVar
    obtain ⟨key, node, required, made⟩ := Resolver.exists_property_of_mem_allVars made' memVar
    exact (Resolver.unmarked_property made).1
  have copied : (b.reconcileHierarchy r.profile.reconcile (byName built)).parentVars =
      b'.allVars := by
    have names : (built.map Model.name).Nodup := by
      rwa [Resolver.names_models modelled, Library.keys_ofSpec lowered]
    simp only [Resolver.parentName_finished, Resolver.name_finished] at named other
    exact Model.parentVars_reconcileHierarchy (fun _ _ => name_of_get?_byName) named other
      (get?_byName_of_mem names memBuilt')
  rw [Resolver.allVars_finished made', ← builtins, Resolver.className_finished]
  constructor
  · rw [Resolver.parentVars_finished, copied, List.map_map]
    refine List.map_congr_left fun p memVar => ?_
    rw [Function.comp_apply, Language.unmarked_decorate_marked,
      Property.unmarked_eq (unmarked p memVar)]
  · intro p memVar
    obtain ⟨q, memBuilt, rfl⟩ := List.mem_map.1 memVar
    simp [unmarked q memBuilt]

theorem map_unordered_unmarked_iff {ps : List Property} :
    (ps.map Property.unmarked).map Property.unordered = ps.map Property.unordered ↔
      ∀ p ∈ ps, p.isRecursive = false := by
  rw [List.map_map, List.map_inj_left]
  refine forall₂_congr fun p _ => ⟨fun same => ?_, fun unmarked => ?_⟩
  · exact (congrArg Property.isRecursive same).symm
  · rw [Function.comp_apply, Property.unmarked_eq unmarked]

/-- In a run with any profile, on a document whose component schemas have distinct names, let the
parent of a model be another one.  The model has the variables of its parent, in their order and
with all that is said of them but the mark of recursion, which none of them has.  In the parent a
variable has the mark if and only if it has the type of the parent itself; so the two agree just
when there is none of that type. -/
theorem parentVars_eq_map_allVars
    (distinct : (spec.component Spec.Components.schemas).keys.Nodup)
    (h : generateWith profile options spec = .ok out) {parent : Model} (mem : m ∈ out.models)
    (memParent : parent ∈ out.models) (named : m.parentName = some parent.name)
    (other : parent.name ≠ m.name) :
    m.parentVars = parent.allVars.map Property.unmarked ∧
      (∀ p ∈ parent.allVars, p.isRecursive = p.refersTo profile.builtins parent.className) ∧
      (m.parentVars.map Property.unordered = parent.allVars.map Property.unordered ↔
        ∀ p ∈ parent.allVars, p.refersTo profile.builtins parent.className = false) := by
  obtain ⟨vars, marks⟩ := parentVars_of_generateWith distinct h mem memParent named other
  refine ⟨vars, marks, ?_⟩
  rw [vars, map_unordered_unmarked_iff]
  exact forall₂_congr fun p memVar => by rw [marks p memVar]

theorem parentVars_eq_map_allVars_trees :
    (trees.component Spec.Components.schemas).keys.Nodup ∧
    ∃ out node leaf, generateWith Language.swift5.profile {} trees = .ok out ∧
      leaf ∈ out.models ∧ node ∈ out.models ∧ leaf.parentName = some node.name ∧
      node.name ≠ leaf.name ∧ leaf.parentVars = node.allVars.map Property.unmarked := by
  have distinct : (trees.component Spec.Components.schemas).keys.Nodup := by decide
  obtain ⟨out, node, leaf, run, -, memNode, memLeaf, node_, leaf_, -, parent, -⟩ :=
    exists_generate_trees .swift5
  have named : leaf.parentName = some node.name := by rw [parent, node_]
  have other : node.name ≠ leaf.name := by
    rw [node_, leaf_]
    decide
  exact ⟨distinct, out, node, leaf, run, memLeaf, memNode, named, other,
    (parentVars_eq_map_allVars distinct run memLeaf memNode named other).1⟩

/-- In Go a leaf has the variable of its parent without the mark of recursion. -/
theorem parentVars_ne_allVars_trees :
    ∃ out node leaf, generate .go {} trees = .ok out ∧ leaf ∈ out.models ∧ node ∈ out.models ∧
      leaf.parentName = some node.name ∧ node.name ≠ leaf.name ∧ node.parentName = none ∧
      leaf.parentVars.map Property.unordered ≠ node.allVars.map Property.unordered := by
  obtain ⟨out, node, leaf, run, -, memNode, memLeaf, node_, leaf_, root, parent, -, p, memVar,
    self⟩ := exists_generate_trees .go
  have named : leaf.parentName = some node.name := by rw [parent, node_]
  have other : node.name ≠ leaf.name := by
    rw [node_, leaf_]
    decide
  obtain ⟨vars, marks⟩ :=
    parentVars_of_generateWith (by decide) run memLeaf memNode named other
  refine ⟨out, node, leaf, run, memLeaf, memNode, named, other, root, fun same => ?_⟩
  rw [vars, map_unordered_unmarked_iff] at same
  have := same p memVar
  rw [marks p memVar, self] at this
  cases this

end OpenApiGen
