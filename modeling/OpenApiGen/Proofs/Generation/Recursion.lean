import OpenApiGen.Proofs.Generation.Ordering
import OpenApiGen.Proofs.Model.Declarations
import OpenApiGen.Proofs.Schema.Spine

/-!
# Properties of the type of their own model

A property is marked as recursive by the name of its type.  That suffices: whatever containers and
aliases lead from the schema of a property back to its own component, the base type of the property
is the name of the class (`Resolver.refersTo_of_leadsTo`), so that the property is marked in the
result of a run (`isRecursive_of_leadsTo`).
-/

namespace OpenApiGen

/-- A schema leads over containers, and over references to containers, to a reference to a
component. -/
def Library.LeadsTo (library : Library) (schema : Node) (name : String) : Prop :=
  ∃ kinds aliases, library.Spine schema kinds aliases (.ref name)

/-! ## Names of types -/

theorem eqIgnoringAsciiCase_self (s : String) : eqIgnoringAsciiCase s s = true :=
  beq_self_eq_true _

@[simp] theorem Language.isRecursive_decorateOwn {language : Language} {options : Options}
    (className : String) (p : Property) :
    (language.decorateOwn options className p).isRecursive = p.isRecursive := by
  cases language <;> rfl

@[simp] theorem Language.refersTo_decorateOwn {language : Language} {options : Options}
    (b : Builtins) (name className : String) (p : Property) :
    (language.decorateOwn options name p).refersTo b className = p.refersTo b className := by
  cases language <;> rfl

namespace Resolver

variable {r : Resolver}

/-- A property whose schema leads back to a component has the type of its class. -/
theorem refersTo_of_leadsTo {key name className : String} {schema : Node} {required : Bool}
    {p : Property} (h : r.property key schema required = .ok p)
    (leads : r.library.LeadsTo schema name) (named : r.mapType name = className)
    (free : r.profile.builtins.contains className = false) :
    p.refersTo r.profile.builtins className = true := by
  obtain ⟨kinds, aliases, spine⟩ := leads
  obtain ⟨-, -, based, -⟩ := property_cases h
  have type : p.baseType = className := by
    rw [spine.baseType, Node.abstractType, named] at based
    exact (Except.ok.inj based).symm
  rw [Property.refersTo, type, Builtins.isSelf, Builtins.isSelf, free, eqIgnoringAsciiCase_self]
  exact Bool.or_true _

/-! ## Properties in the result of a run -/

variable {built : List Model} {b : Model} {language : Language} {options : Options}
  {name : String} {node : Node}

/-- What is left of the own properties before they are marked is among all variables. -/
theorem exists_unordered_of_mem_reconcileHierarchy (made : r.model name node = .ok b)
    {mode : ReconcileMode} {models : Dict Model} {q : Property}
    (mem : q ∈ (b.reconcileHierarchy mode models).ownProperties) :
    ∃ p ∈ b.allVars, p.unordered = q.unordered := by
  have left := Model.map_unordered_reconcileHierarchy_subset models b (List.mem_map_of_mem mem)
  rw [(model_cases made).2.2.1, map_unordered_markOrdering] at left
  exact List.mem_map.1 left

/-- Each property in the result of a run is one that was built, marked by its type. -/
theorem exists_mem_allVars_of_mem_finished (made : r.model name node = .ok b) {p : Property}
    (mem : p ∈ (r.finished language options built b).ownProperties ∨
      p ∈ (r.finished language options built b).allVars) :
    ∃ q ∈ b.allVars, p.baseName = q.baseName ∧
      p.refersTo r.profile.builtins b.className = q.refersTo r.profile.builtins b.className ∧
      p.isRecursive = q.refersTo r.profile.builtins b.className := by
  have unmarked : ∀ q ∈ b.allVars, q.isRecursive = false := by
    intro q memVar
    obtain ⟨key, node, required, made⟩ := exists_property_of_mem_allVars made memVar
    exact (unmarked_property made).1
  rcases mem with own | var
  · obtain ⟨marked, memMarked, rfl⟩ := List.mem_map.1 own
    rw [markRecursive_eq, Model.className_reconcileHierarchy] at memMarked
    obtain ⟨left, memLeft, rfl⟩ := List.mem_map.1 memMarked
    obtain ⟨q, memVar, same⟩ := exists_unordered_of_mem_reconcileHierarchy made memLeft
    have isRecursive : left.isRecursive = false := by
      rw [← unmarked q memVar]
      exact (congrArg Property.isRecursive same).symm
    have refersTo : left.refersTo r.profile.builtins b.className =
        q.refersTo r.profile.builtins b.className :=
      (congrArg (Property.refersTo _ _) same).symm
    have baseName : left.baseName = q.baseName := (congrArg Property.baseName same).symm
    exact ⟨q, memVar, by simp [baseName], by simp [refersTo], by simp [isRecursive, refersTo]⟩
  · rw [allVars_finished made] at var
    obtain ⟨q, memVar, rfl⟩ := List.mem_map.1 var
    exact ⟨q, memVar, by simp, by simp, by simp [unmarked q memVar]⟩

end Resolver

/-! ## Runs -/

variable {language : Language} {options : Options} {spec : Spec} {out : Output} {m : Model}
  {library : Library}

/-- In a run for any language, on a document whose component schemas have distinct names and so
have the properties of each, let the name of a component mean no type of the language, and neither
the name of its class.  Each property of its model, own or inherited, is made of the schema that its
key has in the component, and is marked as recursive if it has the type of the class.  It has that
type if its schema leads back to the component, over whatever containers and aliases. -/
theorem isRecursive_of_leadsTo (keyed : spec.Keyed)
    (h : generate language options spec = .ok out) (lowered : Library.ofSpec spec = .ok library)
    (mem : m ∈ out.models) (unknown : m.name ∉ language.typeNames)
    (free : language.profile.builtins.contains m.className = false) {p : Property}
    (there : p ∈ m.ownProperties ∨ p ∈ m.allVars) :
    ∃ schema, library.schemaOf? m.name p.baseName = some schema ∧
      p.isRecursive = p.refersTo language.profile.builtins m.className ∧
      (library.LeadsTo schema m.name → p.isRecursive = true) := by
  obtain ⟨r, built, settings, lowered', modelled, models⟩ := exists_settings_of_generateWith h
  cases lowered.symm.trans lowered'
  rw [models] at mem
  obtain ⟨b, memBuilt, rfl⟩ := List.mem_map.1 mem
  obtain ⟨⟨name, node⟩, memLibrary, made⟩ := exists_mem_of_mapM modelled memBuilt
  have libraryKeyed := Library.keyed_ofSpec keyed lowered
  obtain ⟨q, memVar, sameName, sameType, marked⟩ :=
    Resolver.exists_mem_allVars_of_mem_finished made there
  obtain ⟨schema, required, declared, property⟩ :=
    Resolver.exists_schemaOf? (Dict.get?_of_mem libraryKeyed.names memLibrary)
      (libraryKeyed.nodes name node memLibrary) made memVar
  rw [Resolver.name_finished, (Resolver.model_cases made).1] at unknown ⊢
  rw [Resolver.className_finished, ← (Profile.types_of_withOptions settings).2] at free ⊢
  refine ⟨schema, by rw [sameName, declared], marked.trans sameType.symm, fun leads => ?_⟩
  rw [marked]
  refine Resolver.refersTo_of_leadsTo property leads ?_ free
  rw [Resolver.mapType_of_notMem_typeNames settings unknown, Resolver.className_model made]

/-- Trees know oaks by their places, and an oak is a tree. -/
def grove : Spec :=
  schemaDocument
    [("Tree", .inline { properties :=
        [("oaks", .inline
          { type := some (.single .array)
            items := some (.ref "#/components/schemas/Places") })] }),
      ("Places", .inline
        { type := some (.single .object)
          additional := some (.schema (.ref "#/components/schemas/Oak")) }),
      ("Oak", .inline { allOf := [.ref "#/components/schemas/Tree"] })]

/-- The nodes of the schemas in `grove`. -/
def groveLibrary : Library :=
  [("Tree", .object [("oaks", .array (.ref "Places") none)] [] none),
    ("Places", .map (.ref "Oak") none), ("Oak", .composed .allOf [.ref "Tree"] none)]

theorem keyed_grove : grove.Keyed := by
  refine ⟨by decide, fun name schema mem => ?_⟩
  rcases List.mem_cons.1 mem with h | mem
  · cases h
    decide
  rcases List.mem_cons.1 mem with h | mem
  · cases h
    decide
  · cases List.mem_singleton.1 mem
    decide

theorem schemaOf?_oak :
    groveLibrary.schemaOf? "Oak" "oaks" = some (.array (.ref "Places") none) := by
  have oak : groveLibrary.get? "Oak" = some (.composed .allOf [.ref "Tree"] none) := rfl
  have new : "Tree" ∉ ["Oak"] := by decide
  rw [Library.schemaOf?, oak, Option.bind_some, Library.declarations,
    Library.declarationsOfAll_ref new rfl, Library.declarations, Library.declarationsOfAll]
  rfl

/-- There is a run for `grove` where an oak takes over the places of oaks. -/
theorem exists_generate_grove : ∃ out oak, generate .go {} grove = .ok out ∧ oak ∈ out.models ∧
    oak.name = "Oak" ∧ oak.className = Profile.go.toModelName "Oak" ∧
    "oaks" ∈ baseNames oak.allVars := by
  let r : Resolver := ⟨.go, groveLibrary⟩
  obtain ⟨built, modelled⟩ := r.exists_models_iff.2 (by decide)
  have configured : Language.go.profile.withOptions {} = .ok .go := rfl
  have run : generate .go {} grove = .ok ((r.output built []).decorated {}) :=
    generate_eq_ok_iff.2 ⟨_, configured, _, describe_eq_ok_iff.2
      ⟨groveLibrary, rfl, built, modelled, [], rfl, rfl⟩, rfl⟩
  have listed : "Oak" ∈ r.library.keys := by decide
  obtain ⟨oak, first⟩ := Resolver.exists_find?_models modelled listed
  obtain ⟨node, found, made⟩ := (Resolver.find?_models_iff modelled).1 first
  have supplied : r.library.Supplies [] "Oak" "oaks" := by
    refine ⟨"Tree", .step List.not_mem_nil ?_ (.here List.not_mem_nil), ?_⟩
    all_goals decide
  refine ⟨_, r.finished r.profile.language {} built oak, run, ?_, ?_, ?_, ?_⟩
  · rw [r.models_output_decorated]
    exact List.mem_map_of_mem (List.mem_of_find?_eq_some first)
  · simp [(Resolver.model_cases made).1]
  · rw [Resolver.className_finished, Resolver.className_model made]
  · rw [Resolver.allVars_finished made, baseNames, List.map_map]
    exact (Resolver.mem_baseNames_model_iff found made).2 supplied

/-- An oak takes over a list of dictionaries of oaks. -/
theorem isRecursive_of_leadsTo_oak : ∃ out oak p schema,
    grove.Keyed ∧ generate .go {} grove = .ok out ∧ Library.ofSpec grove = .ok groveLibrary ∧
      oak ∈ out.models ∧ oak.name ∉ Language.go.typeNames ∧
      Language.go.profile.builtins.contains oak.className = false ∧ p ∈ oak.allVars ∧
      groveLibrary.schemaOf? oak.name p.baseName = some schema ∧
      groveLibrary.LeadsTo schema oak.name ∧ p.isRecursive = true := by
  obtain ⟨out, oak, run, mem, name, className, key⟩ := exists_generate_grove
  have unknown : oak.name ∉ Language.go.typeNames := by
    rw [name]
    decide +kernel
  have free : Language.go.profile.builtins.contains oak.className = false := by
    rw [className]
    decide +kernel
  have lowered : Library.ofSpec grove = .ok groveLibrary := rfl
  obtain ⟨p, there, baseName⟩ := List.mem_map.1 key
  obtain ⟨schema, declared, -, recursive⟩ :=
    isRecursive_of_leadsTo keyed_grove run lowered mem unknown free (.inr there)
  have leads : groveLibrary.LeadsTo schema oak.name := by
    rw [name, baseName, schemaOf?_oak] at declared
    obtain rfl := Option.some.inj declared
    rw [name]
    exact ⟨_, _, .array (.aliased rfl rfl (.map (.model rfl rfl)))⟩
  exact ⟨out, oak, p, schema, keyed_grove, run, lowered, mem, unknown, free, there, declared,
    leads, recursive leads⟩

end OpenApiGen
