import OpenApiGen.Proofs.Profile
import OpenApiGen.Proofs.Schema.Lower
import OpenApiGen.Proofs.Schema.Spine

/-!
# Inline schemas

A schema without references and tags has a type in every document (`Resolver.declare_anonymous`).
It is spelled from a single abstract type: that of the leaf to which arrays, maps and compositions
of one member lead.  The leaf needs no model unless its abstract type is one of the few that the
type table of the language leaves out (`Language.unmappedTypes`).
-/

namespace OpenApiGen

open Spec

/-! ## Abstract types of schemas -/

/-- Neither references nor tags occur in a schema, at any depth. -/
inductive Spec.Anonymous : OrRef Schema → Prop
  | inline {s : Schema} (untagged : s.tag = none)
      (properties : ∀ e ∈ s.properties, Anonymous e.2)
      (additional : ∀ value, s.additional = some (.schema value) → Anonymous value)
      (items : ∀ element, s.items = some element → Anonymous element)
      (allOf : ∀ member ∈ s.allOf, Anonymous member)
      (oneOf : ∀ member ∈ s.oneOf, Anonymous member)
      (anyOf : ∀ member ∈ s.anyOf, Anonymous member) : Anonymous (.inline s)

/-- The abstract types that schemas have. -/
def Spec.Schema.abstractTypes : List String := [
  "string", "date", "DateTime", "binary", "ByteArray", "UUID", "password", "URI", "integer", "long",
  "number", "float", "double", "boolean", "array", "object"]

theorem Spec.Schema.textType_mem (format : Option String) : textType format ∈ abstractTypes := by
  unfold textType
  split <;> decide

theorem Spec.Schema.abstractType_mem (s : Schema) : s.abstractType ∈ abstractTypes := by
  unfold abstractType
  split
  · exact textType_mem s.format
  · split <;> decide
  · split <;> decide
  · decide
  · decide
  all_goals
    dsimp only
    split <;> decide

namespace Node

/-- A node of a schema without references and tags. -/
inductive Inline : Node → Prop
  | primitive {typeName : String} {pattern : Option String} {default_ : Option Json}
      (h : typeName ∈ Schema.abstractTypes) : Inline (.primitive typeName pattern default_)
  | enum {baseType : String} {literals : List String} {default_ : Option Json}
      (h : baseType ∈ Schema.abstractTypes) : Inline (.enum baseType literals default_)
  | object {properties : List (String × Node)} {required : List String}
      {description : Option String} : Inline (.object properties required description)
  | array {items : Node} (h : Inline items) : Inline (.array items none)
  | map {value : Node} (h : Inline value) : Inline (.map value none)
  | composed {kind : Composition} {members : List Node} (h : ∀ member ∈ members, Inline member) :
      Inline (.composed kind members none)

/-- The containers of a node, also those that are the only member of an untagged composition. -/
def containers : Node → List Container
  | array items _ => .array :: items.containers
  | map value _ => .map :: value.containers
  | composed _ [single] none => single.containers
  | _ => []

/-- What is within all containers of a node. -/
def leaf : Node → Node
  | array items _ => items.leaf
  | map value _ => value.leaf
  | composed _ [single] none => single.leaf
  | node => node

/-- What is left when all containers around a node are taken off, but for those in a composition. -/
def core : Node → Node
  | array items _ => items.core
  | map value _ => value.core
  | node => node

/-! ## Declared types of inline nodes -/

namespace Inline

variable {node : Node}

theorem abstractType_leaf (h : node.Inline) : node.leaf.abstractType ∈ Schema.abstractTypes := by
  have object : "object" ∈ Schema.abstractTypes := by decide
  induction h with
  | primitive h | enum h => exact h
  | object => exact object
  | array _ ih | map _ ih => exact ih
  | @composed kind members _ ih =>
    rcases members with - | ⟨single, - | ⟨second, rest⟩⟩
    · exact object
    · exact ih single List.mem_cons_self
    · exact object

theorem core (h : node.Inline) : node.core.Inline ∧ node.core.leaf = node.leaf := by
  induction h with
  | primitive h => exact ⟨.primitive h, rfl⟩
  | enum h => exact ⟨.enum h, rfl⟩
  | object => exact ⟨.object, rfl⟩
  | array _ ih | map _ ih => exact ih
  | composed h => exact ⟨.composed h, rfl⟩

theorem itemsName?_eq_none (h : node.Inline) (r : Resolver) : r.itemsName? node none = none := by
  cases h <;> rfl

theorem declareWithin (h : node.Inline) (r : Resolver) (opened : List String) :
    r.declareWithin opened node =
      .ok (r.profile.containers.wrapAll node.containers (r.mapType node.leaf.abstractType)) := by
  induction h with
  | primitive | enum | object => exact Resolver.declareWithin_of_isPlain rfl opened
  | array h ih =>
    rw [Resolver.declareWithin, h.itemsName?_eq_none, ih]
    rfl
  | map _ ih =>
    rw [Resolver.declareWithin, ih]
    rfl
  | @composed kind members _ ih =>
    rcases members with - | ⟨single, - | ⟨second, rest⟩⟩
    · rw [Resolver.declareWithin.eq_6 _ _ _ _ (by simp)]
      rfl
    · rw [Resolver.declareWithin]
      exact ih single List.mem_cons_self
    · rw [Resolver.declareWithin.eq_6 _ _ _ _ (by simp)]
      rfl

theorem innermost (h : node.Inline) (r : Resolver) (seen : List String) :
    r.innermost seen node = .ok node.core := by
  induction h with
  | primitive | enum | object | composed =>
    rw [Resolver.innermost]
    · rfl
    all_goals simp
  | array _ ih | map _ ih =>
    rw [Resolver.innermost, ih]
    rfl

theorem baseType (h : node.Inline) (r : Resolver) : r.baseType node =
    .ok (r.profile.containers.wrapAll node.core.containers
      (r.mapType node.leaf.abstractType)) := by
  rw [Resolver.baseType, h.innermost, ← h.core.2]
  exact h.core.1.declareWithin r []

end Inline

end Node

/-! ## Lowering -/

/-- A schema without references and tags has a node, and this is an inline one. -/
theorem endsIn_inline_lower {s : OrRef Schema} (h : Anonymous s) :
    EndsIn Node.Inline (fun _ => False) (lower s) := by
  induction h with
  | @inline s untagged properties additional items allOf oneOf anyOf ihProperties ihAdditional
      ihItems ihAllOf ihOneOf ihAnyOf =>
    have object : "object" ∈ Schema.abstractTypes := by decide
    have members : ∀ ms ∈ [s.allOf, s.oneOf, s.anyOf], EndsIn (fun nodes => ∀ n ∈ nodes, n.Inline)
        (fun _ => False) (lowerAll ms) := by
      simp [endsIn_lowerAll ihAllOf, endsIn_lowerAll ihOneOf, endsIn_lowerAll ihAnyOf]
    rw [lower]
    apply endsIn_lowerSchema members (endsIn_lowerProperties ihProperties) ihItems ihAdditional
    case untyped => exact .primitive object
    case composed =>
      rw [untagged]
      exact fun _ _ => .composed
    case extended =>
      rw [untagged]
      exact fun _ _ _ hnodes _ =>
        .composed (List.forall_mem_append.2 ⟨hnodes, List.forall_mem_singleton.2 .object⟩)
    case enum => exact .enum s.abstractType_mem
    case array =>
      rw [untagged]
      exact fun _ => .array
    case map =>
      rw [untagged]
      exact fun _ => .map
    case object => exact fun _ _ => .object
    case primitive => exact .primitive s.abstractType_mem

/-! ## Type tables -/

namespace Language

/-- The abstract types of schemas that the type table of a language has no type for. -/
def unmappedTypes : Language → List String
  | go => ["array"]
  | javascript | swift4 | swift5 => ["password"]
  | pythonFlask => ["password", "URI"]

/-- Each abstract type of schemas has a type that needs no model, or no type at all. -/
theorem all_abstractTypes (language : Language) : (Schema.abstractTypes.all fun name =>
    match language.profile.types.get? name with
    | some t => language.profile.builtins.contains t && !language.unmappedTypes.contains name
    | none => language.unmappedTypes.contains name && !language.profile.builtins.contains name &&
        !language.profile.types.hasTarget name) = true := by
  cases language <;> decide +kernel

end Language

namespace Resolver

variable {language : Language} {o : Options} {p : Profile}

/-- An abstract type of schemas that the table of the language leaves out is taken for the name of a
model; any other one has a type that needs none. -/
theorem mapType_abstractType (h : language.profile.withOptions o = .ok p) (library : Library)
    {name : String} (mem : name ∈ Schema.abstractTypes) :
    (name ∉ language.unmappedTypes →
        p.builtins.contains (Resolver.mapType ⟨p, library⟩ name) = true) ∧
      (name ∈ language.unmappedTypes →
        Resolver.mapType ⟨p, library⟩ name = p.toModelName name) := by
  obtain ⟨types, builtins⟩ := Profile.types_of_withOptions h
  have row := List.all_eq_true.1 language.all_abstractTypes name mem
  rw [← types, ← builtins] at row
  split at row
  · next t found =>
    simp only [Bool.and_eq_true, Bool.not_eq_true', List.contains_eq_mem,
      decide_eq_false_iff_not] at row
    refine ⟨fun _ => ?_, fun unmapped => absurd unmapped row.2⟩
    rw [mapType_of_get? found, if_pos row.1]
    exact row.1
  · next missing =>
    simp only [Bool.and_eq_true, Bool.not_eq_true', List.contains_eq_mem, decide_eq_true_eq] at row
    refine ⟨fun mapped => absurd row.1.1 mapped, fun _ => ?_⟩
    rw [mapType_of_get?_none missing, row.1.2, row.2]
    rfl

/-- A schema without references and tags has a type, whatever the document and the settings are: the
containers that are found in it, around what a single abstract type stands for.  Its base type is
the same without the outer containers.  The leaf needs no model, unless its abstract type is one
that the type table of the language leaves out; then a name of a model is made of the abstract
type. -/
theorem declare_anonymous (h : language.profile.withOptions o = .ok p) (library : Library)
    {s : OrRef Schema} (anonymous : Anonymous s) :
    let r : Resolver := ⟨p, library⟩
    ∃ node, lower s = .ok node ∧ node.leaf.abstractType ∈ Schema.abstractTypes ∧
      r.declare node =
        .ok (p.containers.wrapAll node.containers (r.mapType node.leaf.abstractType)) ∧
      r.baseType node =
        .ok (p.containers.wrapAll node.core.containers (r.mapType node.leaf.abstractType)) ∧
      (node.leaf.abstractType ∉ language.unmappedTypes →
        p.builtins.contains (r.mapType node.leaf.abstractType) = true) ∧
      (node.leaf.abstractType ∈ language.unmappedTypes →
        r.mapType node.leaf.abstractType = p.toModelName node.leaf.abstractType) := by
  intro r
  have lowered := endsIn_inline_lower anonymous
  obtain ⟨node, hnode⟩ := lowered.error.exists_eq_ok fun _ => id
  have inline := lowered.value node hnode
  have leaf := inline.abstractType_leaf
  exact ⟨node, hnode, leaf, inline.declareWithin r [], inline.baseType r,
    mapType_abstractType h library leaf⟩

/-- A map of arrays whose items are compositions of one array. -/
theorem declare_anonymous_nested :
    let r : Resolver := ⟨.pythonFlask, []⟩
    let array (items : Schema) : Schema :=
      { type := some (.single .array), items := some (.inline items) }
    let uuid : Schema := { type := some (.single .string), format := some "uuid" }
    let s : Schema :=
      { additional := some (.schema (.inline (array { allOf := [.inline (array uuid)] }))) }
    Language.pythonFlask.profile.withOptions {} = .ok .pythonFlask ∧ Anonymous (.inline s) ∧
      ∃ node, lower (.inline s) = .ok node ∧
        r.declare node = .ok "Dict[str, List[List[str]]]" ∧ r.baseType node = .ok "List[str]" := by
  intro r array uuid s
  have h : Language.pythonFlask.profile.withOptions {} = .ok .pythonFlask := rfl
  have ofArray {items : Schema} (h : Anonymous (.inline items)) :
      Anonymous (.inline (array items)) := by constructor <;> simp [array, h]
  have scalar : Anonymous (.inline uuid) := by constructor <;> simp [uuid]
  have single : Anonymous (.inline { allOf := [.inline (array uuid)] }) := by
    constructor <;> simp [ofArray scalar]
  have anonymous : Anonymous (.inline s) := by constructor <;> simp [s, ofArray single]
  obtain ⟨node, hnode, -, declared, base, -⟩ := declare_anonymous h [] anonymous
  have lowered : lower (.inline s) = .ok (.map (.array (.composed .allOf
      [.array (.primitive "UUID" none none) none] none) none) none) := rfl
  obtain rfl := Except.ok.inj (lowered.symm.trans hnode)
  have mapped : Resolver.mapType ⟨.pythonFlask, []⟩ "UUID" = "str" := by decide +kernel
  dsimp only [Node.core, Node.containers, Node.leaf, Node.abstractType] at declared base
  rw [mapped] at declared base
  exact ⟨h, anonymous, _, hnode, declared, base⟩

/-- Python has no type for passwords. -/
theorem declare_anonymous_password :
    let r : Resolver := ⟨.pythonFlask, []⟩
    let s : Schema := { type := some (.single .string), format := some "password" }
    Anonymous (.inline s) ∧ lower (.inline s) = .ok (.primitive "password" none none) ∧
      r.declare (.primitive "password" none none) = .ok "Password" ∧
      r.baseType (.primitive "password" none none) = .ok "Password" ∧
      r.profile.builtins.contains "Password" = false := by
  intro r s
  have inline : (Node.primitive "password" none none).Inline := .primitive (by decide)
  have mapped : r.mapType "password" = "Password" := by decide +kernel
  refine ⟨by constructor <;> simp [s], rfl, ?_, ?_, by decide +kernel⟩
  · rw [← mapped]
    exact inline.declareWithin r []
  · rw [← mapped]
    exact inline.baseType r

end Resolver

end OpenApiGen
