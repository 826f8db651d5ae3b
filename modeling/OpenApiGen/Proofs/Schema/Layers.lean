import OpenApiGen.Proofs.Schema.Spine

/-!
# Layers of declared types

A declaration goes down into a node, writes a container for each array and map that it passes, and
ends in a leaf (`Resolver.Layered`).  A type is declared exactly if the descent comes to a leaf, and
it is the leaf in these containers (`declareWithin_eq_ok_iff`).
-/

namespace OpenApiGen.Resolver

/-- The containers that a declaration writes while it goes down into a node, the outermost first,
and the leaf that it ends in, if the aliases in a list are being spelled out already. -/
inductive Layered (r : Resolver) : List String → Node → List Container → String → Prop
  | named {opened : List String} {items : Node} {tag : Option String} {name : String}
      (named : r.itemsName? items tag = some name) :
      Layered r opened (.array items tag) [.array] name
  | array {opened : List String} {items : Node} {tag : Option String} {kinds : List Container}
      {leaf : String} (unnamed : r.itemsName? items tag = none)
      (rest : Layered r opened items kinds leaf) :
      Layered r opened (.array items tag) (.array :: kinds) leaf
  | map {opened : List String} {value : Node} {tag : Option String} {kinds : List Container}
      {leaf : String} (rest : Layered r opened value kinds leaf) :
      Layered r opened (.map value tag) (.map :: kinds) leaf
  | aliased {opened : List String} {name : String} {target : Node} {kinds : List Container}
      {leaf : String} (found : r.library.find name = .ok target)
      (new : target.isContainer = true ∧ name ∉ opened)
      (rest : Layered r (name :: opened) (target.tagged name) kinds leaf) :
      Layered r opened (.ref name) kinds leaf
  | model {opened : List String} {name : String} {target : Node}
      (found : r.library.find name = .ok target)
      (old : ¬ (target.isContainer = true ∧ name ∉ opened)) :
      Layered r opened (.ref name) [] (r.mapType name)
  | tagged {opened : List String} {kind : Composition} {members : List Node} {tag : String} :
      Layered r opened (.composed kind members (some tag)) [] (r.composedName kind tag)
  | single {opened : List String} {kind : Composition} {single : Node} {kinds : List Container}
      {leaf : String} (rest : Layered r opened single kinds leaf) :
      Layered r opened (.composed kind [single] none) kinds leaf
  | several {opened : List String} {kind : Composition} {members : List Node}
      (several : ∀ single, members ≠ [single]) :
      Layered r opened (.composed kind members none) [] (r.mapType "object")
  | plain {opened : List String} {node : Node} (h : node.isPlain = true) :
      Layered r opened node [] (r.mapType node.abstractType)

variable {r : Resolver} {opened : List String} {node : Node}

/-- What the descent passes and ends in is the declared type. -/
theorem Layered.declareWithin {kinds : List Container} {leaf : String}
    (h : r.Layered opened node kinds leaf) :
    r.declareWithin opened node = .ok (r.profile.containers.wrapAll kinds leaf) := by
  induction h with
  | named named =>
    rw [Resolver.declareWithin, named]
    rfl
  | array unnamed rest ih =>
    rw [Resolver.declareWithin, unnamed, ih]
    rfl
  | map rest ih =>
    rw [Resolver.declareWithin, ih]
    rfl
  | aliased found new rest ih =>
    rw [declareWithin_ref found, if_pos new, ih]
  | model found old =>
    rw [declareWithin_ref found, if_neg old]
    rfl
  | tagged =>
    rw [Resolver.declareWithin]
    rfl
  | single rest ih =>
    rw [Resolver.declareWithin, ih]
  | several several =>
    rw [Resolver.declareWithin.eq_6 _ _ _ _ several]
    rfl
  | plain h =>
    rw [declareWithin_of_isPlain h]
    rfl

theorem exists_layered {t : String} (h : r.declareWithin opened node = .ok t) :
    ∃ kinds leaf, r.Layered opened node kinds leaf := by
  induction opened, node using declareWithin.induct r generalizing t with
  | case1 opened items tag name named => exact ⟨_, _, .named named⟩
  | case2 opened items tag unnamed ih =>
    rw [declareWithin, unnamed] at h
    obtain ⟨inner, hinner, -⟩ := bind_eq_ok_iff.1 h
    obtain ⟨kinds, leaf, rest⟩ := ih hinner
    exact ⟨_, _, .array unnamed rest⟩
  | case3 opened value tag ih =>
    rw [declareWithin] at h
    obtain ⟨inner, hinner, -⟩ := bind_eq_ok_iff.1 h
    obtain ⟨kinds, leaf, rest⟩ := ih hinner
    exact ⟨_, _, .map rest⟩
  | case4 opened name e missing =>
    rw [declareWithin_ref_missing missing] at h
    cases h
  | case5 opened name target found new ih =>
    rw [declareWithin_ref found, if_pos new] at h
    obtain ⟨kinds, leaf, rest⟩ := ih h
    exact ⟨_, _, .aliased found new rest⟩
  | case6 opened name target found old => exact ⟨_, _, .model found old⟩
  | case7 opened kind members tag => exact ⟨_, _, .tagged⟩
  | case8 opened kind single ih =>
    rw [declareWithin] at h
    obtain ⟨kinds, leaf, rest⟩ := ih h
    exact ⟨_, _, .single rest⟩
  | case9 opened kind members several => exact ⟨_, _, .several several⟩
  | case10 | case11 | case12 => exact ⟨_, _, .plain rfl⟩

/-- A type is declared exactly if the descent comes to a leaf, and it is the leaf in the containers
that were passed. -/
theorem declareWithin_eq_ok_iff {t : String} : r.declareWithin opened node = .ok t ↔
    ∃ kinds leaf, r.Layered opened node kinds leaf ∧
      t = r.profile.containers.wrapAll kinds leaf := by
  constructor
  · intro h
    obtain ⟨kinds, leaf, layered⟩ := exists_layered h
    exact ⟨kinds, leaf, layered, Except.ok.inj (h.symm.trans layered.declareWithin)⟩
  · rintro ⟨kinds, leaf, layered, rfl⟩
    exact layered.declareWithin

/-- What is true of each name that types get from the type table, from a composition and from the
items of an array is true of leaves. -/
theorem Layered.leaf_of {leaf : String → Prop} (mapped : ∀ name, leaf (r.mapType name))
    (composed : ∀ kind tag, leaf (r.composedName kind tag))
    (items : ∀ kind tag, leaf (r.composedName kind tag ++ "Items")) {kinds : List Container}
    {t : String} (h : r.Layered opened node kinds t) : leaf t := by
  induction h with
  | named named =>
    unfold itemsName? at named
    split at named
    · obtain ⟨tag, -, rfl⟩ := Option.map_eq_some_iff.1 named
      exact items _ tag
    · cases named
  | array _ _ ih | map _ ih | aliased _ _ _ ih | single _ ih => exact ih
  | model | several | plain => exact mapped _
  | tagged => exact composed _ _

end OpenApiGen.Resolver
