import OpenApiGen.Proofs.Naming.Legal
import OpenApiGen.Proofs.Schema.Layers

/-!
# The spelling of types

A type is spelled by putting containers around a leaf (`Containers.Spells`).  The leaf of a
declared type is a type that needs no model, or a name for a type: an ASCII letter with letters
and digits after it, which is no reserved word (`Profile.IsLeaf`).  This holds of every document,
every node and all settings (`Resolver.spells_declare`), for whatever name a type is made of,
naming makes a name for a type (`isTypeName_toModelName`).
-/

namespace OpenApiGen

open Text

/-- The texts that containers make of leaves. -/
inductive Containers.Spells (c : Containers) (leaf : String → Prop) : String → Prop
  | leaf {t : String} (h : leaf t) : Spells c leaf t
  | array {t : String} (h : Spells c leaf t) : Spells c leaf (c.array.wrap t)
  | map {t : String} (h : Spells c leaf t) : Spells c leaf (c.map.wrap t)

theorem Containers.Spells.wrapAll {c : Containers} {leaf : String → Prop} (kinds : List Container)
    {t : String} (h : leaf t) : c.Spells leaf (c.wrapAll kinds t) := by
  induction kinds with
  | nil => exact .leaf h
  | cons kind kinds ih =>
    cases kind with
    | array => exact .array ih
    | map => exact .map ih

/-! ## Names for types -/

namespace Profile

/-- A name that can be given to a type: an ASCII letter, then ASCII letters and digits, and no
reserved word. -/
structure IsTypeName (p : Profile) (name : String) : Prop where
  head : ∃ c, name.toList.head? = some c ∧ c.isAlpha = true
  chars : ∀ c ∈ name.toList, c.isAlphanum = true
  unreserved : ¬ p.isReserved name = true

variable {p : Profile}

theorem isAlphanum_of_mem_toModelName (marker : p.rules.modelMarker = "Model") (raw : String) :
    ∀ c ∈ (p.toModelName raw).toList, c.isAlphanum = true := by
  have cased := Casing.isAlphanum_of_mem_apply_upperCamel (isClean_sanitize (p.affixed raw))
  have model : ∀ c ∈ "Model".toList, c.isAlphanum = true := by simp
  unfold toModelName modelNameReported
  dsimp only
  generalize hcamel : toUpperCamel (sanitize (p.affixed raw)) = camel
  replace cased : ∀ c ∈ camel.toList, c.isAlphanum = true := by
    rw [← hcamel]
    exact cased
  have marked : ∀ c ∈ ("Model" ++ camel).toList, c.isAlphanum = true := by
    rw [String.toList_append]
    exact List.forall_mem_append.2 ⟨model, cased⟩
  rw [marker]
  split_ifs
  · exact model
  · exact marked
  · exact marked
  · exact cased

theorem Disciplined.isTypeName_toModelName (hp : p.Disciplined) (raw : String) :
    p.IsTypeName (p.toModelName raw) := by
  have legal : p.Legal false (p.toModelName raw) := hp.legal_modelNameReported raw
  have chars := isAlphanum_of_mem_toModelName hp.marker raw
  refine ⟨?_, chars, legal.unreserved⟩
  obtain ⟨c, rest, hname⟩ :=
    List.exists_cons_of_ne_nil fun h => legal.nonempty (String.toList_eq_nil_iff.1 h)
  have head : (p.toModelName raw).toList.head? = some c := by rw [hname]; rfl
  have alphanum := chars c (List.mem_of_head? head)
  rw [Char.isAlphanum, legal.head c head, Bool.or_false] at alphanum
  exact ⟨c, head, alphanum⟩

end Profile

/-- Names of models can be given to types under all settings.  Replacements of reserved words play
no part in them. -/
theorem isTypeName_toModelName {language : Language} {o : Options} {p : Profile}
    (h : language.profile.withOptions o = .ok p) (raw : String) :
    p.IsTypeName (p.toModelName raw) := by
  obtain ⟨q, hq⟩ : ∃ q, language.profile.withOptions { o with reservedMappings := [] } = .ok q :=
    Profile.exists_withOptions_iff.2 fun casing requested =>
      Profile.exists_withOptions_iff.1 ⟨p, h⟩ casing requested
  have named := (disciplined_of_withOptions hq rfl).isTypeName_toModelName raw
  obtain ⟨_, -, rfl⟩ := Profile.withOptions_cases h
  obtain ⟨_, -, rfl⟩ := Profile.withOptions_cases hq
  exact ⟨named.head, named.chars, named.unreserved⟩

theorem all_not_items (language : Language) : (language.reservedWords.all fun w =>
    !"items".toList.isSuffixOf (w.toList.map Char.toLower)) = true := by
  have swift : (Profile.swiftReserved.all fun w =>
      !"items".toList.isSuffixOf (w.toList.map Char.toLower)) = true := by decide +kernel
  cases language with
  | go | javascript | pythonFlask => decide +kernel
  | swift4 | swift5 => exact swift

/-- No reserved word ends in what is put after the name of the items of an array. -/
theorem isTypeName_append_items {language : Language} {o : Options} {p : Profile}
    (h : language.profile.withOptions o = .ok p) {name : String} (named : p.IsTypeName name) :
    p.IsTypeName (name ++ "Items") := by
  have chars : ∀ c ∈ (name ++ "Items").toList, c.isAlphanum = true := by
    rw [String.toList_append]
    exact List.forall_mem_append.2 ⟨named.chars, by simp⟩
  refine ⟨?_, chars, fun reserved => ?_⟩
  · obtain ⟨c, hc, alpha⟩ := named.head
    exact ⟨c, by rw [String.toList_append, List.head?_append, hc]; rfl, alpha⟩
  · have ascii : ∀ c ∈ (name ++ "Items").toList, isAscii c = true := fun c hc =>
      isAscii_of_isIdentifierChar (isIdentifierChar_of_isAlphanum (chars c hc))
    obtain ⟨w, hw, same⟩ := ((Language.isReserved_iff h _).1 reserved).exists_map_toLower ascii
    have free := List.all_eq_true.1 (all_not_items language) w hw
    have ends : "items".toList <:+ w.toList.map Char.toLower := by
      rw [same, String.toList_append, List.map_append]
      exact List.suffix_append _ _
    rw [List.isSuffixOf_iff_suffix.2 ends] at free
    cases free

/-! ## Leaves of types -/

/-- What containers are put around: a type that needs no model, or a name for a type. -/
def Profile.IsLeaf (p : Profile) (leaf : String) : Prop :=
  p.builtins.contains leaf = true ∨ p.IsTypeName leaf

/-- The types that a table maps to are leaves as they stand. -/
theorem isLeaf_of_hasTarget {language : Language} {o : Options} {p : Profile}
    (h : language.profile.withOptions o = .ok p) {t : String}
    (target : p.types.hasTarget t = true) : p.IsLeaf t := by
  obtain ⟨types, builtins⟩ := Profile.types_of_withOptions h
  rw [types, TypeTable.hasTarget, List.contains_iff_mem] at target
  obtain ⟨e, mem, rfl⟩ := List.mem_map.1 target
  rw [Profile.IsLeaf, builtins]
  refine (Language.builtin_or_decimal mem).imp_right ?_
  rintro ⟨-, decimal, free⟩
  rw [decimal] at free ⊢
  exact ⟨⟨'D', rfl, rfl⟩, by simp, fun reserved => free ((Language.isReserved_iff h _).1 reserved)⟩

namespace Resolver

theorem isLeaf_mapType {language : Language} {o : Options} {p : Profile}
    (h : language.profile.withOptions o = .ok p) (library : Library) (name : String) :
    p.IsLeaf (Resolver.mapType ⟨p, library⟩ name) := by
  cases found : p.types.get? name with
  | some t =>
    rw [mapType_of_get? found]
    split
    · next builtin => exact .inl builtin
    · exact .inr (isTypeName_toModelName h t)
  | none =>
    rw [mapType_of_get?_none found]
    split
    · next known =>
      rcases Bool.or_eq_true_iff.1 known with builtin | target
      · exact .inl builtin
      · exact isLeaf_of_hasTarget h target
    · exact .inr (isTypeName_toModelName h name)

/-! ## Declared types -/

/-- A declared type is spelled from leaves, if all names are leaves that types get from the type
table, from a composition and from the items of an array. -/
theorem spells_declareWithin {r : Resolver} {leaf : String → Prop}
    (mapped : ∀ name, leaf (r.mapType name)) (composed : ∀ kind tag, leaf (r.composedName kind tag))
    (items : ∀ kind tag, leaf (r.composedName kind tag ++ "Items")) {opened : List String}
    {node : Node} {t : String} (h : r.declareWithin opened node = .ok t) :
    r.profile.containers.Spells leaf t := by
  obtain ⟨kinds, name, layered, rfl⟩ := declareWithin_eq_ok_iff.1 h
  exact .wrapAll kinds (layered.leaf_of mapped composed items)

/-- Whatever the document and the settings are, the declared type of a node and the type of what is
left of it without containers are spelled from types that need no model and from names for types. -/
theorem spells_declare {language : Language} {o : Options} {p : Profile}
    (h : language.profile.withOptions o = .ok p) (library : Library) (node : Node) :
    (∀ t, Resolver.declare ⟨p, library⟩ node = .ok t → p.containers.Spells p.IsLeaf t) ∧
      ∀ t, Resolver.baseType ⟨p, library⟩ node = .ok t → p.containers.Spells p.IsLeaf t := by
  let r : Resolver := ⟨p, library⟩
  have composed (kind : Composition) (tag : String) : p.IsTypeName (r.composedName kind tag) :=
    isTypeName_toModelName h _
  have declared (node : Node) (t : String) (ok : r.declare node = .ok t) :
      p.containers.Spells p.IsLeaf t :=
    spells_declareWithin (r := r) (isLeaf_mapType h library)
      (fun kind tag => .inr (composed kind tag))
      (fun kind tag => .inr (isTypeName_append_items h (composed kind tag))) ok
  refine ⟨declared node, fun t ok => ?_⟩
  obtain ⟨last, -, ok⟩ := bind_eq_ok_iff.1 ok
  exact declared last t ok

/-- An alias of an array of composed items that comes back to itself. -/
theorem spells_declare_tree :
    let p : Profile := { Profile.pythonFlask with
      naming := { Profile.pythonFlask.naming with modelPrefix := some "my" } }
    let tree : Node := .array (.composed .oneOf [.ref "Tree", .scalar "string"] none) none
    Language.pythonFlask.profile.withOptions { modelPrefix := some "my" } = .ok p ∧
      Resolver.declare ⟨p, [("Tree", tree)]⟩ (.ref "Tree") = .ok "List[MyOneOfTreeItems]" ∧
      p.containers.Spells p.IsLeaf "List[MyOneOfTreeItems]" := by
  intro p tree
  let r : Resolver := ⟨p, [("Tree", tree)]⟩
  have h : Language.pythonFlask.profile.withOptions { modelPrefix := some "my" } = .ok p := rfl
  have found : r.library.find "Tree" = .ok tree := rfl
  have named : r.itemsName? (.composed .oneOf [.ref "Tree", .scalar "string"] none) (some "Tree") =
      some "MyOneOfTreeItems" := by decide +kernel
  have declared : r.declare (.ref "Tree") = .ok "List[MyOneOfTreeItems]" := by
    rw [declare, declareWithin_ref found, if_pos ⟨rfl, List.not_mem_nil⟩, Node.tagged,
      declareWithin, named]
    rfl
  exact ⟨h, declared, (spells_declare h [("Tree", tree)] (.ref "Tree")).1 _ declared⟩

end Resolver

end OpenApiGen
