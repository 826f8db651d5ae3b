import OpenApiGen.Proofs.Schema.Declaration
import OpenApiGen.Proofs.Schema.References

/-!
# What declared types look up

Types are spelled out along some of the references of a node only: an anonymous composition is
declared by a name or as any object, whatever its members refer to.  `Node.declaredRefs` are the
components that a declaration follows, `Node.typeRefs` those that the innermost type follows as
well, and `Node.modelRefs` those that the model of a component follows.

A type is declared if and only if all these components are there; if one is missing, the error names
it (`Resolver.looksUp_declareWithin`, `Resolver.looksUp_baseType`).
-/

namespace OpenApiGen

/-! ## References that are followed -/

namespace Node

/-- Whether an array is declared by a name of its items, as they are an anonymous composition and
there is a tag. -/
def namesItems (tag : Option String) : Node → Bool
  | composed _ _ itemsTag => tag.isSome || itemsTag.isSome
  | _ => false

/-- The components that the declaration of a node follows. -/
def declaredRefs : Node → List String
  | ref name => [name]
  | array items tag => if items.namesItems tag then [] else declaredRefs items
  | map value _ => declaredRefs value
  | composed _ [single] none => declaredRefs single
  | _ => []

/-- The components that the declaration of a node or of its innermost type follows. -/
def typeRefs : Node → List String
  | array items _ => typeRefs items
  | map value _ => typeRefs value
  | node => node.declaredRefs

mutual

/-- The components that a node follows when it is flattened. -/
def flattenedRefs : Node → List String
  | object entries _ _ => entries.flatMap fun e => e.2.typeRefs
  | composed .allOf members _ => flattenedRefsAll members
  | _ => []

/-- The components that the members of an `allOf` schema follow when they are flattened. -/
def flattenedRefsAll : List Node → List String
  | [] => []
  | ref name :: rest => name :: flattenedRefsAll rest
  | member :: rest => flattenedRefs member ++ flattenedRefsAll rest

end

/-- The components that the model of a node follows. -/
def modelRefs (node : Node) : List String :=
  match node with
  | object .. | composed .. => node.flattenedRefs
  | _ => node.typeRefs

theorem declaredRefs_subset_typeRefs (node : Node) : node.declaredRefs ⊆ node.typeRefs := by
  induction node using typeRefs.induct with
  | case1 items tag ih =>
    rw [declaredRefs, typeRefs]
    split
    · exact List.nil_subset _
    · exact ih
  | case2 value tag ih =>
    rw [declaredRefs, typeRefs]
    exact ih
  | case3 node notArray notMap =>
    rw [typeRefs.eq_3 _ notArray notMap]
    exact List.Subset.refl _

/-- An array that names its items is not followed to them below the only member of a composition. -/
example :
    let pets : Node := .array (.composed .allOf [.ref "Missing"] none) (some "Pets")
    pets.typeRefs = ["Missing"] ∧ (composed .allOf [pets] none).typeRefs = [] :=
  ⟨rfl, rfl⟩

theorem typeRefs_of_not_isContainer {node : Node} (plain : node.isContainer = false) :
    node.typeRefs = node.declaredRefs := by
  cases node with
  | array | map => cases plain
  | _ => exact typeRefs.eq_3 _ (by simp) (by simp)

/-- A tag keeps a declaration from following the items of an array, and the innermost type follows
them all the same. -/
theorem typeRefs_tagged {node : Node} (container : node.isContainer = true) (tag : String) :
    (node.tagged tag).typeRefs = node.typeRefs := by
  cases node with
  | array items _ => rw [tagged, typeRefs, typeRefs]
  | map value _ => rw [tagged, typeRefs, typeRefs]
  | _ => cases container

theorem modelRefs_of_isContainer {node : Node} (container : node.isContainer = true) :
    node.modelRefs = node.typeRefs := by
  cases node with
  | array | map => rfl
  | _ => cases container

theorem modelRefs_of_element? {node element : Node} (h : node.element? = some element) :
    node.modelRefs = element.typeRefs := by
  cases node with
  | array | map =>
    cases h
    unfold modelRefs
    dsimp only
    rw [typeRefs]
  | _ => cases h

theorem flattenedRefs_subset_modelRefs (node : Node) : node.flattenedRefs ⊆ node.modelRefs := by
  cases node with
  | object | composed => exact List.Subset.refl _
  | _ => exact List.nil_subset _

theorem declaredRefs_composed_tag (kind : Composition) (members : List Node) (tag : String) :
    (composed kind members (some tag)).declaredRefs = [] :=
  declaredRefs.eq_5 _ (by simp) (by simp) (by simp) (by simp)

theorem declaredRefs_composed_several {members : List Node} (kind : Composition)
    (tag : Option String) (several : ∀ single, members ≠ [single]) :
    (composed kind members tag).declaredRefs = [] := by
  refine declaredRefs.eq_5 _ (by simp) (by simp) (by simp) ?_
  intro _ single same
  cases same
  exact several single rfl

theorem refs_subset_refsAll {member : Node} {members : List Node} (mem : member ∈ members) :
    member.refs ⊆ refsAll members := by
  induction members with
  | nil => cases mem
  | cons first rest ih =>
    rw [refsAll]
    rcases List.mem_cons.1 mem with rfl | mem
    · exact List.subset_append_left _ _
    · exact List.subset_append_of_subset_right _ (ih mem)

theorem refs_subset_entryRefs {e : String × Node} {entries : List (String × Node)}
    (mem : e ∈ entries) : e.2.refs ⊆ entryRefs entries := by
  induction entries with
  | nil => cases mem
  | cons first rest ih =>
    rw [entryRefs]
    rcases List.mem_cons.1 mem with rfl | mem
    · exact List.subset_append_left _ _
    · exact List.subset_append_of_subset_right _ (ih mem)

theorem declaredRefs_subset_refs (node : Node) : node.declaredRefs ⊆ node.refs := by
  induction node using declaredRefs.induct with
  | case1 name => exact List.Subset.refl _
  | case2 items tag named =>
    rw [declaredRefs, if_pos named]
    exact List.nil_subset _
  | case3 items tag unnamed ih =>
    rw [declaredRefs, if_neg unnamed, refs]
    exact ih
  | case4 value tag ih =>
    rw [declaredRefs, refs]
    exact ih
  | case5 kind single ih =>
    rw [declaredRefs, refs]
    exact List.Subset.trans ih (refs_subset_refsAll List.mem_cons_self)
  | case6 node notRef notArray notMap notSingle =>
    rw [declaredRefs.eq_5 _ notRef notArray notMap notSingle]
    exact List.nil_subset _

theorem typeRefs_subset_refs (node : Node) : node.typeRefs ⊆ node.refs := by
  induction node using typeRefs.induct with
  | case1 items tag ih =>
    rw [typeRefs, refs]
    exact ih
  | case2 value tag ih =>
    rw [typeRefs, refs]
    exact ih
  | case3 node notArray notMap =>
    rw [typeRefs.eq_3 _ notArray notMap]
    exact node.declaredRefs_subset_refs

mutual

theorem flattenedRefs_subset_refs (node : Node) : node.flattenedRefs ⊆ node.refs := by
  cases node with
  | object entries required description =>
    rw [flattenedRefs, refs]
    intro name hname
    obtain ⟨e, mem, hname⟩ := List.mem_flatMap.1 hname
    exact refs_subset_entryRefs mem (e.2.typeRefs_subset_refs hname)
  | composed kind members tag =>
    cases kind with
    | allOf => exact flattenedRefsAll_subset_refsAll members
    | _ => exact List.nil_subset _
  | _ => exact List.nil_subset _

theorem flattenedRefsAll_subset_refsAll (members : List Node) :
    flattenedRefsAll members ⊆ refsAll members := by
  cases members with
  | nil => exact List.Subset.refl _
  | cons member rest =>
    have later := flattenedRefsAll_subset_refsAll rest
    by_cases isRef : ∃ name, member = ref name
    · obtain ⟨name, rfl⟩ := isRef
      rw [flattenedRefsAll, refsAll, refs]
      exact List.cons_subset_cons _ later
    · rw [flattenedRefsAll.eq_3 _ _ fun name same => isRef ⟨name, same⟩, refsAll]
      exact List.append_subset.2
        ⟨List.subset_append_of_subset_left _ (flattenedRefs_subset_refs member),
          List.subset_append_of_subset_right _ later⟩

end

theorem modelRefs_subset_refs (node : Node) : node.modelRefs ⊆ node.refs := by
  unfold modelRefs
  split
  · exact flattenedRefs_subset_refs _
  · exact flattenedRefs_subset_refs _
  · exact node.typeRefs_subset_refs

end Node

/-! ## Lookups -/

namespace Library

variable {library : Library}

/-- An error says that there is no component of a name, which is among some names or is followed for
the model of a component. -/
def Misses (library : Library) (names : List String) (e : RefError) : Prop :=
  ∃ name ∉ library.keys, e = .unresolved name ∧
    (name ∈ names ∨ ∃ c ∈ library, name ∈ c.2.modelRefs)

/-- A computation looks up components of some names: it succeeds only if all of them are there, and
it fails only if one is missing. -/
structure LooksUp {α : Type} (library : Library) (names : List String) (x : Except RefError α) :
    Prop where
  found : ∀ a, x = .ok a → ∀ name ∈ names, name ∈ library.keys
  missing : FailsWith (library.Misses names) x

theorem Misses.mono {names more : List String} (sub : names ⊆ more) {e : RefError}
    (h : library.Misses names e) : library.Misses more e := by
  obtain ⟨name, gone, same, mem⟩ := h
  exact ⟨name, gone, same, mem.imp_left fun mem => sub mem⟩

theorem looksUp_find (library : Library) (name : String) :
    library.LooksUp [name] (library.find name) where
  found node same other mem := by
    cases List.mem_singleton.1 mem
    exact Dict.mem_keys_of_get? (get?_of_find same)
  missing e same := by
    unfold find at same
    split at same
    · cases same
    · next missing =>
      cases same
      exact ⟨name, Dict.get?_eq_none_iff.1 missing, rfl, .inl (List.mem_singleton_self name)⟩

theorem looksUp_of_find_error {α : Type} {name : String} {e : RefError}
    (missing : library.find name = .error e) :
    library.LooksUp [name] (.error e : Except RefError α) :=
  ⟨nofun, .error ((library.looksUp_find name).missing e missing)⟩

namespace LooksUp

variable {α β : Type} {names more : List String} {x : Except RefError α}

theorem ok (a : α) : library.LooksUp [] (.ok a) :=
  ⟨fun _ _ => List.forall_mem_nil _, .ok a⟩

theorem bind (h : library.LooksUp names x) {f : α → Except RefError β}
    (next : ∀ a, x = .ok a → library.LooksUp more (f a)) :
    library.LooksUp (names ++ more) (x >>= f) where
  found b same := by
    obtain ⟨a, ha, hb⟩ := bind_eq_ok_iff.1 same
    exact List.forall_mem_append.2 ⟨h.found a ha, (next a ha).found b hb⟩
  missing := by
    have first : FailsWith (library.Misses (names ++ more)) x :=
      h.missing.mono fun _ => .mono (List.subset_append_left names more)
    exact first.bind fun a ha =>
      (next a ha).missing.mono fun _ => .mono (List.subset_append_right names more)

/-- A step before the lookups that looks up nothing else. -/
theorem after (first : FailsWith (library.Misses names) x) {f : α → Except RefError β}
    (h : ∀ a, x = .ok a → library.LooksUp names (f a)) : library.LooksUp names (x >>= f) where
  found b same := by
    obtain ⟨a, ha, hb⟩ := bind_eq_ok_iff.1 same
    exact (h a ha).found b hb
  missing := first.bind fun a ha => (h a ha).missing

/-- A step after the lookups that looks up nothing else. -/
theorem before (h : library.LooksUp names x) {f : α → Except RefError β}
    (last : ∀ a, x = .ok a → FailsWith (library.Misses names) (f a)) :
    library.LooksUp names (x >>= f) where
  found b same := by
    obtain ⟨a, ha, -⟩ := bind_eq_ok_iff.1 same
    exact h.found a ha
  missing := h.missing.bind last

/-- A last step that cannot fail. -/
theorem then_ok (h : library.LooksUp names x) (f : α → β) :
    library.LooksUp names (x >>= fun a => .ok (f a)) :=
  h.before fun a _ => .ok (f a)

theorem mapM {f : α → Except RefError β} {namesOf : α → List String} {l : List α}
    (h : ∀ a ∈ l, library.LooksUp (namesOf a) (f a)) :
    library.LooksUp (l.flatMap namesOf) (l.mapM f) := by
  induction l with
  | nil => exact .ok []
  | cons a l ih =>
    obtain ⟨first, rest⟩ := List.forall_mem_cons.1 h
    rw [List.mapM_cons, List.flatMap_cons]
    exact first.bind fun _ _ => (ih rest).then_ok _

/-- What a component looks up counts as a lookup of the component. -/
theorem of_component (h : library.LooksUp names x) {name : String} {target : Node}
    (mem : (name, target) ∈ library) (sub : names ⊆ target.modelRefs) :
    library.LooksUp [name] x where
  found _ _ other same := by
    cases List.mem_singleton.1 same
    exact Dict.mem_keys_of_mem mem
  missing := by
    refine h.missing.mono ?_
    rintro e ⟨other, gone, same, own | nested⟩
    · exact ⟨other, gone, same, .inr ⟨_, mem, sub own⟩⟩
    · exact ⟨other, gone, same, .inr nested⟩

/-- A computation succeeds if the components that it looks up are there, and those that models
follow. -/
theorem exists_eq_ok (h : library.LooksUp names x) (there : ∀ name ∈ names, name ∈ library.keys)
    (closed : ∀ c ∈ library, ∀ name ∈ c.2.modelRefs, name ∈ library.keys) : ∃ a, x = .ok a := by
  refine h.missing.exists_eq_ok ?_
  rintro e ⟨name, gone, -, mem | ⟨c, hc, mem⟩⟩
  · exact gone (there name mem)
  · exact gone (closed c hc name mem)

end LooksUp

end Library

/-! ## Types -/

namespace Resolver

open Library

theorem itemsName?_isSome (r : Resolver) (items : Node) (tag : Option String) :
    (r.itemsName? items tag).isSome = items.namesItems tag := by
  unfold itemsName? Node.namesItems
  cases items with
  | composed kind members itemsTag =>
    cases tag with
    | none => exact Option.isSome_map
    | some t => rfl
  | _ => rfl

/-- A declaration looks up a component for each reference that it follows.  It fails only for one
that it follows itself, or that it finds in a component that is spelled out. -/
theorem looksUp_declareWithin (r : Resolver) (opened : List String) (node : Node) :
    r.library.LooksUp node.declaredRefs (r.declareWithin opened node) := by
  induction opened, node using declareWithin.induct r with
  | case1 opened items tag name named =>
    rw [declareWithin, named, Node.declaredRefs, if_pos]
    · exact .ok _
    · rw [← itemsName?_isSome r, named]
      rfl
  | case2 opened items tag unnamed ih =>
    rw [declareWithin, unnamed, Node.declaredRefs, if_neg]
    · exact ih.then_ok _
    · rw [← itemsName?_isSome r, unnamed]
      exact Bool.false_ne_true
  | case3 opened value tag ih =>
    rw [declareWithin, Node.declaredRefs]
    exact ih.then_ok _
  | case4 opened name e missing =>
    rw [declareWithin_ref_missing missing, Node.declaredRefs]
    exact looksUp_of_find_error missing
  | case5 opened name target found new ih =>
    rw [declareWithin_ref found, if_pos new, Node.declaredRefs]
    refine ih.of_component (Dict.mem_of_get? (Library.get?_of_find found)) ?_
    rw [Node.modelRefs_of_isContainer new.1, ← Node.typeRefs_tagged new.1 name]
    exact Node.declaredRefs_subset_typeRefs _
  | case6 opened name target found old =>
    rw [declareWithin_ref found, if_neg old, Node.declaredRefs]
    exact (LooksUp.ok _).of_component (Dict.mem_of_get? (Library.get?_of_find found))
      (List.nil_subset _)
  | case7 opened kind members tag =>
    rw [declareWithin, Node.declaredRefs_composed_tag]
    exact .ok _
  | case8 opened kind single ih =>
    rw [declareWithin, Node.declaredRefs]
    exact ih
  | case9 opened kind members several =>
    rw [declareWithin.eq_6 _ _ _ _ several, Node.declaredRefs_composed_several _ _ several]
    exact .ok _
  | case10 | case11 | case12 =>
    rw [declareWithin]
    exact .ok _

/-- The type of what is left of a node looks up a component for each reference on the way to it. -/
theorem looksUp_innermost_declare (r : Resolver) (seen : List String) (node : Node) :
    r.library.LooksUp node.typeRefs (r.innermost seen node >>= r.declare) := by
  induction seen, node using innermost.induct r with
  | case1 seen items tag ih =>
    rw [innermost, Node.typeRefs]
    exact ih
  | case2 seen value tag ih =>
    rw [innermost, Node.typeRefs]
    exact ih
  | case3 seen name e missing =>
    rw [innermost_ref_missing missing, Node.typeRefs, Node.declaredRefs]
    · exact looksUp_of_find_error missing
    all_goals simp
  | case4 seen name target found plain =>
    rw [innermost_ref found, plain]
    exact r.looksUp_declareWithin [] (.ref name)
  | case5 seen name target found element helement old =>
    rw [innermost_ref found, helement]
    dsimp only
    rw [if_pos old]
    exact r.looksUp_declareWithin [] (.ref name)
  | case6 seen name target found element helement new ih =>
    rw [innermost_ref found, helement]
    dsimp only
    rw [if_neg new]
    refine ih.of_component (Dict.mem_of_get? (Library.get?_of_find found)) ?_
    rw [Node.modelRefs_of_element? helement]
    exact List.Subset.refl _
  | case7 seen node notArray notMap notRef =>
    rw [innermost.eq_4 _ _ _ notArray notMap notRef, Node.typeRefs.eq_3 _ notArray notMap]
    exact r.looksUp_declareWithin [] node

theorem looksUp_declare (r : Resolver) (node : Node) :
    r.library.LooksUp node.declaredRefs (r.declare node) :=
  r.looksUp_declareWithin [] node

theorem looksUp_baseType (r : Resolver) (node : Node) :
    r.library.LooksUp node.typeRefs (r.baseType node) :=
  r.looksUp_innermost_declare [] node

theorem missing_declare (r : Resolver) (node : Node) :
    FailsWith (r.library.Misses node.typeRefs) (r.declare node) :=
  (r.looksUp_declare node).missing.mono fun _ => .mono node.declaredRefs_subset_typeRefs

end Resolver

end OpenApiGen
