import Mathlib
import OpenApiGen.Proofs.Schema.Spine

/-!
# Cycles of aliases

Components may refer to each other in cycles.  A type is declared in steps
(`Resolver.Declares`), and so are the containers around a node taken off
(`Resolver.TakesOff`).  Neither goes on for ever, both open an alias of a container at most once,
and a declared type has no more containers than stand in its node and in the components that are
containers (`Resolver.declare_ends`): what is opened is used up.
-/

namespace OpenApiGen

/-- How many containers stand one inside the other in a node, references not followed.  An anonymous
composition of one member is as deep as its member. -/
def Node.containerDepth : Node → Nat
  | array items _ => items.containerDepth + 1
  | map value _ => value.containerDepth + 1
  | composed _ [single] none => single.containerDepth
  | _ => 0
termination_by node => sizeOf node
decreasing_by
  · simp only [Node.array.sizeOf_spec]; omega
  · simp only [Node.map.sizeOf_spec]; omega
  · simp; omega

theorem Node.containerDepth_tagged {node : Node} (container : node.isContainer = true)
    (name : String) : (node.tagged name).containerDepth = node.containerDepth := by
  cases node with
  | array | map => rw [tagged, containerDepth, containerDepth]
  | _ => cases container

theorem Node.isContainer_of_element? {node element : Node} (h : node.element? = some element) :
    node.isContainer = true := by
  cases node with
  | array | map => rfl
  | _ => cases h

namespace Library

variable {library : Library} {names : List String} {name : String} {target : Node}

/-- The depths of all components that are containers. -/
def containerDepth (library : Library) : Nat :=
  ((library.filter fun e => e.2.isContainer).map fun e => e.2.containerDepth).sum

/-- The components whose names are not in a list. -/
def without (library : Library) (names : List String) : Library :=
  library.filter fun e => e.1 ∉ names

theorem without_nil (library : Library) : library.without [] = library := by
  simp [without]

theorem without_cons (library : Library) (name : String) (names : List String) :
    library.without (name :: names) = (library.without names).filter fun e => e.1 ≠ name := by
  unfold without
  rw [List.filter_filter]
  refine List.filter_congr fun e _ => ?_
  simp

/-- A container that is left out was counted before. -/
theorem containerDepth_without_cons (found : library.get? name = some target)
    (container : target.isContainer = true) (new : name ∉ names) :
    target.containerDepth + (library.without (name :: names)).containerDepth ≤
      (library.without names).containerDepth := by
  rw [without_cons]
  unfold containerDepth
  rw [List.filter_comm]
  set containers := (library.without names).filter fun e => e.2.isContainer with hcontainers
  have mem : (name, target) ∈ containers.filter fun e => decide ¬ e.1 ≠ name := by
    simp [hcontainers, without, Dict.mem_of_get? found, container, new]
  have counted := List.single_le_sum (fun _ _ => Nat.zero_le _) _
    (List.mem_map_of_mem (f := fun e => e.2.containerDepth) mem)
  have split := List.sum_map_filter_add_sum_map_filter_not (fun e => e.1 ≠ name)
    (fun e => e.2.containerDepth) containers
  dsimp only at counted
  omega

/-- Names of components that are containers, each of them once. -/
structure DistinctAliases (library : Library) (names : List String) : Prop where
  nodup : names.Nodup
  containers : ∀ name ∈ names, ∃ target, library.get? name = some target ∧
    target.isContainer = true

namespace DistinctAliases

theorem nil (library : Library) : DistinctAliases library [] :=
  ⟨List.nodup_nil, nofun⟩

theorem cons (h : DistinctAliases library names) (found : library.get? name = some target)
    (container : target.isContainer = true) (new : name ∉ names) :
    DistinctAliases library (name :: names) :=
  ⟨List.nodup_cons.2 ⟨new, h.nodup⟩,
    List.forall_mem_cons.2 ⟨⟨target, found, container⟩, h.containers⟩⟩

end DistinctAliases

end Library

/-! ## Declaring a type -/

/-- A type on the way to being declared: the containers that are written, the outermost first, the
aliases that are being spelled out, and the node whose type is still to be put in. -/
structure Declaring where
  kinds : List Container
  opened : List String
  node : Node

/-- Where no step can be taken for ever, each run can be taken to an end. -/
theorem exists_stuck {α : Type} {step : α → α → Prop}
    (wf : WellFounded fun inner outer => step outer inner) (a : α) :
    ∃ b, Relation.ReflTransGen step a b ∧ ∀ c, ¬ step b c := by
  induction a using wf.induction with
  | _ a ih =>
    by_cases h : ∃ b, step a b
    · obtain ⟨b, first⟩ := h
      obtain ⟨last, run, stuck⟩ := ih b first
      exact ⟨last, .head first run, stuck⟩
    · exact ⟨a, .refl, fun b step => h ⟨b, step⟩⟩

namespace Resolver

variable {r : Resolver}

/-- One step of a declaration. -/
inductive Declares (r : Resolver) : Declaring → Declaring → Prop
  | items {kinds : List Container} {opened : List String} {items : Node} {tag : Option String}
      (unnamed : r.itemsName? items tag = none) :
      Declares r ⟨kinds, opened, .array items tag⟩ ⟨kinds ++ [.array], opened, items⟩
  | value {kinds : List Container} {opened : List String} {value : Node} {tag : Option String} :
      Declares r ⟨kinds, opened, .map value tag⟩ ⟨kinds ++ [.map], opened, value⟩
  | aliased {kinds : List Container} {opened : List String} {name : String} {target : Node}
      (found : r.library.get? name = some target) (container : target.isContainer = true)
      (new : name ∉ opened) :
      Declares r ⟨kinds, opened, .ref name⟩ ⟨kinds, name :: opened, target.tagged name⟩
  | single {kinds : List Container} {opened : List String} {kind : Composition} {single : Node} :
      Declares r ⟨kinds, opened, .composed kind [single] none⟩ ⟨kinds, opened, single⟩

/-- What a declaration comes to: the type of the node that is left, in the containers that are
written. -/
def completed (r : Resolver) (s : Declaring) : Except RefError String :=
  r.profile.containers.wrapAll s.kinds <$> r.declareWithin s.opened s.node

/-- No declaration takes steps for ever. -/
theorem wellFounded_declares (r : Resolver) :
    WellFounded fun inner outer => r.Declares outer inner := by
  refine Dict.wellFounded_of_countOutside r.library Declaring.opened (fun s => sizeOf s.node) ?_
  intro inner outer step
  cases step with
  | items _ =>
    refine Prod.Lex.right _ ?_
    simp only [Node.array.sizeOf_spec]
    omega
  | value =>
    refine Prod.Lex.right _ ?_
    simp only [Node.map.sizeOf_spec]
    omega
  | aliased found _ new => exact Prod.Lex.left _ _ (Dict.countOutside_cons_lt found new)
  | single =>
    refine Prod.Lex.right _ ?_
    simp
    omega

namespace Declares

variable {s s' : Declaring}

theorem completed (h : r.Declares s s') : r.completed s' = r.completed s := by
  unfold Resolver.completed
  cases h with
  | @items kinds opened items tag unnamed =>
    rw [declareWithin, unnamed]
    cases r.declareWithin opened items with
    | error => rfl
    | ok t => exact congrArg Except.ok (Containers.wrapAll_append _ kinds [.array] t)
  | @value kinds opened value tag =>
    rw [declareWithin]
    cases r.declareWithin opened value with
    | error => rfl
    | ok t => exact congrArg Except.ok (Containers.wrapAll_append _ kinds [.map] t)
  | aliased found container new =>
    rw [declareWithin_ref (Library.find_eq_ok_iff.2 found), if_pos ⟨container, new⟩]
  | single => rw [declareWithin]

/-- A step opens no alias a second time, and nothing but aliases of containers. -/
theorem distinctAliases (h : r.Declares s s') (distinct : r.library.DistinctAliases s.opened) :
    r.library.DistinctAliases s'.opened := by
  cases h with
  | items | value | single => exact distinct
  | aliased found container new => exact distinct.cons found container new

/-- A step that writes a container leaves a node that is less deep, and one that opens an alias
uses up the depth of its component. -/
theorem depth_le (h : r.Declares s s') :
    s'.kinds.length + s'.node.containerDepth + (r.library.without s'.opened).containerDepth ≤
      s.kinds.length + s.node.containerDepth + (r.library.without s.opened).containerDepth := by
  cases h with
  | items | value =>
    dsimp only
    rw [Node.containerDepth, List.length_append, List.length_singleton]
    omega
  | aliased found container new =>
    have := Library.containerDepth_without_cons found container new
    dsimp only
    rw [Node.containerDepth_tagged container]
    omega
  | single => rw [Node.containerDepth]

end Declares

/-- What stands in the containers of a declared type: a type that a name is mapped to, or the name
of a composition or of its items. -/
inductive Leaf (r : Resolver) : String → Prop
  | mapped (name : String) : Leaf r (r.mapType name)
  | composed (kind : Composition) (tag : String) : Leaf r (r.composedName kind tag)
  | items (kind : Composition) (tag : String) : Leaf r (r.composedName kind tag ++ "Items")

theorem leaf_of_itemsName? {items : Node} {tag : Option String} {name : String}
    (h : r.itemsName? items tag = some name) : r.Leaf name := by
  unfold itemsName? at h
  split at h
  · obtain ⟨t, -, rfl⟩ := Option.map_eq_some_iff.1 h
    exact .items _ t
  · cases h

/-- A declaration that can take no further step is at a leaf, or at an array of one, if its
reference can be looked up. -/
theorem exists_leaf_of_stuck {s : Declaring} (stuck : ∀ s', ¬ r.Declares s s') {t : String}
    (h : r.declareWithin s.opened s.node = .ok t) : ∃ kinds leaf,
      t = r.profile.containers.wrapAll kinds leaf ∧ r.Leaf leaf ∧
        kinds.length ≤ s.node.containerDepth := by
  obtain ⟨written, opened, node⟩ := s
  have here (leaf : String) (is : r.Leaf leaf)
      (h : Except.ok leaf = (.ok t : Except RefError String)) :
      ∃ kinds leaf, t = r.profile.containers.wrapAll kinds leaf ∧ r.Leaf leaf ∧
        kinds.length ≤ node.containerDepth :=
    ⟨[], leaf, (Except.ok.inj h).symm, is, Nat.zero_le _⟩
  dsimp only at h ⊢
  cases node with
  | array items tag =>
    cases named : r.itemsName? items tag with
    | none => exact (stuck _ (.items named)).elim
    | some name =>
      rw [declareWithin, named] at h
      refine ⟨[.array], name, (Except.ok.inj h).symm, leaf_of_itemsName? named, ?_⟩
      rw [Node.containerDepth, List.length_singleton]
      omega
  | map value tag => exact (stuck _ .value).elim
  | ref name =>
    cases found : r.library.find name with
    | error e =>
      rw [declareWithin_ref_missing found] at h
      cases h
    | ok target =>
      rw [declareWithin_ref found, if_neg] at h
      · exact here _ (.mapped name) h
      · rintro ⟨container, new⟩
        exact stuck _ (.aliased (Library.get?_of_find found) container new)
  | composed kind members tag =>
    cases tag with
    | some tag =>
      rw [declareWithin] at h
      exact here _ (.composed kind tag) h
    | none =>
      by_cases isSingle : ∃ single, members = [single]
      · obtain ⟨single, rfl⟩ := isSingle
        exact (stuck _ .single).elim
      · rw [declareWithin.eq_6 _ _ _ _ fun single same => isSingle ⟨single, same⟩] at h
        exact here _ (.mapped "object") h
  | primitive | enum | object =>
    rw [declareWithin] at h
    exact here _ (.mapped _) h

/-! ## Runs of steps -/

section Run

variable {s s' : Declaring} (run : Relation.ReflTransGen r.Declares s s')

include run

/-- Whatever steps were taken, the rest of the declaration completes the same type. -/
theorem completed_of_run : r.completed s' = r.completed s := by
  induction run with
  | refl => rfl
  | tail _ step ih => rw [step.completed, ih]

theorem distinctAliases_of_run (distinct : r.library.DistinctAliases s.opened) :
    r.library.DistinctAliases s'.opened := by
  induction run with
  | refl => exact distinct
  | tail _ step ih => exact step.distinctAliases ih

theorem depth_le_of_run :
    s'.kinds.length + s'.node.containerDepth + (r.library.without s'.opened).containerDepth ≤
      s.kinds.length + s.node.containerDepth + (r.library.without s.opened).containerDepth := by
  induction run with
  | refl => exact Nat.le_refl _
  | tail _ step ih => exact step.depth_le.trans ih

end Run

/-- Every declaration comes to an end, and there stands the innermost name of the type. -/
theorem exists_end_of_declare (r : Resolver) (node : Node) :
    ∃ s, Relation.ReflTransGen r.Declares ⟨[], [], node⟩ s ∧ (∀ s', ¬ r.Declares s s') ∧
      ∀ t, r.declare node = .ok t → ∃ kinds leaf,
        t = r.profile.containers.wrapAll (s.kinds ++ kinds) leaf ∧ r.Leaf leaf ∧
          (s.kinds ++ kinds).length ≤ node.containerDepth + r.library.containerDepth := by
  obtain ⟨s, run, stuck⟩ := exists_stuck r.wellFounded_declares ⟨[], [], node⟩
  refine ⟨s, run, stuck, fun t h => ?_⟩
  have whole : r.completed s = .ok t := by
    rw [completed_of_run run]
    exact congrArg (_ <$> ·) h
  obtain ⟨inner, declared, rfl⟩ := map_eq_ok_iff.1 whole
  obtain ⟨kinds, leaf, rfl, is, length⟩ := exists_leaf_of_stuck stuck declared
  have bound := depth_le_of_run run
  dsimp only at bound
  rw [Library.without_nil, List.length_nil] at bound
  refine ⟨kinds, leaf, (Containers.wrapAll_append ..).symm, is, ?_⟩
  rw [List.length_append]
  omega

/-! ## Taking off containers -/

/-- One step of taking off the containers around a node: the aliases that were met, and the node
that is left. -/
inductive TakesOff (r : Resolver) : List String × Node → List String × Node → Prop
  | items {seen : List String} {items : Node} {tag : Option String} :
      TakesOff r (seen, .array items tag) (seen, items)
  | value {seen : List String} {value : Node} {tag : Option String} :
      TakesOff r (seen, .map value tag) (seen, value)
  | aliased {seen : List String} {name : String} {target element : Node}
      (found : r.library.get? name = some target) (holds : target.element? = some element)
      (new : name ∉ seen) : TakesOff r (seen, .ref name) (name :: seen, element)

/-- No node is taken out of containers for ever. -/
theorem wellFounded_takesOff (r : Resolver) :
    WellFounded fun inner outer => r.TakesOff outer inner := by
  refine Dict.wellFounded_of_countOutside r.library Prod.fst (fun s => sizeOf s.2) ?_
  intro inner outer step
  cases step with
  | items =>
    refine Prod.Lex.right _ ?_
    simp only [Node.array.sizeOf_spec]
    omega
  | value =>
    refine Prod.Lex.right _ ?_
    simp only [Node.map.sizeOf_spec]
    omega
  | aliased found _ new => exact Prod.Lex.left _ _ (Dict.countOutside_cons_lt found new)

namespace TakesOff

variable {s s' : List String × Node}

theorem innermost (h : r.TakesOff s s') : r.innermost s'.1 s'.2 = r.innermost s.1 s.2 := by
  cases h with
  | items | value => rw [Resolver.innermost]
  | aliased found holds new =>
    rw [innermost_ref (Library.find_eq_ok_iff.2 found), holds]
    dsimp only
    rw [if_neg new]

theorem distinctAliases (h : r.TakesOff s s') (distinct : r.library.DistinctAliases s.1) :
    r.library.DistinctAliases s'.1 := by
  cases h with
  | items | value => exact distinct
  | aliased found holds new =>
    exact distinct.cons found (Node.isContainer_of_element? holds) new

theorem of_run (run : Relation.ReflTransGen r.TakesOff s s')
    (distinct : r.library.DistinctAliases s.1) :
    r.innermost s'.1 s'.2 = r.innermost s.1 s.2 ∧ r.library.DistinctAliases s'.1 := by
  induction run with
  | refl => exact ⟨rfl, distinct⟩
  | tail _ step ih => exact ⟨step.innermost.trans ih.1, step.distinctAliases ih.2⟩

end TakesOff

/-- A node from which no container can be taken off is what is left in the end, if its reference can
be looked up. -/
theorem innermost_of_stuck {s : List String × Node} (stuck : ∀ s', ¬ r.TakesOff s s') {rest : Node}
    (h : r.innermost s.1 s.2 = .ok rest) : rest = s.2 := by
  obtain ⟨seen, node⟩ := s
  dsimp only at h ⊢
  cases node with
  | array items tag => exact (stuck _ .items).elim
  | map value tag => exact (stuck _ .value).elim
  | ref name =>
    cases found : r.library.find name with
    | error e =>
      rw [innermost_ref_missing found] at h
      cases h
    | ok target =>
      rw [innermost_ref found] at h
      cases holds : target.element? with
      | none =>
        rw [holds] at h
        exact (Except.ok.inj h).symm
      | some element =>
        by_cases new : name ∉ seen
        · exact (stuck _ (.aliased (Library.get?_of_find found) holds new)).elim
        · rw [holds] at h
          dsimp only at h
          rw [if_pos (not_not.1 new)] at h
          exact (Except.ok.inj h).symm
  | primitive | composed | enum | object =>
    rw [innermost] at h
    · exact (Except.ok.inj h).symm
    all_goals simp

/-- The base type of a node is the type of what is left when no more container can be taken off. -/
theorem exists_end_of_baseType (r : Resolver) (node : Node) :
    ∃ s, Relation.ReflTransGen r.TakesOff ([], node) s ∧ (∀ s', ¬ r.TakesOff s s') ∧
      ∀ t, r.baseType node = .ok t → r.declare s.2 = .ok t := by
  obtain ⟨s, run, stuck⟩ := exists_stuck r.wellFounded_takesOff ([], node)
  refine ⟨s, run, stuck, fun t h => ?_⟩
  obtain ⟨rest, left, declared⟩ := bind_eq_ok_iff.1 h
  rw [← (TakesOff.of_run run (.nil _)).1] at left
  rw [← innermost_of_stuck stuck left]
  exact declared

/-! ## Declared types and base types -/

/-- Declaring the type of a node and taking off the containers around it end on every document,
whatever cycles its components form.  At each moment of either, the aliases that were opened are
containers, each of them opened once.  A declared type has at most as many containers as stand in
the node and in the components that are containers. -/
theorem declare_ends (r : Resolver) (node : Node) :
    ((WellFounded fun inner outer => r.Declares outer inner) ∧
      (∀ s, Relation.ReflTransGen r.Declares ⟨[], [], node⟩ s →
        r.completed s = r.declare node ∧ r.library.DistinctAliases s.opened) ∧
      ∃ s, Relation.ReflTransGen r.Declares ⟨[], [], node⟩ s ∧ (∀ s', ¬ r.Declares s s') ∧
        ∀ t, r.declare node = .ok t → ∃ kinds leaf,
          t = r.profile.containers.wrapAll (s.kinds ++ kinds) leaf ∧ r.Leaf leaf ∧
            (s.kinds ++ kinds).length ≤ node.containerDepth + r.library.containerDepth) ∧
    (WellFounded fun inner outer => r.TakesOff outer inner) ∧
      (∀ s, Relation.ReflTransGen r.TakesOff ([], node) s →
        r.innermost s.1 s.2 = r.innermost [] node ∧ r.library.DistinctAliases s.1) ∧
      ∃ s, Relation.ReflTransGen r.TakesOff ([], node) s ∧ (∀ s', ¬ r.TakesOff s s') ∧
        ∀ t, r.baseType node = .ok t → r.declare s.2 = .ok t := by
  refine ⟨⟨r.wellFounded_declares, fun s run => ⟨?_, ?_⟩, r.exists_end_of_declare node⟩,
    r.wellFounded_takesOff, fun s run => TakesOff.of_run run (.nil _),
    r.exists_end_of_baseType node⟩
  · exact (completed_of_run run).trans (id_map _)
  · exact distinctAliases_of_run run (.nil _)

/-- Two components that refer to each other, each inside of a container. -/
theorem declare_ends_tree :
    let library : Library := [("Tree", .array (.ref "Forest") none),
      ("Forest", .map (.ref "Tree") none)]
    let r : Resolver := ⟨.pythonFlask, library⟩
    let node : Node := .array (.ref "Tree") none
    Relation.ReflTransGen r.Declares ⟨[], [], node⟩
        ⟨[.array, .array, .map], ["Forest", "Tree"], .ref "Tree"⟩ ∧
      r.library.DistinctAliases ["Forest", "Tree"] ∧
      Relation.ReflTransGen r.TakesOff ([], node) (["Forest", "Tree"], .ref "Tree") ∧
      r.innermost ["Forest", "Tree"] (.ref "Tree") = r.innermost [] node ∧
      r.declare node = .ok "List[List[Dict[str, Tree]]]" ∧
      ∃ (s : Declaring) (kinds : List Container) (leaf : String),
        "List[List[Dict[str, Tree]]]" = r.profile.containers.wrapAll (s.kinds ++ kinds) leaf ∧
          r.Leaf leaf ∧ (s.kinds ++ kinds).length ≤ 3 := by
  intro library r node
  have declares : Relation.ReflTransGen r.Declares ⟨[], [], node⟩
      ⟨[.array, .array, .map], ["Forest", "Tree"], .ref "Tree"⟩ := by
    refine .head (.items rfl) (.head (.aliased rfl rfl List.not_mem_nil) ?_)
    refine .head (.items rfl) (.head (.aliased rfl rfl (by decide)) ?_)
    exact .single .value
  have takesOff : Relation.ReflTransGen r.TakesOff ([], node)
      (["Forest", "Tree"], .ref "Tree") := by
    refine .head .items (.head (.aliased rfl rfl List.not_mem_nil) ?_)
    exact .single (.aliased rfl rfl (by decide))
  obtain ⟨⟨-, steps, s, -, -, bound⟩, -, stepsOff, -⟩ := declare_ends r node
  obtain ⟨same, distinct⟩ := steps _ declares
  have declared : r.declare node = .ok "List[List[Dict[str, Tree]]]" := by
    have found : r.library.find "Tree" = .ok (.array (.ref "Forest") none) := rfl
    have named : r.mapType "Tree" = "Tree" := by decide +kernel
    rw [← same, completed, declareWithin_ref found, if_neg fun h => h.2 (by decide), named]
    rfl
  obtain ⟨kinds, leaf, wrapped, is, length⟩ := bound _ declared
  have depth : node.containerDepth + r.library.containerDepth = 3 := by
    simp [node, r, library, Library.containerDepth, Node.isContainer, Node.containerDepth]
  rw [depth] at length
  exact ⟨declares, distinct, takesOff, (stepsOff _ takesOff).1, declared, s, kinds, leaf, wrapped,
    is, length⟩

end Resolver

end OpenApiGen
