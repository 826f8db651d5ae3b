import OpenApiGen.Model.Basic
import OpenApiGen.Profile.PythonFlask
import OpenApiGen.Proofs.Schema.Declaration

/-!
# Spines of containers

The spine of a node is the walk from it to the element of each container, through references to
arrays and maps (`Library.Spine`).  If no alias comes twice on a spine, the declared type of the
node is its base type in the brackets of every container on the spine (`declare_of_spine`): the
two walks take the same way, the one with the aliases that are spelled out and the other with
those that are taken off.
-/

namespace OpenApiGen

/-- What a kind of container is written with. -/
def Containers.brackets (c : Containers) : Container → Brackets
  | .array => c.array
  | .map => c.map

/-- A type within containers, the outermost first. -/
def Containers.wrapAll (c : Containers) (kinds : List Container) (leaf : String) : String :=
  kinds.foldr (fun kind t => (c.brackets kind).wrap t) leaf

theorem Containers.wrapAll_append (c : Containers) (outer inner : List Container) (leaf : String) :
    c.wrapAll (outer ++ inner) leaf = c.wrapAll outer (c.wrapAll inner leaf) :=
  List.foldr_append

/-- Whether a node is a scalar, an enumeration or an object. -/
def Node.isPlain : Node → Bool
  | primitive .. | enum .. | object .. => true
  | _ => false

namespace Resolver

variable {r : Resolver} {node : Node}

theorem declareWithin_of_isPlain (h : node.isPlain = true) (opened : List String) :
    r.declareWithin opened node = .ok (r.mapType node.abstractType) := by
  cases node with
  | primitive | enum | object => rw [declareWithin]
  | _ => cases h

theorem innermost_of_isPlain (h : node.isPlain = true) (seen : List String) :
    r.innermost seen node = .ok node := by
  cases node with
  | primitive | enum | object => rw [innermost] <;> simp
  | _ => cases h

theorem baseType_of_isPlain (h : node.isPlain = true) :
    r.baseType node = .ok (r.mapType node.abstractType) := by
  rw [baseType, innermost_of_isPlain h]
  exact declareWithin_of_isPlain h []

/-- A new alias of a container is taken off like the container itself. -/
theorem innermost_ref_of_isContainer {name : String} {target : Node} {seen : List String}
    (found : r.library.find name = .ok target) (container : target.isContainer = true)
    (new : name ∉ seen) : r.innermost seen (.ref name) = r.innermost (name :: seen) target := by
  rw [innermost_ref found]
  cases target with
  | array items tag | map value tag =>
    dsimp only [Node.element?]
    rw [if_neg new, innermost]
  | _ => cases container

end Resolver

/-! ## Spines -/

/-- From a node, containers of these kinds and aliases of these names lead to the last node, which
is no container, no composition and no alias of a container. -/
inductive Library.Spine (library : Library) :
    Node → List Container → List String → Node → Prop
  | plain {node : Node} (h : node.isPlain = true) : Spine library node [] [] node
  | model {name : String} {target : Node} (found : library.find name = .ok target)
      (h : target.isContainer = false) : Spine library (.ref name) [] [] (.ref name)
  | array {items last : Node} {tag : Option String} {kinds : List Container}
      {aliases : List String} (rest : Spine library items kinds aliases last) :
      Spine library (.array items tag) (.array :: kinds) aliases last
  | map {value last : Node} {tag : Option String} {kinds : List Container}
      {aliases : List String} (rest : Spine library value kinds aliases last) :
      Spine library (.map value tag) (.map :: kinds) aliases last
  | aliased {name : String} {target last : Node} {kinds : List Container} {aliases : List String}
      (found : library.find name = .ok target) (container : target.isContainer = true)
      (rest : Spine library target kinds aliases last) :
      Spine library (.ref name) kinds (name :: aliases) last

namespace Library.Spine

variable {r : Resolver} {node last : Node} {kinds : List Container} {aliases : List String}

/-- From the last node nothing leads on. -/
theorem of_last (h : Spine r.library node kinds aliases last) :
    Spine r.library last [] [] last := by
  induction h with
  | plain h => exact .plain h
  | model found h => exact .model found h
  | array _ ih | map _ ih => exact ih
  | aliased _ _ _ ih => exact ih

/-- There is one way from a node. -/
theorem unique (h : Spine r.library node kinds aliases last) {kinds' : List Container}
    {aliases' : List String} {last' : Node} (h' : Spine r.library node kinds' aliases' last') :
    kinds' = kinds ∧ aliases' = aliases ∧ last' = last := by
  induction h generalizing kinds' aliases' with
  | plain h =>
    cases h' with
    | plain => exact ⟨rfl, rfl, rfl⟩
    | _ => cases h
  | model found h =>
    cases h' with
    | plain h' => cases h'
    | model => exact ⟨rfl, rfl, rfl⟩
    | aliased found' container =>
      cases found.symm.trans found'
      rw [h] at container
      cases container
  | array _ ih =>
    cases h' with
    | plain h' => cases h'
    | array rest =>
      obtain ⟨rfl, rfl, rfl⟩ := ih rest
      exact ⟨rfl, rfl, rfl⟩
  | map _ ih =>
    cases h' with
    | plain h' => cases h'
    | map rest =>
      obtain ⟨rfl, rfl, rfl⟩ := ih rest
      exact ⟨rfl, rfl, rfl⟩
  | aliased found container _ ih =>
    cases h' with
    | plain h' => cases h'
    | model found' h' =>
      cases found.symm.trans found'
      rw [h'] at container
      cases container
    | aliased found' _ rest =>
      cases found.symm.trans found'
      obtain ⟨rfl, rfl, rfl⟩ := ih rest
      exact ⟨rfl, rfl, rfl⟩

/-- From an alias on the way, the rest of the way leads on. -/
theorem exists_of_mem (h : Spine r.library node kinds aliases last) {name : String}
    (mem : name ∈ aliases) : ∃ kinds' aliases',
      Spine r.library (.ref name) kinds' aliases' last ∧ aliases'.length ≤ aliases.length := by
  induction h with
  | plain | model => cases mem
  | array _ ih | map _ ih => exact ih mem
  | @aliased first _ _ _ _ found container rest ih =>
    by_cases same : name = first
    · subst same
      exact ⟨_, _, .aliased found container rest, Nat.le_refl _⟩
    · obtain ⟨kinds', aliases', onward, shorter⟩ := ih (List.mem_of_ne_of_mem same mem)
      exact ⟨kinds', aliases', onward, Nat.le_succ_of_le shorter⟩

/-- A way that comes to an end meets each alias once: it would go round for ever from the first
one that it met again. -/
theorem nodup (h : Spine r.library node kinds aliases last) : aliases.Nodup := by
  induction h with
  | plain | model => exact List.nodup_nil
  | array _ ih | map _ ih => exact ih
  | aliased found container rest ih =>
    refine List.nodup_cons.2 ⟨fun again => ?_, ih⟩
    obtain ⟨kinds', aliases', onward, shorter⟩ := rest.exists_of_mem again
    obtain ⟨-, rfl, -⟩ := unique (.aliased found container rest) onward
    rw [List.length_cons] at shorter
    omega

/-! ## Declared types -/

theorem itemsName?_eq_none (h : Spine r.library node kinds aliases last) (tag : Option String) :
    r.itemsName? node tag = none := by
  cases h with
  | plain h =>
    cases node with
    | composed kind members tag => cases h
    | _ => rfl
  | _ => rfl

theorem declareWithin_array (h : Spine r.library node kinds aliases last) (opened : List String)
    (tag : Option String) : r.declareWithin opened (.array node tag) =
      r.declareWithin opened node >>= fun t => .ok (r.profile.containers.array.wrap t) := by
  rw [Resolver.declareWithin, h.itemsName?_eq_none]

/-- A tag names nothing on a spine. -/
theorem declareWithin_tagged (h : Spine r.library node kinds aliases last) (opened : List String)
    (name : String) : r.declareWithin opened (node.tagged name) = r.declareWithin opened node := by
  cases h with
  | plain h =>
    cases node with
    | array | map | composed => cases h
    | _ => rfl
  | model | aliased => rfl
  | array rest => rw [Node.tagged, rest.declareWithin_array, rest.declareWithin_array]
  | map rest => rw [Node.tagged, Resolver.declareWithin, Resolver.declareWithin]

/-- The declared type puts the last node into the containers on the spine, as long as none of its
aliases is being spelled out. -/
theorem declareWithin (h : Spine r.library node kinds aliases last) (distinct : aliases.Nodup)
    {opened : List String} (new : aliases.Disjoint opened) :
    r.declareWithin opened node =
      .ok (r.profile.containers.wrapAll kinds (r.mapType last.abstractType)) := by
  induction h generalizing opened with
  | plain h => exact Resolver.declareWithin_of_isPlain h opened
  | model found h =>
    exact Resolver.declareWithin_ref_of_not_container (Library.find_eq_ok_iff.1 found) h
  | array rest ih =>
    rw [rest.declareWithin_array, ih distinct new]
    rfl
  | map rest ih =>
    rw [Resolver.declareWithin, ih distinct new]
    rfl
  | @aliased name target _ _ _ found container rest ih =>
    obtain ⟨once, distinct⟩ := List.nodup_cons.1 distinct
    obtain ⟨first, later⟩ := List.disjoint_cons_left.1 new
    rw [Resolver.declareWithin_ref found, if_pos ⟨container, first⟩, rest.declareWithin_tagged]
    -- The alias is spelled out from here on; the others are still new, as it comes only once.
    exact ih distinct (List.disjoint_cons_right.2 ⟨once, later⟩)

/-! ## Base types -/

/-- Taking off containers ends at the last node, as long as none of the aliases was met before. -/
theorem innermost (h : Spine r.library node kinds aliases last) (distinct : aliases.Nodup)
    {seen : List String} (new : aliases.Disjoint seen) :
    r.innermost seen node = .ok last := by
  induction h generalizing seen with
  | plain h => exact Resolver.innermost_of_isPlain h seen
  | @model name target found h =>
    rw [Resolver.innermost_ref found]
    cases target with
    | array | map => cases h
    | _ => rfl
  | array rest ih | map rest ih =>
    rw [Resolver.innermost]
    exact ih distinct new
  | @aliased name target _ _ _ found container rest ih =>
    obtain ⟨once, distinct⟩ := List.nodup_cons.1 distinct
    obtain ⟨first, later⟩ := List.disjoint_cons_left.1 new
    rw [Resolver.innermost_ref_of_isContainer found container first]
    exact ih distinct (List.disjoint_cons_right.2 ⟨once, later⟩)

/-- The base type of a node is the type of the last one. -/
theorem baseType (h : Spine r.library node kinds aliases last) :
    r.baseType node = .ok (r.mapType last.abstractType) := by
  rw [Resolver.baseType, h.innermost h.nodup (List.disjoint_nil_right aliases)]
  exact h.of_last.declareWithin List.nodup_nil (List.disjoint_nil_right [])

end Library.Spine

namespace Resolver

/-- Along a spine without repeated aliases, the type of a node is its base type within the
containers of the spine, each once and in order.  The base type is that of the last node. -/
theorem declare_of_spine {r : Resolver} {node last : Node} {kinds : List Container}
    {aliases : List String} (h : r.library.Spine node kinds aliases last)
    (distinct : aliases.Nodup) :
    r.baseType node = .ok (r.mapType last.abstractType) ∧
      r.declare node =
        .ok (r.profile.containers.wrapAll kinds (r.mapType last.abstractType)) := by
  have new := List.disjoint_nil_right aliases
  refine ⟨?_, h.declareWithin distinct new⟩
  rw [baseType, h.innermost distinct new]
  exact h.of_last.declareWithin List.nodup_nil (List.disjoint_nil_right [])

/-- Two aliases between containers that stand in the node itself. -/
theorem declare_of_spine_index :
    let library : Library := [
      ("Pet", .object [("name", .scalar "string")] ["name"] none),
      ("PetLists", .array (.array (.ref "Pet") none) none),
      ("PetIndex", .map (.ref "PetLists") none)]
    let r : Resolver := ⟨.pythonFlask, library⟩
    let node : Node := .array (.ref "PetIndex") none
    library.Spine node [.array, .map, .array, .array] ["PetIndex", "PetLists"] (.ref "Pet") ∧
      ["PetIndex", "PetLists"].Nodup ∧ r.baseType node = .ok "Pet" ∧
      r.declare node = .ok "List[Dict[str, List[List[Pet]]]]" := by
  intro library r node
  have spine : library.Spine node [.array, .map, .array, .array] ["PetIndex", "PetLists"]
      (.ref "Pet") :=
    .array (.aliased rfl rfl (.map (.aliased rfl rfl (.array (.array (.model rfl rfl))))))
  have distinct : ["PetIndex", "PetLists"].Nodup := by decide
  have named : r.mapType "Pet" = "Pet" := by decide +kernel
  obtain ⟨base, declared⟩ := declare_of_spine (r := r) spine distinct
  rw [Node.abstractType, named] at base declared
  exact ⟨spine, distinct, base, declared⟩

end Resolver

end OpenApiGen
