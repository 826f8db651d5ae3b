import OpenApiGen.Model.Build
import OpenApiGen.Proofs.Model.Basic
import OpenApiGen.Proofs.Schema.Library

/-!
# What a composed model takes over

The components of a document form a graph: an `allOf` schema leads to the components that its
members refer to, directly or from nested `allOf` members (`Library.parentsOf`).  A model has the
keys of all components that can be reached from its own (`Resolver.mem_baseNames_model_iff`), each
of them once.

Flattening does not walk the graph once: it keeps the path that it came along and cuts each branch
where it would meet a component of the path again.  `Library.Reaches avoid` are the paths that stay
clear of a list of components.  What is reachable at all is reachable after the last visit to a
component (`Library.reaches_iff`), so cutting loses nothing.
-/

namespace OpenApiGen

/-! ## The graph of the components -/

namespace Node

mutual

/-- The keys that a node lists in place: those of an object, or of the objects among the members of
an `allOf` schema, nested ones included. -/
def inlineKeys : Node → List String
  | object entries _ _ => entries.map Prod.fst
  | composed .allOf members _ => inlineKeysAll members
  | _ => []

/-- The keys that members of an `allOf` schema list in place. -/
def inlineKeysAll : List Node → List String
  | [] => []
  | member :: rest => inlineKeys member ++ inlineKeysAll rest

end

mutual

/-- The components that a member of an `allOf` schema refers to, itself or by its own members. -/
def memberRefs : Node → List String
  | ref name => [name]
  | composed .allOf members _ => memberRefsAll members
  | _ => []

/-- The components that members of an `allOf` schema refer to. -/
def memberRefsAll : List Node → List String
  | [] => []
  | member :: rest => memberRefs member ++ memberRefsAll rest

end

/-- The components that an `allOf` schema takes properties from.  A reference alone is none. -/
def allOfRefs : Node → List String
  | composed .allOf members _ => memberRefsAll members
  | _ => []

theorem memberRefs_eq_allOfRefs {node : Node} (h : ∀ name, node ≠ ref name) :
    node.memberRefs = node.allOfRefs := by
  cases node with
  | ref name => exact absurd rfl (h name)
  | composed kind _ _ => cases kind <;> rfl
  | _ => rfl

theorem memberRefs_subset_memberRefsAll {member : Node} {members : List Node}
    (mem : member ∈ members) : member.memberRefs ⊆ memberRefsAll members := by
  induction members with
  | nil => cases mem
  | cons first rest ih =>
    rw [memberRefsAll]
    rcases List.mem_cons.1 mem with rfl | mem
    · exact List.subset_append_left _ _
    · exact List.subset_append_of_subset_right _ (ih mem)

theorem parent?_mem_allOfRefs {node : Node} {name : String} (h : node.parent? = some name) :
    name ∈ node.allOfRefs := by
  unfold parent? at h
  unfold allOfRefs
  split at h
  · next members _ =>
    obtain ⟨member, mem, hmember⟩ := List.exists_of_findSome?_eq_some h
    have : name ∈ member.memberRefs := by
      split at hmember
      · cases hmember
        exact List.mem_singleton_self _
      · cases hmember
    exact memberRefs_subset_memberRefsAll mem this
  · cases h

end Node

namespace Library

variable {library : Library} {avoid : List String}

/-- The keys that a component lists in place. -/
def keysOf (library : Library) (name : String) : List String :=
  ((library.get? name).map Node.inlineKeys).getD []

/-- The components that a component takes properties from. -/
def parentsOf (library : Library) (name : String) : List String :=
  ((library.get? name).map Node.allOfRefs).getD []

/-- A component can be reached from another one over components that are not to be avoided. -/
inductive Reaches (library : Library) (avoid : List String) : String → String → Prop
  | here {n : String} (clear : n ∉ avoid) : Reaches library avoid n n
  | step {n t m : String} (clear : n ∉ avoid) (edge : t ∈ library.parentsOf n)
      (rest : Reaches library avoid t m) : Reaches library avoid n m

/-- A key is listed by a component that can be reached. -/
def Supplies (library : Library) (avoid : List String) (name key : String) : Prop :=
  ∃ m, library.Reaches avoid name m ∧ key ∈ library.keysOf m

/-- A node lists a key in place or takes it over. -/
def Offers (library : Library) (avoid : List String) (node : Node) (key : String) : Prop :=
  key ∈ node.inlineKeys ∨ ∃ t ∈ node.allOfRefs, library.Supplies avoid t key

/-- One of the members of a composition lists a key in place or takes it over. -/
def OffersAll (library : Library) (avoid : List String) (members : List Node) (key : String) :
    Prop :=
  key ∈ Node.inlineKeysAll members ∨
    ∃ t ∈ Node.memberRefsAll members, library.Supplies avoid t key

theorem Reaches.clear {n m : String} (h : library.Reaches avoid n m) : n ∉ avoid := by
  cases h <;> assumption

theorem Reaches.of_cons {a n m : String} (h : library.Reaches (a :: avoid) n m) :
    library.Reaches avoid n m := by
  induction h with
  | here clear => exact .here fun mem => clear (List.mem_cons_of_mem _ mem)
  | step clear edge _ ih => exact .step (fun mem => clear (List.mem_cons_of_mem _ mem)) edge ih

/-- A path meets a component for the last time, or not at all. -/
theorem Reaches.last_visit {n m : String} (h : library.Reaches avoid n m) (a : String) :
    library.Reaches (a :: avoid) n m ∨ m = a ∨
      ∃ t ∈ library.parentsOf a, library.Reaches (a :: avoid) t m := by
  induction h with
  | @here n clear =>
    by_cases hn : n = a
    · exact .inr (.inl hn)
    · exact .inl (.here (by simp [hn, clear]))
  | @step n t m clear edge _ ih =>
    rcases ih with after | last
    · by_cases hn : n = a
      · exact .inr (.inr ⟨t, hn ▸ edge, after⟩)
      · exact .inl (.step (by simp [hn, clear]) edge after)
    · exact .inr last

theorem reaches_iff {n m : String} : library.Reaches avoid n m ↔
    n ∉ avoid ∧ (m = n ∨ ∃ t ∈ library.parentsOf n, library.Reaches (n :: avoid) t m) := by
  constructor
  · intro h
    refine ⟨h.clear, ?_⟩
    rcases h.last_visit n with again | last
    · exact absurd List.mem_cons_self again.clear
    · exact last
  · rintro ⟨clear, rfl | ⟨t, edge, rest⟩⟩
    · exact .here clear
    · exact .step clear edge rest.of_cons

theorem offers_of_find {name key : String} {node : Node} (found : library.get? name = some node) :
    library.Offers avoid node key ↔
      key ∈ library.keysOf name ∨ ∃ t ∈ library.parentsOf name, library.Supplies avoid t key := by
  unfold Offers keysOf parentsOf
  rw [found]
  rfl

theorem supplies_iff {name key : String} {node : Node} (new : name ∉ avoid)
    (found : library.get? name = some node) :
    library.Supplies avoid name key ↔ library.Offers (name :: avoid) node key := by
  rw [offers_of_find found]
  constructor
  · rintro ⟨m, reached, listed⟩
    rcases (reaches_iff.1 reached).2 with rfl | ⟨t, edge, rest⟩
    · exact .inl listed
    · exact .inr ⟨t, edge, m, rest, listed⟩
  · rintro (listed | ⟨t, edge, m, rest, listed⟩)
    · exact ⟨name, .here new, listed⟩
    · exact ⟨m, reaches_iff.2 ⟨new, .inr ⟨t, edge, rest⟩⟩, listed⟩

theorem not_supplies {name key : String} (seen : name ∈ avoid) :
    ¬ library.Supplies avoid name key := by
  rintro ⟨m, reached, -⟩
  exact reached.clear seen

theorem offers_object_iff {entries : List (String × Node)} {required : List String}
    {description : Option String} {key : String} :
    library.Offers avoid (.object entries required description) key ↔
      key ∈ entries.map Prod.fst := by
  simp [Offers, Node.inlineKeys, Node.allOfRefs]

theorem offers_allOf_iff {members : List Node} {tag : Option String} {key : String} :
    library.Offers avoid (.composed .allOf members tag) key ↔
      library.OffersAll avoid members key :=
  Iff.rfl

theorem not_offers {node : Node} (notObject : ∀ entries required description,
      node = .object entries required description → False)
    (notAllOf : ∀ members tag, node = .composed .allOf members tag → False) (key : String) :
    ¬ library.Offers avoid node key := by
  cases node with
  | object entries required description => exact (notObject _ _ _ rfl).elim
  | composed kind members tag =>
    cases kind with
    | allOf => exact (notAllOf _ _ rfl).elim
    | _ => simp [Offers, Node.inlineKeys, Node.allOfRefs]
  | _ => simp [Offers, Node.inlineKeys, Node.allOfRefs]

theorem not_offersAll_nil (key : String) : ¬ library.OffersAll avoid [] key := by
  simp [OffersAll, Node.inlineKeysAll, Node.memberRefsAll]

theorem offersAll_ref_iff {name key : String} {rest : List Node} :
    library.OffersAll avoid (.ref name :: rest) key ↔
      library.Supplies avoid name key ∨ library.OffersAll avoid rest key := by
  simp only [OffersAll, Node.inlineKeysAll, Node.memberRefsAll, Node.inlineKeys, Node.memberRefs,
    List.nil_append, List.cons_append, List.exists_mem_cons_iff]
  exact or_left_comm

theorem offersAll_cons_iff {member : Node} {rest : List Node} {key : String}
    (notRef : ∀ name, member ≠ .ref name) :
    library.OffersAll avoid (member :: rest) key ↔
      library.Offers avoid member key ∨ library.OffersAll avoid rest key := by
  simp only [OffersAll, Offers, Node.inlineKeysAll, Node.memberRefsAll,
    Node.memberRefs_eq_allOfRefs notRef, List.mem_append, or_and_right, exists_or]
  exact or_or_or_comm ..

end Library

/-! ## Properties by name -/

namespace Resolver

variable {r : Resolver}

/-- A property has the key and the types of its node, and no mark of a later step. -/
theorem property_cases {key : String} {node : Node} {required : Bool} {p : Property}
    (h : r.property key node required = .ok p) :
    p.baseName = key ∧ r.declare node = .ok p.dataType ∧ r.baseType node = .ok p.baseType ∧
      p.isRecursive = false ∧ p.jsdocType = none ∧ p.hasMore = false ∧
      p.hasMoreRequired = false := by
  unfold property at h
  obtain ⟨dataType, declared, h⟩ := bind_eq_ok_iff.1 h
  obtain ⟨baseType, based, h⟩ := bind_eq_ok_iff.1 h
  obtain ⟨container, -, h⟩ := bind_eq_ok_iff.1 h
  dsimp only at h
  split at h <;> cases h <;> exact ⟨rfl, declared, based, rfl, rfl, rfl, rfl⟩

theorem baseName_property {key : String} {node : Node} {required : Bool} {p : Property}
    (h : r.property key node required = .ok p) : p.baseName = key :=
  (property_cases h).1

theorem baseNames_properties {entries : List (String × Node)} {required : List String}
    {ps : List Property} (h : r.properties entries required = .ok ps) :
    baseNames ps = entries.map Prod.fst :=
  map_eq_of_mapM h fun _ _ => baseName_property

theorem addMissing_cons (known : List Property) (p : Property) (rest : List Property) :
    addMissing known (p :: rest) =
      addMissing (if p.baseName ∈ baseNames known then known else known ++ [p]) rest := by
  have : (known.any fun q => q.baseName = p.baseName) = true ↔ p.baseName ∈ baseNames known := by
    simp [baseNames]
  unfold addMissing
  rw [List.foldl_cons]
  congr 1
  by_cases h : p.baseName ∈ baseNames known
  · rw [if_pos h, if_pos (this.2 h)]
  · rw [if_neg h, if_neg (mt this.1 h)]

/-- What is missing does not depend on anything but the names of properties. -/
theorem addMissing_map {f : Property → Property} (keeps : ∀ p, (f p).baseName = p.baseName)
    (known more : List Property) :
    addMissing (known.map f) (more.map f) = (addMissing known more).map f := by
  induction more generalizing known with
  | nil => rfl
  | cons p rest ih =>
    have names : baseNames (known.map f) = baseNames known := by
      rw [baseNames, List.map_map]
      exact List.map_congr_left fun p _ => keeps p
    rw [List.map_cons, addMissing_cons, addMissing_cons, names, keeps, ← ih]
    congr 1
    split
    · rfl
    · rw [List.map_append, List.map_cons, List.map_nil]

theorem mem_baseNames_addMissing {known more : List Property} {key : String} :
    key ∈ baseNames (addMissing known more) ↔ key ∈ baseNames known ∨ key ∈ baseNames more := by
  induction more generalizing known with
  | nil => simp [addMissing]
  | cons p rest ih =>
    rw [addMissing_cons, ih]
    by_cases h : p.baseName ∈ baseNames known
    · rw [if_pos h]
      constructor
      · rintro (hk | hr)
        · exact .inl hk
        · exact .inr (List.mem_cons_of_mem _ hr)
      · rintro (hk | hr)
        · exact .inl hk
        · rcases List.mem_cons.1 hr with rfl | hr
          · exact .inl h
          · exact .inr hr
    · rw [if_neg h]
      simp [or_assoc]

theorem nodup_baseNames_addMissing {known : List Property} (distinct : (baseNames known).Nodup)
    (more : List Property) : (baseNames (addMissing known more)).Nodup := by
  induction more generalizing known with
  | nil => exact distinct
  | cons p rest ih =>
    rw [addMissing_cons]
    apply ih
    split
    · exact distinct
    · next new =>
      unfold baseNames
      rw [List.map_append, List.nodup_append]
      refine ⟨distinct, List.nodup_singleton _, fun a ha b hb => ?_⟩
      rintro rfl
      exact new (List.mem_singleton.1 hb ▸ ha)

/-! ## Flattening -/

theorem contributedByAll_ref {visiting : List String} {known : List Property} {name : String}
    {rest : List Node} {target : Node} (new : name ∉ visiting)
    (found : r.library.find name = .ok target) :
    r.contributedByAll visiting known (.ref name :: rest) =
      r.contributed (name :: visiting) target >>= fun inherited =>
        r.contributedByAll visiting (addMissing known inherited) rest := by
  rw [contributedByAll, dif_neg new]
  split
  · next missing =>
    rw [found] at missing
    cases missing
  · next other found' =>
    rw [found] at found'
    cases found'
    rfl

theorem contributedByAll_ref_missing {visiting : List String} {known : List Property}
    {name : String} {rest : List Node} {e : RefError} (new : name ∉ visiting)
    (missing : r.library.find name = .error e) :
    r.contributedByAll visiting known (.ref name :: rest) = .error e := by
  rw [contributedByAll, dif_neg new]
  split
  · next other missing' =>
    rw [missing] at missing'
    cases missing'
    rfl
  · next found =>
    rw [missing] at found
    cases found

/-- All that can happen to the first member: its component is being looked at, it is another
component, or it is written in place. -/
theorem contributedByAll_cons_cases {visiting : List String} {known ps : List Property}
    {member : Node} {rest : List Node}
    (h : r.contributedByAll visiting known (member :: rest) = .ok ps) :
    (∃ name ∈ visiting, member = .ref name ∧ r.contributedByAll visiting known rest = .ok ps) ∨
    (∃ name ∉ visiting, ∃ target inherited, member = .ref name ∧
      r.library.find name = .ok target ∧ r.contributed (name :: visiting) target = .ok inherited ∧
      r.contributedByAll visiting (addMissing known inherited) rest = .ok ps) ∨
    ∃ inherited, (∀ name, member ≠ .ref name) ∧ r.contributed visiting member = .ok inherited ∧
      r.contributedByAll visiting (addMissing known inherited) rest = .ok ps := by
  by_cases isRef : ∃ name, member = .ref name
  · obtain ⟨name, rfl⟩ := isRef
    by_cases seen : name ∈ visiting
    · rw [contributedByAll, dif_pos seen] at h
      exact .inl ⟨name, seen, rfl, h⟩
    · cases found : r.library.find name with
      | error e =>
        rw [contributedByAll_ref_missing seen found] at h
        cases h
      | ok target =>
        rw [contributedByAll_ref seen found] at h
        obtain ⟨inherited, hInherited, h⟩ := bind_eq_ok_iff.1 h
        exact .inr (.inl ⟨name, seen, target, inherited, rfl, found, hInherited, h⟩)
  · have notRef : ∀ name, member ≠ .ref name := fun name same => isRef ⟨name, same⟩
    rw [contributedByAll.eq_3 _ _ _ _ _ notRef] at h
    obtain ⟨inherited, hInherited, h⟩ := bind_eq_ok_iff.1 h
    exact .inr (.inr ⟨inherited, notRef, hInherited, h⟩)

/-- What holds of the results of flattening nodes and of adding members to what is known: it has to
hold where nothing is nested, and to be kept by each member. -/
theorem contributed_rule {r : Resolver} {P : List String → Node → List Property → Prop}
    {PAll : List String → List Property → List Node → List Property → Prop}
    (object : ∀ {visiting entries required description ps},
      r.properties entries required = .ok ps → P visiting (.object entries required description) ps)
    (allOf : ∀ {visiting members tag ps},
      PAll visiting [] members ps → P visiting (.composed .allOf members tag) ps)
    (other : ∀ {visiting node},
      (∀ entries required description, node = .object entries required description → False) →
      (∀ members tag, node = .composed .allOf members tag → False) → P visiting node [])
    (nil : ∀ {visiting known}, PAll visiting known [] known)
    (seen : ∀ {visiting known name rest ps}, name ∈ visiting →
      PAll visiting known rest ps → PAll visiting known (.ref name :: rest) ps)
    (ref : ∀ {visiting known name target rest inherited ps}, name ∉ visiting →
      r.library.find name = .ok target → P (name :: visiting) target inherited →
      PAll visiting (addMissing known inherited) rest ps →
      PAll visiting known (.ref name :: rest) ps)
    (inline : ∀ {visiting known member rest inherited ps}, (∀ name, member ≠ .ref name) →
      P visiting member inherited → PAll visiting (addMissing known inherited) rest ps →
      PAll visiting known (member :: rest) ps) :
    (∀ visiting node ps, r.contributed visiting node = .ok ps → P visiting node ps) ∧
      ∀ visiting known members ps, r.contributedByAll visiting known members = .ok ps →
        PAll visiting known members ps := by
  apply contributed.mutual_induct r
    (fun visiting node => ∀ ps, r.contributed visiting node = .ok ps → P visiting node ps)
    (fun visiting known members => ∀ ps, r.contributedByAll visiting known members = .ok ps →
      PAll visiting known members ps)
  case case1 =>
    intro visiting entries required description ps h
    rw [contributed] at h
    exact object h
  case case2 =>
    intro visiting members tag ih ps h
    rw [contributed] at h
    exact allOf (ih ps h)
  case case3 =>
    intro visiting node notObject notAllOf ps h
    rw [contributed.eq_3 _ _ _ notObject notAllOf] at h
    cases h
    exact other notObject notAllOf
  case case4 =>
    intro visiting known ps h
    rw [contributedByAll] at h
    cases h
    exact nil
  case case5 =>
    intro visiting known name rest old ih ps h
    rw [contributedByAll, dif_pos old] at h
    exact seen old (ih ps h)
  case case6 =>
    intro visiting known name rest new e missing ps h
    rw [contributedByAll_ref_missing new missing] at h
    cases h
  case case7 =>
    intro visiting known name rest new target found ihTarget ihRest ps h
    rw [contributedByAll_ref new found] at h
    obtain ⟨inherited, hInherited, h⟩ := bind_eq_ok_iff.1 h
    exact ref new found (ihTarget inherited hInherited) (ihRest inherited ps h)
  case case8 =>
    intro visiting known member rest notRef ihMember ihRest ps h
    rw [contributedByAll.eq_3 _ _ _ _ _ notRef] at h
    obtain ⟨inherited, hInherited, h⟩ := bind_eq_ok_iff.1 h
    exact inline notRef (ihMember inherited hInherited) (ihRest inherited ps h)

/-- What flattening makes of a node and of the members of a composition.  The rest of a branch has
to avoid the components on the path to it. -/
theorem mem_baseNames_contributed_and (r : Resolver) :
    (∀ visiting node ps, r.contributed visiting node = .ok ps →
      ∀ key, key ∈ baseNames ps ↔ r.library.Offers visiting node key) ∧
    (∀ visiting known members ps, r.contributedByAll visiting known members = .ok ps →
      ∀ key, key ∈ baseNames ps ↔
        key ∈ baseNames known ∨ r.library.OffersAll visiting members key) := by
  apply contributed_rule
  case object =>
    intro visiting entries required description ps h key
    rw [baseNames_properties h, Library.offers_object_iff]
  case allOf =>
    intro visiting members tag ps ih key
    rw [ih key, Library.offers_allOf_iff]
    exact or_iff_right List.not_mem_nil
  case other =>
    intro visiting node notObject notAllOf key
    exact iff_of_false List.not_mem_nil (Library.not_offers notObject notAllOf key)
  case nil =>
    intro visiting known key
    exact (or_iff_left (Library.not_offersAll_nil key)).symm
  case seen =>
    intro visiting known name rest ps old ih key
    rw [ih key, Library.offersAll_ref_iff, or_iff_right (Library.not_supplies old)]
  case ref =>
    intro visiting known name target rest inherited ps new found ihTarget ihRest key
    rw [ihRest key, mem_baseNames_addMissing, ihTarget key,
      ← Library.supplies_iff new (Library.get?_of_find found), Library.offersAll_ref_iff, or_assoc]
  case inline =>
    intro visiting known member rest inherited ps notRef ihMember ihRest key
    rw [ihRest key, mem_baseNames_addMissing, ihMember key, Library.offersAll_cons_iff notRef,
      or_assoc]

theorem mem_baseNames_contributed {r : Resolver} {visiting : List String} {node : Node}
    {ps : List Property} (h : r.contributed visiting node = .ok ps) {key : String} :
    key ∈ baseNames ps ↔ r.library.Offers visiting node key :=
  (mem_baseNames_contributed_and r).1 visiting node ps h key

/-- Members add to what is known only what is missing. -/
theorem nodup_baseNames_contributedByAll {r : Resolver} {visiting : List String}
    {known : List Property} {members : List Node} {ps : List Property}
    (h : r.contributedByAll visiting known members = .ok ps) (distinct : (baseNames known).Nodup) :
    (baseNames ps).Nodup := by
  induction members generalizing known with
  | nil =>
    rw [contributedByAll] at h
    cases h
    exact distinct
  | cons member rest ih =>
    rcases contributedByAll_cons_cases h with ⟨-, -, -, h⟩ | ⟨-, -, -, inherited, -, -, -, h⟩ |
      ⟨inherited, -, -, h⟩
    · exact ih h distinct
    · exact ih h (nodup_baseNames_addMissing distinct inherited)
    · exact ih h (nodup_baseNames_addMissing distinct inherited)

/-! ## Models -/

/-- The parts of a model that flattening and inheritance depend on. -/
theorem model_cases {r : Resolver} {name : String} {node : Node} {m : Model}
    (h : r.model name node = .ok m) :
    m.name = name ∧ m.parentName = node.parent? ∧ m.ownProperties = markOrdering m.allVars ∧
      r.contributed [name] node = .ok m.allVars := by
  unfold model at h
  dsimp only at h
  cases node with
  | enum base literals default_ =>
    obtain ⟨dataType, -, h⟩ := bind_eq_ok_iff.1 h
    cases h
    exact ⟨rfl, rfl, rfl, contributed.eq_3 _ _ _ (by simp) (by simp)⟩
  | object entries required description =>
    obtain ⟨ps, hps, h⟩ := bind_eq_ok_iff.1 h
    cases h
    exact ⟨rfl, rfl, rfl, by rwa [contributed]⟩
  | composed kind members tag =>
    obtain ⟨ps, hps, h⟩ := bind_eq_ok_iff.1 h
    cases h
    exact ⟨rfl, rfl, rfl, hps⟩
  | array items tag | map value tag =>
    obtain ⟨dataType, -, h⟩ := bind_eq_ok_iff.1 h
    obtain ⟨itemType, -, h⟩ := bind_eq_ok_iff.1 h
    cases h
    exact ⟨rfl, rfl, rfl, contributed.eq_3 _ _ _ (by simp) (by simp)⟩
  | primitive typeName pattern default_ | ref target =>
    obtain ⟨dataType, -, h⟩ := bind_eq_ok_iff.1 h
    cases h
    exact ⟨rfl, rfl, rfl, contributed.eq_3 _ _ _ (by simp) (by simp)⟩

/-- A model has the keys of all components that can be reached from its own. -/
theorem mem_baseNames_model_iff {r : Resolver} {name : String} {node : Node} {m : Model}
    (found : r.library.get? name = some node) (h : r.model name node = .ok m) {key : String} :
    key ∈ baseNames m.allVars ↔ r.library.Supplies [] name key := by
  obtain ⟨-, -, -, hvars⟩ := model_cases h
  rw [mem_baseNames_contributed hvars, ← Library.supplies_iff List.not_mem_nil found]

theorem nodup_baseNames_model {r : Resolver} {name : String} {node : Node} {m : Model}
    (h : r.model name node = .ok m) (distinct : node.Keyed) : (baseNames m.allVars).Nodup := by
  obtain ⟨-, -, -, hvars⟩ := model_cases h
  by_cases isObject : ∃ entries required description, node = .object entries required description
  · obtain ⟨entries, required, description, rfl⟩ := isObject
    rw [contributed] at hvars
    rw [baseNames_properties hvars]
    exact distinct
  · by_cases isAllOf : ∃ members tag, node = .composed .allOf members tag
    · obtain ⟨members, tag, rfl⟩ := isAllOf
      rw [contributed] at hvars
      exact nodup_baseNames_contributedByAll hvars List.nodup_nil
    · rw [contributed.eq_3 _ _ _ (fun _ _ _ h => isObject ⟨_, _, _, h⟩)
        fun _ _ h => isAllOf ⟨_, _, h⟩] at hvars
      rw [← Except.ok.inj hvars]
      exact List.nodup_nil

end Resolver

end OpenApiGen
