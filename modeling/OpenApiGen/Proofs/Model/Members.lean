import OpenApiGen.Proofs.Model.Build
import OpenApiGen.Proofs.Model.Lookup
import OpenApiGen.Proofs.Model.Reachability

/-!
# Parents inside their children

Flattening a component keeps in mind the way that it came along.  Only where the component leads
back to this way does that make a difference (`Resolver.contributed_congr`).  So a child that
cannot be reached from itself takes over each parent just as the parent is built on its own: its own
properties are the first of each name among those that its members bring along
(`Resolver.ownProperties_eq_firstByName`).
-/

namespace OpenApiGen

/-- The first property of each name, in order. -/
def firstByName (ps : List Property) : List Property :=
  ps.eraseDupsBy fun p q => p.baseName == q.baseName

namespace Library

/-- Two lists hold the same of all components that can be reached from some. -/
def Agree (library : Library) (names visiting visiting' : List String) : Prop :=
  ∀ t ∈ names, ∀ n, Relation.ReflTransGen library.TakesFrom t n → (n ∈ visiting ↔ n ∈ visiting')

variable {library : Library} {visiting visiting' : List String}

theorem Agree.mono {names more : List String} (h : library.Agree more visiting visiting')
    (sub : names ⊆ more) : library.Agree names visiting visiting' :=
  fun t mem => h t (sub mem)

/-- Lists that agree beyond a component agree beyond its parents, also while it is looked at. -/
theorem Agree.parents {names : List String} {name : String} {target : Node}
    (h : library.Agree names visiting visiting') (mem : name ∈ names)
    (found : library.get? name = some target) :
    library.Agree target.allOfRefs (name :: visiting) (name :: visiting') := by
  intro t edge n path
  have takes : library.TakesFrom name t := by
    unfold TakesFrom parentsOf
    rw [found]
    exact edge
  rw [List.mem_cons, List.mem_cons, h name mem n (.head takes path)]

/-- A component that cannot be reached from itself plays no part beyond its parents. -/
theorem agree_append {names : List String} {name : String}
    (acyclic : ¬ Relation.TransGen library.TakesFrom name name)
    (below : ∀ t ∈ names, Relation.TransGen library.TakesFrom name t) (visiting : List String) :
    library.Agree names visiting (visiting ++ [name]) := by
  intro t mem n path
  have other : n ≠ name := by
    rintro rfl
    exact acyclic ((below t mem).trans_left path)
  rw [List.mem_append, List.mem_singleton, or_iff_left other]

end Library

namespace Resolver

variable {r : Resolver}

theorem addMissing_append (known ps qs : List Property) :
    addMissing known (ps ++ qs) = addMissing (addMissing known ps) qs :=
  List.foldl_append

theorem addMissing_nil_left (ps : List Property) : addMissing [] ps = firstByName ps := by
  have loop (known : List Property) :
      List.eraseDupsBy.loop (fun p q => p.baseName == q.baseName) ps known =
        addMissing known.reverse ps := by
    induction ps generalizing known with
    | nil => rfl
    | cons p rest ih =>
      have seen : (known.any fun q => p.baseName == q.baseName) = true ↔
          p.baseName ∈ baseNames known.reverse := by
        simp only [List.any_eq_true, beq_iff_eq, baseNames, List.mem_map, List.mem_reverse]
        exact exists_congr fun q => and_congr_right fun _ => eq_comm
      rw [List.eraseDupsBy.loop, addMissing_cons]
      cases h : known.any fun q => p.baseName == q.baseName with
      | true =>
        rw [if_pos (seen.1 h)]
        exact ih known
      | false =>
        have new : p.baseName ∉ baseNames known.reverse := fun mem => by
          rw [seen.2 mem] at h
          cases h
        rw [if_neg new, ← List.reverse_cons]
        exact ih (p :: known)
  exact (loop []).symm

/-! ## The way to a component -/

/-- Flattening depends only on those components of the way to it that can be reached again.  The
induction follows its calls. -/
theorem contributed_congr_and (r : Resolver) :
    (∀ visiting node, ∀ visiting', r.library.Agree node.allOfRefs visiting visiting' →
      r.contributed visiting' node = r.contributed visiting node) ∧
    (∀ visiting known members, ∀ visiting',
      r.library.Agree (Node.memberRefsAll members) visiting visiting' →
      r.contributedByAll visiting' known members = r.contributedByAll visiting known members) := by
  apply contributed.mutual_induct r
    (fun visiting node => ∀ visiting', r.library.Agree node.allOfRefs visiting visiting' →
      r.contributed visiting' node = r.contributed visiting node)
    (fun visiting known members => ∀ visiting',
      r.library.Agree (Node.memberRefsAll members) visiting visiting' →
      r.contributedByAll visiting' known members = r.contributedByAll visiting known members)
  case case1 =>
    intro visiting entries required description visiting' agree
    rw [contributed, contributed]
  case case2 =>
    intro visiting members tag ih visiting' agree
    rw [contributed, contributed]
    exact ih visiting' agree
  case case3 =>
    intro visiting node notObject notAllOf visiting' agree
    rw [contributed.eq_3 _ _ _ notObject notAllOf, contributed.eq_3 _ _ _ notObject notAllOf]
  case case4 =>
    intro visiting known visiting' agree
    rw [contributedByAll, contributedByAll]
  case case5 =>
    intro visiting known name rest seen ih visiting' agree
    have seen' := (agree name List.mem_cons_self name .refl).1 seen
    rw [contributedByAll, contributedByAll, dif_pos seen, dif_pos seen']
    exact ih visiting' (agree.mono (List.subset_cons_self _ _))
  case case6 =>
    intro visiting known name rest new e missing visiting' agree
    have new' := mt (agree name List.mem_cons_self name .refl).2 new
    rw [contributedByAll_ref_missing new missing, contributedByAll_ref_missing new' missing]
  case case7 =>
    intro visiting known name rest new target found ihTarget ihRest visiting' agree
    have new' := mt (agree name List.mem_cons_self name .refl).2 new
    have beyond := agree.parents List.mem_cons_self (Library.get?_of_find found)
    rw [contributedByAll_ref new found, contributedByAll_ref new' found, ihTarget _ beyond]
    refine bind_congr fun inherited => ?_
    exact ihRest inherited visiting' (agree.mono (List.subset_cons_self _ _))
  case case8 =>
    intro visiting known member rest notRef ihMember ihRest visiting' agree
    have refs : Node.memberRefsAll (member :: rest) =
        member.allOfRefs ++ Node.memberRefsAll rest := by
      rw [Node.memberRefsAll, Node.memberRefs_eq_allOfRefs notRef]
    rw [refs] at agree
    rw [contributedByAll.eq_3 _ _ _ _ _ notRef, contributedByAll.eq_3 _ _ _ _ _ notRef,
      ihMember visiting' (agree.mono (List.subset_append_left _ _))]
    refine bind_congr fun inherited => ?_
    exact ihRest inherited visiting' (agree.mono (List.subset_append_right _ _))

theorem contributed_congr {visiting visiting' : List String} {node : Node}
    (agree : r.library.Agree node.allOfRefs visiting visiting') :
    r.contributed visiting' node = r.contributed visiting node :=
  r.contributed_congr_and.1 visiting node visiting' agree

/-! ## Members -/

/-- What a member of an `allOf` schema adds to a model, while some components are looked at. -/
def offered (r : Resolver) (visiting : List String) : Node → Except RefError (List Property)
  | .ref name => r.library.find name >>= r.contributed (name :: visiting)
  | node => r.contributed visiting node

/-- Members of which none is being looked at add what they offer, each on its own. -/
theorem exists_offered_of_contributedByAll {visiting : List String} {known ps : List Property}
    {members : List Node} (h : r.contributedByAll visiting known members = .ok ps)
    (new : ∀ name, .ref name ∈ members → name ∉ visiting) :
    ∃ parts, List.Forall₂ (fun member part => r.offered visiting member = .ok part) members parts ∧
      ps = addMissing known parts.flatten := by
  induction members generalizing known with
  | nil =>
    rw [contributedByAll] at h
    cases h
    exact ⟨[], .nil, rfl⟩
  | cons member rest ih =>
    have later : ∀ name, .ref name ∈ rest → name ∉ visiting :=
      fun name mem => new name (List.mem_cons_of_mem _ mem)
    obtain ⟨part, first, onward⟩ : ∃ part, r.offered visiting member = .ok part ∧
        r.contributedByAll visiting (addMissing known part) rest = .ok ps := by
      rcases contributedByAll_cons_cases h with ⟨name, seen, rfl, -⟩ |
        ⟨name, -, target, part, rfl, found, made, onward⟩ | ⟨part, notRef, made, onward⟩
      · exact absurd seen (new name List.mem_cons_self)
      · exact ⟨part, bind_eq_ok_iff.2 ⟨target, found, made⟩, onward⟩
      · exact ⟨part, (offered.eq_2 _ _ _ notRef).trans made, onward⟩
    obtain ⟨parts, offers, rfl⟩ := ih onward later
    exact ⟨part :: parts, .cons first offers, (addMissing_append known part _).symm⟩

/-- What a member of an `allOf` schema brings along by itself, given the models that were built: a
reference the own properties of the model that it names, an object its properties, and a nested
`allOf` schema what flattening makes of it. -/
inductive Brings (r : Resolver) (built : List Model) : Node → List Property → Prop
  | ref {name : String} {parent : Model}
      (found : built.find? (fun m => m.name = name) = some parent) :
      Brings r built (.ref name) parent.ownProperties
  | object {entries : List (String × Node)} {required : List String} {description : Option String}
      {ps : List Property} (h : r.properties entries required = .ok ps) :
      Brings r built (.object entries required description) ps
  | allOf {members : List Node} {tag : Option String} {ps : List Property}
      (h : r.contributed [] (.composed .allOf members tag) = .ok ps) :
      Brings r built (.composed .allOf members tag) ps
  | other {node : Node} (notRef : ∀ name, node ≠ .ref name)
      (notObject : ∀ entries required description, node ≠ .object entries required description)
      (notAllOf : ∀ members tag, node ≠ .composed .allOf members tag) : Brings r built node []

theorem brings_of_contributed {built : List Model} {member : Node} {ps : List Property}
    (notRef : ∀ name, member ≠ .ref name) (h : r.contributed [] member = .ok ps) :
    r.Brings built member ps := by
  by_cases isObject : ∃ entries required description, member = .object entries required description
  · obtain ⟨entries, required, description, rfl⟩ := isObject
    rw [contributed] at h
    exact .object h
  by_cases isAllOf : ∃ members tag, member = .composed .allOf members tag
  · obtain ⟨members, tag, rfl⟩ := isAllOf
    exact .allOf h
  have notObject := fun entries required description same =>
    isObject ⟨entries, required, description, same⟩
  have notAllOf := fun members tag same => isAllOf ⟨members, tag, same⟩
  rw [contributed.eq_3 _ _ _ notObject notAllOf] at h
  cases h
  exact .other notRef notObject notAllOf

/-- A member of a component that cannot be reached from itself offers to it what it brings along by
itself. -/
theorem exists_brings_of_offered {built : List Model} (h : r.models = .ok built) {name : String}
    (acyclic : ¬ Relation.TransGen r.library.TakesFrom name name) {member : Node}
    (takes : ∀ t ∈ member.memberRefs, r.library.TakesFrom name t) {part : List Property}
    (offers : r.offered [name] member = .ok part) :
    ∃ ps, r.Brings built member ps ∧
      ps.map Property.unordered = part.map Property.unordered := by
  by_cases isRef : ∃ parent, member = .ref parent
  · obtain ⟨parent, rfl⟩ := isRef
    obtain ⟨target, there, made⟩ := bind_eq_ok_iff.1 offers
    replace there := Library.get?_of_find there
    have up : r.library.TakesFrom name parent := takes parent (List.mem_singleton_self parent)
    have below : ∀ t ∈ target.allOfRefs, Relation.TransGen r.library.TakesFrom name t := by
      intro t edge
      refine .tail (.single up) ?_
      unfold Library.TakesFrom Library.parentsOf
      rw [there]
      exact edge
    have alone : r.contributed [parent, name] target = r.contributed [parent] target :=
      contributed_congr (Library.agree_append acyclic below [parent])
    rw [alone] at made
    obtain ⟨m, first⟩ := exists_find?_models h (Dict.mem_keys_of_get? there)
    obtain ⟨node, there', built⟩ := (find?_models_iff h).1 first
    cases there.symm.trans there'
    obtain ⟨-, -, own, vars⟩ := model_cases built
    cases vars.symm.trans made
    exact ⟨_, .ref first, by simp [own]⟩
  · have notRef : ∀ parent, member ≠ .ref parent := fun parent same => isRef ⟨parent, same⟩
    have below : ∀ t ∈ member.allOfRefs, Relation.TransGen r.library.TakesFrom name t := by
      rw [← Node.memberRefs_eq_allOfRefs notRef]
      exact fun t mem => .single (takes t mem)
    have alone : r.contributed [name] member = r.contributed [] member :=
      contributed_congr (Library.agree_append acyclic below [])
    rw [offered.eq_2 _ _ _ notRef, alone] at offers
    exact ⟨part, brings_of_contributed notRef offers, rfl⟩

theorem exists_brings_of_forall₂ {built : List Model} (h : r.models = .ok built) {name : String}
    (acyclic : ¬ Relation.TransGen r.library.TakesFrom name name) {members : List Node}
    (takes : ∀ t ∈ Node.memberRefsAll members, r.library.TakesFrom name t)
    {offers : List (List Property)}
    (each : List.Forall₂ (fun member part => r.offered [name] member = .ok part) members offers) :
    ∃ parts, List.Forall₂ (r.Brings built) members parts ∧
      parts.flatten.map Property.unordered = offers.flatten.map Property.unordered := by
  induction each with
  | nil => exact ⟨[], .nil, rfl⟩
  | @cons member offer rest _ offered _ ih =>
    obtain ⟨part, bring, same⟩ := exists_brings_of_offered h acyclic
      (fun t mem => takes t (List.mem_append_left _ mem)) offered
    obtain ⟨parts, brings, later⟩ := ih fun t mem => takes t (List.mem_append_right _ mem)
    refine ⟨part :: parts, .cons bring brings, ?_⟩
    rw [List.flatten_cons, List.flatten_cons, List.map_append, List.map_append, same, later]

/-- In a document of which all models can be built, let an `allOf` schema not be reachable from
itself over references of `allOf` schemas.  Then the own properties of its model are, but for their
positions, the first of each name among all that its members bring along, in their order: what the
model of a parent has when it is built on its own, the properties of objects, and what flattening
makes of nested `allOf` schemas. -/
theorem ownProperties_eq_firstByName {built : List Model} (h : r.models = .ok built)
    {name : String} {members : List Node} {tag : Option String}
    (found : r.library.get? name = some (.composed .allOf members tag))
    (acyclic : ¬ Relation.TransGen r.library.TakesFrom name name) :
    ∃ m parts, built.find? (fun m => m.name = name) = some m ∧
      List.Forall₂ (r.Brings built) members parts ∧
      m.ownProperties.map Property.unordered =
        (firstByName parts.flatten).map Property.unordered := by
  obtain ⟨m, first⟩ := exists_find?_models h (Dict.mem_keys_of_get? found)
  obtain ⟨node, found', made⟩ := (find?_models_iff h).1 first
  cases found.symm.trans found'
  obtain ⟨-, -, own, vars⟩ := model_cases made
  have takes : ∀ t ∈ Node.memberRefsAll members, r.library.TakesFrom name t := by
    unfold Library.TakesFrom Library.parentsOf
    rw [found]
    exact fun t => id
  have others : ∀ parent, .ref parent ∈ members → parent ∉ [name] := by
    intro parent mem same
    obtain rfl := List.mem_singleton.1 same
    have edge := Node.memberRefs_subset_memberRefsAll mem (List.mem_singleton_self parent)
    exact acyclic (.single (takes parent edge))
  rw [contributed] at vars
  obtain ⟨offers, each, flat⟩ := exists_offered_of_contributedByAll vars others
  obtain ⟨parts, brings, same⟩ := exists_brings_of_forall₂ h acyclic takes each
  refine ⟨m, parts, first, brings, ?_⟩
  rw [own, map_unordered_markOrdering, flat, ← addMissing_nil_left,
    ← addMissing_map (f := Property.unordered) fun _ => rfl,
    ← addMissing_map (f := Property.unordered) fun _ => rfl, same]

/-- Dogs are pets and have an owner, while pets and owners take properties from each other. -/
def ownedLibrary : Library :=
  [("Dog", .composed .allOf
      [.ref "Pet",
        .composed .allOf [.ref "Owner", .object [("bark", .scalar "string")] [] none] none] none),
    ("Pet", .composed .allOf [.ref "Owner", .object [("name", .scalar "string")] [] none] none),
    ("Owner", .composed .allOf
      [.ref "Pet", .object [("name", .scalar "string"), ("phone", .scalar "string")] ["name"] none]
      none)]

theorem ownProperties_dog_eq_firstByName :
    let r : Resolver := ⟨.go, ownedLibrary⟩
    ∃ built members, r.models = .ok built ∧
      r.library.get? "Dog" = some (.composed .allOf members none) ∧
      ¬ Relation.TransGen r.library.TakesFrom "Dog" "Dog" ∧
      ∃ m parts, built.find? (fun m => m.name = "Dog") = some m ∧
        List.Forall₂ (r.Brings built) members parts ∧
        m.ownProperties.map Property.unordered =
          (firstByName parts.flatten).map Property.unordered := by
  intro r
  obtain ⟨built, h⟩ := r.exists_models_iff.2 (by decide)
  have never : ∀ n, ¬ r.library.TakesFrom n "Dog" := by
    intro n takes
    unfold Library.TakesFrom Library.parentsOf at takes
    cases found : r.library.get? n with
    | none =>
      rw [found] at takes
      cases takes
    | some node =>
      rw [found] at takes
      have free : ∀ c ∈ ownedLibrary, "Dog" ∉ c.2.allOfRefs := by decide
      exact free _ (Dict.mem_of_get? found) takes
  have acyclic : ¬ Relation.TransGen r.library.TakesFrom "Dog" "Dog" := by
    intro path
    obtain ⟨n, -, last⟩ := Relation.TransGen.tail'_iff.1 path
    exact never n last
  exact ⟨built, _, h, rfl, acyclic, ownProperties_eq_firstByName h rfl acyclic⟩

end Resolver

end OpenApiGen
