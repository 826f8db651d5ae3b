import OpenApiGen.Profile.Builtin
import OpenApiGen.Proofs.Model.Lookup

/-!
# Parents behind a reference

A component may be a mere reference to another one.  As a member of an `allOf` schema it adds
nothing, for flattening takes properties from objects and from `allOf` schemas only
(`Resolver.contributedByAll_alias`).  So a model has the same keys with such a member as with the
component that it refers to just when it has all keys of that component from elsewhere
(`Resolver.baseNames_alias_iff`).
-/

namespace OpenApiGen

namespace Node

theorem inlineKeysAll_append (members more : List Node) :
    inlineKeysAll (members ++ more) = inlineKeysAll members ++ inlineKeysAll more := by
  induction members with
  | nil => rfl
  | cons member rest ih =>
    rw [List.cons_append, inlineKeysAll, inlineKeysAll, ih, List.append_assoc]

theorem memberRefsAll_append (members more : List Node) :
    memberRefsAll (members ++ more) = memberRefsAll members ++ memberRefsAll more := by
  induction members with
  | nil => rfl
  | cons member rest ih =>
    rw [List.cons_append, memberRefsAll, memberRefsAll, ih, List.append_assoc]

end Node

/-! ## Keys off a component -/

namespace Library

variable {library library' : Library} {avoid : List String}

/-- What can be reached without some components does not depend on them. -/
theorem Reaches.congr (same : ∀ n ∉ avoid, library'.get? n = library.get? n) {n m : String}
    (h : library.Reaches avoid n m) : library'.Reaches avoid n m := by
  induction h with
  | here clear => exact .here clear
  | step clear edge _ ih =>
    refine .step clear ?_ ih
    unfold parentsOf at edge ⊢
    rwa [same _ clear]

theorem Reaches.clear_last {n m : String} (h : library.Reaches avoid n m) : m ∉ avoid := by
  induction h with
  | here clear => exact clear
  | step _ _ _ ih => exact ih

theorem Supplies.congr (same : ∀ n ∉ avoid, library'.get? n = library.get? n) {name key : String}
    (h : library.Supplies avoid name key) : library'.Supplies avoid name key := by
  obtain ⟨m, reached, listed⟩ := h
  refine ⟨m, reached.congr same, ?_⟩
  unfold keysOf at listed ⊢
  rwa [same m reached.clear_last]

theorem supplies_congr (same : ∀ n ∉ avoid, library'.get? n = library.get? n)
    {name key : String} : library'.Supplies avoid name key ↔ library.Supplies avoid name key :=
  ⟨.congr fun n clear => (same n clear).symm, .congr same⟩

theorem offersAll_congr (same : ∀ n ∉ avoid, library'.get? n = library.get? n)
    {members : List Node} {key : String} :
    library'.OffersAll avoid members key ↔ library.OffersAll avoid members key := by
  unfold OffersAll
  simp only [supplies_congr same]

theorem offersAll_append_iff {members more : List Node} {key : String} :
    library.OffersAll avoid (members ++ more) key ↔
      library.OffersAll avoid members key ∨ library.OffersAll avoid more key := by
  simp only [OffersAll, Node.inlineKeysAll_append, Node.memberRefsAll_append, List.mem_append,
    or_and_right, exists_or]
  exact or_or_or_comm ..

/-- A mere reference supplies no keys. -/
theorem not_supplies_alias {link target key : String}
    (aliased : library.get? link = some (.ref target)) :
    ¬ library.Supplies avoid link key := by
  rintro ⟨m, reached, listed⟩
  rcases (reaches_iff.1 reached).2 with rfl | ⟨t, edge, -⟩
  · unfold keysOf at listed
    rw [aliased] at listed
    cases listed
  · unfold parentsOf at edge
    rw [aliased] at edge
    cases edge

end Library

/-! ## Members that refer to a reference -/

namespace Resolver

variable {r : Resolver} {visiting : List String} {known : List Property}

theorem contributedByAll_append (members more : List Node) :
    r.contributedByAll visiting known (members ++ more) =
      r.contributedByAll visiting known members >>= fun known =>
        r.contributedByAll visiting known more := by
  induction members generalizing known with
  | nil =>
    rw [contributedByAll]
    rfl
  | cons member rest ih =>
    rw [List.cons_append]
    by_cases isRef : ∃ name, member = .ref name
    · obtain ⟨name, rfl⟩ := isRef
      by_cases seen : name ∈ visiting
      · rw [contributedByAll, contributedByAll, dif_pos seen, dif_pos seen, ih]
      · cases found : r.library.find name with
        | error e =>
          rw [contributedByAll_ref_missing seen found, contributedByAll_ref_missing seen found]
          rfl
        | ok target =>
          rw [contributedByAll_ref seen found, contributedByAll_ref seen found, bind_assoc]
          exact bind_congr fun inherited => ih
    · have notRef : ∀ name, member ≠ .ref name := fun name same => isRef ⟨name, same⟩
      rw [contributedByAll.eq_3 _ _ _ _ _ notRef, contributedByAll.eq_3 _ _ _ _ _ notRef,
        bind_assoc]
      exact bind_congr fun inherited => ih

/-- A member that refers to a mere reference adds nothing. -/
theorem contributedByAll_alias {link target : String}
    (aliased : r.library.get? link = some (.ref target)) (before after : List Node) :
    r.contributedByAll visiting known (before ++ .ref link :: after) =
      r.contributedByAll visiting known (before ++ after) := by
  rw [contributedByAll_append, contributedByAll_append]
  refine bind_congr fun known => ?_
  by_cases seen : link ∈ visiting
  · rw [contributedByAll, dif_pos seen]
  · rw [contributedByAll_ref seen (Library.find_eq_ok_iff.2 aliased),
      contributed.eq_3 _ _ _ (by simp) (by simp)]
    rfl

/-- Let a component be a mere reference to another one, and let a member of an `allOf` schema refer
to it.  The properties of the model are those that it has without this member.  With a member that
refers to the other component instead, the model also has all keys of that component and of those
that can be reached from it without meeting the model again.  So the model has the same keys either
way just when it has these keys from its other members. -/
theorem baseNames_alias_iff {name link target : String} (before after : List Node)
    {tag : Option String} {m direct : Model}
    (aliased : r.library.get? link = some (.ref target))
    (made : r.model name (.composed .allOf (before ++ .ref link :: after) tag) = .ok m)
    (redirected : Resolver.model
      ⟨r.profile, r.library.insert name (.composed .allOf (before ++ .ref target :: after) tag)⟩
      name (.composed .allOf (before ++ .ref target :: after) tag) = .ok direct) :
    r.contributed [name] (.composed .allOf (before ++ after) tag) = .ok m.allVars ∧
      (∀ key, key ∈ baseNames direct.ownProperties ↔
        key ∈ baseNames m.ownProperties ∨ r.library.Supplies [name] target key) ∧
      ((∀ key, key ∈ baseNames m.ownProperties ↔ key ∈ baseNames direct.ownProperties) ↔
        ∀ key, r.library.Supplies [name] target key → key ∈ baseNames m.ownProperties) := by
  obtain ⟨-, -, own, vars⟩ := model_cases made
  obtain ⟨-, -, ownDirect, varsDirect⟩ := model_cases redirected
  have others : ∀ n ∉ [name], Dict.get? (r.library.insert name
      (.composed .allOf (before ++ .ref target :: after) tag)) n = r.library.get? n :=
    fun n clear => Dict.get?_insert_of_ne _ (by simpa using clear) _
  have keys (key : String) : key ∈ baseNames direct.ownProperties ↔
      key ∈ baseNames m.ownProperties ∨ r.library.Supplies [name] target key := by
    rw [own, ownDirect, baseNames_markOrdering, baseNames_markOrdering,
      mem_baseNames_contributed vars, mem_baseNames_contributed varsDirect,
      Library.offers_allOf_iff, Library.offers_allOf_iff, Library.offersAll_congr others,
      Library.offersAll_append_iff, Library.offersAll_append_iff, Library.offersAll_ref_iff,
      Library.offersAll_ref_iff, or_iff_right (Library.not_supplies_alias aliased)]
    tauto
  refine ⟨?_, keys, ?_⟩
  · rw [contributed] at vars ⊢
    rw [← contributedByAll_alias aliased, vars]
  · refine forall_congr' fun key => ?_
    rw [keys key]
    tauto

/-- Dogs, which are friends, which is another word for pets. -/
def friendsLibrary : Library :=
  [("Pet", .object [("name", .scalar "string")] [] none), ("Friend", .ref "Pet"),
    ("Dog", .composed .allOf [.ref "Friend"] none)]

/-- The node of dogs with another parent. -/
def dogNode (parent : String) : Node :=
  .composed .allOf [.ref parent] none

theorem exists_model_dog : ∃ m direct,
    Resolver.model ⟨.go, friendsLibrary⟩ "Dog" (dogNode "Friend") = .ok m ∧
      Resolver.model ⟨.go, friendsLibrary.insert "Dog" (dogNode "Pet")⟩ "Dog" (dogNode "Pet") =
        .ok direct := by
  let r : Resolver := ⟨.go, friendsLibrary⟩
  let r' : Resolver := ⟨.go, friendsLibrary.insert "Dog" (dogNode "Pet")⟩
  have there : "Dog" ∈ r.library.keys := by decide
  have there' : "Dog" ∈ r'.library.keys := by decide
  obtain ⟨m, made⟩ := (looksUp_model there (dogNode "Friend")).exists_eq_ok (by decide) (by decide)
  obtain ⟨direct, redirected⟩ :=
    (looksUp_model there' (dogNode "Pet")).exists_eq_ok (by decide) (by decide)
  exact ⟨m, direct, made, redirected⟩

theorem baseNames_alias_iff_dog :
    friendsLibrary.get? "Friend" = some (.ref "Pet") ∧
    ∃ m direct, Resolver.model ⟨.go, friendsLibrary⟩ "Dog" (dogNode "Friend") = .ok m ∧
      Resolver.model ⟨.go, friendsLibrary.insert "Dog" (dogNode "Pet")⟩ "Dog" (dogNode "Pet") =
        .ok direct ∧
      Resolver.contributed ⟨.go, friendsLibrary⟩ ["Dog"] (.composed .allOf [] none) =
        .ok m.allVars ∧
      (∀ key, key ∈ baseNames direct.ownProperties ↔
        key ∈ baseNames m.ownProperties ∨ friendsLibrary.Supplies ["Dog"] "Pet" key) ∧
      ((∀ key, key ∈ baseNames m.ownProperties ↔ key ∈ baseNames direct.ownProperties) ↔
        ∀ key, friendsLibrary.Supplies ["Dog"] "Pet" key → key ∈ baseNames m.ownProperties) := by
  obtain ⟨m, direct, made, redirected⟩ := exists_model_dog
  let r : Resolver := ⟨.go, friendsLibrary⟩
  exact ⟨rfl, m, direct, made, redirected, baseNames_alias_iff (r := r) [] [] rfl made redirected⟩

/-- A dog has the name of pets if it is a pet, and no property at all if it is a friend. -/
theorem baseNames_alias_ne_dog :
    friendsLibrary.get? "Friend" = some (.ref "Pet") ∧
    friendsLibrary.get? "Dog" = some (dogNode "Friend") ∧
    ∃ m direct, Resolver.model ⟨.go, friendsLibrary⟩ "Dog" (dogNode "Friend") = .ok m ∧
      Resolver.model ⟨.go, friendsLibrary.insert "Dog" (dogNode "Pet")⟩ "Dog" (dogNode "Pet") =
        .ok direct ∧
      baseNames m.ownProperties = [] ∧ baseNames direct.ownProperties = ["name"] := by
  obtain ⟨m, direct, made, redirected⟩ := exists_model_dog
  refine ⟨rfl, rfl, m, direct, made, redirected, ?_, ?_⟩
  · obtain ⟨-, -, own, vars⟩ := model_cases made
    have dropped : Resolver.contributedByAll ⟨.go, friendsLibrary⟩ ["Dog"] [] [.ref "Friend"] =
        Resolver.contributedByAll ⟨.go, friendsLibrary⟩ ["Dog"] [] [] :=
      contributedByAll_alias rfl [] []
    rw [dogNode, contributed, dropped, contributedByAll] at vars
    rw [own, ← Except.ok.inj vars]
    rfl
  · obtain ⟨-, -, own, vars⟩ := model_cases redirected
    rw [dogNode, contributed, contributedByAll_ref (by decide) rfl, contributed] at vars
    obtain ⟨ps, made, vars⟩ := bind_eq_ok_iff.1 vars
    obtain ⟨p, rfl, named⟩ := List.map_eq_singleton_iff.1 (baseNames_properties made)
    rw [contributedByAll] at vars
    rw [own, baseNames_markOrdering, ← Except.ok.inj vars]
    exact congrArg (fun name => [name]) named

end Resolver

end OpenApiGen
