import OpenApiGen.Proofs.Model.Build

/-!
# The lists of properties of a model

A model lists its own properties and all its variables, which are built as properties of nodes.
Reconciliation takes from the own properties only, so that these stay among all variables, in their
order (`Model.OwnAmongAll`).  Marking changes both lists alike.
-/

namespace OpenApiGen

/-! ## Properties as they are built -/

namespace Resolver

variable {r : Resolver} {P : Property → Prop}

theorem mem_or_mem_of_mem_addMissing {known more : List Property} {p : Property}
    (mem : p ∈ addMissing known more) : p ∈ known ∨ p ∈ more := by
  induction more generalizing known with
  | nil => exact .inl mem
  | cons q rest ih =>
    rw [addMissing_cons] at mem
    rcases ih mem with mem | mem
    · split at mem
      · exact .inl mem
      · rcases List.mem_append.1 mem with mem | mem
        · exact .inl mem
        · exact .inr (List.mem_singleton.1 mem ▸ List.mem_cons_self)
    · exact .inr (List.mem_cons_of_mem _ mem)

theorem exists_property_of_mem_properties {entries : List (String × Node)}
    {required : List String} {ps : List Property} (h : r.properties entries required = .ok ps)
    {p : Property} (mem : p ∈ ps) : ∃ key node required, r.property key node required = .ok p := by
  obtain ⟨e, -, made⟩ := exists_mem_of_mapM h mem
  exact ⟨_, _, _, made⟩

theorem exists_model_of_mem {built : List Model} (h : r.models = .ok built) {m : Model}
    (mem : m ∈ built) : ∃ name node, r.model name node = .ok m := by
  obtain ⟨e, -, made⟩ := exists_mem_of_mapM h mem
  exact ⟨_, _, made⟩

/-- Flattening makes no properties of its own. -/
theorem exists_property_of_mem_contributed_and (r : Resolver) :
    (∀ visiting node ps, r.contributed visiting node = .ok ps →
      ∀ p ∈ ps, ∃ key node required, r.property key node required = .ok p) ∧
    (∀ visiting known members ps, r.contributedByAll visiting known members = .ok ps →
      ∀ p ∈ ps, p ∈ known ∨ ∃ key node required, r.property key node required = .ok p) := by
  apply contributed_rule
  case object =>
    intro visiting entries required description ps h p mem
    exact exists_property_of_mem_properties h mem
  case allOf =>
    intro visiting members tag ps ih p mem
    exact (ih p mem).resolve_left List.not_mem_nil
  case other =>
    intro visiting node _ _ p mem
    cases mem
  case nil =>
    intro visiting known p mem
    exact .inl mem
  case seen =>
    intro visiting known name rest ps _ ih
    exact ih
  case ref =>
    intro visiting known name target rest inherited ps _ _ ihTarget ihRest p mem
    rcases ihRest p mem with mem | made
    · exact (mem_or_mem_of_mem_addMissing mem).imp_right (ihTarget p)
    · exact .inr made
  case inline =>
    intro visiting known member rest inherited ps _ ihMember ihRest p mem
    rcases ihRest p mem with mem | made
    · exact (mem_or_mem_of_mem_addMissing mem).imp_right (ihMember p)
    · exact .inr made

/-- Each variable of a model is built as the property of some node. -/
theorem exists_property_of_mem_allVars {name : String} {node : Node} {m : Model}
    (h : r.model name node = .ok m) {p : Property} (mem : p ∈ m.allVars) :
    ∃ key node required, r.property key node required = .ok p :=
  r.exists_property_of_mem_contributed_and.1 _ _ _ (model_cases h).2.2.2 p mem

/-- A property as it is built has no marks of later steps. -/
theorem unmarked_property {key : String} {node : Node} {required : Bool} {p : Property}
    (h : r.property key node required = .ok p) : p.isRecursive = false ∧ p.jsdocType = none := by
  obtain ⟨-, -, -, isRecursive, jsdocType, -⟩ := property_cases h
  exact ⟨isRecursive, jsdocType⟩

end Resolver

/-! ## Marks -/

/-- Whether a type is that of a model: it has the name of the model's class, in any case, and is not
built in. -/
def Builtins.isSelf (b : Builtins) (className type : String) : Bool :=
  !b.contains type && eqIgnoringAsciiCase type className

/-- Whether a property has the type of the model of a class, as it stands or without containers. -/
def Property.refersTo (b : Builtins) (className : String) (p : Property) : Bool :=
  b.isSelf className p.dataType || b.isSelf className p.baseType

/-- A property with its mark. -/
def Property.marked (b : Builtins) (className : String) (p : Property) : Property :=
  { p with isRecursive := p.isRecursive || p.refersTo b className }

@[simp] theorem Property.baseName_marked (b : Builtins) (className : String) (p : Property) :
    (p.marked b className).baseName = p.baseName :=
  rfl

@[simp] theorem Property.isRecursive_marked (b : Builtins) (className : String) (p : Property) :
    (p.marked b className).isRecursive = (p.isRecursive || p.refersTo b className) :=
  rfl

/-- Whether a property refers to a class does not depend on its mark. -/
@[simp] theorem Property.refersTo_marked (b b' : Builtins) (name className : String)
    (p : Property) : (p.marked b name).refersTo b' className = p.refersTo b' className :=
  rfl

/-- A property without its mark. -/
def Property.unmarked (p : Property) : Property :=
  { p with isRecursive := false }

theorem Property.unmarked_eq {p : Property} (h : p.isRecursive = false) : p.unmarked = p := by
  rw [unmarked, ← h]

theorem Resolver.markRecursive_eq (r : Resolver) (m : Model) : r.markRecursive m =
    { m with
      ownProperties := m.ownProperties.map (Property.marked r.profile.builtins m.className)
      allVars := m.allVars.map (Property.marked r.profile.builtins m.className) } := by
  have marked : Property.marked r.profile.builtins m.className = fun p =>
      { p with isRecursive := p.isRecursive || r.profile.builtins.isSelf m.className p.dataType ||
        r.profile.builtins.isSelf m.className p.baseType } := by
    funext p
    rw [Bool.or_assoc]
    rfl
  rw [marked]
  rfl

/-! ## Own properties -/

/-- A change of properties that does not depend on their positions. -/
theorem map_unordered_map {f g : Property → Property}
    (h : ∀ p, (f p).unordered = g p.unordered) (ps : List Property) :
    (ps.map f).map Property.unordered = (ps.map Property.unordered).map g := by
  rw [List.map_map, List.map_map]
  exact List.map_congr_left fun p _ => h p

namespace Model

variable {mode : ReconcileMode} {m : Model}

/-- The own properties are some of all variables, in their order. -/
def OwnAmongAll (m : Model) : Prop :=
  (m.ownProperties.map Property.unordered).Sublist (m.allVars.map Property.unordered)

theorem ownAmongAll_of_model {r : Resolver} {name : String} {node : Node}
    (h : r.model name node = .ok m) : m.OwnAmongAll := by
  unfold OwnAmongAll
  simp [(Resolver.model_cases h).2.2.1]

namespace OwnAmongAll

theorem ownProperties_eq_nil (h : m.OwnAmongAll) (none : m.allVars = []) :
    m.ownProperties = [] := by
  unfold OwnAmongAll at h
  rw [none, List.map_nil, List.sublist_nil, List.map_eq_nil_iff] at h
  exact h

theorem reconcile (h : m.OwnAmongAll) (mode : ReconcileMode) (ancestor : Model) :
    (m.reconcile mode ancestor).OwnAmongAll := by
  unfold OwnAmongAll
  rw [map_unordered_reconcile, allVars_reconcile h.ownProperties_eq_nil]
  exact List.filter_sublist.trans h

theorem reconcileHierarchy (h : m.OwnAmongAll) (mode : ReconcileMode) (models : Dict Model) :
    (m.reconcileHierarchy mode models).OwnAmongAll :=
  reconcileHierarchy_invariant (fun _ ancestor h => h.reconcile mode ancestor) models h

theorem allVars_reconcileHierarchy (h : m.OwnAmongAll) (mode : ReconcileMode)
    (models : Dict Model) : (m.reconcileHierarchy mode models).allVars = m.allVars := by
  rw [reconcileHierarchy_eq_foldl]
  exact allVars_foldl_reconcile h.ownProperties_eq_nil _

theorem baseNames_sublist (h : m.OwnAmongAll) :
    (baseNames m.ownProperties).Sublist (baseNames m.allVars) := by
  rw [baseNames, baseNames, map_eq_map_unordered fun _ => rfl,
    map_eq_map_unordered (fun _ => rfl) m.allVars]
  exact List.Sublist.map Property.baseName h

/-- A change of both lists keeps them together, if it does not depend on positions. -/
theorem map {m' : Model} (h : m.OwnAmongAll) {f g : Property → Property}
    (unordered : ∀ p, (f p).unordered = g p.unordered)
    (own : m'.ownProperties = m.ownProperties.map f) (all : m'.allVars = m.allVars.map f) :
    m'.OwnAmongAll := by
  unfold OwnAmongAll
  rw [own, all, map_unordered_map unordered, map_unordered_map unordered]
  exact List.Sublist.map g h

theorem markRecursive (h : m.OwnAmongAll) (r : Resolver) : (r.markRecursive m).OwnAmongAll := by
  rw [r.markRecursive_eq]
  exact h.map (g := Property.marked r.profile.builtins m.className) (fun _ => rfl) rfl rfl

end OwnAmongAll

/-! ## Ancestors -/

/-- The walk over parents looks its models up, each under a name that was not visited. -/
theorem exists_get?_of_mem_ancestorsAlong {models : Dict Model} {visited : List String}
    {next : Option String} {a : Model} (mem : a ∈ ancestorsAlong models visited next) :
    ∃ name, name ∉ visited ∧ models.get? name = some a := by
  induction visited, next using ancestorsAlong.induct models with
  | case1 visited =>
    rw [ancestorsAlong] at mem
    cases mem
  | case2 visited name seen =>
    rw [ancestorsAlong, dif_pos seen] at mem
    cases mem
  | case3 visited name new missing =>
    rw [ancestorsAlong_of_none missing] at mem
    cases mem
  | case4 visited name new ancestor found ih =>
    rw [ancestorsAlong_of_get? new found] at mem
    rcases List.mem_cons.1 mem with rfl | later
    · exact ⟨name, new, found⟩
    · obtain ⟨name', new', found'⟩ := ih later
      exact ⟨name', fun seen => new' (List.mem_cons_of_mem _ seen), found'⟩

theorem mem_of_mem_ancestors {models : List Model} {child a : Model}
    (mem : a ∈ child.ancestors (byName models)) : a ∈ models := by
  obtain ⟨name, -, found⟩ := exists_get?_of_mem_ancestorsAlong mem
  exact mem_of_get?_byName found

end Model

end OpenApiGen
