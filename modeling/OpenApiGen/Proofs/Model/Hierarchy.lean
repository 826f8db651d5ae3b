import OpenApiGen.Proofs.Model.Views

/-!
# Reconciliation takes away what ancestors declare

Following the names of parents from a model meets a list of ancestors, and one list only
(`parentWalk_iff`).  To reconcile the model is to let it see them and to take away, at once, those
of its own properties that one of them declares (`Model.reconcileHierarchy_eq_without`).  What is
left then is left to no ancestor, as ancestors lose properties and gain none.  So a second
reconciliation finds nothing to do (`reconcileModels_reconcileModels`).
-/

namespace OpenApiGen

/-! ## The walk over parents -/

/-- The models that are met by following names of parents, nearest first.  The walk ends at a model
without parent, at a name that was met before, and at one that no model has. -/
inductive ParentWalk (models : Dict Model) : List String → Option String → List Model → Prop
  | root {met : List String} : ParentWalk models met none []
  | again {met : List String} {name : String} (seen : name ∈ met) :
      ParentWalk models met (some name) []
  | missing {met : List String} {name : String} (absent : models.get? name = none) :
      ParentWalk models met (some name) []
  | step {met : List String} {name : String} {parent : Model} {ancestors : List Model}
      (new : name ∉ met) (found : models.get? name = some parent)
      (rest : ParentWalk models (name :: met) parent.parentName ancestors) :
      ParentWalk models met (some name) (parent :: ancestors)

theorem parentWalk_iff {models : Dict Model} {met : List String} {next : Option String}
    {ancestors : List Model} : ParentWalk models met next ancestors ↔
      ancestors = Model.ancestorsAlong models met next := by
  constructor
  · intro walk
    induction walk with
    | root => rw [Model.ancestorsAlong]
    | again seen => rw [Model.ancestorsAlong, dif_pos seen]
    | missing absent => exact (Model.ancestorsAlong_of_none absent).symm
    | step new found _ ih => rw [Model.ancestorsAlong_of_get? new found, ← ih]
  · rintro rfl
    induction met, next using Model.ancestorsAlong.induct models with
    | case1 met =>
      rw [Model.ancestorsAlong]
      exact .root
    | case2 met name seen =>
      rw [Model.ancestorsAlong, dif_pos seen]
      exact .again seen
    | case3 met name new absent =>
      rw [Model.ancestorsAlong_of_none absent]
      exact .missing absent
    | case4 met name new parent found ih =>
      rw [Model.ancestorsAlong_of_get? new found]
      exact .step new found ih

/-! ## What ancestors declare -/

namespace ReconcileMode

variable {mode : ReconcileMode} {met : List Model} {p : Property}

/-- Whether a property is left to one of some ancestors: to one that declares a property of the same
name, or, for an enumeration, to one with enumerations that declares the same. -/
def Leaves (mode : ReconcileMode) (met : List Model) (p : Property) : Prop :=
  match mode with
  | none => False
  | properties => ∃ a ∈ met, ∃ q ∈ a.ownProperties, q.baseName = p.baseName
  | inlineEnums => p.isEnum = true ∧ ∃ a ∈ met, a.hasEnums = true ∧
      ∃ q ∈ a.ownProperties, q.isEnum = true ∧ q.unordered = p.unordered

theorem leaves_iff : mode.Leaves met p ↔ (met.any fun a => mode.inherits a p) = true := by
  rw [List.any_eq_true]
  cases mode with
  | none => exact ⟨nofun, fun ⟨_, _, never⟩ => nomatch never⟩
  | properties =>
    refine exists_congr fun a => and_congr_right fun _ => ?_
    unfold inherits
    dsimp only
    rw [List.any_eq_true]
    exact exists_congr fun q => and_congr_right fun _ => decide_eq_true_iff.symm
  | inlineEnums =>
    have taken (a : Model) : inlineEnums.inherits a p = true ↔ p.isEnum = true ∧
        a.hasEnums = true ∧ ∃ q ∈ a.ownProperties, q.isEnum = true ∧ q.unordered = p.unordered := by
      unfold inherits Model.enumProperties Property.sameAs
      simp only [Bool.and_eq_true, List.any_eq_true, List.mem_filter, decide_eq_true_iff]
      constructor
      · rintro ⟨⟨enums, enum⟩, q, ⟨mem, enum'⟩, same⟩
        exact ⟨enum, enums, q, mem, enum', same⟩
      · rintro ⟨enum, enums, q, mem, enum', same⟩
        exact ⟨⟨enums, enum⟩, q, ⟨mem, enum'⟩, same⟩
    constructor
    · rintro ⟨enum, a, mem, declared⟩
      exact ⟨a, mem, (taken a).2 ⟨enum, declared⟩⟩
    · rintro ⟨a, mem, inherited⟩
      obtain ⟨enum, declared⟩ := (taken a).1 inherited
      exact ⟨enum, a, mem, declared⟩

instance : Decidable (mode.Leaves met p) :=
  decidable_of_iff _ leaves_iff.symm

/-- An ancestor that has lost properties takes no more than before. -/
theorem inherits_of_lost {a a' : Model} (h : mode.inherits a' p = true)
    (enums : ∀ q ∈ a.ownProperties, q.isEnum = true → a.hasEnums = true)
    (lost : a'.ownProperties.map Property.unordered ⊆ a.ownProperties.map Property.unordered) :
    mode.inherits a p = true := by
  have origin : ∀ q' ∈ a'.ownProperties, ∃ q ∈ a.ownProperties, q.unordered = q'.unordered :=
    fun q' mem => List.mem_map.1 (lost (List.mem_map_of_mem mem))
  have single (b : Model) : mode.inherits b p = true ↔ mode.Leaves [b] p := by
    rw [leaves_iff, List.any_cons, List.any_nil, Bool.or_false]
  rw [single] at h ⊢
  cases mode with
  | none => exact h
  | properties =>
    obtain ⟨_, mem, q', memOwn, name⟩ := h
    obtain rfl := List.mem_singleton.1 mem
    obtain ⟨q, there, same⟩ := origin q' memOwn
    have sameName : q.unordered.baseName = q'.unordered.baseName :=
      congrArg Property.baseName same
    exact ⟨a, List.mem_singleton_self a, q, there, sameName.trans name⟩
  | inlineEnums =>
    obtain ⟨enum, _, mem, -, q', memOwn, enum', equal⟩ := h
    obtain rfl := List.mem_singleton.1 mem
    obtain ⟨q, there, same⟩ := origin q' memOwn
    have sameEnum : q.unordered.isEnum = q'.unordered.isEnum := congrArg Property.isEnum same
    have isEnum : q.isEnum = true := sameEnum.trans enum'
    exact ⟨enum, a, List.mem_singleton_self a, enums q there isEnum, q, there, isEnum,
      same.trans equal⟩

end ReconcileMode

/-! ## All ancestors at once -/

namespace Model

variable {mode : ReconcileMode} {models : Dict Model} {child : Model}

/-- A model that sees its ancestors.  If there are any, its own properties are its variables unless
it has some already, and the variables of the nearest one are those of its parent. -/
def seeing (child : Model) : List Model → Model
  | [] => child
  | parent :: _ =>
    { child with
      allVars := if child.allVars.isEmpty then child.ownProperties else child.allVars
      parentVars := parent.allVars }

theorem reconcile_of_parent {parent : Model} (named : child.parentName = some parent.name) :
    child.reconcile mode parent = (child.seeing [parent]).without (mode.inherits parent) := by
  rw [reconcile_eq_without, if_pos named]
  rfl

/-- An ancestor that is not the parent has properties taken away and leaves all else. -/
theorem reconcile_of_other {ancestor : Model}
    (complete : child.allVars = [] → child.ownProperties = [])
    (other : child.parentName ≠ some ancestor.name) :
    child.reconcile mode ancestor = child.without (mode.inherits ancestor) := by
  rw [reconcile_eq_without, if_neg other, ite_allVars_of_complete complete]

theorem complete_without (complete : child.allVars = [] → child.ownProperties = [])
    (gone : Property → Bool) :
    (child.without gone).allVars = [] → (child.without gone).ownProperties = [] := by
  intro none
  rw [allVars_without] at none
  have kept := map_unordered_without (m := child) gone
  rwa [complete none, List.filter_nil, List.map_nil, List.map_eq_nil_iff] at kept

theorem without_inherits_without_any (gone : Property → Bool) (along : List Model) :
    ((child.without gone).without fun p => along.any fun a => mode.inherits a p) =
      child.without fun p => gone p || along.any fun a => mode.inherits a p :=
  without_without (by simp)

theorem foldl_reconcile_of_others {along : List Model} {child : Model}
    (complete : child.allVars = [] → child.ownProperties = [])
    (others : ∀ a ∈ along, child.parentName ≠ some a.name) :
    along.foldl (reconcile mode) child =
      child.without fun p => along.any fun a => mode.inherits a p := by
  induction along generalizing child with
  | nil => exact (without_eq_self fun _ _ => rfl).symm
  | cons ancestor rest ih =>
    obtain ⟨other, others⟩ := List.forall_mem_cons.1 others
    rw [List.foldl_cons, reconcile_of_other complete other,
      ih (complete_without complete _) (by simpa using others), without_inherits_without_any]
    rfl

/-- The nearest ancestor is the parent, and no further one has its name. -/
theorem parent_of_ancestors (keyed : ∀ name a, models.get? name = some a → a.name = name)
    {parent : Model} {rest : List Model} (h : child.ancestors models = parent :: rest) :
    child.parentName = some parent.name ∧ ∀ a ∈ rest, child.parentName ≠ some a.name := by
  have walk := parentWalk_iff.2 h.symm
  generalize child.parentName = next at walk
  cases walk with
  | step new found walk =>
    refine ⟨by rw [keyed _ _ found], fun a mem same => ?_⟩
    rw [parentWalk_iff.1 walk] at mem
    obtain ⟨name, new', found'⟩ := exists_get?_of_mem_ancestorsAlong mem
    rw [Option.some.injEq, keyed name a found'] at same
    exact new' (same ▸ List.mem_cons_self)

theorem reconcileHierarchy_eq (keyed : ∀ name a, models.get? name = some a → a.name = name)
    (child : Model) : child.reconcileHierarchy mode models =
      (child.seeing (child.ancestors models)).without fun p =>
        (child.ancestors models).any fun a => mode.inherits a p := by
  rw [reconcileHierarchy_eq_foldl]
  cases h : child.ancestors models with
  | nil => exact (without_eq_self fun _ _ => rfl).symm
  | cons parent rest =>
    obtain ⟨named, others⟩ := parent_of_ancestors keyed h
    have complete : (child.seeing [parent]).allVars = [] →
        (child.seeing [parent]).ownProperties = [] := by
      intro none
      change (if child.allVars.isEmpty then child.ownProperties else child.allVars) = [] at none
      split at none
      · exact none
      · next some => exact absurd none (by simpa using some)
    have parentName : (child.seeing [parent]).parentName = child.parentName := rfl
    rw [List.foldl_cons, reconcile_of_parent named,
      foldl_reconcile_of_others (complete_without complete _) (by simpa [parentName] using others),
      without_inherits_without_any]
    rfl

theorem parentVars_reconcileHierarchy_eq
    (keyed : ∀ name a, models.get? name = some a → a.name = name) (child : Model) :
    (child.reconcileHierarchy mode models).parentVars =
      (child.seeing (child.ancestors models)).parentVars := by
  rw [reconcileHierarchy_eq keyed, parentVars_without]

/-- A reconciled model has a copy of its parent's variables, as they were built. -/
theorem parentVars_reconcileHierarchy
    (keyed : ∀ name a, models.get? name = some a → a.name = name) {parent : Model}
    (named : child.parentName = some parent.name) (other : parent.name ≠ child.name)
    (found : models.get? parent.name = some parent) :
    (child.reconcileHierarchy mode models).parentVars = parent.allVars := by
  have new : parent.name ∉ [child.name] := by simpa using other
  rw [parentVars_reconcileHierarchy_eq keyed, ancestors, named, ancestorsAlong_of_get? new found,
    seeing]

/-- The variables of the parent are those of another model, or what they were. -/
theorem parentVars_reconcileHierarchy_cases (mode : ReconcileMode) (models : List Model)
    (child : Model) :
    (child.reconcileHierarchy mode (byName models)).parentVars = child.parentVars ∨
      ∃ parent ∈ models,
        (child.reconcileHierarchy mode (byName models)).parentVars = parent.allVars := by
  rw [parentVars_reconcileHierarchy_eq fun _ _ => name_of_get?_byName]
  cases h : child.ancestors (byName models) with
  | nil => exact .inl rfl
  | cons parent rest =>
    have memAlong : parent ∈ child.ancestors (byName models) := by
      rw [h]
      exact List.mem_cons_self
    exact .inr ⟨parent, mem_of_mem_ancestors memAlong, rfl⟩

/-- Let the models of a dictionary stand under their own names.  A model meets one list of
ancestors.  To reconcile it is to let it see these, and to take away, at once, the properties that
are left to one of them: what follows from the own properties is told anew if any are taken, and all
else stays as it is. -/
theorem reconcileHierarchy_eq_without
    (keyed : ∀ name a, models.get? name = some a → a.name = name) (mode : ReconcileMode)
    (child : Model) : ∃ met, ParentWalk models [child.name] child.parentName met ∧
      (∀ met', ParentWalk models [child.name] child.parentName met' → met' = met) ∧
      child.reconcileHierarchy mode models =
        (child.seeing met).without fun p => decide (mode.Leaves met p) := by
  refine ⟨child.ancestors models, parentWalk_iff.2 rfl, fun _ => parentWalk_iff.1, ?_⟩
  rw [reconcileHierarchy_eq keyed]
  congr 1
  funext p
  rw [Bool.eq_iff_iff, decide_eq_true_iff, ReconcileMode.leaves_iff]

/-- A model with properties of given names. -/
def ofKeys (name : String) (parentName : Option String) (keys : List String) : Model :=
  let properties : List Property := keys.map fun key => { baseName := key, name := key }
  refreshed {
    name, className := name, parentName, ownProperties := properties, allVars := properties }

/-- A dog, which is a pet, which is an animal, which in turn is said to be a dog. -/
def animals : List Model :=
  [ofKeys "Dog" (some "Pet") ["legs", "name", "bark"], ofKeys "Pet" (some "Animal") ["legs", "name"],
    ofKeys "Animal" (some "Dog") ["legs"]]

theorem reconcileHierarchy_eq_without_dog :
    let dog := ofKeys "Dog" (some "Pet") ["legs", "name", "bark"]
    let pet := ofKeys "Pet" (some "Animal") ["legs", "name"]
    let animal := ofKeys "Animal" (some "Dog") ["legs"]
    (∀ name a, (byName animals).get? name = some a → a.name = name) ∧
      ParentWalk (byName animals) ["Dog"] (some "Pet") [pet, animal] ∧
      dog.reconcileHierarchy .properties (byName animals) =
        { ofKeys "Dog" (some "Pet") ["bark"] with
          allVars := dog.allVars
          parentVars := pet.allVars } := by
  intro dog pet animal
  have keyed : ∀ name a, (byName animals).get? name = some a → a.name = name :=
    fun _ _ => name_of_get?_byName
  have walk : ParentWalk (byName animals) ["Dog"] (some "Pet") [pet, animal] :=
    .step (by decide) rfl (.step (by decide) rfl (.again (by decide)))
  obtain ⟨met, -, single, reconciled⟩ := reconcileHierarchy_eq_without keyed .properties dog
  obtain rfl := single _ walk
  exact ⟨keyed, walk, reconciled.trans rfl⟩

/-! ## A second reconciliation -/

/-- There is nothing left to do for a model: its ancestors show it what it has seen, and take none
of its own properties. -/
structure Settled (mode : ReconcileMode) (models : Dict Model) (m : Model) : Prop where
  seen : m.seeing (m.ancestors models) = m
  own : ∀ a ∈ m.ancestors models, ∀ p ∈ m.ownProperties, mode.inherits a p = false

theorem Settled.reconcileHierarchy_eq_self {m : Model} (h : m.Settled mode models)
    (keyed : ∀ name a, models.get? name = some a → a.name = name) :
    m.reconcileHierarchy mode models = m := by
  rw [reconcileHierarchy_eq keyed, h.seen]
  refine without_eq_self fun p mem => List.any_eq_false.2 fun a memAlong => ?_
  rw [h.own a memAlong p mem]
  exact Bool.false_ne_true

/-- The own properties that are left are some of those that were there. -/
theorem map_unordered_reconcileHierarchy_subset (models : Dict Model) (m : Model) :
    (m.reconcileHierarchy mode models).ownProperties.map Property.unordered ⊆
      m.ownProperties.map Property.unordered := by
  rw [reconcileHierarchy_eq_foldl, map_unordered_foldl_reconcile]
  exact List.filter_subset_self _

/-- What is left is left to no ancestor as it was built. -/
theorem inherits_eq_false_of_mem {m a : Model} {p : Property}
    (mem : p ∈ (m.reconcileHierarchy mode models).ownProperties)
    (memAlong : a ∈ m.ancestors models) : mode.inherits a p = false := by
  have kept := List.mem_map_of_mem (f := Property.unordered) mem
  rw [reconcileHierarchy_eq_foldl, map_unordered_foldl_reconcile] at kept
  have none := List.all_eq_true.1 (List.mem_filter.1 kept).2 a memAlong
  simpa using none

theorem ancestors_map {f : Model → Model} (name : ∀ m, (f m).name = m.name)
    (parentName : ∀ m, (f m).parentName = m.parentName) (models : List Model) (m : Model) :
    (f m).ancestors (byName (models.map f)) = (m.ancestors (byName models)).map f := by
  unfold ancestors
  rw [byName_map name, ancestorsAlong_map parentName, name, parentName]

theorem settled_reconcileHierarchy {models : List Model}
    (among : ∀ m ∈ models, m.OwnAmongAll) (fresh : ∀ m ∈ models, m.Fresh) {m : Model}
    (mem : m ∈ models) : (m.reconcileHierarchy mode (byName models)).Settled mode
      (byName (models.map (reconcileHierarchy mode (byName models)))) := by
  have keyed : ∀ name a, (byName models).get? name = some a → a.name = name :=
    fun _ _ => name_of_get?_byName
  have along : (m.reconcileHierarchy mode (byName models)).ancestors
      (byName (models.map (reconcileHierarchy mode (byName models)))) =
        (m.ancestors (byName models)).map (reconcileHierarchy mode (byName models)) :=
    ancestors_map (name_reconcileHierarchy _) (parentName_reconcileHierarchy _) models m
  have vars : ∀ a ∈ models, (a.reconcileHierarchy mode (byName models)).allVars = a.allVars :=
    fun a memModels => (among a memModels).allVars_reconcileHierarchy mode _
  constructor
  · rw [along]
    cases h : m.ancestors (byName models) with
    | nil => rfl
    | cons parent rest =>
      have memAlong : parent ∈ m.ancestors (byName models) := by
        rw [h]
        exact List.mem_cons_self
      have memParent : parent ∈ models := mem_of_mem_ancestors memAlong
      have parentVars : (m.reconcileHierarchy mode (byName models)).parentVars =
          parent.allVars := by
        rw [parentVars_reconcileHierarchy_eq keyed, h, seeing]
      have complete := ((among m mem).reconcileHierarchy mode (byName models)).ownProperties_eq_nil
      rw [List.map_cons, seeing, ite_allVars_of_complete complete, vars parent memParent,
        ← parentVars]
  · rw [along]
    intro a' memReconciled p memOwn
    obtain ⟨a, memAlong, rfl⟩ := List.mem_map.1 memReconciled
    have left := inherits_eq_false_of_mem memOwn memAlong
    -- The ancestor has fewer properties by now, and would have taken this one before.
    refine Bool.eq_false_iff.2 fun taken => ?_
    have before := ReconcileMode.inherits_of_lost taken
      (fun q there enum => (fresh a (mem_of_mem_ancestors memAlong)).hasEnums.2 ⟨q, there, enum⟩)
      (map_unordered_reconcileHierarchy_subset (byName models) a)
    rw [left] at before
    cases before

end Model

/-- Let models be fresh, and let the own properties of each be all its variables, in everything but
flags for positions; parents may be missing, or go round in a circle.  Then to reconcile the models
again changes nothing. -/
theorem reconcileModels_reconcileModels (mode : ReconcileMode) {models : List Model}
    (complete : ∀ m ∈ models,
      m.allVars.map Property.unordered = m.ownProperties.map Property.unordered)
    (fresh : ∀ m ∈ models, m.Fresh) :
    reconcileModels mode (reconcileModels mode models) = reconcileModels mode models := by
  have among : ∀ m ∈ models, m.OwnAmongAll := by
    intro m mem
    unfold Model.OwnAmongAll
    rw [complete m mem]
  rw [reconcileModels_eq_map mode models, reconcileModels_eq_map, List.map_map]
  refine List.map_congr_left fun m mem => ?_
  exact (Model.settled_reconcileHierarchy among fresh mem).reconcileHierarchy_eq_self
    fun _ _ => name_of_get?_byName

theorem reconcileModels_reconcileModels_animals :
    (∀ m ∈ Model.animals,
      m.allVars.map Property.unordered = m.ownProperties.map Property.unordered) ∧
    (∀ m ∈ Model.animals, m.Fresh) ∧
    reconcileModels .properties (reconcileModels .properties Model.animals) =
      reconcileModels .properties Model.animals := by
  have complete : ∀ m ∈ Model.animals,
      m.allVars.map Property.unordered = m.ownProperties.map Property.unordered := by
    decide
  have fresh : ∀ m ∈ Model.animals, m.Fresh := by
    simp only [Model.fresh_iff]
    decide
  exact ⟨complete, fresh, reconcileModels_reconcileModels .properties complete fresh⟩

end OpenApiGen
