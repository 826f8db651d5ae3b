import OpenApiGen.Model.Reconcile
import OpenApiGen.Proofs.Dict
import OpenApiGen.Proofs.Model.Ordering

/-!
# Reconciliation as a fold over ancestors

The walk from a model over the names of parents meets a list of ancestors (`Model.ancestorsAlong`).
Reconciling the model along the walk is reconciling it against each of them in turn
(`reconcileAlong_eq_foldl`).  In every mode, and up to the flags for positions, what is left of its
own properties are those that no ancestor takes (`map_unordered_foldl_reconcile`); its name and its
parent stay, and so do its variables.  What follows from the own properties goes with them
(`Model.Fresh.reconcileHierarchy`).
-/

namespace OpenApiGen

/-! ## One ancestor -/

/-- Whether an ancestor takes a property does not depend on its position. -/
@[simp] theorem ReconcileMode.inherits_unordered (mode : ReconcileMode) (a : Model) (p : Property) :
    mode.inherits a p.unordered = mode.inherits a p := by
  cases mode <;> rfl

namespace Model

variable {mode : ReconcileMode}

/-- To reconcile with an ancestor is to see the variables of both, and then to lose the properties
that the ancestor takes. -/
theorem reconcile_eq_without (child ancestor : Model) : child.reconcile mode ancestor =
    { child with
      allVars := if child.allVars.isEmpty then child.ownProperties else child.allVars
      parentVars := if child.parentName = some ancestor.name then ancestor.allVars
        else child.parentVars }.without (mode.inherits ancestor) := by
  have shorter : (child.ownProperties.filter fun p => !mode.inherits ancestor p).length <
      child.ownProperties.length ↔ child.ownProperties.any (mode.inherits ancestor) = true := by
    rw [List.length_filter_lt_length_iff_exists, List.any_eq_true]
    simp
  unfold reconcile without
  dsimp only
  by_cases some : child.ownProperties.any (mode.inherits ancestor) = true
  · rw [if_pos (shorter.2 some), if_pos some]
  · rw [if_neg fun h => some (shorter.1 h), if_neg some]

@[simp] theorem name_reconcile (child ancestor : Model) :
    (child.reconcile mode ancestor).name = child.name := by
  simp [reconcile_eq_without]

@[simp] theorem className_reconcile (child ancestor : Model) :
    (child.reconcile mode ancestor).className = child.className := by
  simp [reconcile_eq_without]

@[simp] theorem parentName_reconcile (child ancestor : Model) :
    (child.reconcile mode ancestor).parentName = child.parentName := by
  simp [reconcile_eq_without]

theorem ite_allVars_of_complete {child : Model}
    (complete : child.allVars = [] → child.ownProperties = []) :
    (if child.allVars.isEmpty then child.ownProperties else child.allVars) = child.allVars := by
  by_cases none : child.allVars = []
  · rw [if_pos (by simp [none]), complete none, none]
  · rw [if_neg (by simpa using none)]

theorem allVars_reconcile {child : Model}
    (complete : child.allVars = [] → child.ownProperties = []) (ancestor : Model) :
    (child.reconcile mode ancestor).allVars = child.allVars := by
  rw [reconcile_eq_without, allVars_without, ite_allVars_of_complete complete]

@[simp] theorem map_unordered_reconcile (child ancestor : Model) :
    (child.reconcile mode ancestor).ownProperties.map Property.unordered =
      (child.ownProperties.map Property.unordered).filter fun p => !mode.inherits ancestor p := by
  have positions : ∀ p, (!mode.inherits ancestor p.unordered) = !mode.inherits ancestor p := by
    simp
  rw [reconcile_eq_without, map_unordered_without, map_unordered_filter positions]

/-! ## All ancestors -/

/-- The ancestors that the walk from `next` on meets, nearest first. -/
def ancestorsAlong (models : Dict Model) (visited : List String) (next : Option String) :
    List Model :=
  match next with
  | none => []
  | some name =>
    if _new : name ∈ visited then []
    else
      match _found : models.get? name with
      | none => []
      | some ancestor => ancestor :: ancestorsAlong models (name :: visited) ancestor.parentName
termination_by models.countOutside visited
decreasing_by exact Dict.countOutside_cons_lt _found _new

/-- The ancestors of a model. -/
def ancestors (models : Dict Model) (child : Model) : List Model :=
  ancestorsAlong models [child.name] child.parentName

theorem ancestorsAlong_of_none {models : Dict Model} {visited : List String} {name : String}
    (missing : models.get? name = none) : ancestorsAlong models visited (some name) = [] := by
  rw [ancestorsAlong]
  split
  · rfl
  · split
    · rfl
    · next found =>
      rw [missing] at found
      cases found

theorem ancestorsAlong_of_get? {models : Dict Model} {visited : List String} {name : String}
    {ancestor : Model} (new : name ∉ visited) (found : models.get? name = some ancestor) :
    ancestorsAlong models visited (some name) =
      ancestor :: ancestorsAlong models (name :: visited) ancestor.parentName := by
  rw [ancestorsAlong, dif_neg new]
  split
  · next missing =>
    rw [found] at missing
    cases missing
  · next other found' =>
    rw [found] at found'
    cases found'
    rfl

/-- The walk over parents meets the same models after a change that keeps their parents. -/
theorem ancestorsAlong_map {f : Model → Model} (parentName : ∀ m, (f m).parentName = m.parentName)
    (models : Dict Model) (visited : List String) (next : Option String) :
    ancestorsAlong (models.map fun e => (e.1, f e.2)) visited next =
      (ancestorsAlong models visited next).map f := by
  induction visited, next using ancestorsAlong.induct models with
  | case1 visited => rw [ancestorsAlong, ancestorsAlong, List.map_nil]
  | case2 visited name seen =>
    rw [ancestorsAlong, ancestorsAlong, dif_pos seen, dif_pos seen, List.map_nil]
  | case3 visited name new missing =>
    rw [ancestorsAlong_of_none missing, ancestorsAlong_of_none, List.map_nil]
    simp [missing]
  | case4 visited name new ancestor found ih =>
    have found' : Dict.get? (models.map fun e => (e.1, f e.2)) name = some (f ancestor) := by
      simp [found]
    rw [ancestorsAlong_of_get? new found, ancestorsAlong_of_get? new found', List.map_cons, ← ih,
      parentName]

theorem reconcileAlong_eq_foldl (models : Dict Model) (visited : List String)
    (next : Option String) (child : Model) : child.reconcileAlong mode models visited next =
      (ancestorsAlong models visited next).foldl (reconcile mode) child := by
  induction visited, next, child using reconcileAlong.induct mode models with
  | case1 visited child => rw [reconcileAlong, ancestorsAlong, List.foldl_nil]
  | case2 visited child name seen =>
    rw [reconcileAlong, ancestorsAlong, dif_pos seen, dif_pos seen, List.foldl_nil]
  | case3 visited child name new missing =>
    rw [ancestorsAlong_of_none missing, List.foldl_nil, reconcileAlong, dif_neg new]
    split
    · rfl
    · next found =>
      rw [missing] at found
      cases found
  | case4 visited child name new ancestor found ih =>
    rw [ancestorsAlong_of_get? new found, List.foldl_cons, ← ih, reconcileAlong, dif_neg new]
    split
    · next missing =>
      rw [found] at missing
      cases missing
    · next other found' =>
      rw [found] at found'
      cases found'
      rfl

theorem reconcileHierarchy_eq_foldl (models : Dict Model) (child : Model) :
    child.reconcileHierarchy mode models =
      (child.ancestors models).foldl (reconcile mode) child :=
  reconcileAlong_eq_foldl models _ _ child

theorem reconcileHierarchy_of_root {models : Dict Model} {child : Model}
    (root : child.parentName = none) : child.reconcileHierarchy mode models = child := by
  unfold reconcileHierarchy
  rw [root, reconcileAlong]

/-- What holds of a model and is kept by every single ancestor is kept by the hierarchy. -/
theorem reconcileHierarchy_invariant {P : Model → Prop}
    (step : ∀ child ancestor, P child → P (reconcile mode child ancestor)) (models : Dict Model)
    {child : Model} (h : P child) : P (child.reconcileHierarchy mode models) := by
  rw [reconcileHierarchy_eq_foldl]
  generalize child.ancestors models = along
  induction along generalizing child with
  | nil => exact h
  | cons ancestor rest ih => exact ih (step child ancestor h)

/-- What no single ancestor changes, the hierarchy does not change. -/
theorem reconcileHierarchy_keeps {α : Type} {view : Model → α}
    (keeps : ∀ child ancestor, view (reconcile mode child ancestor) = view child)
    (models : Dict Model) (child : Model) :
    view (child.reconcileHierarchy mode models) = view child := by
  have step : ∀ m ancestor, view m = view child →
      view (reconcile mode m ancestor) = view child :=
    fun m ancestor same => (keeps m ancestor).trans same
  exact reconcileHierarchy_invariant step models rfl

theorem Fresh.reconcile {child : Model} (h : child.Fresh) (mode : ReconcileMode)
    (ancestor : Model) : (child.reconcile mode ancestor).Fresh := by
  rw [reconcile_eq_without]
  refine Fresh.without ?_ _
  exact ⟨h.separated, h.requiredSeparated, h.hasEnums, h.requiredVars⟩

theorem Fresh.reconcileHierarchy {child : Model} (h : child.Fresh) (mode : ReconcileMode)
    (models : Dict Model) : (child.reconcileHierarchy mode models).Fresh :=
  reconcileHierarchy_invariant (fun _ ancestor h => h.reconcile mode ancestor) models h

@[simp] theorem name_reconcileHierarchy (models : Dict Model) (child : Model) :
    (child.reconcileHierarchy mode models).name = child.name :=
  reconcileHierarchy_keeps name_reconcile models child

@[simp] theorem className_reconcileHierarchy (models : Dict Model) (child : Model) :
    (child.reconcileHierarchy mode models).className = child.className :=
  reconcileHierarchy_keeps className_reconcile models child

@[simp] theorem parentName_reconcileHierarchy (models : Dict Model) (child : Model) :
    (child.reconcileHierarchy mode models).parentName = child.parentName :=
  reconcileHierarchy_keeps parentName_reconcile models child

@[simp] theorem map_unordered_foldl_reconcile (along : List Model) (child : Model) :
    (along.foldl (reconcile mode) child).ownProperties.map Property.unordered =
      (child.ownProperties.map Property.unordered).filter fun p =>
        along.all fun ancestor => !mode.inherits ancestor p := by
  induction along generalizing child with
  | nil => exact (List.filter_eq_self.2 fun _ _ => rfl).symm
  | cons ancestor rest ih =>
    rw [List.foldl_cons, ih, map_unordered_reconcile, List.filter_filter]
    exact List.filter_congr fun p _ => by rw [List.all_cons, Bool.and_comm]

/-- By name, a property is left to an ancestor that has one of the same name. -/
theorem baseNames_foldl_reconcile (along : List Model) (child : Model) :
    baseNames (along.foldl (reconcile .properties) child).ownProperties =
      (baseNames child.ownProperties).filter fun key =>
        along.all fun ancestor => !(baseNames ancestor.ownProperties).contains key := by
  have byName (ancestor : Model) (p : Property) :
      ReconcileMode.properties.inherits ancestor p =
        (baseNames ancestor.ownProperties).contains p.baseName := by
    show (ancestor.ownProperties.any fun q => q.baseName = p.baseName) = _
    rw [List.contains_eq_any_beq, List.any_map]
    congr 1
    funext q
    rw [Function.comp_apply, BEq.comm]
    rfl
  have left := map_eq_map_unordered (f := Property.baseName) (fun _ => rfl)
    (along.foldl (reconcile .properties) child).ownProperties
  have own := map_eq_map_unordered (f := Property.baseName) (fun _ => rfl) child.ownProperties
  rw [baseNames, left, map_unordered_foldl_reconcile, baseNames, own]
  simp only [byName]
  symm
  rw [List.filter_map]
  rfl

theorem allVars_foldl_reconcile {child : Model} (h : child.allVars = [] → child.ownProperties = [])
    (along : List Model) : (along.foldl (reconcile mode) child).allVars = child.allVars := by
  induction along generalizing child with
  | nil => rfl
  | cons ancestor rest ih =>
    rw [List.foldl_cons, ih, allVars_reconcile h]
    rw [allVars_reconcile h]
    intro hvars
    refine List.map_eq_nil_iff.1 ((map_unordered_reconcile child ancestor).trans ?_)
    rw [h hvars, List.map_nil, List.filter_nil]

end Model

/-! ## All models -/

/-- Models by name, as the walk over parents looks them up. -/
def byName (models : List Model) : Dict Model :=
  Dict.ofEntries (models.map fun m => (m.name, m))

theorem byName_of_nodup {models : List Model} (distinct : (models.map Model.name).Nodup) :
    byName models = models.map fun m => (m.name, m) := by
  apply Dict.ofEntries_of_nodup
  rw [List.map_map]
  exact distinct

theorem keys_byName {models : List Model} (distinct : (models.map Model.name).Nodup) :
    (byName models).keys = models.map Model.name := by
  rw [byName_of_nodup distinct, Dict.keys, List.map_map]
  rfl

theorem get?_byName_of_mem {models : List Model} (distinct : (models.map Model.name).Nodup)
    {m : Model} (mem : m ∈ models) : (byName models).get? m.name = some m := by
  apply Dict.get?_of_mem ((keys_byName distinct).symm ▸ distinct)
  rw [byName_of_nodup distinct]
  exact List.mem_map_of_mem mem

theorem name_of_get?_byName {models : List Model} {name : String} {m : Model}
    (found : (byName models).get? name = some m) : m.name = name := by
  obtain ⟨m', -, same⟩ := List.mem_map.1 (Dict.mem_of_mem_ofEntries (Dict.mem_of_get? found))
  cases same
  rfl

theorem byName_map {f : Model → Model} (name : ∀ m, (f m).name = m.name) (models : List Model) :
    byName (models.map f) = (byName models).map fun e => (e.1, f e.2) := by
  unfold byName
  rw [← Dict.ofEntries_map_values, List.map_map, List.map_map]
  refine congrArg Dict.ofEntries (List.map_congr_left fun m _ => ?_)
  rw [Function.comp_apply, Function.comp_apply, name]

theorem mem_of_get?_byName {models : List Model} {name : String} {m : Model}
    (found : (byName models).get? name = some m) : m ∈ models := by
  obtain ⟨m', mem, same⟩ := List.mem_map.1 (Dict.mem_of_mem_ofEntries (Dict.mem_of_get? found))
  cases same
  exact mem

theorem reconcileModels_eq_map (mode : ReconcileMode) (models : List Model) :
    reconcileModels mode models = models.map (Model.reconcileHierarchy mode (byName models)) :=
  rfl

end OpenApiGen
