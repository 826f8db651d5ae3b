import OpenApiGen.Proofs.Model.Views
import OpenApiGen.Proofs.Schema.LeadingChar

/-!
# Leading characters in models

The names in a model can be made again from what else it says (`Model.named`): those of properties
from their base names, those of cases from the values of their literals.  A profile that keeps
leading characters builds the same models but for these names (`Resolver.model_keeping`), and
reconciles and marks them in the same way (`reconcileModels_named`).
-/

namespace OpenApiGen

/-! ## Names -/

/-- A case of an enumeration with the name that a profile makes of its literal. -/
def EnumCase.named (p : Profile) (dataType : String) (c : EnumCase) : EnumCase :=
  { c with name := p.toEnumCase (p.literalOf c.value dataType) dataType }

/-- A property with the names that a profile makes of its base name and its literals. -/
def Property.named (p : Profile) (q : Property) : Property :=
  { q with
    name := p.toIdentifier q.baseName
    enumName := q.enumName.map fun _ => p.toEnumName (p.toIdentifier q.baseName)
    enumValues := q.enumValues.map (EnumCase.named p q.dataType) }

/-- A model with the names that a profile makes. -/
def Model.named (p : Profile) (m : Model) : Model :=
  { m with
    enumValues := m.enumValues.map (EnumCase.named p (m.dataType.getD ""))
    ownProperties := m.ownProperties.map (Property.named p)
    allVars := m.allVars.map (Property.named p)
    parentVars := m.parentVars.map (Property.named p) }

/-! ## Names without a sign -/

/-- The literal of a case starts with no sign that can be kept, if its name is an identifier. -/
def EnumCase.Plain (p : Profile) (dataType : String) (c : EnumCase) : Prop :=
  p.rules.enumCase = .identifier → startsWithSign (p.literalOf c.value dataType) = false

/-- Nothing that the names of a property are made of starts with a sign that can be kept. -/
structure Property.Plain (p : Profile) (q : Property) : Prop where
  name : startsWithSign q.baseName = false
  enumName : p.rules.enumType = .modelName → q.enumName ≠ none →
    startsWithSign (p.toIdentifier q.baseName) = false
  values : ∀ c ∈ q.enumValues, c.Plain p q.dataType

/-- Nothing that the names in a model are made of starts with a sign that can be kept. -/
structure Model.Plain (p : Profile) (m : Model) : Prop where
  values : ∀ c ∈ m.enumValues, c.Plain p (m.dataType.getD "")
  own : ∀ q ∈ m.ownProperties, q.Plain p
  vars : ∀ q ∈ m.allVars, q.Plain p
  parentVars : ∀ q ∈ m.parentVars, q.Plain p

section

variable {p : Profile}

theorem EnumCase.Plain.named_keeping {dataType : String} {c : EnumCase}
    (h : c.Plain (p.keeping false) dataType) :
    c.named (p.keeping true) dataType = c.named (p.keeping false) dataType := by
  have name : (p.keeping true).toEnumCase (p.literalOf c.value dataType) dataType =
      (p.keeping false).toEnumCase (p.literalOf c.value dataType) dataType := by
    by_cases style : p.rules.enumCase = .identifier
    · exact (p.restores_toEnumCase _ dataType).eq_of_plain (h style)
    · rw [Profile.toEnumCase_keeping style, Profile.toEnumCase_keeping style]
  unfold named
  exact congrArg (fun name => { c with name }) name

theorem Property.Plain.named_keeping {q : Property} (h : q.Plain (p.keeping false)) :
    q.named (p.keeping true) = q.named (p.keeping false) := by
  have name := (p.restores_toIdentifier q.baseName).eq_of_plain h.name
  have enumName :
      (q.enumName.map fun _ =>
        (p.keeping true).toEnumName ((p.keeping true).toIdentifier q.baseName)) =
      q.enumName.map fun _ =>
        (p.keeping false).toEnumName ((p.keeping false).toIdentifier q.baseName) := by
    refine Option.map_congr fun _ given => ?_
    have declared : q.enumName ≠ none := by
      rw [given]
      exact Option.some_ne_none _
    rw [name]
    exact Profile.toEnumName_keeping fun style => h.enumName style declared
  have values : q.enumValues.map (EnumCase.named (p.keeping true) q.dataType) =
      q.enumValues.map (EnumCase.named (p.keeping false) q.dataType) :=
    List.map_congr_left fun c mem => (h.values c mem).named_keeping
  unfold named
  rw [enumName, name, values]

theorem Model.Plain.named_keeping {m : Model} (h : m.Plain (p.keeping false)) :
    m.named (p.keeping true) = m.named (p.keeping false) := by
  have vars {qs : List Property} (plain : ∀ q ∈ qs, q.Plain (p.keeping false)) :
      qs.map (Property.named (p.keeping true)) = qs.map (Property.named (p.keeping false)) :=
    List.map_congr_left fun q mem => (plain q mem).named_keeping
  have values : m.enumValues.map (EnumCase.named (p.keeping true) (m.dataType.getD "")) =
      m.enumValues.map (EnumCase.named (p.keeping false) (m.dataType.getD "")) :=
    List.map_congr_left fun c mem => (h.values c mem).named_keeping
  unfold named
  rw [values, vars h.own, vars h.vars, vars h.parentVars]

end

/-! ## Properties as they are built -/

namespace Resolver

variable {r : Resolver} {keep : Bool}

theorem enumCases_keeping (quoted : r.profile.rules.enumValueQuote ≠ some '\\')
    (literals : List String) (dataType : String) :
    (r.keeping keep).enumCases literals dataType =
      (r.enumCases literals dataType).map (EnumCase.named (r.profile.keeping keep) dataType) := by
  unfold enumCases
  rw [List.map_map]
  refine List.map_congr_left fun literal _ => ?_
  have read : (r.profile.keeping keep).literalOf (r.profile.toEnumValue literal dataType) dataType =
      literal := Profile.literalOf_toEnumValue quoted literal dataType
  rw [Function.comp_apply, EnumCase.named, read]
  rfl

theorem property_keeping (quoted : r.profile.rules.enumValueQuote ≠ some '\\') (key : String)
    (node : Node) (required : Bool) : (r.keeping keep).property key node required =
      Property.named (r.profile.keeping keep) <$> r.property key node required := by
  simp only [property, declare_keeping, baseType_keeping, containerOf_keeping, map_bind]
  refine bind_congr fun dataType => bind_congr fun baseType => bind_congr fun container => ?_
  cases node with
  | enum base literals default_ =>
    have first (cases : List EnumCase) :
        (cases.map (EnumCase.named (r.profile.keeping keep) dataType)).head?.map EnumCase.value =
          cases.head?.map EnumCase.value := by
      rw [List.head?_map, Option.map_map]
      rfl
    dsimp only
    rw [enumCases_keeping quoted, first]
    rfl
  | _ => rfl

/-- The names of a property are those that the profile makes. -/
theorem named_property (quoted : r.profile.rules.enumValueQuote ≠ some '\\') {key : String}
    {node : Node} {required : Bool} {p : Property} (h : r.property key node required = .ok p) :
    p.named r.profile = p := by
  let keep := r.profile.rules.preserveLeadingChar
  have same : (r.keeping keep).property key node required =
      Property.named (r.profile.keeping keep) <$> r.property key node required :=
    property_keeping quoted key node required
  change r.property key node required = Property.named r.profile <$> _ at same
  rw [h] at same
  exact (Except.ok.inj same).symm

theorem properties_keeping (quoted : r.profile.rules.enumValueQuote ≠ some '\\')
    (entries : List (String × Node)) (required : List String) :
    (r.keeping keep).properties entries required =
      List.map (Property.named (r.profile.keeping keep)) <$> r.properties entries required := by
  refine mapM_eq_map (fun e => ?_) entries
  exact property_keeping quoted e.1 e.2 (required.contains e.1)

/-! ## Models as they are built -/

/-- Flattening takes over the same properties.  The induction follows its calls. -/
theorem contributed_keeping_and (quoted : r.profile.rules.enumValueQuote ≠ some '\\') :
    (∀ visiting node, (r.keeping keep).contributed visiting node =
      List.map (Property.named (r.profile.keeping keep)) <$> r.contributed visiting node) ∧
    (∀ visiting known members, (r.keeping keep).contributedByAll visiting
        (known.map (Property.named (r.profile.keeping keep))) members =
      List.map (Property.named (r.profile.keeping keep)) <$>
        r.contributedByAll visiting known members) := by
  have next (visiting : List String) (known : List Property) (rest : List Node)
      (x : Except RefError (List Property))
      (ih : ∀ inherited, (r.keeping keep).contributedByAll visiting
          ((addMissing known inherited).map (Property.named (r.profile.keeping keep))) rest =
        List.map (Property.named (r.profile.keeping keep)) <$>
          r.contributedByAll visiting (addMissing known inherited) rest) :
      ((List.map (Property.named (r.profile.keeping keep)) <$> x) >>= fun inherited =>
        (r.keeping keep).contributedByAll visiting
          (addMissing (known.map (Property.named (r.profile.keeping keep))) inherited) rest) =
      List.map (Property.named (r.profile.keeping keep)) <$>
        (x >>= fun inherited => r.contributedByAll visiting (addMissing known inherited) rest) := by
    rw [bind_map_left, map_bind]
    refine bind_congr fun inherited => ?_
    rw [addMissing_map (f := Property.named (r.profile.keeping keep)) fun _ => rfl]
    exact ih inherited
  apply contributed.mutual_induct r
    (fun visiting node => (r.keeping keep).contributed visiting node =
      List.map (Property.named (r.profile.keeping keep)) <$> r.contributed visiting node)
    (fun visiting known members => (r.keeping keep).contributedByAll visiting
        (known.map (Property.named (r.profile.keeping keep))) members =
      List.map (Property.named (r.profile.keeping keep)) <$>
        r.contributedByAll visiting known members)
  case case1 =>
    intro visiting entries required description
    rw [contributed, contributed, properties_keeping quoted]
  case case2 =>
    intro visiting members tag ih
    rw [contributed, contributed]
    exact ih
  case case3 =>
    intro visiting node notObject notAllOf
    rw [contributed.eq_3 _ _ _ notObject notAllOf, contributed.eq_3 _ _ _ notObject notAllOf]
    rfl
  case case4 =>
    intro visiting known
    rw [contributedByAll, contributedByAll]
    rfl
  case case5 =>
    intro visiting known name rest seen ih
    rw [contributedByAll, contributedByAll, dif_pos seen, dif_pos seen, ih]
  case case6 =>
    intro visiting known name rest new e missing
    rw [contributedByAll_ref_missing new missing]
    exact contributedByAll_ref_missing new missing
  case case7 =>
    intro visiting known name rest new target found ihTarget ihRest
    have kept : (r.keeping keep).library.find name = .ok target := found
    rw [contributedByAll_ref new found, contributedByAll_ref new kept, ihTarget]
    exact next visiting known rest _ ihRest
  case case8 =>
    intro visiting known member rest notRef ihMember ihRest
    rw [contributedByAll.eq_3 _ _ _ _ _ notRef, contributedByAll.eq_3 _ _ _ _ _ notRef, ihMember]
    exact next visiting known rest _ ihRest

end Resolver

/-- Marking positions does not look at names. -/
@[simp] theorem markOrdering_named (p : Profile) (qs : List Property) :
    markOrdering (qs.map (Property.named p)) = (markOrdering qs).map (Property.named p) := by
  induction qs with
  | nil => rfl
  | cons q rest ih =>
    simp only [List.map_cons, markOrdering, ih, List.isEmpty_map, List.any_map]
    rfl

@[simp] theorem Model.refreshed_named (p : Profile) (m : Model) :
    (m.named p).refreshed = m.refreshed.named p := by
  simp only [refreshed, named, markOrdering_named, List.any_map, List.filter_map, List.map_map]
  rfl

namespace Resolver

variable {r : Resolver} {keep : Bool}

theorem model_keeping (quoted : r.profile.rules.enumValueQuote ≠ some '\\') (name : String)
    (node : Node) : (r.keeping keep).model name node =
      Model.named (r.profile.keeping keep) <$> r.model name node := by
  have built {m m' : Model} (same : m' = m.named (r.profile.keeping keep)) : .ok m'.refreshed =
      Model.named (r.profile.keeping keep) <$> (.ok m.refreshed : Except RefError Model) := by
    rw [same, Model.refreshed_named]
    rfl
  have className : (r.keeping keep).profile.toModelName = r.profile.toModelName := rfl
  have fileName : (r.keeping keep).profile.toModelFile = r.profile.toModelFile := rfl
  cases node with
  | enum base literals default_ =>
    simp only [model, className, fileName, declare_keeping, enumCases_keeping quoted, map_bind]
    refine bind_congr fun dataType => built ?_
    dsimp only [Model.named]
    rfl
  | object entries required description =>
    simp only [model, className, fileName, properties_keeping quoted, bind_map_left, map_bind]
    refine bind_congr fun ps => built ?_
    dsimp only [Model.named]
    rfl
  | composed kind members tag =>
    simp only [model, className, fileName, (contributed_keeping_and quoted).1, bind_map_left,
      map_bind]
    refine bind_congr fun ps => built ?_
    dsimp only [Model.named]
    rfl
  | array items tag | map value tag =>
    simp only [model, className, fileName, declare_keeping, baseType_keeping, map_bind]
    refine bind_congr fun dataType => bind_congr fun itemType => built ?_
    dsimp only [Model.named]
    rfl
  | primitive typeName pattern default_ | ref target =>
    simp only [model, className, fileName, declare_keeping, map_bind]
    refine bind_congr fun dataType => built ?_
    dsimp only [Model.named]
    rfl

theorem models_keeping (quoted : r.profile.rules.enumValueQuote ≠ some '\\') :
    (r.keeping keep).models = List.map (Model.named (r.profile.keeping keep)) <$> r.models := by
  refine mapM_eq_map (fun e => ?_) r.library
  exact model_keeping quoted e.1 e.2

end Resolver

/-! ## Reconciliation -/

/-- The names of a property are those that a profile makes. -/
def Property.NamedBy (p : Profile) (q : Property) : Prop :=
  q.named p = q

namespace Property

variable {p p' : Profile} {q q' : Property}

/-- Names are made anew, whatever they were. -/
@[simp] theorem named_named : (q.named p).named p' = q.named p' := by
  simp only [named, Option.map_map, List.map_map]
  rfl

@[simp] theorem unordered_named : (q.named p).unordered = q.unordered.named p :=
  rfl

theorem NamedBy.of_unordered (h : q.NamedBy p) (same : q'.unordered = q.unordered) :
    q'.NamedBy p := by
  have h' : q'.unordered.named p = q'.unordered := by
    rw [same, ← unordered_named, h]
  calc q'.named p
      = { q'.unordered.named p with
          hasMore := q'.hasMore, hasMoreRequired := q'.hasMoreRequired } := rfl
    _ = q' := by
      rw [h']
      rfl

theorem sameAs_named (h : q.NamedBy p) (h' : q'.NamedBy p) :
    (q.named p').sameAs (q'.named p') = q.sameAs q' := by
  unfold sameAs
  rw [decide_eq_decide, unordered_named, unordered_named]
  constructor
  · intro same
    rw [← h, ← h', unordered_named, unordered_named, ← named_named, same, named_named]
  · intro same
    rw [same]

end Property

/-- An ancestor takes the same properties, if all were made by one profile. -/
theorem inherits_named (mode : ReconcileMode) {p p' : Profile} {ancestor : Model} {q : Property}
    (own : ∀ a ∈ ancestor.ownProperties, a.NamedBy p) (h : q.NamedBy p) :
    mode.inherits (ancestor.named p') (q.named p') = mode.inherits ancestor q := by
  cases mode with
  | none => rfl
  | properties => exact List.any_map
  | inlineEnums =>
    have enums : (ancestor.named p').enumProperties =
        ancestor.enumProperties.map (Property.named p') := by
      unfold Model.enumProperties Model.named
      rw [List.filter_map]
      rfl
    have taken : ((ancestor.named p').enumProperties.any fun a => a.sameAs (q.named p')) =
        ancestor.enumProperties.any fun a => a.sameAs q := by
      rw [enums, List.any_map, Bool.eq_iff_iff, List.any_eq_true, List.any_eq_true]
      refine exists_congr fun a => and_congr_right fun mem => ?_
      rw [Function.comp_apply, Property.sameAs_named (own a (List.mem_of_mem_filter mem)) h]
    unfold ReconcileMode.inherits
    dsimp only
    rw [taken]
    rfl

namespace Model

variable {mode : ReconcileMode} {p p' : Profile}

/-- The names of own properties are those that a profile makes. -/
def OwnNamedBy (p : Profile) (m : Model) : Prop :=
  ∀ q ∈ m.ownProperties, q.NamedBy p

theorem OwnNamedBy.reconcile {child : Model} (h : child.OwnNamedBy p) (mode : ReconcileMode)
    (ancestor : Model) : (child.reconcile mode ancestor).OwnNamedBy p := by
  intro q mem
  have kept := List.mem_map_of_mem (f := Property.unordered) mem
  rw [map_unordered_reconcile] at kept
  obtain ⟨q', memOwn, same⟩ := List.mem_map.1 (List.mem_of_mem_filter kept)
  exact (h q' memOwn).of_unordered same.symm

theorem reconcile_named {child ancestor : Model} (hc : child.OwnNamedBy p)
    (ha : ancestor.OwnNamedBy p) : (child.named p').reconcile mode (ancestor.named p') =
      (child.reconcile mode ancestor).named p' := by
  have kept : ((child.named p').ownProperties.filter fun q =>
        !mode.inherits (ancestor.named p') q) =
      (child.ownProperties.filter fun q => !mode.inherits ancestor q).map (Property.named p') := by
    unfold named
    dsimp only
    rw [List.filter_map]
    refine congrArg _ (List.filter_congr fun q mem => ?_)
    exact congrArg _ (inherits_named mode ha (hc q mem))
  have allVars : (if (child.named p').allVars.isEmpty then (child.named p').ownProperties
        else (child.named p').allVars) =
      (if child.allVars.isEmpty then child.ownProperties else child.allVars).map
        (Property.named p') := by
    unfold named
    dsimp only
    rw [List.isEmpty_map]
    split <;> rfl
  have parentVars : (if (child.named p').parentName = some (ancestor.named p').name then
        (ancestor.named p').allVars else (child.named p').parentVars) =
      (if child.parentName = some ancestor.name then ancestor.allVars
        else child.parentVars).map (Property.named p') := by
    unfold named
    dsimp only
    split <;> rfl
  have own : (child.named p').ownProperties.length = child.ownProperties.length :=
    List.length_map ..
  unfold reconcile
  dsimp only
  rw [kept, allVars, parentVars, List.length_map, own]
  split
  · rw [← refreshed_named]
    rfl
  · rfl

theorem foldl_reconcile_named {along : List Model} {child : Model} (hc : child.OwnNamedBy p)
    (ha : ∀ a ∈ along, a.OwnNamedBy p) :
    (along.map (named p')).foldl (reconcile mode) (child.named p') =
      (along.foldl (reconcile mode) child).named p' := by
  induction along generalizing child with
  | nil => rfl
  | cons ancestor rest ih =>
    obtain ⟨first, rest⟩ := List.forall_mem_cons.1 ha
    rw [List.map_cons, List.foldl_cons, List.foldl_cons, reconcile_named hc first]
    exact ih (hc.reconcile mode ancestor) rest

end Model

/-- Models are reconciled in the same way whatever profile makes their names, if one profile made
those that they have. -/
theorem reconcileModels_named (mode : ReconcileMode) {p p' : Profile} {models : List Model}
    (named : ∀ m ∈ models, m.OwnNamedBy p) :
    reconcileModels mode (models.map (Model.named p')) =
      (reconcileModels mode models).map (Model.named p') := by
  have name (m : Model) : (m.named p').name = m.name := rfl
  have parentName (m : Model) : (m.named p').parentName = m.parentName := rfl
  rw [reconcileModels_eq_map, reconcileModels_eq_map, byName_map name, List.map_map, List.map_map]
  refine List.map_congr_left fun m mem => ?_
  have along : ∀ a ∈ m.ancestors (byName models), a.OwnNamedBy p :=
    fun a memAlong => named a (Model.mem_of_mem_ancestors memAlong)
  rw [Function.comp_apply, Function.comp_apply, Model.reconcileHierarchy_eq_foldl,
    Model.reconcileHierarchy_eq_foldl, ← Model.foldl_reconcile_named (named m mem) along]
  exact congrArg _ (Model.ancestorsAlong_map parentName (byName models) [m.name] m.parentName)

namespace Resolver

variable {r : Resolver} {keep : Bool}

@[simp] theorem markRecursive_keeping (m : Model) :
    (r.keeping keep).markRecursive (m.named (r.profile.keeping keep)) =
      (r.markRecursive m).named (r.profile.keeping keep) := by
  simp only [markRecursive_eq, Model.named, List.map_map]
  rfl

theorem ownNamedBy_of_models (quoted : r.profile.rules.enumValueQuote ≠ some '\\')
    {built : List Model} (h : r.models = .ok built) : ∀ m ∈ built, m.OwnNamedBy r.profile := by
  intro m mem q memOwn
  obtain ⟨name, node, made⟩ := exists_model_of_mem h mem
  obtain ⟨q', memVars, same⟩ :=
    List.mem_map.1 ((Model.ownAmongAll_of_model made).subset (List.mem_map_of_mem memOwn))
  obtain ⟨key, node, required, made⟩ := exists_property_of_mem_allVars made memVars
  exact Property.NamedBy.of_unordered (named_property quoted made) same.symm

end Resolver

end OpenApiGen
