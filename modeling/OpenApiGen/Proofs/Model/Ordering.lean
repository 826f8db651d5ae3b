import OpenApiGen.Proofs.Model.Basic

/-!
# What follows from the own properties of a model

`markOrdering` says of each property what follows it (`getElem?_markOrdering`), and it changes
nothing in a list just when the flags for positions are right (`markOrdering_eq_self_iff`).  A model
is fresh if these flags, its mark for enumerations and its list of required properties agree with its
own properties; so it is one that refreshing leaves as it is (`Model.fresh_iff`).  To take own
properties away in two steps is to take them away at once (`Model.without_without`).
-/

namespace OpenApiGen

/-! ## Flags for positions -/

/-- All properties but the last say that another one follows. -/
def Separated (ps : List Property) : Prop :=
  ∀ (i : Nat) (p : Property), ps[i]? = some p → (p.hasMore = false ↔ i + 1 = ps.length)

/-- A property says that another required one follows if it is required and one does. -/
def RequiredSeparated (ps : List Property) : Prop :=
  ∀ (i : Nat) (p : Property), ps[i]? = some p → (p.hasMoreRequired = true ↔
    p.required = true ∧ ∃ (j : Nat) (q : Property), i < j ∧ ps[j]? = some q ∧ q.required = true)

/-- No property says that another one follows. -/
def Unplaced (ps : List Property) : Prop :=
  ∀ p ∈ ps, p.hasMore = false ∧ p.hasMoreRequired = false

@[simp] theorem length_markOrdering (ps : List Property) :
    (markOrdering ps).length = ps.length := by
  induction ps with
  | nil => rfl
  | cons p rest ih => simp [markOrdering, ih]

theorem getElem?_markOrdering (ps : List Property) (i : Nat) :
    (markOrdering ps)[i]? = ps[i]?.map fun p =>
      { p with
        hasMore := decide (i + 1 < ps.length)
        hasMoreRequired := p.required && (ps.drop (i + 1)).any Property.required } := by
  induction ps generalizing i with
  | nil => rfl
  | cons p rest ih =>
    cases i with
    | zero =>
      have more : (!rest.isEmpty) = decide (0 + 1 < (p :: rest).length) := by
        cases rest <;> simp
      rw [markOrdering, more]
      rfl
    | succ i =>
      have more : decide (i + 1 < rest.length) = decide (i + 1 + 1 < (p :: rest).length) := by
        simp
      rw [markOrdering, List.getElem?_cons_succ, List.getElem?_cons_succ, ih, more]
      rfl

theorem any_drop_iff {ps : List Property} {i : Nat} :
    (ps.drop (i + 1)).any Property.required = true ↔
      ∃ (j : Nat) (q : Property), i < j ∧ ps[j]? = some q ∧ q.required = true := by
  rw [List.any_eq_true]
  constructor
  · rintro ⟨q, mem, required⟩
    obtain ⟨k, found⟩ := List.mem_iff_getElem?.1 mem
    rw [List.getElem?_drop] at found
    exact ⟨i + 1 + k, q, by omega, found, required⟩
  · rintro ⟨j, q, later, found, required⟩
    refine ⟨q, List.mem_iff_getElem?.2 ⟨j - (i + 1), ?_⟩, required⟩
    have position : i + 1 + (j - (i + 1)) = j := by omega
    rw [List.getElem?_drop, position, found]

theorem separated_markOrdering (ps : List Property) : Separated (markOrdering ps) := by
  intro i p found
  rw [getElem?_markOrdering] at found
  obtain ⟨q, there, rfl⟩ := Option.map_eq_some_iff.1 found
  have inside : i < ps.length := (List.getElem?_eq_some_iff.1 there).1
  rw [length_markOrdering, decide_eq_false_iff_not]
  omega

theorem requiredSeparated_markOrdering (ps : List Property) :
    RequiredSeparated (markOrdering ps) := by
  intro i p found
  rw [getElem?_markOrdering] at found
  obtain ⟨q, there, rfl⟩ := Option.map_eq_some_iff.1 found
  dsimp only
  rw [Bool.and_eq_true, any_drop_iff]
  refine and_congr_right fun _ => exists_congr fun j => ?_
  constructor
  · rintro ⟨q', later, found', required⟩
    have marked := getElem?_markOrdering ps j
    rw [found', Option.map_some] at marked
    exact ⟨_, later, marked, required⟩
  · rintro ⟨q', later, found', required⟩
    rw [getElem?_markOrdering] at found'
    obtain ⟨q'', there', rfl⟩ := Option.map_eq_some_iff.1 found'
    exact ⟨q'', later, there', required⟩

/-- There is one way to flag positions. -/
theorem markOrdering_eq_self_iff {ps : List Property} :
    markOrdering ps = ps ↔ Separated ps ∧ RequiredSeparated ps := by
  constructor
  · intro same
    rw [← same]
    exact ⟨separated_markOrdering ps, requiredSeparated_markOrdering ps⟩
  · rintro ⟨separated, required⟩
    refine List.ext_getElem? fun i => ?_
    rw [getElem?_markOrdering]
    cases found : ps[i]? with
    | none => rfl
    | some p =>
      have inside : i < ps.length := (List.getElem?_eq_some_iff.1 found).1
      have hasMore : decide (i + 1 < ps.length) = p.hasMore := by
        have last := separated i p found
        cases more : p.hasMore with
        | false =>
          have : i + 1 = ps.length := last.1 more
          simp [this]
        | true =>
          have : i + 1 ≠ ps.length := fun same => by simp [last.2 same] at more
          simp
          omega
      have hasMoreRequired : (p.required && (ps.drop (i + 1)).any Property.required) =
          p.hasMoreRequired := by
        rw [Bool.eq_iff_iff, Bool.and_eq_true, any_drop_iff]
        exact (required i p found).symm
      rw [Option.map_some, hasMore, hasMoreRequired]

@[simp] theorem markOrdering_map_unordered (ps : List Property) :
    markOrdering (ps.map Property.unordered) = markOrdering ps := by
  induction ps with
  | nil => rfl
  | cons p rest ih =>
    simp only [List.map_cons, markOrdering, ih, List.isEmpty_map, List.any_map]
    rfl

/-- Flags for positions do not depend on those that were there. -/
theorem markOrdering_congr {ps qs : List Property}
    (same : ps.map Property.unordered = qs.map Property.unordered) :
    markOrdering ps = markOrdering qs := by
  rw [← markOrdering_map_unordered, same, markOrdering_map_unordered]

/-- Where no property says that another one follows, this is right for a single property only. -/
theorem Unplaced.separated_iff {ps : List Property} (h : Unplaced ps) :
    Separated ps ↔ ps.length ≤ 1 := by
  constructor
  · intro separated
    cases ps with
    | nil => exact Nat.zero_le 1
    | cons p rest =>
      have last := (separated 0 p rfl).1 (h p List.mem_cons_self).1
      omega
  · intro short i p found
    have inside : i < ps.length := (List.getElem?_eq_some_iff.1 found).1
    have unplaced := (h p (List.mem_iff_getElem?.2 ⟨i, found⟩)).1
    exact iff_of_true unplaced (by omega)

/-! ## Fresh models -/

namespace Model

variable {m : Model}

/-- What follows from the own properties of a model agrees with them. -/
structure Fresh (m : Model) : Prop where
  separated : Separated m.ownProperties
  requiredSeparated : RequiredSeparated m.ownProperties
  hasEnums : m.hasEnums = true ↔ ∃ p ∈ m.ownProperties, p.isEnum = true
  requiredVars : m.requiredVars = baseNames (m.ownProperties.filter Property.required)

@[simp] theorem any_isEnum_markOrdering (ps : List Property) :
    (markOrdering ps).any Property.isEnum = ps.any Property.isEnum := by
  induction ps with
  | nil => rfl
  | cons p rest ih => simp [markOrdering, ih]

@[simp] theorem baseNames_filter_required_markOrdering (ps : List Property) :
    baseNames ((markOrdering ps).filter Property.required) =
      baseNames (ps.filter Property.required) := by
  refine map_congr_unordered (fun _ => rfl) ?_
  rw [map_unordered_filter fun _ => rfl, map_unordered_filter fun _ => rfl,
    map_unordered_markOrdering]

theorem fresh_refreshed (m : Model) : m.refreshed.Fresh where
  separated := separated_markOrdering m.ownProperties
  requiredSeparated := requiredSeparated_markOrdering m.ownProperties
  hasEnums := by
    show m.ownProperties.any Property.isEnum = true ↔
      ∃ p ∈ markOrdering m.ownProperties, p.isEnum = true
    rw [← any_isEnum_markOrdering, List.any_eq_true]
  requiredVars := (baseNames_filter_required_markOrdering m.ownProperties).symm

theorem fresh_iff : m.Fresh ↔ m.refreshed = m := by
  constructor
  · intro h
    have own : markOrdering m.ownProperties = m.ownProperties :=
      markOrdering_eq_self_iff.2 ⟨h.separated, h.requiredSeparated⟩
    have enums : m.ownProperties.any Property.isEnum = m.hasEnums := by
      rw [Bool.eq_iff_iff, List.any_eq_true]
      exact h.hasEnums.symm
    have vars : (m.ownProperties.filter Property.required).map Property.baseName =
        m.requiredVars := h.requiredVars.symm
    unfold refreshed
    rw [own, enums, vars]
  · intro same
    rw [← same]
    exact fresh_refreshed m

/-- Being fresh is kept by changes that own properties and what follows from them do not show. -/
theorem Fresh.map {m' : Model} (h : m.Fresh) {f : Property → Property}
    (hasMore : ∀ p, (f p).hasMore = p.hasMore)
    (hasMoreRequired : ∀ p, (f p).hasMoreRequired = p.hasMoreRequired)
    (required : ∀ p, (f p).required = p.required) (isEnum : ∀ p, (f p).isEnum = p.isEnum)
    (baseName : ∀ p, (f p).baseName = p.baseName)
    (own : m'.ownProperties = m.ownProperties.map f) (enums : m'.hasEnums = m.hasEnums)
    (vars : m'.requiredVars = m.requiredVars) : m'.Fresh where
  separated := by
    intro i p found
    rw [own, List.getElem?_map] at found
    obtain ⟨q, there, rfl⟩ := Option.map_eq_some_iff.1 found
    rw [hasMore, own, List.length_map]
    exact h.separated i q there
  requiredSeparated := by
    intro i p found
    rw [own, List.getElem?_map] at found
    obtain ⟨q, there, rfl⟩ := Option.map_eq_some_iff.1 found
    rw [hasMoreRequired, required, h.requiredSeparated i q there, own]
    refine and_congr_right fun _ => exists_congr fun j => ?_
    rw [List.getElem?_map]
    constructor
    · rintro ⟨q', later, there', needed⟩
      exact ⟨f q', later, by rw [there', Option.map_some], (required q').trans needed⟩
    · rintro ⟨p', later, found', needed⟩
      obtain ⟨q', there', rfl⟩ := Option.map_eq_some_iff.1 found'
      exact ⟨q', later, there', (required q').symm.trans needed⟩
  hasEnums := by
    rw [enums, h.hasEnums, own]
    constructor
    · rintro ⟨p, mem, enum⟩
      exact ⟨f p, List.mem_map_of_mem mem, (isEnum p).trans enum⟩
    · rintro ⟨p', mem', enum⟩
      obtain ⟨p, mem, rfl⟩ := List.mem_map.1 mem'
      exact ⟨p, mem, (isEnum p).symm.trans enum⟩
  requiredVars := by
    have needed : Property.required ∘ f = Property.required := funext required
    have names : Property.baseName ∘ f = Property.baseName := funext baseName
    rw [vars, h.requiredVars, own, baseNames, baseNames, List.filter_map, needed, List.map_map,
      names]

/-! ## Own properties that are taken away -/

/-- A model without some of its own properties.  If it has any of them, what follows from the own
properties is told anew. -/
def without (m : Model) (gone : Property → Bool) : Model :=
  if m.ownProperties.any gone then
    { m with ownProperties := m.ownProperties.filter fun p => !gone p }.refreshed
  else m

theorem filter_not_eq_self {ps : List Property} {gone : Property → Bool}
    (none : ps.any gone = false) : (ps.filter fun p => !gone p) = ps := by
  refine List.filter_eq_self.2 fun p mem => ?_
  have := List.any_eq_false.1 none p mem
  simpa using this

/-- What own properties and what follows from them do not show, stays when some are taken away. -/
theorem view_without {α : Type} (view : Model → α)
    (keeps : ∀ ps, view { m with ownProperties := ps }.refreshed = view m)
    (gone : Property → Bool) : view (m.without gone) = view m := by
  unfold without
  split
  · exact keeps _
  · rfl

@[simp] theorem name_without (gone : Property → Bool) : (m.without gone).name = m.name :=
  view_without Model.name (fun _ => rfl) gone

@[simp] theorem className_without (gone : Property → Bool) :
    (m.without gone).className = m.className :=
  view_without Model.className (fun _ => rfl) gone

@[simp] theorem parentName_without (gone : Property → Bool) :
    (m.without gone).parentName = m.parentName :=
  view_without Model.parentName (fun _ => rfl) gone

@[simp] theorem allVars_without (gone : Property → Bool) :
    (m.without gone).allVars = m.allVars :=
  view_without Model.allVars (fun _ => rfl) gone

@[simp] theorem parentVars_without (gone : Property → Bool) :
    (m.without gone).parentVars = m.parentVars :=
  view_without Model.parentVars (fun _ => rfl) gone

theorem without_eq_self {gone : Property → Bool}
    (none : ∀ p ∈ m.ownProperties, gone p = false) : m.without gone = m := by
  unfold without
  rw [if_neg]
  rw [List.any_eq_true]
  rintro ⟨p, mem, taken⟩
  rw [none p mem] at taken
  cases taken

@[simp] theorem map_unordered_without (gone : Property → Bool) :
    (m.without gone).ownProperties.map Property.unordered =
      (m.ownProperties.filter fun p => !gone p).map Property.unordered := by
  unfold without
  split
  · exact map_unordered_markOrdering _
  · next none => rw [filter_not_eq_self (Bool.not_eq_true _ ▸ none)]

theorem refreshed_congr {ps qs : List Property}
    (same : ps.map Property.unordered = qs.map Property.unordered) :
    { m with ownProperties := ps }.refreshed = { m with ownProperties := qs }.refreshed := by
  have enums : ps.any Property.isEnum = qs.any Property.isEnum := by
    rw [← any_isEnum_markOrdering, markOrdering_congr same, any_isEnum_markOrdering]
  have required : baseNames (ps.filter Property.required) =
      baseNames (qs.filter Property.required) := by
    rw [← baseNames_filter_required_markOrdering, markOrdering_congr same,
      baseNames_filter_required_markOrdering]
  unfold refreshed
  rw [markOrdering_congr same, enums]
  exact congrArg (fun vars => { m with
    ownProperties := markOrdering qs
    hasEnums := qs.any Property.isEnum
    requiredVars := vars }) required

/-- A fresh model is told anew in any case. -/
theorem Fresh.without_eq (h : m.Fresh) (gone : Property → Bool) : m.without gone =
    { m with ownProperties := m.ownProperties.filter fun p => !gone p }.refreshed := by
  unfold without
  split
  · rfl
  · next none =>
    rw [filter_not_eq_self (Bool.not_eq_true _ ▸ none)]
    exact (fresh_iff.1 h).symm

theorem Fresh.without (h : m.Fresh) (gone : Property → Bool) : (m.without gone).Fresh := by
  rw [h.without_eq]
  exact fresh_refreshed _

theorem without_without {gone gone' : Property → Bool}
    (unordered : ∀ p, gone' p.unordered = gone' p) :
    (m.without gone).without gone' = m.without fun p => gone p || gone' p := by
  have both (ps : List Property) : (ps.filter fun p => !(gone p || gone' p)) =
      (ps.filter fun p => !gone p).filter fun p => !gone' p := by
    rw [List.filter_filter]
    exact List.filter_congr fun p _ => by rw [Bool.not_or, Bool.and_comm]
  by_cases some : m.ownProperties.any gone = true
  · have any : (m.ownProperties.any fun p => gone p || gone' p) = true := by
      obtain ⟨p, mem, taken⟩ := List.any_eq_true.1 some
      exact List.any_eq_true.2 ⟨p, mem, by rw [taken, Bool.true_or]⟩
    have first : m.without gone =
        { m with ownProperties := m.ownProperties.filter fun p => !gone p }.refreshed :=
      if_pos some
    have second : (m.without fun p => gone p || gone' p) =
        { m with
          ownProperties := (m.ownProperties.filter fun p => !gone p).filter fun p =>
            !gone' p }.refreshed := by
      rw [← both]
      exact if_pos any
    -- The second step finds new flags on what the first one left, and does not look at them.
    have kept : ((markOrdering (m.ownProperties.filter fun p => !gone p)).filter fun p =>
          !gone' p).map Property.unordered =
        ((m.ownProperties.filter fun p => !gone p).filter fun p => !gone' p).map
          Property.unordered := by
      have keeps : ∀ p, (!gone' p.unordered) = !gone' p := fun p => by rw [unordered]
      rw [map_unordered_filter keeps, map_unordered_filter keeps, map_unordered_markOrdering]
    rw [second, ← refreshed_congr kept, first, (fresh_refreshed _).without_eq]
    rfl
  · have none : m.ownProperties.any gone = false := Bool.not_eq_true _ ▸ some
    have same : (m.ownProperties.any fun p => gone p || gone' p) = m.ownProperties.any gone' := by
      rw [Bool.eq_iff_iff, List.any_eq_true, List.any_eq_true]
      refine exists_congr fun p => and_congr_right fun mem => ?_
      have := List.any_eq_false.1 none p mem
      simp [this]
    have first : m.without gone = m := if_neg some
    rw [first]
    unfold without
    rw [same, both, filter_not_eq_self none]

end Model

end OpenApiGen
