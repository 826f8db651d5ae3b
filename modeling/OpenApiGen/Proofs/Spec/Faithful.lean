import OpenApiGen.Proofs.Record
import OpenApiGen.Spec.Encode

/-!
# Readers that read again what they read

A reader is faithful to an encoder if, whatever tree it reads a value from, it reads the same value
from what the encoder makes of it (`Faithful`).  Faithful readers of parts give faithful readers of
lists, dictionaries and references, and of the members of a record: an encoder that leaves a member
out leaves it to the reader to put back what was there.
-/

namespace OpenApiGen.Spec

open OpenApiGen.Tree

variable {α : Type} {P Q : Tree → Prop} {read : Tree → Option α} {encode : α → Json}

/-- What a reader makes of a tree with a property, it makes of the encoding again. -/
def Faithful (P : Tree → Prop) (read : Tree → Option α) (encode : α → Json) : Prop :=
  ∀ t a, P t → read t = some a → read (encode a).toTree = some a

/-- The parts of a tree with the property have it too. -/
def Hereditary (P : Tree → Prop) : Prop :=
  ∀ t u, P t → u ∈ t.parts → P u

theorem hereditary_finite : Hereditary Tree.Finite :=
  fun _ _ h mem => h.of_mem_parts mem

/-! ## Values -/

theorem faithful_text : Faithful P Tree.text? .text :=
  fun _ _ _ _ => rfl

theorem faithful_bool : Faithful P Tree.bool? .bool :=
  fun _ _ _ _ => rfl

theorem faithful_json : Faithful P Tree.json? id :=
  fun _ _ _ h => json?_toTree h

theorem Faithful.listOf (hereditary : Hereditary P) (h : Faithful P read encode) :
    Faithful P (fun t => t.listOf? fun u => read u.1) (encodeList encode) := by
  intro t values ht hread
  refine listOf?_toTree fun a mem p hp => ?_
  obtain ⟨u, hu, hread⟩ := mem_of_listOf? hread mem
  rw [hp]
  exact h u.1 a (hereditary t u.1 ht hu) hread

theorem Faithful.dictOf (hereditary : Hereditary P) (h : Faithful P read encode) :
    Faithful P (fun t => t.dictOf? fun u => read u.1) (encodeDict encode) := by
  intro t d ht hread
  refine dictOf?_toTree (nodup_keys_of_dictOf? hread) fun e mem p hp => ?_
  obtain ⟨u, hu, hread⟩ := mem_of_dictOf? hread mem
  rw [hp]
  exact h u.1 e.2 (hereditary t u.1 ht hu) hread

theorem faithful_texts (hereditary : Hereditary P) : Faithful P texts? encodeTexts :=
  faithful_text.listOf hereditary

theorem Faithful.readable (h : Faithful P read encode) :
    Faithful P (fun t => if t.isReadable then read t else none) encode := by
  intro t a ht hread
  dsimp only at hread ⊢
  split at hread
  · rw [if_pos (Json.isReadable_toTree _)]
    exact h t a ht hread
  · cases hread

/-! ## Members of a record -/

/-- The members of an object that have a value. -/
def present (fields : List (String × Option Json)) : List (String × Json) :=
  fields.flatMap fun e => (e.2.map fun value => (e.1, value)).toList

theorem present_append (fields more : List (String × Option Json)) :
    present (fields ++ more) = present fields ++ present more :=
  List.flatMap_append ..

theorem member_eq_present (name : String) (value : Json) :
    member name value = present [(name, some value)] :=
  rfl

theorem optionalMember_eq_present (name : String) (value : Option α) (encode : α → Json) :
    optionalMember name value encode = present [(name, value.map encode)] := by
  cases value <;> rfl

/-- A list that is not empty, encoded. -/
def encodeNonempty {α : Type} (encode : List α → Json) (values : List α) : Option Json :=
  if values.isEmpty then none else some (encode values)

theorem listMember_eq_present (name : String) (values : List α) (encode : List α → Json) :
    listMember name values encode = present [(name, encodeNonempty encode values)] := by
  cases values <;> rfl

theorem mem_keys_present {fields : List (String × Option Json)} {name : String}
    (mem : name ∈ (present fields).map Prod.fst) : name ∈ fields.map Prod.fst := by
  obtain ⟨m, hm, rfl⟩ := List.mem_map.1 mem
  obtain ⟨e, he, hm⟩ := List.mem_flatMap.1 hm
  obtain ⟨value, -, rfl⟩ := Option.map_eq_some_iff.1 (Option.mem_toList.1 hm)
  exact List.mem_map_of_mem he

theorem nodup_keys_present {fields : List (String × Option Json)}
    (distinct : (fields.map Prod.fst).Nodup) : ((present fields).map Prod.fst).Nodup := by
  induction fields with
  | nil => exact List.nodup_nil
  | cons e rest ih =>
    obtain ⟨new, tail⟩ := List.nodup_cons.1 distinct
    obtain ⟨name, value⟩ := e
    cases value with
    | none => exact ih tail
    | some value => exact List.nodup_cons.2 ⟨fun mem => new (mem_keys_present mem), ih tail⟩

theorem get?_present {fields : List (String × Option Json)}
    (distinct : (fields.map Prod.fst).Nodup) {e : String × Option Json} (mem : e ∈ fields) :
    Dict.get? (present fields) e.1 = e.2 := by
  obtain ⟨name, value⟩ := e
  cases value with
  | some value =>
    refine Dict.get?_of_mem (nodup_keys_present distinct) (List.mem_flatMap.2 ⟨_, mem, ?_⟩)
    exact List.mem_singleton_self _
  | none =>
    rw [Dict.get?_eq_none_iff]
    intro found
    obtain ⟨m, hm, same⟩ := List.mem_map.1 found
    obtain ⟨e, he, hm⟩ := List.mem_flatMap.1 hm
    obtain ⟨value, hvalue, rfl⟩ := Option.map_eq_some_iff.1 (Option.mem_toList.1 hm)
    have : e.2 = none := by
      have := List.inj_on_of_nodup_map distinct he mem same
      rw [this]
    rw [this] at hvalue
    cases hvalue

/-- The slots of an object hold the values that it was made from. -/
theorem slots?_present {names : List String} (distinct : names.Nodup)
    (fields : List (String × Option Json)) (named : fields.map Prod.fst = names) :
    ∃ slots, (Json.object (present fields)).toTree.slots? names = some slots ∧
      fields.Forall fun e => slots.Holds e.1 e.2 := by
  subst named
  obtain ⟨slots, hslots, holds⟩ := slots?_toTree distinct (nodup_keys_present distinct)
  refine ⟨slots, hslots, List.forall_iff_forall_mem.2 fun e he => ?_⟩
  rw [← get?_present distinct he]
  exact holds e.1 (List.mem_map_of_mem he)

section Slots

variable {t : Tree} {slots : Slots t} {name : String}

theorem required_of_holds {value : Json} (holds : slots.Holds name (some value)) :
    slots.required name (fun u => read u.1) = read value.toTree := by
  obtain ⟨p, hp, given⟩ := holds
  unfold Slots.required
  rw [given]
  exact congrArg read hp

theorem optional_of_holds {value : Json} (holds : slots.Holds name (some value))
    (notNull : value.toTree.isNull = false) :
    slots.optional name (fun u => read u.1) = (read value.toTree).map some := by
  obtain ⟨p, hp, given⟩ := holds
  unfold Slots.optional
  rw [given]
  dsimp only
  rw [hp, notNull]
  rfl

theorem defaulted_of_holds {value : Json} (holds : slots.Holds name (some value)) (default_ : α) :
    slots.defaulted name default_ (fun u => read u.1) = read value.toTree := by
  obtain ⟨p, hp, given⟩ := holds
  unfold Slots.defaulted
  rw [given]
  exact congrArg read hp

variable {names : List String}

theorem part_of_required (hslots : t.slots? names = some slots) {a : α}
    (h : slots.required name (fun u => read u.1) = some a) : ∃ u ∈ t.parts, read u = some a := by
  unfold Slots.required at h
  split at h
  · next p given => exact ⟨p.1, mem_parts_of_slots? hslots given, h⟩
  · cases h

theorem part_of_optional (hslots : t.slots? names = some slots) {a : α}
    (h : slots.optional name (fun u => read u.1) = some (some a)) :
    ∃ u ∈ t.parts, u.isNull = false ∧ read u = some a := by
  unfold Slots.optional at h
  split at h
  · next p given =>
    split at h
    · cases h
    · next notNull =>
      obtain ⟨b, hread, same⟩ := Option.map_eq_some_iff.1 h
      cases same
      exact ⟨p.1, mem_parts_of_slots? hslots given, Bool.not_eq_true _ ▸ notNull, hread⟩
  · cases h
  · cases h

theorem part_of_defaulted (hslots : t.slots? names = some slots) {default_ a : α}
    (h : slots.defaulted name default_ (fun u => read u.1) = some a) :
    a = default_ ∨ ∃ u ∈ t.parts, read u = some a := by
  unfold Slots.defaulted at h
  split at h
  · next p given => exact .inr ⟨p.1, mem_parts_of_slots? hslots given, h⟩
  · cases h
    exact .inl rfl

end Slots

section Again

variable {t t' : Tree} {names : List String} {slots : Slots t} {again : Slots t'} {name : String}

theorem Faithful.required (h : Faithful P read encode) (hslots : t.slots? names = some slots)
    (parts : ∀ u ∈ t.parts, P u) {a : α}
    (was : slots.required name (fun u => read u.1) = some a)
    (holds : again.Holds name (some (encode a))) :
    again.required name (fun u => read u.1) = some a := by
  obtain ⟨u, hu, hread⟩ := part_of_required hslots was
  rw [required_of_holds holds]
  exact h u a (parts u hu) hread

theorem Faithful.optional (h : Faithful P read encode)
    (notNull : ∀ u a, P u → u.isNull = false → read u = some a → (encode a).toTree.isNull = false)
    (hslots : t.slots? names = some slots) (parts : ∀ u ∈ t.parts, P u) {value : Option α}
    (was : slots.optional name (fun u => read u.1) = some value)
    (holds : again.Holds name (value.map encode)) :
    again.optional name (fun u => read u.1) = some value := by
  cases value with
  | none =>
    unfold Slots.optional
    rw [show again.lookup name = some .omitted from holds]
  | some a =>
    obtain ⟨u, hu, hu', hread⟩ := part_of_optional hslots was
    rw [optional_of_holds holds (notNull u a (parts u hu) hu' hread), h u a (parts u hu) hread]
    rfl

/-- A member that is always written. -/
theorem Faithful.defaulted (h : Faithful P read encode) {default_ : α}
    (readsDefault : read (encode default_).toTree = some default_)
    (hslots : t.slots? names = some slots) (parts : ∀ u ∈ t.parts, P u) {a : α}
    (was : slots.defaulted name default_ (fun u => read u.1) = some a)
    (holds : again.Holds name (some (encode a))) :
    again.defaulted name default_ (fun u => read u.1) = some a := by
  rw [defaulted_of_holds holds]
  rcases part_of_defaulted hslots was with rfl | ⟨u, hu, hread⟩
  · exact readsDefault
  · exact h u a (parts u hu) hread

/-- A member that is left out when it is empty. -/
theorem Faithful.nonempty {read : Tree → Option (List α)} {encode : List α → Json}
    (h : Faithful P read encode) (hslots : t.slots? names = some slots)
    (parts : ∀ u ∈ t.parts, P u) {values : List α}
    (was : slots.defaulted name [] (fun u => read u.1) = some values)
    (holds : again.Holds name (encodeNonempty encode values)) :
    again.defaulted name [] (fun u => read u.1) = some values := by
  cases values with
  | nil =>
    unfold Slots.defaulted
    rw [show again.lookup name = some .omitted from holds]
  | cons a rest =>
    rw [defaulted_of_holds (show again.Holds name (some (encode (a :: rest))) from holds)]
    rcases part_of_defaulted hslots was with empty | ⟨u, hu, hread⟩
    · cases empty
    · exact h u _ (parts u hu) hread

end Again

/-! ## References -/

/-- An object without a member `$ref` is no reference. -/
theorem refPath?_present {names : List String} (distinct : names.Nodup) (noRef : "$ref" ∉ names)
    (fields : List (String × Option Json)) (named : fields.map Prod.fst = names) :
    refPath? (Json.object (present fields)).toTree = none := by
  subst named
  obtain ⟨slots, hslots, holds⟩ :=
    slots?_toTree (List.nodup_singleton "$ref") (nodup_keys_present distinct)
  have omitted := holds "$ref" (List.mem_singleton_self _)
  rw [Dict.get?_eq_none_iff.2 fun mem => noRef (mem_keys_present mem)] at omitted
  show ((Json.object (present fields)).toTree.slots? ["$ref"] >>= fun slots => _) = none
  rw [hslots]
  show Slots.required slots "$ref" _ = none
  unfold Slots.required
  rw [show slots.lookup "$ref" = some .omitted from omitted]

theorem refPath?_encodeRef (path : String) : refPath? (encodeRef path).toTree = some path := by
  obtain ⟨slots, hslots, holds⟩ :=
    slots?_present (List.nodup_singleton "$ref") [("$ref", some (.text path))] rfl
  show ((encodeRef path).toTree.slots? ["$ref"] >>= fun slots => _) = some path
  rw [show (encodeRef path).toTree.slots? ["$ref"] = some slots from hslots]
  exact required_of_holds holds

/-- A thing, or a reference to it, if the thing itself cannot be taken for a reference. -/
theorem Faithful.orRef (h : Faithful P read encode)
    (inPlace : ∀ a, refPath? (encode a).toTree = none) :
    Faithful P (fun t => orRef? t read) (encodeOrRef encode) := by
  intro t a ht hread
  dsimp only at hread ⊢
  unfold orRef? at hread ⊢
  split at hread
  · cases hread
    rw [encodeOrRef, refPath?_encodeRef]
  · obtain ⟨value, hvalue, rfl⟩ := Option.map_eq_some_iff.1 hread
    rw [encodeOrRef, inPlace, h t value ht hvalue]
    rfl

end OpenApiGen.Spec
