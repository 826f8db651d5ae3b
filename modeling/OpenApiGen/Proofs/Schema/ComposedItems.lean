import OpenApiGen.Model.Build
import OpenApiGen.Profile.Go
import OpenApiGen.Proofs.Schema.Declaration

/-!
# Arrays of anonymous compositions

An array whose items are a composition is declared with a name made of a tag: its own one, that of
its items or the name of the alias that leads to it.  The base type looks at the items alone, with
no tag but theirs and without the ending of the name.  So the two agree on the type of an element
where nothing has a tag, and otherwise only if the items happen to be declared by the very name that
the array gives them (`Resolver.elementType_composed`).
-/

namespace OpenApiGen

/-- What stands between brackets can be read off. -/
theorem Brackets.wrap_inj {b : Brackets} {s t : String} : b.wrap s = b.wrap t ↔ s = t := by
  unfold wrap
  rw [String.append_left_inj, String.append_right_inj]

namespace Resolver

variable {r : Resolver} {kind : Composition} {members : List Node} {itemsTag tag : Option String}

/-! ## Declared types -/

/-- The name that an array with a tag gives to its items. -/
def itemsName (r : Resolver) (kind : Composition) (tag : String) : String :=
  r.composedName kind tag ++ "Items"

theorem declareWithin_array_of_tag {t : String} (h : (tag <|> itemsTag) = some t)
    (opened : List String) :
    r.declareWithin opened (.array (.composed kind members itemsTag) tag) =
      .ok (r.profile.containers.array.wrap (r.itemsName kind t)) := by
  have named : r.itemsName? (.composed kind members itemsTag) tag = some (r.itemsName kind t) := by
    rw [itemsName?, h]
    rfl
  rw [declareWithin, named]

theorem declareWithin_array_untagged (opened : List String) :
    r.declareWithin opened (.array (.composed kind members none) none) =
      (r.declareWithin opened (.composed kind members none)).map r.profile.containers.array.wrap := by
  have unnamed : r.itemsName? (.composed kind members none) none = none := rfl
  rw [declareWithin, unnamed]
  rfl

/-- An alias is a tag for the array that it leads to. -/
theorem declare_ref_array {name : String}
    (found : r.library.find name = .ok (.array (.composed kind members itemsTag) tag)) :
    r.declare (.ref name) = .ok (r.profile.containers.array.wrap (r.itemsName kind name)) := by
  rw [declare, declareWithin_ref found, if_pos ⟨rfl, List.not_mem_nil⟩]
  exact declareWithin_array_of_tag rfl [name]

/-! ## Base types -/

theorem innermost_composed (seen : List String) :
    r.innermost seen (.composed kind members itemsTag) = .ok (.composed kind members itemsTag) := by
  rw [innermost] <;> simp

theorem baseType_array_composed :
    r.baseType (.array (.composed kind members itemsTag) tag) =
      r.declare (.composed kind members itemsTag) := by
  rw [baseType, innermost, innermost_composed]
  rfl

theorem baseType_ref_array {name : String}
    (found : r.library.find name = .ok (.array (.composed kind members itemsTag) tag)) :
    r.baseType (.ref name) = r.declare (.composed kind members itemsTag) := by
  rw [baseType, innermost_ref found]
  dsimp only [Node.element?]
  rw [if_neg List.not_mem_nil, innermost_composed]
  rfl

/-! ## Both -/

theorem ok_wrap_eq_map_iff {b : Brackets} {t : String} {x : Except RefError String} :
    .ok (b.wrap t) = x.map b.wrap ↔ x = .ok t := by
  cases x with
  | error e => exact ⟨nofun, nofun⟩
  | ok s =>
    show Except.ok (b.wrap t) = .ok (b.wrap s) ↔ _
    rw [Except.ok.injEq, Except.ok.injEq, Brackets.wrap_inj, eq_comm]

/-- Items with a tag of their own are never declared by the name that the array makes of it. -/
theorem declare_composed_ne_itemsName (t : String) :
    r.declare (.composed kind members (some t)) ≠ .ok (r.itemsName kind t) := by
  rw [declare, declareWithin, itemsName]
  intro same
  have := congrArg String.length (Except.ok.inj same)
  rw [String.length_append] at this
  simp at this

/-- The model of an array says both: its type has the name of the component for a tag, and the type
of its items has not. -/
theorem types_model_array {name : String} {m : Model}
    (h : r.model name (.array (.composed kind members itemsTag) tag) = .ok m) :
    m.dataType = some (r.profile.containers.array.wrap (r.itemsName kind name)) ∧
      ∃ t, r.declare (.composed kind members itemsTag) = .ok t ∧ m.itemType = some t := by
  obtain ⟨dataType, declared, h⟩ := bind_eq_ok_iff.1 h
  obtain ⟨itemType, based, h⟩ := bind_eq_ok_iff.1 h
  cases h
  rw [Node.tagged, declare, declareWithin_array_of_tag rfl] at declared
  rw [Node.tagged, baseType_array_composed] at based
  cases declared
  exact ⟨rfl, itemType, based, rfl⟩

/-- Let the items of an array be an anonymous composition.  The base type of the array, or of an
alias of it, is the type of the items as they stand.  The declared type is the array of this base
type if neither the array nor its items have a tag; with a tag, for an alias, and for the model of a
component, it is so just when the items are declared by the name that the array makes of the tag.
Items that alone have a tag never are. -/
theorem elementType_composed (r : Resolver) (kind : Composition) (members : List Node)
    (itemsTag tag : Option String) :
    let items : Node := .composed kind members itemsTag
    let array : Node := .array items tag
    let wrap := r.profile.containers.array.wrap
    r.baseType array = r.declare items ∧
      (r.declare array = (r.baseType array).map wrap ↔
        ∀ t, (tag <|> itemsTag) = some t → r.declare items = .ok (r.itemsName kind t)) ∧
      (tag = none → itemsTag ≠ none → r.declare array ≠ (r.baseType array).map wrap) ∧
      (∀ name, r.library.find name = .ok array →
        r.baseType (.ref name) = r.declare items ∧
        (r.declare (.ref name) = (r.baseType (.ref name)).map wrap ↔
          r.declare items = .ok (r.itemsName kind name))) ∧
      ∀ name m, r.model name array = .ok m →
        (∃ t, r.declare items = .ok t ∧ m.itemType = some t) ∧
        (m.dataType = m.itemType.map wrap ↔ r.declare items = .ok (r.itemsName kind name)) := by
  intro items array wrap
  have agrees : r.declare array = (r.baseType array).map wrap ↔
      ∀ t, (tag <|> itemsTag) = some t → r.declare items = .ok (r.itemsName kind t) := by
    rw [baseType_array_composed]
    cases h : tag <|> itemsTag with
    | some t =>
      rw [declare, declareWithin_array_of_tag h, ok_wrap_eq_map_iff]
      simp only [Option.some.injEq, forall_eq', items]
    | none =>
      cases tag with
      | some t => cases h
      | none =>
        cases itemsTag with
        | some t => cases h
        | none => exact iff_of_true (declareWithin_array_untagged []) nofun
  refine ⟨baseType_array_composed, agrees, ?_, fun name found => ?_, fun name m h => ?_⟩
  · rintro rfl tagged same
    obtain ⟨t, rfl⟩ := Option.ne_none_iff_exists'.1 tagged
    exact declare_composed_ne_itemsName t (agrees.1 same t rfl)
  · rw [declare_ref_array found, baseType_ref_array found, ok_wrap_eq_map_iff]
    exact ⟨rfl, Iff.rfl⟩
  · obtain ⟨dataType, t, declared, itemType⟩ := types_model_array h
    refine ⟨⟨t, declared, itemType⟩, ?_⟩
    rw [dataType, itemType, declared, Option.map_some, Option.some.injEq, Brackets.wrap_inj,
      Except.ok.injEq]
    exact eq_comm

/-- An alias names the items of its array in the declared type only. -/
theorem elementType_composed_pets :
    let items : Node := .composed .oneOf [.scalar "string", .scalar "integer"] none
    let r : Resolver := ⟨.go, [("Pets", .array items none)]⟩
    r.declare (.ref "Pets") = .ok "[]OneOfPetsItems" ∧
      r.baseType (.ref "Pets") = .ok "interface\x7b\x7d" ∧
      ∃ m, r.model "Pets" (.array items none) = .ok m ∧
        m.dataType = some "[]OneOfPetsItems" ∧ m.itemType = some "interface\x7b\x7d" := by
  intro items r
  have found : r.library.find "Pets" = .ok (.array items none) := rfl
  have named : r.itemsName .oneOf "Pets" = "OneOfPetsItems" := by decide +kernel
  have object : r.declare items = .ok "interface\x7b\x7d" := by
    rw [declare, declareWithin.eq_6 _ _ _ _ (by simp)]
    decide +kernel
  have declared : r.declare (.ref "Pets") = .ok "[]OneOfPetsItems" := by
    rw [declare_ref_array found, named]
    rfl
  obtain ⟨m, hm⟩ : ∃ m, r.model "Pets" (.array items none) = .ok m := by
    unfold Resolver.model
    dsimp only [Node.tagged]
    rw [declare, declareWithin_array_of_tag rfl, baseType_array_composed, object]
    exact ⟨_, rfl⟩
  obtain ⟨dataType, t, item, itemType⟩ := types_model_array hm
  cases object.symm.trans item
  refine ⟨declared, (baseType_ref_array found).trans object, m, hm, ?_, itemType⟩
  rw [dataType, named]
  rfl

end Resolver

end OpenApiGen
