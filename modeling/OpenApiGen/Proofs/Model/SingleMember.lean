import OpenApiGen.Model.Build
import OpenApiGen.Profile.Go
import OpenApiGen.Proofs.Schema.Declaration

/-!
# Compositions of one member

A composition of one member without a tag is declared as its member is.  What a property says of its
type (`Property.type`) agrees as well, unless the member is a container or leads to one: containers
are not looked for in a composition, so its base type is the whole type of the member
(`Resolver.type_single`).
-/

namespace OpenApiGen

/-- What a property says of its type. -/
structure PropertyType where
  dataType : String
  baseType : String
  container : Option Container
  isPrimitive : Bool
  deriving DecidableEq, Repr

def Property.type (p : Property) : PropertyType where
  dataType := p.dataType
  baseType := p.baseType
  container := p.container
  isPrimitive := p.isPrimitive

namespace Resolver

variable {r : Resolver} {node : Node}

/-! ## The type of a property -/

/-- What the property of a node says of its type. -/
def typeOf (r : Resolver) (node : Node) : Except RefError PropertyType := do
  let dataType ← r.declare node
  let baseType ← r.baseType node
  let container ← r.containerOf node
  .ok { dataType, baseType, container, isPrimitive := r.profile.builtins.isPrimitive baseType }

theorem map_type_property (r : Resolver) (key : String) (node : Node) (required : Bool) :
    (r.property key node required).map Property.type = r.typeOf node := by
  unfold property typeOf
  cases r.declare node with
  | error e => rfl
  | ok dataType =>
    cases r.baseType node with
    | error e => rfl
    | ok baseType =>
      cases r.containerOf node with
      | error e => rfl
      | ok container => cases node <;> rfl

/-! ## Nodes that lead to no container -/

/-- A node has no kind of container if and only if it has no element. -/
theorem containerOf_eq_none_iff : r.containerOf node = .ok none ↔ r.elementOf node = .ok none := by
  have same (target : Node) : target.container? = none ↔ target.element? = none := by
    cases target <;> simp [Node.container?, Node.element?]
  cases node with
  | ref name =>
    unfold containerOf elementOf
    simp only [bind_eq_ok_iff, Except.ok.injEq, same]
  | _ => simp only [containerOf, elementOf, Except.ok.injEq, same]

/-- What is no container and leads to none has its whole type for a base type. -/
theorem baseType_eq_declare (leaf : ∀ element, r.elementOf node ≠ .ok (some element)) :
    r.baseType node = r.declare node := by
  have whole (h : r.innermost [] node = .ok node) : r.baseType node = r.declare node := by
    rw [baseType, h]
    rfl
  cases node with
  | array items tag => exact absurd rfl (leaf items)
  | map value tag => exact absurd rfl (leaf value)
  | ref name =>
    cases found : r.library.find name with
    | error e =>
      rw [baseType, declare, innermost_ref_missing found, declareWithin_ref_missing found]
      rfl
    | ok target =>
      have looked : r.elementOf (.ref name) = .ok target.element? := by
        rw [elementOf, found]
        rfl
      refine whole ?_
      rw [innermost_ref found]
      cases h : target.element? with
      | none => rfl
      | some element => exact absurd (looked.trans (h ▸ rfl)) (leaf element)
  | _ => exact whole (by rw [innermost] <;> simp)

/-- A node without an element that can be looked up has no type. -/
theorem declare_of_elementOf_error {e : RefError} (h : r.elementOf node = .error e) :
    r.declare node = .error e := by
  cases node with
  | ref name =>
    rcases bind_eq_error_iff.1 h with missing | ⟨target, -, h⟩
    · exact declareWithin_ref_missing missing
    · cases h
  | _ => cases h

/-! ## One member -/

theorem declare_single (r : Resolver) (kind : Composition) (node : Node) :
    r.declare (.composed kind [node] none) = r.declare node := by
  rw [declare, declareWithin, declare]

theorem baseType_single (r : Resolver) (kind : Composition) (node : Node) :
    r.baseType (.composed kind [node] none) = r.declare node := by
  rw [baseType_eq_declare, declare_single]
  intro element h
  cases h

/-- A composition of one member says of its type what the member says, if the member leads to no
container. -/
theorem typeOf_single_eq (kind : Composition)
    (leaf : ∀ element, r.elementOf node ≠ .ok (some element)) :
    r.typeOf (.composed kind [node] none) = r.typeOf node := by
  unfold typeOf
  rw [declare_single, baseType_single, baseType_eq_declare leaf]
  cases h : r.elementOf node with
  | error e =>
    rw [declare_of_elementOf_error h]
    rfl
  | ok element? =>
    cases element? with
    | some element => exact absurd h (leaf element)
    | none =>
      rw [containerOf_eq_none_iff.2 h]
      rfl

/-- If the member leads to a container, the composition says that there is none. -/
theorem typeOf_single_ne {kind : Composition} {t : String} {element : Node}
    (declared : r.declare node = .ok t) (h : r.elementOf node = .ok (some element)) :
    r.typeOf (.composed kind [node] none) ≠ r.typeOf node := by
  have single : r.typeOf (.composed kind [node] none) =
      .ok ⟨t, t, none, r.profile.builtins.isPrimitive t⟩ := by
    unfold typeOf
    rw [declare_single, baseType_single, declared]
    rfl
  -- Were the two the same, the member would have no container, and so no element either.
  intro same
  rw [single] at same
  obtain ⟨_, -, same⟩ := bind_eq_ok_iff.1 same.symm
  obtain ⟨_, -, same⟩ := bind_eq_ok_iff.1 same
  obtain ⟨container, hcontainer, same⟩ := bind_eq_ok_iff.1 same
  cases same
  rw [containerOf_eq_none_iff.1 hcontainer] at h
  cases h

/-- A composition of one member without a tag has the declared type of the member.  Its base type is
this whole type, as is that of a member that leads to no container; its kind of container agrees
with the one of such a member only.  So the two properties say the same of their types just when
the member leads to no container or has no type at all. -/
theorem type_single (r : Resolver) (kind : Composition) (node : Node) (key : String)
    (required : Bool) :
    r.declare (.composed kind [node] none) = r.declare node ∧
      r.baseType (.composed kind [node] none) = r.declare node ∧
      ((∀ element, r.elementOf node ≠ .ok (some element)) → r.baseType node = r.declare node) ∧
      (r.containerOf (.composed kind [node] none) = r.containerOf node ↔
        r.elementOf node = .ok none) ∧
      ((r.property key (.composed kind [node] none) required).map Property.type =
          (r.property key node required).map Property.type ↔
        ∀ t element, r.declare node = .ok t → r.elementOf node ≠ .ok (some element)) := by
  refine ⟨r.declare_single kind node, r.baseType_single kind node, baseType_eq_declare, ?_, ?_⟩
  · rw [← containerOf_eq_none_iff]
    exact eq_comm
  · rw [map_type_property, map_type_property]
    refine ⟨fun same t element declared h => typeOf_single_ne declared h same, fun leaf => ?_⟩
    cases declared : r.declare node with
    | ok t => exact typeOf_single_eq kind fun element => leaf t element declared
    | error e =>
      unfold typeOf
      rw [declare_single, declared]
      rfl

/-- An array as the only member of a composition is no container to its property. -/
theorem type_single_tags :
    let r : Resolver := ⟨.go, []⟩
    let tags : Node := .array (.scalar "string") none
    (r.property "tags" (.composed .allOf [tags] none) true).map Property.type =
        .ok ⟨"[]string", "[]string", none, false⟩ ∧
      (r.property "tags" tags true).map Property.type =
        .ok ⟨"[]string", "string", some .array, true⟩ := by
  intro r tags
  have scalar : r.declare (.scalar "string") = .ok "string" := by
    rw [declare, Node.scalar, declareWithin]
    decide +kernel
  have unnamed : r.itemsName? (.scalar "string") none = none := rfl
  have declared : r.declare tags = .ok "[]string" := by
    rw [declare, declareWithin, unnamed, ← declare, scalar]
    rfl
  have base : r.baseType tags = .ok "string" := by
    rw [baseType, innermost, Node.scalar, innermost]
    · exact scalar
    all_goals simp
  rw [map_type_property, map_type_property, typeOf, typeOf, declare_single, baseType_single,
    declared, base]
  decide +kernel

end Resolver

end OpenApiGen
