import OpenApiGen.Proofs.Model.Build
import OpenApiGen.Proofs.Schema.Declaration

/-!
# Models and further components

A model that can be built over some components is built the same over more of them
(`Resolver.Le.model`), and it is reconciled against the same ancestors
(`Model.reconcileHierarchy_of_le`).
-/

namespace OpenApiGen

namespace Resolver.Le

variable {r r' : Resolver}

/-! ## Built models -/

theorem containerOf (le : r.Le r') {node : Node} {container : Option Container}
    (h : r.containerOf node = .ok container) : r'.containerOf node = .ok container := by
  cases node with
  | ref name =>
    exact bind_ok_imp h (fun _ => le.find) fun _ => id
  | _ => exact h

theorem property (le : r.Le r') {key : String} {node : Node} {required : Bool} {p : Property}
    (h : r.property key node required = .ok p) : r'.property key node required = .ok p := by
  unfold Resolver.property at h ⊢
  unfold enumCases at h ⊢
  rw [le.profile]
  refine bind_ok_imp h (fun _ => le.declare) fun dataType h => ?_
  refine bind_ok_imp h (fun _ => le.baseType) fun baseType h => ?_
  exact bind_ok_imp h (fun _ => le.containerOf) fun _ => id

theorem properties (le : r.Le r') {entries : List (String × Node)} {required : List String}
    {ps : List Property} (h : r.properties entries required = .ok ps) :
    r'.properties entries required = .ok ps :=
  mapM_ok_imp h fun _ _ => le.property

theorem contributed_and (le : r.Le r') :
    (∀ visiting node ps, r.contributed visiting node = .ok ps →
      r'.contributed visiting node = .ok ps) ∧
    (∀ visiting known members ps, r.contributedByAll visiting known members = .ok ps →
      r'.contributedByAll visiting known members = .ok ps) := by
  apply contributed_rule
  case object =>
    intro visiting entries required description ps h
    rw [Resolver.contributed]
    exact le.properties h
  case allOf =>
    intro visiting members tag ps ih
    rw [Resolver.contributed]
    exact ih
  case other =>
    intro visiting node notObject notAllOf
    exact contributed.eq_3 _ _ _ notObject notAllOf
  case nil =>
    intro visiting known
    rw [contributedByAll]
  case seen =>
    intro visiting known name rest ps old ih
    rw [contributedByAll, dif_pos old]
    exact ih
  case ref =>
    intro visiting known name target rest inherited ps new found ihTarget ihRest
    rw [contributedByAll_ref new (le.find found)]
    exact bind_eq_ok_iff.2 ⟨inherited, ihTarget, ihRest⟩
  case inline =>
    intro visiting known member rest inherited ps notRef ihMember ihRest
    rw [contributedByAll.eq_3 _ _ _ _ _ notRef]
    exact bind_eq_ok_iff.2 ⟨inherited, ihMember, ihRest⟩

theorem contributed (le : r.Le r') {visiting : List String} {node : Node} {ps : List Property}
    (h : r.contributed visiting node = .ok ps) : r'.contributed visiting node = .ok ps :=
  le.contributed_and.1 visiting node ps h

theorem model (le : r.Le r') {name : String} {node : Node} {m : Model}
    (h : r.model name node = .ok m) : r'.model name node = .ok m := by
  unfold Resolver.model enumCases at h ⊢
  rw [le.profile]
  dsimp only at h ⊢
  cases node with
  | enum base literals default_ => exact bind_ok_imp h (fun _ => le.declare) fun _ => id
  | object entries required description => exact bind_ok_imp h (fun _ => le.properties) fun _ => id
  | composed kind members tag => exact bind_ok_imp h (fun _ => le.contributed) fun _ => id
  | array items tag | map value tag =>
    refine bind_ok_imp h (fun _ => le.declare) fun dataType h => ?_
    exact bind_ok_imp h (fun _ => le.baseType) fun _ => id
  | primitive typeName pattern default_ | ref target =>
    exact bind_ok_imp h (fun _ => le.declare) fun _ => id

theorem markRecursive (le : r.Le r') (m : Model) : r'.markRecursive m = r.markRecursive m := by
  unfold Resolver.markRecursive
  rw [le.profile]

end Resolver.Le

/-! ## Ancestors -/

/-- The parent of each model is the model itself or is there as well. -/
def Grounded (models : Dict Model) : Prop :=
  ∀ name m, models.get? name = some m → ∀ parent, m.parentName = some parent →
    parent = name ∨ ∃ p, models.get? parent = some p

theorem Resolver.grounded {r : Resolver} (distinct : r.library.keys.Nodup) {built : List Model}
    (h : r.models = .ok built) : Grounded (byName built) := by
  intro name m found parent named
  obtain ⟨node, -, step⟩ := (get?_byName_iff distinct h).1 found
  by_cases other : parent = name
  · exact .inl other
  · exact .inr (exists_model distinct h (mem_keys_of_parentName step named other))

theorem Model.ancestorsAlong_of_le {models models' : Dict Model} (le : Dict.Le models models')
    (grounded : Grounded models) {visited : List String} {next : Option String}
    (there : ∀ name, next = some name → name ∈ visited ∨ ∃ m, models.get? name = some m) :
    ancestorsAlong models' visited next = ancestorsAlong models visited next := by
  induction visited, next using ancestorsAlong.induct models with
  | case1 visited => rw [ancestorsAlong, ancestorsAlong]
  | case2 visited name seen =>
    rw [ancestorsAlong, ancestorsAlong, dif_pos seen, dif_pos seen]
  | case3 visited name new missing =>
    obtain ⟨m, found⟩ := (there name rfl).resolve_left new
    rw [missing] at found
    cases found
  | case4 visited name new ancestor found ih =>
    rw [ancestorsAlong_of_get? new found, ancestorsAlong_of_get? new (le name _ found), ih]
    intro parent named
    refine (grounded name ancestor found parent named).imp_left ?_
    rintro rfl
    exact List.mem_cons_self

theorem Model.reconcileHierarchy_of_le {mode : ReconcileMode} {models models' : Dict Model}
    (le : Dict.Le models models') (grounded : Grounded models) {m : Model}
    (found : models.get? m.name = some m) :
    m.reconcileHierarchy mode models' = m.reconcileHierarchy mode models := by
  rw [reconcileHierarchy_eq_foldl, reconcileHierarchy_eq_foldl, ancestors, ancestors,
    ancestorsAlong_of_le le grounded]
  intro parent named
  refine (grounded m.name m found parent named).imp_left ?_
  rintro rfl
  exact List.mem_singleton_self _

theorem Resolver.Le.models {r r' : Resolver} (le : r.Le r') (distinct : r.library.keys.Nodup)
    (distinct' : r'.library.keys.Nodup) {built built' : List Model} (h : r.models = .ok built)
    (h' : r'.models = .ok built') : Dict.Le (byName built) (byName built') := by
  intro name m found
  obtain ⟨node, hnode, step⟩ := (get?_byName_iff distinct h).1 found
  exact (get?_byName_iff distinct' h').2 ⟨node, le.library name node hnode, le.model step⟩

end OpenApiGen
