import OpenApiGen.Proofs.Model.Flattening
import OpenApiGen.Proofs.Model.Reconcile

/-!
# Models as they are built

The model of a name is built from the node of that name (`Resolver.get?_byName_iff`).  Its parent is
itself or a component (`Resolver.mem_keys_of_parentName`), for the parent's properties were
looked up.
-/

namespace OpenApiGen

theorem get?_map_name (models : List Model) (name : String) :
    Dict.get? (models.map fun m => (m.name, m)) name = models.find? fun m => m.name = name := by
  induction models with
  | nil => rfl
  | cons m rest ih =>
    rw [List.map_cons, Dict.get?_cons]
    by_cases same : name = m.name
    · rw [if_pos same, List.find?_cons_of_pos (by simpa using same.symm)]
    · rw [if_neg same, ih, List.find?_cons_of_neg (by simpa using Ne.symm same)]

theorem get?_byName {models : List Model} (distinct : (models.map Model.name).Nodup)
    (name : String) : (byName models).get? name = models.find? fun m => m.name = name := by
  rw [byName_of_nodup distinct, get?_map_name]

namespace Resolver

variable {r : Resolver} {built : List Model}

theorem names_models (h : r.models = .ok built) : built.map Model.name = r.library.keys :=
  map_eq_of_mapM h fun _ _ step => (model_cases step).1

/-- The first model of a name is that of the component. -/
theorem find?_models_iff (h : r.models = .ok built) {name : String} {m : Model} :
    built.find? (fun m => m.name = name) = some m ↔
      ∃ node, r.library.get? name = some node ∧ r.model name node = .ok m := by
  rw [← get?_map_name]
  refine Dict.get?_eq_some_iff_of_forall₂ (List.forall₂_map_right_iff.2 ?_)
  refine (mapM_eq_ok_iff.1 h).imp fun e m step => ?_
  exact ⟨(model_cases step).1, step⟩

theorem exists_find?_models (h : r.models = .ok built) {name : String}
    (mem : name ∈ r.library.keys) : ∃ m, built.find? (fun m => m.name = name) = some m := by
  rw [← names_models h] at mem
  obtain ⟨m, there, named⟩ := List.mem_map.1 mem
  exact Option.isSome_iff_exists.1 (List.find?_isSome.2 ⟨m, there, decide_eq_true named⟩)

theorem get?_byName_iff (distinct : r.library.keys.Nodup) (h : r.models = .ok built)
    {name : String} {m : Model} : (byName built).get? name = some m ↔
      ∃ node, r.library.get? name = some node ∧ r.model name node = .ok m := by
  rw [get?_byName (names_models h ▸ distinct), find?_models_iff h]

theorem exists_model (distinct : r.library.keys.Nodup) (h : r.models = .ok built) {name : String}
    (mem : name ∈ r.library.keys) : ∃ m, (byName built).get? name = some m := by
  rw [get?_byName (names_models h ▸ distinct)]
  exact exists_find?_models h mem

/-! ## Parents -/

theorem mem_keys_of_contributedByAll {visiting : List String} {known ps : List Property}
    {members : List Node} (h : r.contributedByAll visiting known members = .ok ps) {name : String}
    (mem : .ref name ∈ members) (new : name ∉ visiting) : name ∈ r.library.keys := by
  induction members generalizing known with
  | nil => cases mem
  | cons member rest ih =>
    rcases contributedByAll_cons_cases h with ⟨other, seen, rfl, onward⟩ |
      ⟨other, -, target, inherited, rfl, found, -, onward⟩ |
      ⟨inherited, notRef, -, onward⟩
    · rcases List.mem_cons.1 mem with same | later
      · cases same
        exact absurd seen new
      · exact ih onward later
    · rcases List.mem_cons.1 mem with same | later
      · cases same
        exact Dict.mem_keys_of_get? (Library.get?_of_find found)
      · exact ih onward later
    · rcases List.mem_cons.1 mem with same | later
      · exact absurd same.symm (notRef name)
      · exact ih onward later

theorem mem_keys_of_parentName {name : String} {node : Node} {m : Model}
    (h : r.model name node = .ok m) {parent : String} (named : m.parentName = some parent)
    (other : parent ≠ name) : parent ∈ r.library.keys := by
  obtain ⟨-, hparent, -, hvars⟩ := model_cases h
  rw [hparent] at named
  unfold Node.parent? at named
  split at named
  · next members tag =>
    rw [contributed] at hvars
    obtain ⟨member, mem, hmember⟩ := List.exists_of_findSome?_eq_some named
    split at hmember
    · next target =>
      cases hmember
      exact mem_keys_of_contributedByAll hvars mem (by simpa using other)
    · cases hmember
  · cases named

end Resolver

end OpenApiGen
