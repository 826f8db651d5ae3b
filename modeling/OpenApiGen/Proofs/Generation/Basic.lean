import OpenApiGen.Generation
import OpenApiGen.Proofs.Model.Build

/-!
# Runs in steps

A run that succeeds has a library, built models and operations (`describe_eq_ok_iff`), which are
then decorated (`generate_eq_ok_iff`).  A component has one model in the end: its built model,
reconciled and marked (`Resolver.model?_output`), and decorated (`Output.exists_model?_decorated`).
-/

namespace OpenApiGen

/-! ## Steps -/

/-- The result of a run before decoration, from models as they are built. -/
def Resolver.output (r : Resolver) (built : List Model) (operations : List Operation) : Output where
  language := r.profile.language
  models := (reconcileModels r.profile.reconcile built).map r.markRecursive
  operations

theorem describe_eq_ok_iff {profile : Profile} {spec : Spec} {o : Output} :
    describe profile spec = .ok o ↔ ∃ library, Library.ofSpec spec = .ok library ∧
      ∃ built, Resolver.models { profile, library } = .ok built ∧
      ∃ operations, Resolver.operations { profile, library } spec = .ok operations ∧
        Resolver.output { profile, library } built operations = o := by
  unfold describe
  simp only [bind_eq_ok_iff, Except.ok.injEq]
  rfl

theorem generateWith_eq_ok_iff {profile : Profile} {options : Options} {spec : Spec}
    {out : Output} : generateWith profile options spec = .ok out ↔
      ∃ configured, profile.withOptions options = .ok configured ∧
      ∃ o, describe configured spec = .ok o ∧ o.decorated options = out := by
  unfold generateWith
  simp only [bind_eq_ok_iff, mapError_eq_ok_iff, Except.ok.injEq]

theorem generate_eq_ok_iff {language : Language} {options : Options} {spec : Spec} {out : Output} :
    generate language options spec = .ok out ↔
      ∃ profile, language.profile.withOptions options = .ok profile ∧
      ∃ o, describe profile spec = .ok o ∧ o.decorated options = out :=
  generateWith_eq_ok_iff

/-- A run fails on a reference if the settings are right and the document fails on it. -/
theorem generate_eq_error_iff {language : Language} {options : Options} {spec : Spec}
    {e : RefError} : generate language options spec = .error (.reference e) ↔
      ∃ profile, language.profile.withOptions options = .ok profile ∧
        describe profile spec = .error e := by
  unfold generate generateWith
  simp only [bind_eq_error_iff, mapError_eq_ok_iff, mapError_eq_error_iff,
    GenerationError.reference.injEq, reduceCtorEq, and_false, exists_false, exists_eq_right,
    false_or, or_false]

/-! ## Models by name -/

theorem find?_map_name {f : Model → Model} (keeps : ∀ m, (f m).name = m.name)
    (models : List Model) (name : String) :
    (models.map f).find? (fun m => m.name = name) =
      (models.find? fun m => m.name = name).map f := by
  rw [List.find?_map]
  congr 2
  funext m
  rw [Function.comp_apply, keeps]

theorem Resolver.model?_output {r : Resolver} (distinct : r.library.keys.Nodup)
    {built : List Model} (modelled : r.models = .ok built) (operations : List Operation)
    (name : String) : (r.output built operations).model? name =
      ((byName built).get? name).map fun m =>
        r.markRecursive (m.reconcileHierarchy r.profile.reconcile (byName built)) := by
  rw [get?_byName (names_models modelled ▸ distinct), ← find?_map_name]
  · unfold Output.model? output
    rw [reconcileModels_eq_map, List.map_map]
    rfl
  · exact fun m => Model.name_reconcileHierarchy _ m

/-! ## Decoration -/

namespace Output

variable {o o' : Output}

/-- Decoration changes models of one language alike, and each by itself. -/
theorem exists_model?_decorated (language : o'.language = o.language) (options : Options)
    (name : String) : ∃ f : Model → Model,
      (o.decorated options).model? name = (o.model? name).map f ∧
      (o'.decorated options).model? name = (o'.model? name).map f := by
  obtain ⟨l, models, operations⟩ := o
  obtain ⟨l', models', operations'⟩ := o'
  obtain rfl : l' = l := language
  cases l' with
  | go => exact ⟨id, Option.map_id'.symm, Option.map_id'.symm⟩
  | javascript | pythonFlask | swift4 | swift5 =>
    refine ⟨_, find?_map_name ?_ models name, find?_map_name ?_ models' name⟩
    all_goals exact fun _ => rfl

theorem operations_decorated (language : o'.language = o.language)
    (same : o'.operations = o.operations) (options : Options) :
    (o'.decorated options).operations = (o.decorated options).operations := by
  obtain ⟨l, models, operations⟩ := o
  obtain ⟨l', models', operations'⟩ := o'
  obtain rfl : l' = l := language
  obtain rfl : operations' = operations := same
  cases l' <;> rfl

end Output

end OpenApiGen
