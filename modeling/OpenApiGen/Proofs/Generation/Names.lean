import OpenApiGen.Proofs.Generation.LeadingChar
import OpenApiGen.Proofs.Generation.Ordering
import OpenApiGen.Proofs.Naming.Identifier

/-!
# Names in the result of a run

In the result of a run that does not keep leading characters, the name of each property and of each
parameter is what the profile of the run makes of the base name beside it (`names_of_generate`).  A
description has the names that its profile makes (`Output.named_of_describe`), and what languages add
leaves them (`name_of_mem_properties_decorateModel`, `paramName_of_mem_decorateOperation`).  Python
cleans the base names of parameters after their names are made, but a name depends on the cleaned
base name alone.
-/

namespace OpenApiGen

variable {p : Profile} {language : Language} {options : Options}

/-- The properties of a model in all its views. -/
def Model.properties (m : Model) : List Property :=
  m.ownProperties ++ m.allVars ++ m.parentVars

theorem Output.named_of_describe {spec : Spec} {o : Output}
    (quoted : p.rules.enumValueQuote ≠ some '\\') (h : describe p spec = .ok o) :
    o.named p = o := by
  let keep := p.rules.preserveLeadingChar
  have same : describe (p.keeping keep) spec = Output.named (p.keeping keep) <$> describe p spec :=
    describe_keeping quoted
  rw [Profile.keeping_self rfl, h] at same
  exact (Except.ok.inj same).symm

/-! ## Properties -/

namespace Language

@[simp] theorem name_decorateOwn (className : String) (q : Property) :
    (language.decorateOwn options className q).name = q.name := by
  cases language <;> rfl

@[simp] theorem name_decorate (q : Property) : (language.decorate options q).name = q.name := by
  cases language <;> rfl

/-- The properties of a model with all that a language adds have their names and base names. -/
theorem exists_property_of_mem_decorateModel {m : Model} {q : Property}
    (mem : q ∈ (language.decorateModel options m).properties) :
    ∃ q' ∈ m.properties, q.name = q'.name ∧ q.baseName = q'.baseName := by
  simp only [Model.properties, decorateModel, List.mem_append, List.mem_map] at mem ⊢
  rcases mem with (⟨q', mem, rfl⟩ | ⟨q', mem, rfl⟩) | ⟨q', mem, rfl⟩
  · exact ⟨q', .inl (.inl mem), name_decorateOwn .., baseName_decorateOwn ..⟩
  · exact ⟨q', .inl (.inr mem), name_decorate .., baseName_decorate ..⟩
  · exact ⟨q', .inr mem, name_decorate .., baseName_decorate ..⟩

end Language

theorem Model.name_of_mem_named {m : Model} {q : Property} (mem : q ∈ (m.named p).properties) :
    q.name = p.toIdentifier q.baseName := by
  unfold properties named at mem
  rw [← List.map_append, ← List.map_append] at mem
  obtain ⟨q', -, rfl⟩ := List.mem_map.1 mem
  rfl

theorem name_of_mem_properties_decorateModel {m : Model} {q : Property}
    (mem : q ∈ (language.decorateModel options (m.named p)).properties) :
    q.name = p.toIdentifier q.baseName := by
  obtain ⟨q', mem', name, baseName⟩ := Language.exists_property_of_mem_decorateModel mem
  rw [name, baseName]
  exact Model.name_of_mem_named mem'

/-! ## Parameters -/

theorem Profile.toParamName_sanitize (plain : p.rules.preserveLeadingChar = false) (raw : String) :
    p.toParamName (Text.sanitize raw) = p.toParamName raw :=
  name_identifierReported_sanitize plain p.paramCasing raw

theorem paramName_of_mem_decorateOperation (plain : p.rules.preserveLeadingChar = false)
    {op : Operation} {q : OperationParameter}
    (mem : q ∈ (language.decorateOperation options (op.named p)).parameters) :
    q.paramName = p.toParamName q.baseName := by
  cases language with
  | go =>
    obtain ⟨q', mem', rfl⟩ := List.mem_map.1 mem
    obtain ⟨q'', -, rfl⟩ := List.mem_map.1 mem'
    rfl
  | javascript =>
    obtain ⟨q', mem', rfl⟩ := List.mem_map.1 mem
    rw [Operation.named, markRuns_named] at mem'
    obtain ⟨q'', -, rfl⟩ := List.mem_map.1 mem'
    rfl
  | pythonFlask =>
    obtain ⟨q', mem', rfl⟩ := List.mem_map.1 mem
    obtain ⟨q'', -, rfl⟩ := List.mem_map.1 mem'
    exact (Profile.toParamName_sanitize plain q''.baseName).symm
  | swift4 | swift5 =>
    unfold Language.decorateOperation Decoration.swiftOperation at mem
    dsimp only at mem
    split_ifs at mem
    all_goals
      obtain ⟨q', mem', rfl⟩ := List.mem_map.1 mem
      obtain ⟨q'', -, rfl⟩ := List.mem_map.1 mem'
      rfl

/-! ## Results of a run -/

/-- In the result of a run that does not keep leading characters, the names of properties, in all
views of a model, and the names of parameters are made of the base names that stand beside them. -/
theorem names_of_generate {spec : Spec} {out : Output}
    (h : generate language options spec = .ok out) (plain : options.preserveLeadingChar = false) :
    ∃ p, language.profile.withOptions options = .ok p ∧
      (∀ m ∈ out.models, ∀ q ∈ m.ownProperties ++ m.allVars ++ m.parentVars,
        q.name = p.toIdentifier q.baseName) ∧
      ∀ op ∈ out.operations, ∀ q ∈ op.parameters, q.paramName = p.toParamName q.baseName := by
  obtain ⟨p, settings, o, described, rfl⟩ := generate_eq_ok_iff.1 h
  have quoted : p.rules.enumValueQuote ≠ some '\\' := by
    rw [Profile.rules_of_withOptions settings]
    exact enumValueQuote_profile language
  have plain' : p.rules.preserveLeadingChar = false :=
    (Language.preserveLeadingChar_of_withOptions settings).trans plain
  have named := Output.named_of_describe quoted described
  refine ⟨p, settings, fun m mem q memVars => ?_, fun op mem q memParams => ?_⟩
  · rw [Output.models_decorated, ← named] at mem
    obtain ⟨m', mem', rfl⟩ := List.mem_map.1 mem
    obtain ⟨m'', -, rfl⟩ := List.mem_map.1 mem'
    exact name_of_mem_properties_decorateModel memVars
  · rw [Output.operations_decorated_eq_map, ← named] at mem
    obtain ⟨op', mem', rfl⟩ := List.mem_map.1 mem
    obtain ⟨op'', -, rfl⟩ := List.mem_map.1 mem'
    exact paramName_of_mem_decorateOperation plain' memParams

/-- A document with a property that begins with an underscore and a header whose name has dashes. -/
def petSearch : Spec :=
  { underscored with
    paths := [("/pets", { get := some {
      parameters := [.inline { name := "X-Pet-Id", location := .header }] } })] }

theorem exists_operations_petSearch (r : Resolver) : ∃ op q,
    r.operations petSearch = .ok [op] ∧ op.parameters = [q] ∧ q.baseName = "X-Pet-Id" := by
  let search : Spec.Operation :=
    { parameters := [.inline { name := "X-Pet-Id", location := .header }] }
  obtain ⟨q, declared, name⟩ : ∃ q,
      r.declaredParameter { name := "X-Pet-Id", location := .header } = .ok q ∧
        q.baseName = "X-Pet-Id" := by
    simp [Resolver.declaredParameter, Resolver.nodeOr, Resolver.parameterOf, Resolver.declare,
      Resolver.declareWithin, Resolver.baseType, Resolver.innermost, Resolver.containerOf,
      Node.scalar, bind, Except.bind]
  have own : r.ownParameters petSearch search.parameters = .ok [q] := by
    simp [Resolver.ownParameters, search, Spec.resolveParameter, Spec.findParameter, declared,
      replaceParameter, bind, Except.bind, pure, Except.pure]
  have operation : r.operation petSearch "GET" "/pets" search search.parameters =
      .ok (r.outline "GET" "/pets" search (markFollowed (requiredFirst [q]))) := by
    rw [Resolver.operation_eq, own]
    rfl
  have perPath := mapM_eq_ok_iff.2 (.cons operation .nil)
  refine ⟨_, { q with hasMore := false },
    bind_eq_ok_iff.2 ⟨_, mapM_eq_ok_iff.2 (.cons perPath .nil), rfl⟩, ?_, name⟩
  cases h : q.required <;> simp [Resolver.outline, requiredFirst, markFollowed, h]

theorem exists_generate_petSearch : ∃ out m v op q,
    generate .pythonFlask {} petSearch = .ok out ∧
      m ∈ out.models ∧ v ∈ m.allVars ∧ v.baseName = "_id" ∧
      op ∈ out.operations ∧ q ∈ op.parameters ∧ q.baseName = "X_Pet_Id" := by
  have settings := Language.withOptions_default .pythonFlask
  obtain ⟨o, m, v, described, -, models, vars, name⟩ :=
    exists_describe_underscored Language.pythonFlask.profile
  obtain ⟨library, lowered, built, modelled, _, _, rfl⟩ := describe_eq_ok_iff.1 described
  let r : Resolver := ⟨Language.pythonFlask.profile, library⟩
  obtain ⟨op, q, made, params, header⟩ := exists_operations_petSearch r
  have searched : describe r.profile petSearch = .ok (r.output built [op]) :=
    describe_eq_ok_iff.2 ⟨library, lowered, built, modelled, [op], made, rfl⟩
  refine ⟨_, Language.pythonFlask.decorateModel {} m, Decoration.pythonProperty v,
    Language.pythonFlask.decorateOperation {} op, Decoration.pythonParameter q,
    generate_eq_ok_iff.2 ⟨_, settings, _, searched, rfl⟩, ?_, ?_, name, ?_, ?_, ?_⟩
  · rw [Output.models_decorated]
    exact List.mem_map_of_mem (models ▸ List.mem_singleton_self m)
  · exact List.mem_map_of_mem (vars ▸ List.mem_singleton_self v)
  · exact List.mem_singleton_self _
  · exact List.mem_map_of_mem (params ▸ List.mem_singleton_self q)
  · show Text.sanitize q.baseName = "X_Pet_Id"
    rw [header]
    decide

/-- In Python the header has a clean base name in the result, and its name is still made of it. -/
theorem names_of_generate_petSearch : ∃ out m v op q,
    generate .pythonFlask {} petSearch = .ok out ∧
      m ∈ out.models ∧ v ∈ m.allVars ∧ v.baseName = "_id" ∧
      v.name = Language.pythonFlask.profile.toIdentifier "_id" ∧
      op ∈ out.operations ∧ q ∈ op.parameters ∧ q.baseName = "X_Pet_Id" ∧
      q.paramName = Language.pythonFlask.profile.toParamName "X_Pet_Id" := by
  obtain ⟨out, m, v, op, q, run, memModel, memVars, id, memOperation, memParams, header⟩ :=
    exists_generate_petSearch
  obtain ⟨p, settings, properties, parameters⟩ := names_of_generate run rfl
  obtain rfl := Except.ok.inj ((Language.withOptions_default .pythonFlask).symm.trans settings)
  have name := properties m memModel v
    (List.mem_append_left _ (List.mem_append_right _ memVars))
  have paramName := parameters op memOperation q memParams
  rw [id] at name
  rw [header] at paramName
  exact ⟨out, m, v, op, q, run, memModel, memVars, id, name, memOperation, memParams, header,
    paramName⟩

end OpenApiGen
