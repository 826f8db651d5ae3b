import OpenApiGen.Proofs.Generation.Basic
import OpenApiGen.Proofs.Generation.Decoration
import OpenApiGen.Proofs.Model.LeadingChar
import OpenApiGen.Proofs.Operation.LeadingChar
import OpenApiGen.Proofs.Profile

/-!
# Leading characters in the result of a run

Whether leading characters are kept decides on all identifiers, on those of properties as well as on
those of parameters, and in every language.  Two runs that differ in this setting alone make their
names for one and the same description of the document (`generate_eq_named`), so that all else is
the same (`Output.nameless_decorated_named`), and so are the names that come from raw names without
such a character.
-/

namespace OpenApiGen

/-! ## Names -/

/-- A description of a document with the names that a profile makes. -/
def Output.named (p : Profile) (o : Output) : Output :=
  { o with
    models := o.models.map (Model.named p)
    operations := o.operations.map (Operation.named p) }

variable {p : Profile} {language : Language}

section

variable {spec : Spec} {keep : Bool}

theorem Resolver.output_keeping {r : Resolver} (quoted : r.profile.rules.enumValueQuote ≠ some '\\')
    {built : List Model} (modelled : r.models = .ok built) (operations : List Operation) :
    (r.keeping keep).output (built.map (Model.named (r.profile.keeping keep)))
        (operations.map (Operation.named (r.profile.keeping keep))) =
      (r.output built operations).named (r.profile.keeping keep) := by
  have reconciled : reconcileModels r.profile.reconcile
        (built.map (Model.named (r.profile.keeping keep))) =
      (reconcileModels r.profile.reconcile built).map (Model.named (r.profile.keeping keep)) :=
    reconcileModels_named _ (ownNamedBy_of_models quoted modelled)
  have models : (reconcileModels r.profile.reconcile
        (built.map (Model.named (r.profile.keeping keep)))).map (r.keeping keep).markRecursive =
      ((reconcileModels r.profile.reconcile built).map r.markRecursive).map
        (Model.named (r.profile.keeping keep)) := by
    rw [reconciled, List.map_map, List.map_map]
    exact List.map_congr_left fun m _ => markRecursive_keeping m
  unfold output Output.named
  rw [← models]
  rfl

theorem describe_keeping (quoted : p.rules.enumValueQuote ≠ some '\\') :
    describe (p.keeping keep) spec = Output.named (p.keeping keep) <$> describe p spec := by
  unfold describe
  rw [map_bind]
  refine bind_congr fun library => ?_
  dsimp only
  let r : Resolver := ⟨p, library⟩
  have models : Resolver.models ⟨p.keeping keep, library⟩ =
      List.map (Model.named (p.keeping keep)) <$> r.models := by
    show (r.keeping keep).models = _
    exact Resolver.models_keeping quoted
  have operations : Resolver.operations ⟨p.keeping keep, library⟩ spec =
      List.map (Operation.named (p.keeping keep)) <$> r.operations spec := by
    show (r.keeping keep).operations spec = _
    exact Resolver.operations_keeping spec
  rw [models, operations]
  cases modelled : r.models with
  | error e => rfl
  | ok built =>
    show (_ <$> r.operations spec >>= fun operations => _) =
      _ <$> (r.operations spec >>= fun operations => _)
    rw [bind_map_left, map_bind]
    refine bind_congr fun operations => ?_
    exact congrArg Except.ok (Resolver.output_keeping quoted modelled operations)

end

/-! ## Outputs without names -/

/-- A case of an enumeration without its name, where that is an identifier. -/
def EnumCase.nameless (language : Language) (c : EnumCase) : EnumCase :=
  match language with
  | .javascript => { c with name := "" }
  | _ => c

/-- A property without its names, and without what is said of them: whether its name is another one
than its base name, and the name of its type in documentation comments. -/
def Property.nameless (language : Language) (q : Property) : Property :=
  { q with
    name := ""
    enumName := q.enumName.map fun _ => ""
    enumValues := q.enumValues.map (EnumCase.nameless language)
    isEscapedName := if language = .swift5 then false else q.isEscapedName
    jsdocType := q.jsdocType.map fun type => if q.isEnum then "" else type }

/-- A model without the names of its properties and cases. -/
def Model.nameless (language : Language) (m : Model) : Model :=
  { m with
    enumValues := m.enumValues.map (EnumCase.nameless language)
    ownProperties := m.ownProperties.map (Property.nameless language)
    allVars := m.allVars.map (Property.nameless language)
    parentVars := m.parentVars.map (Property.nameless language)
    hasEscapedPropertyNames :=
      if language = .swift5 then false else m.hasEscapedPropertyNames }

/-- A parameter without its names. -/
def OperationParameter.nameless (q : OperationParameter) : OperationParameter :=
  { q with paramName := "", exportName := q.exportName.map fun _ => "" }

/-- An operation without the names of its parameters. -/
def Operation.nameless (o : Operation) : Operation :=
  { o with
    parameters := o.parameters.map OperationParameter.nameless
    argList := o.argList.map fun _ => "" }

/-- The result of a run without names of properties, of parameters and of their cases. -/
def Output.nameless (o : Output) : Output :=
  { o with
    models := o.models.map (Model.nameless o.language)
    operations := o.operations.map Operation.nameless }

theorem map_map_map_congr {α β γ δ : Type} {f f' : α → β} {g : β → γ} {h : γ → δ}
    (same : ∀ a, h (g (f a)) = h (g (f' a))) (as : List α) :
    ((as.map f).map g).map h = ((as.map f').map g).map h := by
  rw [List.map_map, List.map_map, List.map_map, List.map_map]
  exact List.map_congr_left fun a _ => same a

/-! ## Models -/

section

variable (style : language ≠ .javascript → p.rules.enumCase ≠ .identifier) (keep : Bool)
  (options : Options)

include style

theorem map_nameless_map_named (dataType : String) (cases : List EnumCase) :
    (cases.map (EnumCase.named (p.keeping keep) dataType)).map (EnumCase.nameless language) =
      (cases.map (EnumCase.named p dataType)).map (EnumCase.nameless language) := by
  rw [List.map_map, List.map_map]
  refine List.map_congr_left fun c _ => ?_
  by_cases javascript : language = .javascript
  · subst javascript
    rfl
  · have same : c.named (p.keeping keep) dataType = c.named p dataType := by
      unfold EnumCase.named
      rw [Profile.toEnumCase_keeping (style javascript)]
      rfl
    rw [Function.comp_apply, Function.comp_apply, same]

/-- What a language adds to a property tells nothing but its names. -/
theorem nameless_decorate_named (q : Property) :
    (language.decorate options (q.named (p.keeping keep))).nameless language =
      (language.decorate options (q.named p)).nameless language := by
  have cases := map_nameless_map_named style keep q.dataType q.enumValues
  have enumName (name : String) : (q.enumName.map fun _ => name).map (fun _ => "") =
      q.enumName.map fun _ => "" :=
    Option.map_map ..
  cases language with
  | go | javascript | pythonFlask =>
    dsimp only [Property.nameless, Property.named, Language.decorate, id,
      Decoration.pythonProperty]
    rw [cases, enumName, enumName]
  | swift4 | swift5 =>
    dsimp only [Property.nameless, Property.named, Language.decorate, Decoration.swiftProperty]
    rw [cases, enumName, enumName]
    rfl

theorem nameless_decorateOwn_named (className : String) (q : Property) :
    (language.decorateOwn options className (q.named (p.keeping keep))).nameless language =
      (language.decorateOwn options className (q.named p)).nameless language := by
  cases language with
  | javascript =>
    have plain := nameless_decorate_named style keep options q
    have jsdocType (p : Profile) :
        (some (Decoration.propertyJsdocType className (q.named p))).map
            (fun type => if q.isEnum then "" else type) =
          some (if q.isEnum then "" else Decoration.jsdocType q.dataType) := by
      unfold Decoration.propertyJsdocType Property.named
      cases q.isEnum <;> rfl
    calc (Language.javascript.decorateOwn options className (q.named (p.keeping keep))).nameless
          .javascript
        = { (q.named (p.keeping keep)).nameless .javascript with
            jsdocType := some (if q.isEnum then "" else Decoration.jsdocType q.dataType) } := by
          rw [← jsdocType (p.keeping keep)]
          rfl
      _ = { (q.named p).nameless .javascript with
            jsdocType := some (if q.isEnum then "" else Decoration.jsdocType q.dataType) } := by
          rw [show (q.named (p.keeping keep)).nameless _ = (q.named p).nameless _ from plain]
      _ = _ := by
          rw [← jsdocType p]
          rfl
  | go | pythonFlask | swift4 | swift5 => exact nameless_decorate_named style keep options q

theorem nameless_decorateModel_named (m : Model) :
    (language.decorateModel options (m.named (p.keeping keep))).nameless language =
      (language.decorateModel options (m.named p)).nameless language := by
  have vars (qs : List Property) :
      ((qs.map (Property.named (p.keeping keep))).map (language.decorate options)).map
          (Property.nameless language) =
        ((qs.map (Property.named p)).map (language.decorate options)).map
          (Property.nameless language) :=
    map_map_map_congr (nameless_decorate_named style keep options) qs
  have own (qs : List Property) :
      ((qs.map (Property.named (p.keeping keep))).map
          (language.decorateOwn options m.className)).map (Property.nameless language) =
        ((qs.map (Property.named p)).map (language.decorateOwn options m.className)).map
          (Property.nameless language) :=
    map_map_map_congr (nameless_decorateOwn_named style keep options m.className) qs
  have escaped (b : Bool) (qs : List Property) :
      (if language = .swift5 then false
        else if language = .swift5 then qs.any Property.isEscapedName else b) =
      if language = .swift5 then false else b := by
    split <;> rfl
  dsimp only [Model.nameless, Language.decorateModel, Model.named]
  rw [map_nameless_map_named style, own, vars, vars, escaped, escaped]

end

/-! ## Operations -/

@[simp] theorem markRuns_named (qs : List OperationParameter) :
    Decoration.markRuns (qs.map (OperationParameter.named p)) =
      (Decoration.markRuns qs).map (OperationParameter.named p) := by
  induction qs with
  | nil => rfl
  | cons q rest ih =>
    simp only [List.map_cons, Decoration.markRuns, ih, List.any_map]
    rfl

theorem nameless_decorateOperation_named (p p' : Profile) (options : Options) (op : Operation) :
    (language.decorateOperation options (op.named p)).nameless =
      (language.decorateOperation options (op.named p')).nameless := by
  have parameters {f : OperationParameter → OperationParameter}
      (nameless : ∀ q, (f (OperationParameter.named p q)).nameless =
        (f (OperationParameter.named p' q)).nameless) (qs : List OperationParameter) :
      ((qs.map (OperationParameter.named p)).map f).map OperationParameter.nameless =
        ((qs.map (OperationParameter.named p')).map f).map OperationParameter.nameless :=
    map_map_map_congr nameless qs
  cases language with
  | go | pythonFlask =>
    dsimp only [Language.decorateOperation, Operation.named, Operation.nameless]
    rw [parameters fun _ => rfl]
  | javascript =>
    dsimp only [Language.decorateOperation, Operation.named, Operation.nameless]
    rw [markRuns_named, markRuns_named, parameters fun _ => rfl]
    rfl
  | swift4 | swift5 =>
    dsimp only [Language.decorateOperation, Operation.named, Decoration.swiftOperation]
    split
    all_goals
      dsimp only [Operation.nameless]
      rw [parameters fun _ => rfl]

/-! ## Results of a run -/

namespace Output

variable {o : Output} {options : Options}

theorem nameless_decorated_named
    (style : o.language ≠ .javascript → p.rules.enumCase ≠ .identifier) (keep : Bool) :
    ((o.named (p.keeping keep)).decorated options).nameless =
      ((o.named p).decorated options).nameless := by
  have models : ((o.models.map (Model.named (p.keeping keep))).map
        (o.language.decorateModel options)).map (Model.nameless o.language) =
      ((o.models.map (Model.named p)).map (o.language.decorateModel options)).map
        (Model.nameless o.language) :=
    map_map_map_congr (nameless_decorateModel_named style keep options) o.models
  have operations : ((o.operations.map (Operation.named (p.keeping keep))).map
        (o.language.decorateOperation options)).map Operation.nameless =
      ((o.operations.map (Operation.named p)).map (o.language.decorateOperation options)).map
        Operation.nameless :=
    map_map_map_congr (nameless_decorateOperation_named _ p options) o.operations
  simp only [nameless, models_decorated, operations_decorated_eq_map, language_decorated, named,
    models, operations]

theorem models_decorated_keeping (plain : ∀ m ∈ o.models, m.Plain (p.keeping false)) :
    ((o.named (p.keeping true)).decorated options).models =
      ((o.named (p.keeping false)).decorated options).models := by
  have models : o.models.map (Model.named (p.keeping true)) =
      o.models.map (Model.named (p.keeping false)) :=
    List.map_congr_left fun m mem => (plain m mem).named_keeping
  simp only [models_decorated, named, models]

theorem operations_decorated_keeping (plain : ∀ op ∈ o.operations, op.Plain) :
    ((o.named (p.keeping true)).decorated options).operations =
      ((o.named (p.keeping false)).decorated options).operations := by
  have operations : o.operations.map (Operation.named (p.keeping true)) =
      o.operations.map (Operation.named (p.keeping false)) :=
    List.map_congr_left fun op mem => (plain op mem).named_keeping
  simp only [operations_decorated_eq_map, named, operations]

end Output

/-! ## Settings -/

theorem withOptions_keeping (p : Profile) (options : Options) :
    p.withOptions { options with preserveLeadingChar := true } =
      (Profile.keeping · true) <$> p.withOptions { options with preserveLeadingChar := false } := by
  unfold Profile.withOptions
  dsimp only
  rw [Bool.or_true]
  cases options.propertyCasing with
  | none => rfl
  | some requested =>
    dsimp only
    split <;> rfl

/-- The settings of a run do not change how a profile writes enumerations. -/
theorem enums_of_withOptions {q : Profile} {options : Options}
    (h : p.withOptions options = .ok q) : q.language = p.language ∧
      q.rules.enumCase = p.rules.enumCase ∧ q.rules.enumValueQuote = p.rules.enumValueQuote ∧
      q.rules.preserveLeadingChar =
        (p.rules.preserveLeadingChar || options.preserveLeadingChar) := by
  obtain ⟨casing, -, rfl⟩ := Profile.withOptions_cases h
  exact ⟨rfl, rfl, rfl, rfl⟩

theorem Profile.keeping_self {keep : Bool} (h : p.rules.preserveLeadingChar = keep) :
    p.keeping keep = p := by
  subst h
  rfl

@[simp] theorem language_profile (language : Language) : language.profile.language = language := by
  cases language <;> rfl

theorem enumValueQuote_profile (language : Language) :
    language.profile.rules.enumValueQuote ≠ some '\\' := by
  cases language <;> decide

/-- In JavaScript alone a case of an enumeration is an identifier. -/
theorem enumCase_profile (other : language ≠ .javascript) :
    language.profile.rules.enumCase ≠ .identifier := by
  cases language with
  | javascript => exact absurd rfl other
  | _ => decide

/-! ## Pairs of runs -/

variable {options : Options} {profile : Profile}

/-- The profile of a run that keeps leading characters, or does not. -/
theorem withOptions_eq_keeping
    (h : language.profile.withOptions { options with preserveLeadingChar := false } = .ok profile)
    (keep : Bool) : language.profile.withOptions { options with preserveLeadingChar := keep } =
      .ok (profile.keeping keep) := by
  cases keep with
  | true =>
    rw [withOptions_keeping, h]
    rfl
  | false =>
    have without : profile.rules.preserveLeadingChar = false := by
      rw [(enums_of_withOptions h).2.2.2]
      cases language <;> rfl
    rw [Profile.keeping_self without]
    exact h

theorem generate_eq_error_of_withOptions {e : ConfigError}
    (h : language.profile.withOptions { options with preserveLeadingChar := false } = .error e)
    (keep : Bool) (spec : Spec) :
    generate language { options with preserveLeadingChar := keep } spec =
      .error (.configuration e) := by
  have failed : language.profile.withOptions { options with preserveLeadingChar := keep } =
      .error e := by
    cases keep with
    | false => exact h
    | true =>
      rw [withOptions_keeping, h]
      rfl
  unfold generate generateWith
  rw [failed]
  rfl

/-- A run makes the names for a description that does not depend on them. -/
theorem generate_eq_named
    (h : language.profile.withOptions { options with preserveLeadingChar := false } = .ok profile)
    (keep : Bool) (spec : Spec) :
    generate language { options with preserveLeadingChar := keep } spec =
      ((describe profile spec).mapError GenerationError.reference).map fun o =>
        (o.named (profile.keeping keep)).decorated options := by
  have quoted : profile.rules.enumValueQuote ≠ some '\\' := by
    rw [(enums_of_withOptions h).2.2.1]
    exact enumValueQuote_profile language
  have decorated (o : Output) : o.decorated { options with preserveLeadingChar := keep } =
      o.decorated options := by
    unfold Output.decorated
    cases o.language <;> rfl
  unfold generate generateWith
  rw [withOptions_eq_keeping h keep]
  show ((describe (profile.keeping keep) spec).mapError GenerationError.reference >>= fun o =>
    .ok (o.decorated { options with preserveLeadingChar := keep })) = _
  rw [describe_keeping quoted]
  cases describe profile spec with
  | error e => rfl
  | ok o => exact congrArg Except.ok (decorated _)

/-- Two runs of a language that differ in whether leading characters are kept fail alike, or give
one description of the document, for which each makes its own names.  So what they generate is the
same without names: those of properties and parameters, and for JavaScript those of cases.  A name
that keeps its leading character is the other run's name, or that name after the sign with which
its raw name starts.  Models are the same if no such raw name is in them, and so are operations. -/
theorem generate_keeping (language : Language) (options : Options) (spec : Spec) :
    (∃ e, ∀ keep,
      generate language { options with preserveLeadingChar := keep } spec = .error e) ∨
    ∃ profile : Profile, ∃ o, ∃ out : Bool → Output,
      (∀ keep, language.profile.withOptions { options with preserveLeadingChar := keep } =
        .ok (profile.keeping keep)) ∧
      describe (profile.keeping false) spec = .ok o ∧
      (∀ keep,
        generate language { options with preserveLeadingChar := keep } spec = .ok (out keep) ∧
        out keep = (o.named (profile.keeping keep)).decorated options) ∧
      (out true).nameless = (out false).nameless ∧
      (∀ raw dataType,
        Restores raw ((profile.keeping false).toIdentifier raw)
          ((profile.keeping true).toIdentifier raw) ∧
        Restores raw ((profile.keeping false).toParamName raw)
          ((profile.keeping true).toParamName raw) ∧
        Restores raw ((profile.keeping false).toEnumCase raw dataType)
          ((profile.keeping true).toEnumCase raw dataType)) ∧
      ((∀ m ∈ o.models, m.Plain (profile.keeping false)) →
        (out true).models = (out false).models) ∧
      ((∀ op ∈ o.operations, op.Plain) → (out true).operations = (out false).operations) := by
  cases settings : language.profile.withOptions
      { options with preserveLeadingChar := false } with
  | error e =>
    exact .inl ⟨.configuration e, fun keep => generate_eq_error_of_withOptions settings keep spec⟩
  | ok profile =>
    have runs := generate_eq_named settings
    cases described : describe profile spec with
    | error e =>
      refine .inl ⟨.reference e, fun keep => ?_⟩
      rw [runs, described]
      rfl
    | ok o =>
      have style : o.language ≠ .javascript → profile.rules.enumCase ≠ .identifier := by
        obtain ⟨library, -, built, -, operations, -, rfl⟩ := describe_eq_ok_iff.1 described
        rw [(enums_of_withOptions settings).2.1]
        intro other
        refine enumCase_profile fun same => other ?_
        rw [← same]
        exact (enums_of_withOptions settings).1.trans (language_profile language)
      have without : profile.keeping false = profile :=
        Except.ok.inj ((withOptions_eq_keeping settings false).symm.trans settings)
      refine .inr ⟨profile, o, fun keep => (o.named (profile.keeping keep)).decorated options,
        withOptions_eq_keeping settings, ?_, fun keep => ⟨?_, rfl⟩, ?_, fun raw dataType =>
          ⟨profile.restores_toIdentifier raw, profile.restores_toParamName raw,
            profile.restores_toEnumCase raw dataType⟩,
        Output.models_decorated_keeping, Output.operations_decorated_keeping⟩
      · rw [without]
        exact described
      · rw [runs, described]
        rfl
      · dsimp only
        rw [Output.nameless_decorated_named style, Output.nameless_decorated_named style]

/-- A document with a schema that has a property with an underscore. -/
def underscored : Spec where
  openapi := "3.0.3"
  info := { title := "Pets", version := "1" }
  components := some {
    schemas := [("Pet", .inline {
      properties := [("_id", .inline { type := some (.single .string) })] })] }

theorem exists_describe_underscored (p : Profile) : ∃ o m q, describe p underscored = .ok o ∧
    o.language = p.language ∧ o.models = [m] ∧ m.allVars = [q] ∧ q.baseName = "_id" := by
  let node : Node := .object [("_id", .scalar "string")] [] none
  let r : Resolver := ⟨p, [("Pet", node)]⟩
  obtain ⟨q, made, name⟩ : ∃ q, r.property "_id" (.scalar "string") false = .ok q ∧
      q.baseName = "_id" := by
    simp [Resolver.property, Resolver.declare, Resolver.declareWithin, Resolver.baseType,
      Resolver.innermost, Resolver.containerOf, Node.scalar, bind, Except.bind]
  have properties : r.properties [("_id", .scalar "string")] [] = .ok [q] :=
    mapM_eq_ok_iff.2 (.cons made .nil)
  obtain ⟨m, hm⟩ : ∃ m, r.model "Pet" node = .ok m :=
    ⟨_, bind_eq_ok_iff.2 ⟨[q], properties, rfl⟩⟩
  have modelled : r.models = .ok [m] := mapM_eq_ok_iff.2 (.cons hm .nil)
  obtain ⟨-, root, -, vars⟩ := Resolver.model_cases hm
  rw [Resolver.contributed, properties, Except.ok.injEq] at vars
  refine ⟨r.output [m] [], r.markRecursive m, q.marked p.builtins m.className,
    describe_eq_ok_iff.2 ⟨_, rfl, _, modelled, [], rfl, rfl⟩, rfl, ?_, ?_, name⟩
  · unfold Resolver.output
    rw [reconcileModels_eq_map, List.map_singleton, List.map_singleton,
      Model.reconcileHierarchy_of_root root]
  · rw [r.markRecursive_eq, ← vars]
    rfl

/-- In Go the name of a property is another one if leading characters of parameters are kept. -/
theorem generate_keeping_underscored :
    ∃ out out', generate .go { preserveLeadingChar := false } underscored = .ok out ∧
      generate .go { preserveLeadingChar := true } underscored = .ok out' ∧
      out'.models ≠ out.models := by
  obtain ⟨o, m, q, described, language, models, vars, name⟩ :=
    exists_describe_underscored Language.go.profile
  let options : Options := {}
  have settings : Language.go.profile.withOptions { options with preserveLeadingChar := false } =
      .ok Language.go.profile := rfl
  have runs (keep : Bool) : generate .go { preserveLeadingChar := keep } underscored =
      .ok ((o.named (Language.go.profile.keeping keep)).decorated options) := by
    have run := generate_eq_named settings keep underscored
    rw [described] at run
    exact run
  have other : (Language.go.profile.keeping true).toIdentifier "_id" ≠
      (Language.go.profile.keeping false).toIdentifier "_id" := by
    decide +kernel
  have names (p : Profile) : (((o.named p).decorated options).models.map fun m =>
      m.allVars.map Property.name) = [[p.toIdentifier "_id"]] := by
    have goModels : ((o.named p).decorated options).models = (o.named p).models := by
      unfold Output.decorated
      rw [show (o.named p).language = .go from language]
      rfl
    rw [goModels, Output.named, models, List.map_singleton, List.map_singleton, Model.named, vars,
      List.map_singleton, List.map_singleton, Property.named, name]
  refine ⟨_, _, runs false, runs true, fun same => other ?_⟩
  have := names (Language.go.profile.keeping true)
  rw [same, names] at this
  simpa using this.symm

end OpenApiGen
