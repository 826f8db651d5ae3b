import OpenApiGen.Generation

/-!
# Decoration by parts

What a language needs in addition is added to each model by itself (`Output.models_decorated`), and
to each of its properties alike; only JavaScript treats own properties in a way of its own.  It is
added to each operation by itself as well (`Output.operations_decorated_eq_map`).
-/

namespace OpenApiGen

namespace Language

/-- A property with all that a language needs in addition. -/
def decorate (language : Language) (options : Options) : Property → Property :=
  match language with
  | .go | .javascript => id
  | .pythonFlask => Decoration.pythonProperty
  | .swift4 => Decoration.swiftProperty false options.unwrapRequired
  | .swift5 => Decoration.swiftProperty true options.unwrapRequired

/-- An own property with all that a language needs in addition: for JavaScript, its type in
documentation comments. -/
def decorateOwn (language : Language) (options : Options) (className : String) (p : Property) :
    Property :=
  match language with
  | .javascript => { p with jsdocType := some (Decoration.propertyJsdocType className p) }
  | _ => language.decorate options p

/-- A model with all that a language needs in addition. -/
def decorateModel (language : Language) (options : Options) (m : Model) : Model :=
  { m with
    ownProperties := m.ownProperties.map (language.decorateOwn options m.className)
    allVars := m.allVars.map (language.decorate options)
    parentVars := m.parentVars.map (language.decorate options)
    hasEscapedPropertyNames :=
      if language = .swift5 then
        (m.allVars.map (language.decorate options)).any Property.isEscapedName
      else m.hasEscapedPropertyNames }

/-- An operation with all that a language needs in addition. -/
def decorateOperation (language : Language) (options : Options) (op : Operation) : Operation :=
  match language with
  | .go =>
    { op with
      httpMethod := Text.toUpperCamel (Text.toLowercase op.httpMethod)
      parameters := op.parameters.map Decoration.goParameter }
  | .javascript =>
    { op with
      argList := some (Decoration.argList op.parameters)
      parameters := (Decoration.markRuns op.parameters).map fun p =>
        { p with jsdocType := some (Decoration.jsdocType p.dataType) }
      jsdocType := op.returnType.map Decoration.jsdocType }
  | .pythonFlask =>
    { op with
      controller := some (Decoration.controllerOf options.controllerPackage op.tags)
      parameters := op.parameters.map Decoration.pythonParameter }
  | .swift4 => Decoration.swiftOperation false options.unwrapRequired op
  | .swift5 => Decoration.swiftOperation true options.unwrapRequired op

end Language

namespace Output

@[simp] theorem language_decorated (o : Output) (options : Options) :
    (o.decorated options).language = o.language := by
  obtain ⟨language, models, operations⟩ := o
  cases language <;> rfl

@[simp] theorem models_decorated (o : Output) (options : Options) :
    (o.decorated options).models = o.models.map (o.language.decorateModel options) := by
  obtain ⟨language, models, operations⟩ := o
  cases language with
  | go =>
    refine (List.map_id models).symm.trans (List.map_congr_left fun m _ => ?_)
    dsimp only [Language.decorateModel]
    show m = { m with
      ownProperties := m.ownProperties.map id
      allVars := m.allVars.map id
      parentVars := m.parentVars.map id }
    rw [List.map_id, List.map_id, List.map_id]
  | javascript =>
    refine List.map_congr_left fun m _ => ?_
    dsimp only [Language.decorateModel, Language.decorate]
    rw [List.map_id, List.map_id]
    rfl
  | pythonFlask | swift4 | swift5 => rfl

@[simp] theorem operations_decorated_eq_map (o : Output) (options : Options) :
    (o.decorated options).operations = o.operations.map (o.language.decorateOperation options) := by
  obtain ⟨language, models, operations⟩ := o
  cases language <;> rfl

end Output

end OpenApiGen
