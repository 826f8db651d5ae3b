import OpenApiGen.Output
import OpenApiGen.Profile.JavaScript
import OpenApiGen.Text.Split

/-!
What descriptors need in addition for JavaScript: types of documentation comments, the list of
arguments, and the ends of the runs of required and of optional parameters.
-/

namespace OpenApiGen.Decoration

/-- What stands between an opening and a closing text, if a text begins and ends so. -/
def between? (opening closing : List Char) (cs : List Char) : Option (List Char) := do
  let rest ← Text.dropStart? opening cs
  let rest ← Text.dropStart? closing.reverse rest.reverse
  some rest.reverse

theorem length_of_between? {opening closing cs rest : List Char}
    (h : between? opening closing cs = some rest) :
    cs.length = opening.length + rest.length + closing.length := by
  simp only [between?, Option.bind_eq_bind, Option.bind_eq_some_iff, Option.some.injEq] at h
  obtain ⟨mid, h₁, last, h₂, rfl⟩ := h
  have := Text.length_of_dropStart? h₁
  have := Text.length_of_dropStart? h₂
  simp_all
  omega

/-- The type of a declaration in documentation comments: containers are spelled out, and all that is
not built in is a model. -/
def jsdocChars (declaration : List Char) : List Char :=
  match _array : between? ['['] [']'] declaration with
  | some inner => "Array.<".toList ++ jsdocChars inner ++ ['>']
  | none =>
    match _map : between? "\x7bString: ".toList ['\x7d'] declaration with
    | some inner => "Object.<String, ".toList ++ jsdocChars inner ++ ['>']
    | none =>
      if Profile.javascriptBuiltins.contains (.ofList declaration) then declaration
      else "module:model/".toList ++ declaration
termination_by declaration.length
decreasing_by
  · have := length_of_between? _array
    simp at this
    omega
  · have := length_of_between? _map
    simp at this
    omega

/-- The type of a declaration in documentation comments. -/
def jsdocType (declaration : String) : String :=
  .ofList (jsdocChars declaration.toList)

/-- The type of a property in documentation comments. An inline enumeration belongs to its model. -/
def propertyJsdocType (className : String) (p : Property) : String :=
  match p.isEnum, p.enumName with
  | true, some enumName => "module:model/" ++ className ++ "." ++ enumName
  | _, _ => jsdocType p.dataType

/-- The parameters with the ends of their runs: the last required and the last optional one have no
more of either kind, all others have more of both. -/
def markRuns : List OperationParameter → List OperationParameter
  | [] => []
  | p :: rest =>
    let more := rest.any fun q => q.required = p.required
    { p with hasMoreRequired := more, hasMoreOptional := more } :: markRuns rest

/-- The arguments of the generated method: the required parameters, then the options if any
parameter is optional. -/
def argList (params : List OperationParameter) : String :=
  let required := (params.filter (·.required)).map (·.paramName)
  ", ".intercalate (if params.any (!·.required) then required ++ ["opts"] else required)

/-- The result of a run, decorated for JavaScript. -/
def javascript (o : Output) : Output :=
  { o with
    models := o.models.map fun m =>
      { m with
        ownProperties := m.ownProperties.map fun p =>
          { p with jsdocType := some (propertyJsdocType m.className p) } }
    operations := o.operations.map fun op =>
      { op with
        argList := some (argList op.parameters)
        parameters := (markRuns op.parameters).map fun p =>
          { p with jsdocType := some (jsdocType p.dataType) }
        jsdocType := op.returnType.map jsdocType } }

end OpenApiGen.Decoration
