import OpenApiGen.Output

/-!
What descriptors need in addition for Swift: optional scalars, and in version 5 the names that need
a coding key. There a result of any type is none.
-/

namespace OpenApiGen.Decoration

/-- The types whose optional values are wrapped. -/
def swiftScalars : List String :=
  ["Int", "Int32", "Int64", "Float", "Double", "Bool"]

/-- Whether a value is an optional scalar. -/
def isOptionalScalar (dataType : String) (required unwrapRequired : Bool) : Bool :=
  (!unwrapRequired || !required) && swiftScalars.contains dataType

/-- A property with its flags for Swift. -/
def swiftProperty (version5 unwrapRequired : Bool) (p : Property) : Property :=
  { p with
    isOptionalScalar := isOptionalScalar p.dataType p.required unwrapRequired
    isEscapedName := if version5 then p.name ≠ p.baseName else p.isEscapedName }

/-- A model with the flags of its properties. -/
def swiftModel (version5 unwrapRequired : Bool) (m : Model) : Model :=
  let decorate := swiftProperty version5 unwrapRequired
  let allVars := m.allVars.map decorate
  { m with
    ownProperties := m.ownProperties.map decorate
    allVars
    parentVars := m.parentVars.map decorate
    hasEscapedPropertyNames :=
      if version5 then allVars.any Property.isEscapedName else m.hasEscapedPropertyNames }

/-- An operation with the flags of its parameters. -/
def swiftOperation (version5 unwrapRequired : Bool) (op : Operation) : Operation :=
  let op := { op with
    parameters := op.parameters.map fun p =>
      { p with isOptionalScalar := isOptionalScalar p.dataType p.required unwrapRequired } }
  if version5 && op.returnType = some "Any" then
    { op with returnType := none, returnBaseType := none, returnContainer := none }
  else op

/-- The result of a run, decorated for Swift. -/
def swift (version5 unwrapRequired : Bool) (o : Output) : Output :=
  { o with
    models := o.models.map (swiftModel version5 unwrapRequired)
    operations := o.operations.map (swiftOperation version5 unwrapRequired) }

end OpenApiGen.Decoration
