import OpenApiGen.Output
import OpenApiGen.Text.Words

/-!
What descriptors need in addition for Go: exported names, wrappers of optional parameters, and
methods spelled like the functions of the HTTP package.
-/

namespace OpenApiGen.Decoration

/-- The name of the wrapper of an optional value. -/
def optionalDataType (dataType : String) : String :=
  if dataType = "time.Time" then "Time" else Text.upperFirst dataType

/-- A parameter with its exported name and, if it is optional, its wrapper. -/
def goParameter (p : OperationParameter) : OperationParameter :=
  { p with
    exportName := some (Text.upperFirst p.paramName)
    optionalDataType :=
      if p.required then p.optionalDataType else some (optionalDataType p.dataType) }

/-- The result of a run, decorated for Go. -/
def go (o : Output) : Output :=
  { o with
    operations := o.operations.map fun op =>
      { op with
        httpMethod := Text.toUpperCamel (Text.toLowercase op.httpMethod)
        parameters := op.parameters.map goParameter } }

end OpenApiGen.Decoration
