import OpenApiGen.Model.Basic

/-!
Descriptors of operations and their parameters, as templates use them.
-/

namespace OpenApiGen

/-- Where a parameter is passed. -/
inductive Location
  | path
  | query
  | header
  | cookie
  | body
  | form
  deriving DecidableEq, Repr

/-- A parameter of an operation. -/
structure OperationParameter where
  /-- The name in the document. -/
  baseName : String
  paramName : String
  dataType : String := ""
  /-- The type without containers. -/
  baseType : String := ""
  location : Option Location := none
  required : Bool := false
  container : Option Container := none
  isEnum : Bool := false
  enumValues : List String := []
  firstEnumValue : Option String := none
  isPrimitive : Bool := false
  pattern : Option String := none
  /-- Another parameter follows. -/
  hasMore : Bool := false
  /-- JavaScript: another required parameter follows. -/
  hasMoreRequired : Bool := false
  /-- JavaScript: another optional parameter follows. -/
  hasMoreOptional : Bool := false
  /-- Go: the name with its first letter in upper case. -/
  exportName : Option String := none
  /-- Go: the name of the wrapper for an optional parameter. -/
  optionalDataType : Option String := none
  /-- Swift: the type is an optional scalar. -/
  isOptionalScalar : Bool := false
  /-- Python: the pattern with its flags. -/
  regex : Option Regex := none
  /-- JavaScript: the type in documentation comments. -/
  jsdocType : Option String := none
  deriving DecidableEq, Repr

/-- An operation of a path. -/
structure Operation where
  operationId : String
  /-- The name in the document, if it has one. -/
  declaredId : Option String := none
  httpMethod : String := ""
  path : String := ""
  tags : List String := []
  summary : Option String := none
  parameters : List OperationParameter := []
  returnType : Option String := none
  /-- The returned type without containers. -/
  returnBaseType : Option String := none
  returnContainer : Option Container := none
  hasRequiredParams : Bool := false
  deprecated : Bool := false
  /-- JavaScript: the arguments of the generated method. -/
  argList : Option String := none
  /-- JavaScript: the returned type in documentation comments. -/
  jsdocType : Option String := none
  /-- Python: the module of the controller. -/
  controller : Option String := none
  deriving DecidableEq, Repr

end OpenApiGen
