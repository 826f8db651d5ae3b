import OpenApiGen.Dict

/-!
Descriptors of models and their properties, as templates use them.
-/

namespace OpenApiGen

/-- A kind of container. -/
inductive Container
  | array
  | map
  deriving DecidableEq, Repr

/-- A case of an enumeration: its name and its literal. -/
structure EnumCase where
  name : String
  value : String
  deriving DecidableEq, Repr

/-- A regular expression with the names of its flags. -/
structure Regex where
  body : String
  modifiers : List String
  deriving DecidableEq, Repr

/-- A property of a model. -/
structure Property where
  /-- The name in the document. -/
  baseName : String
  name : String
  dataType : String := ""
  /-- The type without containers. -/
  baseType : String := ""
  container : Option Container := none
  required : Bool := false
  isEnum : Bool := false
  enumName : Option String := none
  enumValues : List EnumCase := []
  firstEnumValue : Option String := none
  isPrimitive : Bool := false
  /-- The type is that of the model itself. -/
  isRecursive : Bool := false
  pattern : Option String := none
  description : Option String := none
  /-- The default value as a literal of the language. -/
  defaultValue : Option String := none
  /-- Another property follows. -/
  hasMore : Bool := false
  /-- The property is required and another required one follows. -/
  hasMoreRequired : Bool := false
  /-- Swift: the type is an optional scalar. -/
  isOptionalScalar : Bool := false
  /-- Swift 5: the name differs from the one in the document. -/
  isEscapedName : Bool := false
  /-- Python: the pattern with its flags. -/
  regex : Option Regex := none
  /-- JavaScript: the type in documentation comments. -/
  jsdocType : Option String := none
  deriving DecidableEq, Repr

/-- A property without the flags that depend on its position. -/
def Property.unordered (p : Property) : Property :=
  { p with hasMore := false, hasMoreRequired := false }

/-- Whether two properties agree in all but their position. -/
def Property.sameAs (p q : Property) : Bool :=
  p.unordered = q.unordered

/-- The properties with their positional flags. -/
def markOrdering : List Property → List Property
  | [] => []
  | p :: rest =>
    { p with
      hasMore := !rest.isEmpty
      hasMoreRequired := p.required && rest.any Property.required } :: markOrdering rest

/-- A model: the descriptor of a component schema. -/
structure Model where
  /-- The name of the component. -/
  name : String
  className : String
  fileName : String := ""
  description : Option String := none
  /-- The component that the model inherits from. -/
  parentName : Option String := none
  parentClass : Option String := none
  isEnum : Bool := false
  isAlias : Bool := false
  container : Option Container := none
  /-- The type that an alias or an enumeration stands for. -/
  dataType : Option String := none
  itemType : Option String := none
  enumValues : List EnumCase := []
  ownProperties : List Property := []
  /-- The own properties before inherited ones are taken away. -/
  allVars : List Property := []
  /-- All properties of the parent. -/
  parentVars : List Property := []
  requiredVars : List String := []
  hasEnums : Bool := false
  hasEscapedPropertyNames : Bool := false
  deriving DecidableEq, Repr

namespace Model

/-- The own properties that are enumerations. -/
def enumProperties (m : Model) : List Property :=
  m.ownProperties.filter Property.isEnum

/-- The model with all that follows from its own properties. -/
def refreshed (m : Model) : Model :=
  { m with
    ownProperties := markOrdering m.ownProperties
    hasEnums := m.ownProperties.any Property.isEnum
    requiredVars := (m.ownProperties.filter Property.required).map Property.baseName }

/-- A model whose properties have no positional flags. -/
def unordered (m : Model) : Model :=
  { m with
    ownProperties := m.ownProperties.map Property.unordered
    allVars := m.allVars.map Property.unordered
    parentVars := m.parentVars.map Property.unordered }

/-- Whether two models agree in all but the positions of their properties. -/
def sameAs (m n : Model) : Bool :=
  m.unordered = n.unordered

end Model

end OpenApiGen
