import OpenApiGen.Json.Basic
import OpenApiGen.Language
import OpenApiGen.Operation.Basic

/-!
The result of a run, and its form as JSON. Members come in a fixed order, and one that is empty or
absent is left out where templates do not need it.
-/

namespace OpenApiGen

/-- All that a run generates. -/
structure Output where
  language : Language
  models : List Model
  operations : List Operation
  deriving DecidableEq, Repr

namespace Output

/-- The model of a component. -/
def model? (o : Output) (name : String) : Option Model :=
  o.models.find? fun m => m.name = name

/-- The operation of a name. -/
def operation? (o : Output) (id : String) : Option Operation :=
  o.operations.find? fun op => op.operationId = id

end Output

/-- A member of an object, if it has a value. -/
abbrev Member := Option (String × Json)

namespace Member

/-- A member with a text. -/
def text (name value : String) : Member :=
  some (name, .text value)

/-- A member with a truth value. -/
def bool (name : String) (value : Bool) : Member :=
  some (name, .bool value)

/-- A member with a list. -/
def list {α : Type} (name : String) (encode : α → Json) (values : List α) : Member :=
  some (name, .array (values.map encode))

/-- A member that may be absent. -/
def optional {α : Type} (name : String) (encode : α → Json) (value : Option α) : Member :=
  value.map fun a => (name, encode a)

/-- A member that is absent if its list is empty. -/
def nonempty {α : Type} (name : String) (encode : α → Json) (values : List α) : Member :=
  if values.isEmpty then none else list name encode values

/-- The object of the members that are there. -/
def object (members : List Member) : Json :=
  .object (members.filterMap id)

end Member

/-- The kind of a container as JSON. -/
def Container.toJson : Container → Json
  | array => .text "array"
  | map => .text "map"

/-- The case of an enumeration as JSON. -/
def EnumCase.toJson (c : EnumCase) : Json :=
  Member.object [.text "name" c.name, .text "value" c.value]

/-- A regular expression as JSON. -/
def Regex.toJson (r : Regex) : Json :=
  Member.object [.text "regex" r.body, .list "modifiers" .text r.modifiers]

/-- A property as JSON. -/
def Property.toJson (p : Property) : Json :=
  Member.object [
    .text "base_name" p.baseName,
    .text "name" p.name,
    .text "data_type" p.dataType,
    .text "base_type" p.baseType,
    .optional "container" Container.toJson p.container,
    .bool "required" p.required,
    .bool "is_enum" p.isEnum,
    .optional "enum_name" .text p.enumName,
    .nonempty "enum_values" EnumCase.toJson p.enumValues,
    .optional "first_enum_value" .text p.firstEnumValue,
    .bool "is_primitive" p.isPrimitive,
    .bool "is_recursive_model" p.isRecursive,
    .optional "pattern" .text p.pattern,
    .optional "description" .text p.description,
    .optional "default_value" .text p.defaultValue,
    .bool "has_more" p.hasMore,
    .bool "has_more_required" p.hasMoreRequired,
    .bool "is_optional_scalar" p.isOptionalScalar,
    .bool "is_escaped_name" p.isEscapedName,
    .optional "regex" Regex.toJson p.regex,
    .optional "jsdoc_type" .text p.jsdocType]

/-- A model as JSON. -/
def Model.toJson (m : Model) : Json :=
  Member.object [
    .text "name" m.name,
    .text "class_name" m.className,
    .text "file_name" m.fileName,
    .optional "description" .text m.description,
    .optional "parent_name" .text m.parentName,
    .optional "parent_class" .text m.parentClass,
    .bool "is_enum" m.isEnum,
    .bool "is_alias" m.isAlias,
    .optional "container" Container.toJson m.container,
    .optional "data_type" .text m.dataType,
    .optional "item_type" .text m.itemType,
    .nonempty "enum_values" EnumCase.toJson m.enumValues,
    .list "own_properties" Property.toJson m.ownProperties,
    .nonempty "all_vars" Property.toJson m.allVars,
    .nonempty "parent_vars" Property.toJson m.parentVars,
    .list "required_vars" .text m.requiredVars,
    .bool "has_enums" m.hasEnums,
    .bool "has_escaped_property_names" m.hasEscapedPropertyNames]

/-- The place of a parameter as JSON. -/
def Location.toJson : Location → Json
  | path => .text "path"
  | query => .text "query"
  | header => .text "header"
  | cookie => .text "cookie"
  | body => .text "body"
  | form => .text "form"

/-- A parameter as JSON. -/
def OperationParameter.toJson (p : OperationParameter) : Json :=
  Member.object [
    .text "base_name" p.baseName,
    .text "param_name" p.paramName,
    .text "data_type" p.dataType,
    .text "base_type" p.baseType,
    some ("location", (p.location.map Location.toJson).getD .null),
    .bool "required" p.required,
    .optional "container" Container.toJson p.container,
    .bool "is_enum" p.isEnum,
    .nonempty "enum_values" .text p.enumValues,
    .optional "first_enum_value" .text p.firstEnumValue,
    .bool "is_primitive" p.isPrimitive,
    .optional "pattern" .text p.pattern,
    .bool "has_more" p.hasMore,
    .bool "has_more_required" p.hasMoreRequired,
    .bool "has_more_optional" p.hasMoreOptional,
    .optional "export_name" .text p.exportName,
    .optional "optional_data_type" .text p.optionalDataType,
    .bool "is_optional_scalar" p.isOptionalScalar,
    .optional "regex" Regex.toJson p.regex,
    .optional "jsdoc_type" .text p.jsdocType]

/-- An operation as JSON. -/
def Operation.toJson (o : Operation) : Json :=
  Member.object [
    .text "operation_id" o.operationId,
    .optional "original_id" .text o.declaredId,
    .text "http_method" o.httpMethod,
    .text "path" o.path,
    .nonempty "tags" .text o.tags,
    .optional "summary" .text o.summary,
    .list "parameters" OperationParameter.toJson o.parameters,
    .optional "return_type" .text o.returnType,
    .optional "return_base_type" .text o.returnBaseType,
    .optional "return_container" Container.toJson o.returnContainer,
    .bool "has_required_params" o.hasRequiredParams,
    .bool "deprecated" o.deprecated,
    .optional "arg_list" .text o.argList,
    .optional "jsdoc_type" .text o.jsdocType,
    .optional "controller" .text o.controller]

/-- The result of a run as JSON. -/
def Output.toJson (o : Output) : Json :=
  Member.object [
    .text "language" o.language.name,
    .list "models" Model.toJson o.models,
    .list "operations" Operation.toJson o.operations]

end OpenApiGen
