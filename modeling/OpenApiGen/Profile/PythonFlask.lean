import OpenApiGen.Profile.Basic

/-!
The profile of Python with Flask.
-/

namespace OpenApiGen.Profile

def pythonPrimitives : List String := [
  "int", "float", "List", "Dict", "bool", "str", "datetime", "date", "file", "object", "byte",
  "bytearray", "binary_type"]

def pythonTypes : List (String × String) := [
  ("integer", "int"), ("float", "float"), ("number", "float"), ("BigDecimal", "float"),
  ("long", "int"), ("double", "float"), ("array", "List"), ("map", "Dict"), ("boolean", "bool"),
  ("string", "str"), ("date", "date"), ("DateTime", "datetime"), ("object", "object"),
  ("file", "file"), ("UUID", "str"), ("binary", "str"), ("byte", "bytearray"),
  ("ByteArray", "bytearray")]

/-- A decorator, keywords, then built-in types. -/
def pythonReserved : List String := [
  "property", "and", "del", "from", "not", "while", "as", "elif", "global", "or", "with",
  "assert", "else", "if", "pass", "yield", "break", "except", "import", "print", "class", "exec",
  "in", "raise", "continue", "finally", "is", "return", "def", "for", "lambda", "try", "self",
  "None", "True", "False", "nonlocal", "await", "async", "float", "int", "str", "date",
  "datetime"]

/-- Python with Flask: names are in snake case and have no leading underscore. -/
def pythonFlask : Profile where
  language := .pythonFlask
  types := .ofPairs pythonTypes
  builtins := { primitives := pythonPrimitives }
  naming := { reserved := .anyCase pythonReserved, casing := .snake }
  rules := {
    operationCasing := .snake
    allowedPropertyCasings := [.snake]
    allCaps := .lowercase
    stripLeadingUnderscores := true
    enumValueQuote := some '\x27'
    numericTypes := ["int", "float"]
    booleanTypes := ["bool"]
    modelFile := .snake
    apiSuffix := "Controller"
    defaultLiterals := some ⟨'\x27', "True", "False"⟩ }
  containers := { array := ⟨"List[", "]"⟩, map := ⟨"Dict[str, ", "]"⟩ }
  reconcile := .none

end OpenApiGen.Profile
