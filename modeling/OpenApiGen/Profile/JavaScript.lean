import OpenApiGen.Profile.Basic

/-!
The profile of JavaScript.
-/

namespace OpenApiGen.Profile

/-- Every built-in type is primitive and comes with the language. -/
def javascriptBuiltins : List String := [
  "String", "Boolean", "Number", "Array", "Object", "Date", "File", "Blob"]

def javascriptTypes : List (String × String) := [
  ("array", "Array"), ("map", "Object"), ("List", "Array"), ("boolean", "Boolean"),
  ("string", "String"), ("int", "Number"), ("float", "Number"), ("number", "Number"),
  ("BigDecimal", "Number"), ("DateTime", "Date"), ("date", "Date"), ("long", "Number"),
  ("short", "Number"), ("char", "String"), ("double", "Number"), ("object", "Object"),
  ("integer", "Number"), ("ByteArray", "Blob"), ("binary", "File"), ("binary", "Blob"),
  ("file", "File"), ("URI", "String"), ("UUID", "String")]

/-- Keywords, then global objects and their properties. -/
def javascriptReserved : List String := [
  "abstract", "arguments", "boolean", "break", "byte", "case", "catch", "char", "class", "const",
  "continue", "debugger", "default", "delete", "do", "double", "else", "enum", "eval", "export",
  "extends", "false", "final", "finally", "float", "for", "function", "goto", "if", "implements",
  "import", "in", "instanceof", "int", "interface", "let", "long", "native", "new", "null",
  "package", "private", "protected", "public", "return", "short", "static", "super", "switch",
  "synchronized", "this", "throw", "throws", "transient", "true", "try", "typeof", "var", "void",
  "volatile", "while", "with", "yield", "Array", "Date", "hasOwnProperty", "Infinity",
  "isFinite", "isNaN", "isPrototypeOf", "Math", "NaN", "Number", "Object", "prototype", "String",
  "toString", "undefined", "valueOf"]

/-- JavaScript: every casing is allowed. -/
def javascript : Profile where
  language := .javascript
  types := .ofPairs javascriptTypes
  builtins := { primitives := javascriptBuiltins, includes := javascriptBuiltins }
  naming := { reserved := .anyCase javascriptReserved, casing := .lowerCamel }
  rules := {
    loneUnderscore := some "_u"
    emptyEnumCase := "empty"
    enumCase := .identifier
    enumValueQuote := some '"'
    numericTypes := ["Number", "Integer"]
    booleanTypes := ["Boolean"]
    defaultLiterals := some ⟨'\x27', "true", "false"⟩ }
  containers := { array := ⟨"[", "]"⟩, map := ⟨"\x7bString: ", "\x7d"⟩ }
  reconcile := .inlineEnums

end OpenApiGen.Profile
