import OpenApiGen.Profile.Basic

/-!
The profile of Go.
-/

namespace OpenApiGen.Profile

def goPrimitives : List String := [
  "string", "bool", "uint", "uint32", "uint64", "int", "int32", "int64", "float32", "float64",
  "complex64", "complex128", "rune", "byte"]

def goIncludes : List String := [
  "time.Time", "*os.File", "interface\x7b\x7d"]

def goTypes : List (String × String) := [
  ("integer", "int32"), ("long", "int64"), ("number", "float32"), ("float", "float32"),
  ("double", "float64"), ("BigDecimal", "float64"), ("boolean", "bool"), ("string", "string"),
  ("UUID", "string"), ("URI", "string"), ("date", "string"), ("DateTime", "time.Time"),
  ("password", "string"), ("File", "*os.File"), ("file", "*os.File"), ("binary", "*os.File"),
  ("ByteArray", "string"), ("object", "interface\x7b\x7d")]

/-- Keywords, then predeclared names. -/
def goReserved : List String := [
  "break", "case", "chan", "const", "continue", "default", "defer", "else", "fallthrough", "for",
  "func", "go", "goto", "if", "import", "interface", "map", "package", "range", "return",
  "select", "struct", "switch", "type", "var", "bool", "byte", "complex64", "complex128",
  "error", "float32", "float64", "int", "int8", "int16", "int32", "int64", "rune", "string",
  "uint", "uint8", "uint16", "uint32", "uint64", "uintptr", "true", "false", "iota", "nil",
  "append", "cap", "close", "complex", "copy", "delete", "imag", "len", "make", "new", "panic",
  "print", "println", "real", "recover"]

def goNumericTypes : List String := [
  "int", "int32", "int64", "uint", "uint32", "uint64", "float32", "float64"]

/-- Go: fields of a struct are exported, so properties are in upper camel case only. -/
def go : Profile where
  language := .go
  types := .ofPairs goTypes
  builtins := { primitives := goPrimitives, includes := goIncludes }
  naming := { reserved := .anyCase goReserved, casing := .upperCamel }
  rules := {
    paramCasing := some .lowerCamel
    operationCasing := .upperCamel
    allowedPropertyCasings := [.upperCamel]
    escape := .underscoreAfter
    leadingDigit := .marker "Var"
    enumCase := .spelledConstant
    enumType := .upperSnake
    numericTypes := goNumericTypes
    booleanTypes := ["bool"]
    modelFile := .prefixedSnake }
  containers := { array := ⟨"[]", ""⟩, map := ⟨"map[string]", ""⟩ }
  reconcile := .none

end OpenApiGen.Profile
