import OpenApiGen.Profile.Basic

/-!
The profile of Swift. Its two versions differ only in how descriptors are decorated.
-/

namespace OpenApiGen.Profile

def swiftPrimitives : List String := [
  "Int", "Int32", "Int64", "Float", "Double", "Bool", "Void", "String", "Character", "AnyObject",
  "Any"]

def swiftIncludes : List String := [
  "Data", "Date", "URL", "UUID", "Array", "Dictionary", "Set", "Any", "Empty", "AnyObject"]

def swiftTypes : List (String × String) := [
  ("array", "Array"), ("List", "Array"), ("map", "Dictionary"), ("date", "Date"),
  ("Date", "Date"), ("DateTime", "Date"), ("boolean", "Bool"), ("string", "String"),
  ("char", "Character"), ("short", "Int"), ("int", "Int"), ("long", "Int64"), ("integer", "Int"),
  ("Integer", "Int"), ("float", "Float"), ("number", "Double"), ("double", "Double"),
  ("object", "Any"), ("Object", "Any"), ("file", "URL"), ("binary", "Data"),
  ("ByteArray", "Data"), ("UUID", "UUID"), ("URI", "String"), ("BigDecimal", "Decimal")]

/-- Names of the client runtime and of Objective-C, keywords of declarations, statements,
expressions, patterns and directives, contextual keywords, then types of the standard library. -/
def swiftReserved : List String := [
  "ErrorResponse", "Response", "id", "description", "NSArray", "NSURL", "CGFloat", "NSSet",
  "NSString", "NSInteger", "NSUInteger", "NSError", "NSDictionary", "associatedtype", "class",
  "deinit", "enum", "extension", "fileprivate", "func", "import", "init", "inout", "internal",
  "let", "open", "operator", "private", "protocol", "public", "static", "struct", "subscript",
  "typealias", "var", "break", "case", "continue", "default", "defer", "do", "else",
  "fallthrough", "for", "guard", "if", "in", "repeat", "return", "switch", "where", "while",
  "as", "Any", "catch", "false", "is", "nil", "rethrows", "super", "self", "Self", "throw",
  "throws", "true", "try", "_", "#available", "#colorLiteral", "#column", "#else", "#elseif",
  "#endif", "#file", "#fileLiteral", "#function", "#if", "#imageLiteral", "#line", "#selector",
  "#sourceLocation", "associativity", "convenience", "dynamic", "didSet", "final", "get",
  "infix", "indirect", "lazy", "left", "mutating", "none", "nonmutating", "optional", "override",
  "postfix", "precedence", "prefix", "Protocol", "required", "right", "set", "Type", "unowned",
  "weak", "willSet", "Bool", "Int", "Double", "Float", "Range", "ClosedRange", "Error",
  "Optional", "UInt", "UInt8", "UInt16", "UInt32", "UInt64", "Int8", "Int16", "Int32", "Int64",
  "Float80", "Float32", "Float64", "String", "Character", "Unicode", "StaticString", "Array",
  "Dictionary", "Set", "OptionSet", "CountableRange", "CountableClosedRange", "URL", "Data",
  "Codable", "Encodable", "Decodable", "Void", "AnyObject", "Class", "dynamicType", "COLUMN",
  "FILE", "FUNCTION", "LINE"]

def swiftNumericTypes : List String := [
  "Int", "Int32", "Int64", "Float", "Double", "Decimal"]

/-- Swift: case matters, so `Type` is reserved and `type` is not. -/
def swift (version : Language) : Profile where
  language := version
  types := .ofPairs swiftTypes
  builtins := { primitives := swiftPrimitives, includes := swiftIncludes }
  naming := { reserved := .exact swiftReserved, casing := .lowerCamel }
  rules := {
    allowedPropertyCasings := [.lowerCamel]
    emptyEnumCase := "empty"
    enumCase := .spelledCamel
    enumType := .modelName
    numericTypes := swiftNumericTypes
    booleanTypes := ["Bool"]
    apiSuffix := "API" }
  containers := { array := ⟨"[", "]"⟩, map := ⟨"[String:", "]"⟩ }
  reconcile := .properties

end OpenApiGen.Profile
