import OpenApiGen.Dict
import OpenApiGen.Error
import OpenApiGen.Options
import OpenApiGen.Text.CaseMapping

/-!
A profile says as data all that differs between target languages: types, built-in names, reserved
words, naming conventions and the spelling of containers.
-/

namespace OpenApiGen

/-- Abstract type names with the types that stand for them in a language. -/
structure TypeTable where
  entries : Dict String := []
  deriving DecidableEq, Repr

namespace TypeTable

/-- The table of a list of pairs; the last pair of a name counts. -/
def ofPairs (pairs : List (String × String)) : TypeTable :=
  ⟨Dict.ofEntries pairs⟩

/-- Maps one more name. -/
def insert (t : TypeTable) (abstract_ concrete : String) : TypeTable :=
  ⟨t.entries.insert abstract_ concrete⟩

/-- The type that an abstract name is mapped to. -/
def get? (t : TypeTable) (abstract_ : String) : Option String :=
  t.entries.get? abstract_

/-- Whether some name is mapped to this type. -/
def hasTarget (t : TypeTable) (concrete : String) : Bool :=
  t.entries.values.contains concrete

/-- The number of mapped names. -/
def size (t : TypeTable) : Nat :=
  t.entries.length

end TypeTable

/-- The types that a language has without any model. Only the `primitives` count as such in
descriptors; the `includes` come with the language's libraries. -/
structure Builtins where
  primitives : List String := []
  includes : List String := []
  deriving DecidableEq, Repr

namespace Builtins

/-- Whether a type is primitive. -/
def isPrimitive (b : Builtins) (name : String) : Bool :=
  b.primitives.contains name

/-- Whether a type needs no model. -/
def contains (b : Builtins) (name : String) : Bool :=
  b.primitives.contains name || b.includes.contains name

end Builtins

/-- The words that no generated name may be. -/
structure ReservedWords where
  /-- Each word once; in lower case when case does not matter. -/
  words : List String := []
  caseSensitive : Bool := false
  deriving DecidableEq, Repr

namespace ReservedWords

/-- Words that are matched exactly. -/
def exact (words : List String) : ReservedWords :=
  ⟨words.foldl (fun ws w => if ws.contains w then ws else ws ++ [w]) [], true⟩

/-- Words that are matched in any case. -/
def anyCase (words : List String) : ReservedWords :=
  ⟨(words.map Text.toLowercase).foldl (fun ws w => if ws.contains w then ws else ws ++ [w]) [],
    false⟩

/-- Whether a name is reserved. -/
def contains (r : ReservedWords) (name : String) : Bool :=
  r.words.contains (if r.caseSensitive then name else Text.toLowercase name)

end ReservedWords

/-- The part of naming that a user can change. -/
structure NamingConfig where
  reserved : ReservedWords
  reservedMappings : Dict String := []
  modelPrefix : Option String := none
  modelSuffix : Option String := none
  /-- Casing of properties and variables. -/
  casing : Casing
  deriving DecidableEq, Repr

/-- How a reserved word becomes a legal name when nothing else is said about it. -/
inductive Escape
  /-- An underscore before the name. -/
  | underscoreBefore
  /-- The name in its casing, then an underscore. -/
  | underscoreAfter
  deriving DecidableEq, Repr

/-- What happens to a name that consists of capitals and underscores. -/
inductive AllCaps
  | keep
  | lowercase
  deriving DecidableEq, Repr

/-- What happens to an identifier that starts with a digit. -/
inductive LeadingDigit
  /-- It is escaped like a reserved word. -/
  | escape
  /-- A word is put before it. -/
  | marker (word : String)
  deriving DecidableEq, Repr

/-- How the cases of an enumeration are named. -/
inductive EnumCaseStyle
  /-- Constants with spelled signs: `MINUS_1`, `DOLLAR`, `AVAILABLE`. -/
  | spelledConstant
  /-- Camel case with spelled signs: `numberMinus1`, `dollar`, `available`. -/
  | spelledCamel
  /-- Named like properties; symbols in capitals. -/
  | identifier
  /-- Capitals; all that no word holds becomes an underscore. -/
  | upperUnderscore
  deriving DecidableEq, Repr

/-- How the type of an inline enumeration is named after its property. -/
inductive EnumTypeStyle
  /-- `STATUS`. -/
  | upperSnake
  /-- `Status`, or `StatusEnum` where that name is taken. -/
  | modelName
  /-- `StatusEnum`. -/
  | camelSuffix
  deriving DecidableEq, Repr

/-- How the file of a model is named. -/
inductive ModelFileStyle
  | modelName
  | snake
  /-- `model_` and the name in snake case. -/
  | prefixedSnake
  deriving DecidableEq, Repr

/-- How default values are written. -/
structure DefaultLiterals where
  quote : Char
  trueLiteral : String
  falseLiteral : String
  deriving DecidableEq, Repr

/-- The fixed naming conventions of a language. -/
structure NamingRules where
  /-- Casing of parameters, if not that of properties. -/
  paramCasing : Option Casing := none
  operationCasing : Casing := .lowerCamel
  allowedPropertyCasings : List Casing := [.upperCamel, .lowerCamel, .snake, .unchanged]
  allCaps : AllCaps := .keep
  stripLeadingUnderscores : Bool := false
  /-- The identifier for a name of which a single underscore is left. -/
  loneUnderscore : Option String := none
  preserveLeadingChar : Bool := false
  escape : Escape := .underscoreBefore
  leadingDigit : LeadingDigit := .escape
  /-- What is put before a model name that is not legal. -/
  modelMarker : String := "Model"
  /-- The name of the case whose value is empty. -/
  emptyEnumCase : String := "EMPTY"
  enumCase : EnumCaseStyle := .upperUnderscore
  enumType : EnumTypeStyle := .camelSuffix
  /-- The quote around enumeration values, if there is one. -/
  enumValueQuote : Option Char := none
  numericTypes : List String := []
  booleanTypes : List String := []
  modelFile : ModelFileStyle := .modelName
  apiSuffix : String := "Api"
  /-- How default values are written; descriptors have none without it. -/
  defaultLiterals : Option DefaultLiterals := none
  deriving DecidableEq, Repr

/-- What a type is put between. -/
structure Brackets where
  opening : String
  closing : String
  deriving DecidableEq, Repr

/-- The type between its brackets. -/
def Brackets.wrap (b : Brackets) (inner : String) : String :=
  b.opening ++ inner ++ b.closing

/-- The spelling of container types. -/
structure Containers where
  array : Brackets
  map : Brackets
  deriving DecidableEq, Repr

/-- Which inherited members a model leaves to its parent. -/
inductive ReconcileMode
  /-- None: models stay flat. -/
  | none
  /-- The properties that the parent declares under the same name. -/
  | properties
  /-- The enumerations that the parent declares in the same way. -/
  | inlineEnums
  deriving DecidableEq, Repr

/-- Everything that a run needs to know about a language. -/
structure Profile where
  language : Language
  types : TypeTable
  builtins : Builtins
  naming : NamingConfig
  rules : NamingRules
  containers : Containers
  reconcile : ReconcileMode
  deriving DecidableEq, Repr

namespace Profile

/-- The casing of parameters. -/
def paramCasing (p : Profile) : Casing :=
  p.rules.paramCasing.getD p.naming.casing

/-- Whether a name is reserved. -/
def isReserved (p : Profile) (name : String) : Bool :=
  p.naming.reserved.contains name

/-- Whether enumeration values of a type are bare numbers. -/
def isNumericType (p : Profile) (dataType : String) : Bool :=
  p.rules.numericTypes.contains dataType

/-- Whether enumeration values of a type are bare truth values. -/
def isBooleanType (p : Profile) (dataType : String) : Bool :=
  p.rules.booleanTypes.contains dataType

/-- The affix that an option asks for; an empty one asks for nothing. -/
def affix? (requested : Option String) (current : Option String) : Option String :=
  match requested with
  | some a => if a = "" then current else some a
  | none => current

/-- The profile with the settings of a run. It fails when the language does not allow the casing. -/
def withOptions (p : Profile) (o : Options) : Except ConfigError Profile := do
  let casing ← match o.propertyCasing with
    | none => .ok p.naming.casing
    | some requested =>
      if p.rules.allowedPropertyCasings.contains requested then .ok requested
      else .error (.disallowedCasing p.language requested p.rules.allowedPropertyCasings)
  .ok { p with
    naming := { p.naming with
      modelPrefix := affix? o.modelPrefix p.naming.modelPrefix
      modelSuffix := affix? o.modelSuffix p.naming.modelSuffix
      reservedMappings :=
        o.reservedMappings.foldl (fun d e => d.insert e.1 e.2) p.naming.reservedMappings
      casing := casing }
    rules := { p.rules with
      preserveLeadingChar := p.rules.preserveLeadingChar || o.preserveLeadingChar } }

end Profile

end OpenApiGen
