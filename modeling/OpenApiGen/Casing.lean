import OpenApiGen.Text.Words

/-!
Casing styles of identifiers.
-/

namespace OpenApiGen

/-- How the words of an identifier are joined. -/
inductive Casing
  | upperCamel
  | lowerCamel
  | snake
  | unchanged
  deriving DecidableEq, Repr

namespace Casing

/-- The name written in the style. `unchanged` leaves it as it is. -/
def apply : Casing → String → String
  | upperCamel => Text.toUpperCamel
  | lowerCamel => Text.toLowerCamel
  | snake => Text.toSnake
  | unchanged => id

/-- The name of the style, written in the style. -/
def name : Casing → String
  | upperCamel => "PascalCase"
  | lowerCamel => "camelCase"
  | snake => "snake_case"
  | unchanged => "original"

/-- The styles by all their names: `camelUpper`, `camelLower` and `snake` are second names. -/
def names : List (String × Casing) :=
  [("PascalCase", upperCamel), ("camelUpper", upperCamel), ("camelCase", lowerCamel),
    ("camelLower", lowerCamel), ("snake_case", snake), ("snake", snake), ("original", unchanged)]

/-- The style of a name. -/
def parse? (s : String) : Option Casing :=
  names.lookup s

end Casing

end OpenApiGen
