import OpenApiGen.Naming.Model
import OpenApiGen.Text.Symbol

/-!
Names and values of the cases of an enumeration, and names of enumeration types.
-/

namespace OpenApiGen

/-- One character with a backslash before it if it is a special one. -/
def escapeChar (special c : Char) : List Char :=
  if c = special then ['\\', c] else [c]

/-- Writes a backslash before each backslash, and then one before each quote. -/
def escapeQuote (quote : Char) (cs : List Char) : List Char :=
  (cs.flatMap (escapeChar '\\')).flatMap (escapeChar quote)

/-- The text of a number with its signs and its point spelled. -/
def spellSigns (minus plus dot value : String) : String :=
  Text.replaceChar '.' dot (Text.replaceChar '+' plus (Text.replaceChar '-' minus value))

namespace Profile

/-- The case of a value, as a constant with spelled signs. -/
def spelledConstant (p : Profile) (value dataType : String) : String :=
  if p.isNumericType dataType then spellSigns "MINUS_" "PLUS_" "_DOT_" value
  else match Text.symbolName? value with
    | some symbol => Text.toUppercase symbol
    | none =>
      let upper := Text.sanitize (Text.toUppercase (Text.toSnake value))
      let noStart := (Text.stripStart? "_" upper).getD upper
      let name := (Text.stripEnd? "_" noStart).getD noStart
      if p.isReserved name || Text.startsWithDigit name then p.escapeReserved name else name

/-- Whether a value already has the shape of a camel-case name: `PlacedOrder`. -/
def isCamelShaped (value : String) : Bool :=
  match value.toList with
  | first :: second :: rest =>
    first.isUpper && (second.isLower || second.isDigit) && rest.all Char.isAlphanum
  | _ => false

/-- The case of a value, in camel case with spelled signs. -/
def spelledCamel (p : Profile) (value dataType : String) : String :=
  if p.isNumericType dataType then
    "number" ++ Text.toUpperCamel (spellSigns "minus_" "plus_" "_dot_" value)
  else
    let digits := value.toList.takeWhile Char.isDigit
    if !digits.isEmpty then
      let rest := value.toList.dropWhile Char.isDigit
      "_" ++ .ofList digits ++ Text.toLowerCamel (.ofList rest)
    else match Text.symbolName? value with
      | some symbol => Text.toLowerCamel (Text.toLowercase symbol)
      | none =>
        let shaped := isCamelShaped value
        let name := if shaped then Text.toLowerCamel value else value
        let lower := Text.toLowercase name
        if p.isReserved lower then p.escapeReserved lower
        else if shaped then name
        else Text.toLowerCamel (Text.toLowercase value)

/-- The case of a value in capitals: all that no word holds becomes an underscore. -/
def upperUnderscore (value : String) : String :=
  match Text.symbolName? value with
  | some symbol => Text.toUppercase symbol
  | none =>
    let isWord c := Text.isAlphanumeric c || c = '_'
    let name := Text.toUppercase (.ofList (Text.collapseChars isWord false value.toList))
    if Text.startsWithDigit name then "_" ++ name else name

/-- The name of the case of a value whose type is `dataType`. -/
def toEnumCase (p : Profile) (value dataType : String) : String :=
  if value = "" then p.rules.emptyEnumCase
  else match p.rules.enumCase with
    | .spelledConstant => p.spelledConstant value dataType
    | .spelledCamel => p.spelledCamel value dataType
    | .identifier =>
      match Text.symbolName? value with
      | some symbol => Text.toUppercase symbol
      | none => p.toIdentifier value
    | .upperUnderscore => upperUnderscore value

/-- The literal of a value whose type is `dataType`. Numbers and truth values are bare; any other
value stands between quotes if the profile has one. -/
def toEnumValue (p : Profile) (value dataType : String) : String :=
  if p.isNumericType dataType || p.isBooleanType dataType then value
  else match p.rules.enumValueQuote with
    | some quote => .ofList (quote :: (escapeQuote quote value.toList ++ [quote]))
    | none => value

/-- The name of the type of an enumeration that a property declares. -/
def toEnumName (p : Profile) (property : String) : String :=
  match p.rules.enumType with
  | .upperSnake =>
    let name := Text.toUpperSnake (p.toModelName property)
    if Text.startsWithDigit name then "_" ++ name else name
  | .modelName =>
    let name := p.toModelName property
    if p.isReserved name || p.toIdentifier property = name then name ++ "Enum" else name
  | .camelSuffix => Text.toUpperCamel (Text.sanitize property) ++ "Enum"

end Profile

end OpenApiGen
