import OpenApiGen.Dict
import OpenApiGen.Number.Double

/-!
JSON values and their text.
-/

namespace OpenApiGen

/-- A JSON number: an integer that fits 64 bits, signed or not, or a floating-point number. -/
inductive Number
  | int (n : Int)
  | double (x : Double)
  deriving DecidableEq, Repr

/-- A JSON value. The members of an object keep their order. -/
inductive Json
  | null
  | bool (b : Bool)
  | number (n : Number)
  | text (s : String)
  | array (items : List Json)
  | object (members : List (String × Json))
  deriving Repr

namespace Number

/-- Digits with a point behind the first one, if there are more. -/
def pointed : List Char → List Char
  | [] => []
  | [d] => [d]
  | d :: rest => d :: '.' :: rest

/-- A floating-point number with the fewest digits that read back. It is written positionally, with
at least one place, if its leading digit stands at an exponent from -5 to 15, and else with a signed
exponent. -/
def doubleText (x : Double) : String :=
  let sign := if x.negative then ['-'] else []
  if x.mantissa = 0 then .ofList (sign ++ ['0', '.', '0'])
  else
    let (digits, last) := x.shortest
    let ds := Nat.toDigits 10 digits
    let ds := (ds.reverse.dropWhile (· = '0')).reverse
    let lead : Int := last + (Nat.toDigits 10 digits).length - 1
    let body :=
      if 15 < lead then pointed ds ++ ['e', '+'] ++ Nat.toDigits 10 lead.toNat
      else if lead < -5 then pointed ds ++ ['e', '-'] ++ Nat.toDigits 10 (-lead).toNat
      else if lead < 0 then
        ['0', '.'] ++ List.replicate ((-lead).toNat - 1) '0' ++ ds
      else
        let whole := lead.toNat + 1
        let padded := ds ++ List.replicate (whole - ds.length) '0'
        let places := padded.drop whole
        padded.take whole ++ ['.'] ++ (if places.isEmpty then ['0'] else places)
    .ofList (sign ++ body)

/-- The text of a number. -/
def toText : Number → String
  | int n => toString n
  | double x => doubleText x

end Number

namespace Json

/-- Two lower-case hexadecimal digits. -/
def hexPair (n : Nat) : List Char :=
  let digits := Nat.toDigits 16 n
  List.replicate (2 - digits.length) '0' ++ digits

/-- One character inside a string. Quotes, backslashes and controls are escaped. -/
def escapeChar (c : Char) : List Char :=
  match c with
  | '"' => ['\\', '"']
  | '\\' => ['\\', '\\']
  | '\x08' => ['\\', 'b']
  | '\x0c' => ['\\', 'f']
  | '\n' => ['\\', 'n']
  | '\r' => ['\\', 'r']
  | '\t' => ['\\', 't']
  | c => if c.toNat < 32 then ['\\', 'u', '0', '0'] ++ hexPair c.toNat else [c]

/-- A string with its quotes. -/
def quote (s : String) : String :=
  .ofList ('"' :: (s.toList.flatMap escapeChar ++ ['"']))

mutual

/-- The text of a value without any blanks. -/
def compact : Json → String
  | null => "null"
  | bool b => if b then "true" else "false"
  | number n => n.toText
  | text s => quote s
  | array items => "[" ++ ",".intercalate (compactItems items) ++ "]"
  | object members => "\x7b" ++ ",".intercalate (compactMembers members) ++ "\x7d"

/-- The texts of the items of an array. -/
def compactItems : List Json → List String
  | [] => []
  | item :: rest => compact item :: compactItems rest

/-- The texts of the members of an object. -/
def compactMembers : List (String × Json) → List String
  | [] => []
  | (key, value) :: rest => (quote key ++ ":" ++ compact value) :: compactMembers rest

end

/-- A new line with an indentation of two blanks for each level. -/
def newline (level : Nat) : String :=
  .ofList ('\n' :: List.replicate (2 * level) ' ')

/-- Parts of a container, one on each line. Without parts nothing stands between the brackets. -/
def block (level : Nat) (opening closing : String) (parts : List String) : String :=
  if parts.isEmpty then opening ++ closing
  else
    opening ++ newline (level + 1) ++ ("," ++ newline (level + 1)).intercalate parts ++
      newline level ++ closing

mutual

/-- The text of a value that stands at a level, with each part on its own line. -/
def prettyAt (level : Nat) : Json → String
  | null => "null"
  | bool b => if b then "true" else "false"
  | number n => n.toText
  | text s => quote s
  | array items => block level "[" "]" (prettyItems (level + 1) items)
  | object members => block level "\x7b" "\x7d" (prettyMembers (level + 1) members)

/-- The texts of the items of an array. -/
def prettyItems (level : Nat) : List Json → List String
  | [] => []
  | item :: rest => prettyAt level item :: prettyItems level rest

/-- The texts of the members of an object. -/
def prettyMembers (level : Nat) : List (String × Json) → List String
  | [] => []
  | (key, value) :: rest => (quote key ++ ": " ++ prettyAt level value) :: prettyMembers level rest

end

/-- The text of a value with each part on its own line, indented by two blanks a level. -/
def pretty (value : Json) : String :=
  prettyAt 0 value

/-- Puts a member where its key belongs in ascending order; a key that is there takes the new
value. -/
def insertSorted (key : String) (value : Json) : List (String × Json) → List (String × Json)
  | [] => [(key, value)]
  | (k, v) :: rest =>
    if key = k then (key, value) :: rest
    else if key < k then (key, value) :: (k, v) :: rest
    else (k, v) :: insertSorted key value rest

end Json

end OpenApiGen
