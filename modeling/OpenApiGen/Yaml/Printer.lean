import OpenApiGen.Text.Split
import OpenApiGen.Yaml.Typing

/-!
Writing of values as YAML. Containers are written in lines, and the items of a list stand under the
key of the list without indentation. A text is plain if it then reads as the same text; else it is
in quotes, and one of several lines is a literal block.
-/

namespace OpenApiGen.Yaml

/-! ### What a text may be written as -/

/-- Whether a character ends a line. -/
def endsLine (c : Char) : Bool :=
  c = '\n' || c = '\r' || c = '\x85' || c = '\u2028' || c = '\u2029'

/-- Whether a character may stand unescaped: it is no control character and no byte order mark. -/
def isPrintable (c : Char) : Bool :=
  let n := c.toNat
  c = '\n' || (32 ≤ n && n ≤ 126) || (0xa0 ≤ n && n ≤ 0xfffd && n ≠ 0xfeff) || 0x10000 ≤ n

/-- Whether a character separates words or lines. -/
def separates (c : Char) : Bool :=
  c = ' ' || c = '\t' || endsLine c

/-- Whether characters of two kinds stand side by side. -/
def hasPair (p q : Char → Bool) : List Char → Bool
  | c :: d :: rest => (p c && q d) || hasPair p q (d :: rest)
  | _ => false

/-- Whether a condition holds of a character that comes last. -/
def lastIs (p : Char → Bool) (cs : List Char) : Bool :=
  cs.getLast?.any p

/-- Whether characters would read as an indicator if they stood without quotes. -/
def looksLikeIndicator (cs : List Char) : Bool :=
  let first := match cs with
    | '-' :: '-' :: '-' :: _ | '.' :: '.' :: '.' :: _ => true
    | c :: rest =>
      "#,[]\x7b\x7d&*!|>'\"%@\x60".toList.contains c ||
        (['?', '-'].contains c && (rest.head?.map separates).getD true)
    | [] => false
  first || hasPair (· = ':') separates cs || lastIs (· = ':') cs || hasPair separates (· = '#') cs

/-- Whether a text can stand without quotes and is the same text when it is read. -/
def isPlainText (s : String) : Bool :=
  let cs := s.toList
  plainValue s = some (.text s) && !isPaddedNumber cs && cs.all isPrintable && !cs.any endsLine &&
    !cs.head?.any (· = ' ') && !lastIs (· = ' ') cs && !looksLikeIndicator cs

/-- Whether every character can stand in single quotes. -/
def fitsQuotes (cs : List Char) : Bool :=
  cs.all isPrintable && !hasPair endsLine (· = ' ') cs && !hasPair (· = ' ') endsLine cs

/-- Whether every character can stand in a literal block. -/
def fitsBlock (cs : List Char) : Bool :=
  cs.all isPrintable && !hasPair (· = ' ') endsLine cs && !lastIs (· = ' ') cs

/-! ### The written forms -/

/-- A text in single quotes. A quote inside is written twice. -/
def singleQuoted (s : String) : String :=
  "'" ++ Text.replaceChar '\'' "''" s ++ "'"

/-- The number in hexadecimal digits, padded with zeros. -/
def hexDigits (width n : Nat) : List Char :=
  let digits := (Nat.toDigits 16 n).map Char.toUpper
  List.replicate (width - digits.length) '0' ++ digits

/-- One character in double quotes. -/
def escapeChar (c : Char) : List Char :=
  match c with
  | '\x00' => ['\\', '0']
  | '\x07' => ['\\', 'a']
  | '\x08' => ['\\', 'b']
  | '\t' => ['\\', 't']
  | '\n' => ['\\', 'n']
  | '\x0b' => ['\\', 'v']
  | '\x0c' => ['\\', 'f']
  | '\r' => ['\\', 'r']
  | '\x1b' => ['\\', 'e']
  | '"' => ['\\', '"']
  | '\\' => ['\\', '\\']
  | '\x85' => ['\\', 'N']
  | '\u2028' => ['\\', 'L']
  | '\u2029' => ['\\', 'P']
  | c =>
    if isPrintable c then [c]
    else if c.toNat ≤ 0xff then '\\' :: 'x' :: hexDigits 2 c.toNat
    else if c.toNat ≤ 0xffff then '\\' :: 'u' :: hexDigits 4 c.toNat
    else '\\' :: 'U' :: hexDigits 8 c.toNat

/-- A text in double quotes. -/
def doubleQuoted (s : String) : String :=
  .ofList ('"' :: (s.toList.flatMap escapeChar ++ ['"']))

/-- Characters cut into lines, each with the break that ends it. -/
def cutLines : List Char → List (List Char)
  | [] => []
  | c :: rest =>
    if endsLine c then [c] :: cutLines rest
    else match cutLines rest with
      | line :: more => (c :: line) :: more
      | [] => [[c]]

/-- The mark of a literal block: whether its first line starts with a blank, and what to make of the
line breaks at its end. -/
def blockMark (cs : List Char) : String :=
  let hint := if cs.head?.any fun c => c = ' ' || endsLine c then "2" else ""
  let chomp :=
    match cs.reverse with
    | [] => "-"
    | last :: before =>
      if !endsLine last then "-"
      else if before.isEmpty || before.head?.any endsLine then "+"
      else ""
  "|" ++ hint ++ chomp

/-- A text on a line of its own or as a key. -/
def lineText (s : String) : String :=
  if isPlainText s then s
  else if fitsQuotes s.toList && !s.toList.contains '\n' then singleQuoted s
  else doubleQuoted s

/-- The lines of a text. The first one follows a key or a mark, the rest are indented. -/
def textLines (s : String) : List String :=
  let cs := s.toList
  if cs.contains '\n' && fitsBlock cs then
    let body := if lastIs endsLine cs then cs else cs ++ ['\n']
    (blockMark cs ++ "\n") :: (cutLines body).map .ofList
  else (cutLines ((lineText s).toList ++ ['\n'])).map .ofList

/-- A line in the indentation of what it belongs to. An empty line stays empty. -/
def indent (line : String) : String :=
  if line.toList.head?.any endsLine then line else "  " ++ line

/-- The lines of an item of a list. -/
def itemLines : List String → List String
  | [] => ["-\n"]
  | first :: rest => ("- " ++ first) :: rest.map indent

/-- The lines of a member with a key. The items of a list are not indented. -/
def memberLines (key : String) (value : Json) (lines : List String) : List String :=
  let key := lineText key
  match value, lines with
  | .array (_ :: _), lines => (key ++ ":\n") :: lines
  | .object (_ :: _), lines => (key ++ ":\n") :: lines.map indent
  | _, [] => [key ++ ":\n"]
  | _, first :: rest => (key ++ ": " ++ first) :: rest.map indent

mutual

/-- The lines of a value, each with the break that ends it. -/
def lines : Json → List String
  | .null => ["null\n"]
  | .bool b => [if b then "true\n" else "false\n"]
  | .number n => [n.toText ++ "\n"]
  | .text s => textLines s
  | .array [] => ["[]\n"]
  | .object [] => ["\x7b\x7d\n"]
  | .array (item :: rest) => itemLines (lines item) ++ linesOfItems rest
  | .object ((key, value) :: rest) => memberLines key value (lines value) ++ linesOfMembers rest

/-- The lines of the items of a list. -/
def linesOfItems : List Json → List String
  | [] => []
  | item :: rest => itemLines (lines item) ++ linesOfItems rest

/-- The lines of the members of a mapping. -/
def linesOfMembers : List (String × Json) → List String
  | [] => []
  | (key, value) :: rest => memberLines key value (lines value) ++ linesOfMembers rest

end

/-- The YAML text of a value. -/
def print (value : Json) : String :=
  String.join (lines value)

end OpenApiGen.Yaml
