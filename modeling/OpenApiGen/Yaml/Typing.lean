import OpenApiGen.Tree
import OpenApiGen.Yaml.Node

/-!
What YAML scalars mean. A plain scalar is null, a truth value, a number or a text, by its form; any
other scalar is a text. A place that is for one type reads a scalar by rules of its own.
-/

namespace OpenApiGen.Yaml

/-- Whether a plain scalar spells null. -/
def isNullWord (s : String) : Bool :=
  ["null", "Null", "NULL", "~"].contains s

/-- The truth value that a plain scalar spells. -/
def boolWord? (s : String) : Option Bool :=
  if ["true", "True", "TRUE"].contains s then some true
  else if ["false", "False", "FALSE"].contains s then some false
  else none

/-- The value of a digit in a base up to 16. -/
def digit? (base : Nat) (c : Char) : Option Nat :=
  let value :=
    if c.isDigit then c.toNat - '0'.toNat
    else if 'a' ≤ c ∧ c ≤ 'f' then c.toNat - 'a'.toNat + 10
    else if 'A' ≤ c ∧ c ≤ 'F' then c.toNat - 'A'.toNat + 10
    else 16
  if value < base then some value else none

/-- The number that digits of a base spell, if there is at least one. -/
def natural? (base : Nat) (cs : List Char) : Option Nat :=
  if cs.isEmpty then none
  else cs.foldlM (fun n c => (digit? base c).map fun d => n * base + d) 0

/-- The magnitude of an integer: hexadecimal, octal or binary after its mark, or decimal without a
zero in front. -/
def magnitude? (cs : List Char) : Option Nat :=
  match cs with
  | '0' :: 'x' :: digits => natural? 16 digits
  | '0' :: 'o' :: digits => natural? 8 digits
  | '0' :: 'b' :: digits => natural? 2 digits
  | '0' :: _ :: _ => none
  | cs => natural? 10 cs

/-- The integer that a plain scalar spells. -/
def integer? (cs : List Char) : Option Int :=
  match cs with
  | '-' :: rest => (magnitude? rest).map fun n => -(n : Int)
  | '+' :: rest => (magnitude? rest).map fun n => (n : Int)
  | rest => (magnitude? rest).map fun n => (n : Int)

/-- Zeros followed by more digits: no number, but a text. -/
def isPaddedNumber (cs : List Char) : Bool :=
  let unsigned := match cs with
    | '-' :: rest | '+' :: rest => rest
    | cs => cs
  match unsigned with
  | '0' :: rest => !rest.isEmpty && rest.all Char.isDigit
  | _ => false

/-- The exponent of a decimal number, from what follows its digits. -/
def decimalExponent? (cs : List Char) : Option Int :=
  match cs with
  | [] => some 0
  | 'e' :: '-' :: digits | 'E' :: '-' :: digits => (natural? 10 digits).map fun n => -(n : Int)
  | 'e' :: '+' :: digits | 'E' :: '+' :: digits => (natural? 10 digits).map fun n => (n : Int)
  | 'e' :: digits | 'E' :: digits => (natural? 10 digits).map fun n => (n : Int)
  | _ => none

/-- The finite number that a decimal without a leading plus sign spells. A digit may be missing
before or behind the point, not on both sides. -/
def decimal? (cs : List Char) : Option Double := do
  let (negative, cs) := match cs with
    | '-' :: rest => (true, rest)
    | cs => (false, cs)
  let whole := cs.takeWhile Char.isDigit
  let cs := cs.dropWhile Char.isDigit
  let (places, cs) := match cs with
    | '.' :: rest => (rest.takeWhile Char.isDigit, rest.dropWhile Char.isDigit)
    | cs => ([], cs)
  let digits ← natural? 10 (whole ++ places)
  let exponent ← decimalExponent? cs
  Double.ofDecimal? negative digits (exponent - places.length)

/-- The floating-point number that a plain scalar spells. -/
def float? (s : String) : Option Atom :=
  if [".inf", ".Inf", ".INF", "+.inf", "+.Inf", "+.INF", "-.inf", "-.Inf", "-.INF", ".nan", ".NaN",
    ".NAN"].contains s then some .nonFinite
  else
    match s.toList with
    | '+' :: '+' :: _ | '+' :: '-' :: _ => none
    | '+' :: rest => (decimal? rest).map fun x => .number (.double x)
    | cs => (decimal? cs).map fun x => .number (.double x)

/-- The value of an integer: it has one if it fits 64 bits, signed or not. -/
def integerValue (n : Int) : Option Atom :=
  if -(twoTo 63 : Int) ≤ n ∧ n < twoTo 64 then some (.number (.int n)) else none

/-- Whether an integer counts as such at all: beyond 128 bits it is a floating-point number. -/
def isInteger (n : Int) : Bool :=
  decide (-(twoTo 127 : Int) ≤ n) && decide (n < twoTo 128)

/-- The value of a plain scalar. -/
def plainValue (s : String) : Option Atom :=
  if s = "" || isNullWord s then some .null
  else
    match boolWord? s with
    | some b => some (.bool b)
    | none =>
      match (integer? s.toList).filter isInteger with
      | some n => integerValue n
      | none =>
        if isPaddedNumber s.toList then some (.text s)
        else some ((float? s).getD (.text s))

namespace Scalar

/-- Whether a plain scalar stands for null. -/
def isNull (s : Scalar) : Bool :=
  s.style = .plain && (s.text = "" || isNullWord s.text)

/-- Whether a plain scalar stands for an empty container. -/
def isBlank (s : Scalar) : Bool :=
  s.style = .plain && s.text = ""

/-- The value of a scalar as if it had no tag. -/
def untaggedValue (s : Scalar) : Option Atom :=
  if s.style = .plain then plainValue s.text else some (.text s.text)

/-- The value of a scalar where a value of any type may stand. A tag can ask for one type; with a
name of the document's own it is refused, with any other it makes a text. -/
def value? (s : Scalar) : Option Atom :=
  match s.tag with
  | none => s.untaggedValue
  | some tag =>
    if tag = .core "bool" then (boolWord? s.text).map .bool
    else if tag = .core "int" then ((integer? s.text.toList).filter isInteger).bind integerValue
    else if tag = .core "float" then float? s.text
    else if tag = .core "null" then if isNullWord s.text then some .null else none
    else if tag.ownName?.isSome then none
    else if tag.isOwn then s.untaggedValue
    else some (.text s.text)

/-- The truth value of a scalar where nothing else may stand. A literal block counts only under the
tag of truth values. -/
def flag? (s : Scalar) : Option Bool :=
  if s.style = .plain || (s.style = .literal && s.tag = some (.core "bool")) then boolWord? s.text
  else none

/-- The name that a scalar gives where the name of a constant may stand: a tag of the document's own
on nothing, or else the text. -/
def name? (s : Scalar) : Option String :=
  match s.tag.bind Tag.ownName? with
  | some name => if s.isNull then some name else none
  | none => some s.text

/-- Whether a scalar is something where there may be nothing. The tag of null has to stand on
null. -/
def isGiven? (s : Scalar) : Option Bool :=
  if s.style ≠ .plain then some true
  else
    match s.tag with
    | none => some !s.isNull
    | some tag =>
      if tag ≠ .core "null" then some true
      else if isNullWord s.text then some false
      else none

end Scalar

end OpenApiGen.Yaml
