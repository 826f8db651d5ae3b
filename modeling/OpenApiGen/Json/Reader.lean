import OpenApiGen.Tree

/-!
Reading of JSON texts. The text is cut into tokens, and the tokens are put together with a stack of
open containers. A well-formed text always has a tree; what no place of a document accepts (a number
out of range, half of a surrogate pair, a container at level 128) is marked in it as unreadable.
-/

namespace OpenApiGen.Json

/-- The deepest level at which a container can be read. -/
def maxLevel : Nat := 127

/-! ## Strings -/

/-- The value of a hexadecimal digit. -/
def hexValue? (c : Char) : Option Nat :=
  if c.isDigit then some (c.toNat - '0'.toNat)
  else if 'a' ≤ c ∧ c ≤ 'f' then some (c.toNat - 'a'.toNat + 10)
  else if 'A' ≤ c ∧ c ≤ 'F' then some (c.toNat - 'A'.toNat + 10)
  else none

/-- The value of four hexadecimal digits. -/
def hexUnit? (a b c d : Char) : Option Nat := do
  let a ← hexValue? a
  let b ← hexValue? b
  let c ← hexValue? c
  let d ← hexValue? d
  some (((a * 16 + b) * 16 + c) * 16 + d)

/-- The character that a backslash and a letter stand for. -/
def escaped? : Char → Option Char
  | '"' => some '"'
  | '\\' => some '\\'
  | '/' => some '/'
  | 'b' => some '\x08'
  | 'f' => some '\x0c'
  | 'n' => some '\n'
  | 'r' => some '\r'
  | 't' => some '\t'
  | _ => none

/-- The rest of a string after its opening quote: its code points, in reverse order after those of
`acc`, and what follows the closing quote. An escape gives a code point that may be a surrogate. -/
def scanString : List Nat → List Char → Option (List Nat × List Char)
  | acc, '"' :: rest => some (acc, rest)
  | acc, '\\' :: 'u' :: a :: b :: c :: d :: rest =>
    match hexUnit? a b c d with
    | some n => scanString (n :: acc) rest
    | none => none
  | acc, '\\' :: e :: rest =>
    match escaped? e with
    | some c => scanString (c.toNat :: acc) rest
    | none => none
  | acc, c :: rest => if c.toNat < 32 ∨ c = '\\' then none else scanString (c.toNat :: acc) rest
  | _, [] => none

/-- The characters of code points in reverse order, before `acc`: surrogates are joined in pairs,
and there are none if one is left. -/
def joinSurrogates : List Char → List Nat → Option (List Char)
  | acc, [] => some acc
  | acc, low :: high :: rest =>
    if 0xdc00 ≤ low ∧ low < 0xe000 then
      if 0xd800 ≤ high ∧ high < 0xdc00 then
        joinSurrogates (Char.ofNat (0x10000 + (high - 0xd800) * 0x400 + (low - 0xdc00)) :: acc) rest
      else none
    else if 0xd800 ≤ low ∧ low < 0xdc00 then none
    else joinSurrogates (Char.ofNat low :: acc) (high :: rest)
  | acc, [n] => if 0xd800 ≤ n ∧ n < 0xe000 then none else some (Char.ofNat n :: acc)

/-- The tree of a string, from its code points in reverse order. -/
def stringTree (reversed : List Nat) : Tree :=
  match joinSurrogates [] reversed with
  | some cs => .atom (.text (.ofList cs))
  | none => .unreadable

theorem scanString_length {acc acc' : List Nat} {cs rest : List Char}
    (h : scanString acc cs = some (acc', rest)) : rest.length < cs.length := by
  fun_induction scanString acc cs with
  | case1 acc rest => simp_all
  | case2 acc a b c d rest n _ ih => have := ih h; simp only [List.length_cons]; omega
  | case3 => simp at h
  | case4 acc e rest _ c _ ih => have := ih h; simp only [List.length_cons]; omega
  | case5 => simp at h
  | case6 => simp at h
  | case7 acc c rest _ _ _ _ ih => have := ih h; simp only [List.length_cons]; omega
  | case8 => simp at h

/-! ## Numbers -/

/-- A number as it is written. -/
structure Numeral where
  negative : Bool
  whole : List Nat
  /-- The digits behind the point, if there is one. -/
  places : Option (List Nat)
  exponent : Option Int
  deriving DecidableEq, Repr

/-- The values of digits, if there is at least one and there is nothing else. -/
def digits? (cs : List Char) : Option (List Nat) :=
  if !cs.isEmpty && cs.all Char.isDigit then some (cs.map fun c => c.toNat - '0'.toNat) else none

/-- The number that digits spell. -/
def ofDigits (digits : List Nat) : Nat :=
  digits.foldl (fun n d => n * 10 + d) 0

/-- The exponent of a numeral, from what follows its mark. -/
def exponent? (cs : List Char) : Option Int :=
  match cs with
  | '-' :: rest => (digits? rest).map fun ds => -(ofDigits ds : Int)
  | '+' :: rest => (digits? rest).map fun ds => (ofDigits ds : Int)
  | rest => (digits? rest).map fun ds => (ofDigits ds : Int)

/-- The numeral that a text is. A whole part of several digits does not start with a zero. -/
def numeral? (cs : List Char) : Option Numeral := do
  let (negative, cs) := match cs with
    | '-' :: rest => (true, rest)
    | cs => (false, cs)
  let whole ← digits? (cs.takeWhile Char.isDigit)
  if 1 < whole.length ∧ whole.head? = some 0 then none
  let cs := cs.dropWhile Char.isDigit
  let (places, cs) ← match cs with
    | '.' :: rest => do
      let places ← digits? (rest.takeWhile Char.isDigit)
      some (some places, rest.dropWhile Char.isDigit)
    | cs => some (none, cs)
  let exponent ← match cs with
    | [] => some none
    | 'e' :: rest | 'E' :: rest => (exponent? rest).map some
    | _ => none
  some { negative, whole, places, exponent }

/-- Reads digits after a number as long as the result fits 64 bits; also gives the digits left. -/
def fitDigits : Nat → List Nat → Nat × List Nat
  | n, [] => (n, [])
  | n, d :: rest => if n * 10 + d < twoTo 64 then fitDigits (n * 10 + d) rest else (n, d :: rest)

/-- A power of ten as a floating-point number. -/
def powerOfTen (k : Nat) : Double :=
  (Double.ofQuotient? false (tenTo k) 1).getD (.zero false)

/-- A number below `2 ^ 64` times a power of ten, if it is in range. Powers up to `10 ^ 308` are
rounded to floating-point numbers, and each product and quotient is rounded. Two quotients by `10 ^
308` leave zero. -/
def scaleByTen (x : Double) (e : Int) : Option Double :=
  if x.mantissa = 0 then some x
  else if 308 < e then none
  else if 0 ≤ e then x.mul? (powerOfTen e.toNat)
  else if -308 ≤ e then x.div? (powerOfTen (-e).toNat)
  else if -616 ≤ e then do
    let y ← x.div? (powerOfTen 308)
    y.div? (powerOfTen (-e - 308).toNat)
  else some (.zero x.negative)

/-- The floating-point number of a numeral: as many of its first digits as fit 64 bits, scaled by a
power of ten. -/
def Numeral.double? (n : Numeral) : Option Double := do
  let (wholePart, wholeRest) := fitDigits 0 n.whole
  let places := n.places.getD []
  let (significand, placesRest) := fitDigits wholePart places
  let shift : Int := wholeRest.length - (places.length - placesRest.length : Nat)
  let x ← Double.ofQuotient? false significand 1
  let y ← scaleByTen x (shift + n.exponent.getD 0)
  some { y with negative := n.negative }

/-- The number of a numeral: an integer if it is written as one and fits 64 bits, else a
floating-point number if it is in range. Negative zero is a floating-point number. -/
def Numeral.number? (n : Numeral) : Option Number :=
  let magnitude := ofDigits n.whole
  let isInt := n.places.isNone && n.exponent.isNone
  if isInt && !n.negative && decide (magnitude < twoTo 64) then some (.int magnitude)
  else if isInt && n.negative && decide (0 < magnitude) && decide (magnitude ≤ twoTo 63) then
    some (.int (-(magnitude : Int)))
  else n.double?.map .double

/-! ## Tokens -/

/-- A token of a JSON text. -/
inductive Token
  | openList
  | closeList
  | openRecord
  | closeRecord
  | comma
  | colon
  | string (t : Tree)
  | literal (t : Tree)

/-- The tree of a bare word: a constant or a number. -/
def wordTree? (cs : List Char) : Option Tree :=
  match String.ofList cs with
  | "null" => some (.atom .null)
  | "true" => some (.atom (.bool true))
  | "false" => some (.atom (.bool false))
  | _ => (numeral? cs).map fun n =>
    match n.number? with
    | some x => .atom (.number x)
    | none => .unreadable

/-- The token of a punctuation character. -/
def punctuation? : Char → Option Token
  | '[' => some .openList
  | ']' => some .closeList
  | '\x7b' => some .openRecord
  | '\x7d' => some .closeRecord
  | ',' => some .comma
  | ':' => some .colon
  | _ => none

/-- A blank between tokens. -/
def isBlank (c : Char) : Bool :=
  c = ' ' || c = '\n' || c = '\t' || c = '\r'

/-- A character of a bare word. -/
def isWordChar (c : Char) : Bool :=
  c.isAlphanum || c = '+' || c = '-' || c = '.'

/-- The tokens of a text, after those of `acc`, which come in reverse order. -/
def tokensFrom (acc : List Token) (cs : List Char) : Option (List Token) :=
  match cs with
  | [] => some acc.reverse
  | c :: rest =>
    if isBlank c then tokensFrom acc rest
    else if c = '"' then
      match _h : scanString [] rest with
      | some (reversed, after) => tokensFrom (.string (stringTree reversed) :: acc) after
      | none => none
    else match punctuation? c with
      | some token => tokensFrom (token :: acc) rest
      | none =>
        if isWordChar c then
          match wordTree? (c :: rest.takeWhile isWordChar) with
          | some t => tokensFrom (.literal t :: acc) (rest.dropWhile isWordChar)
          | none => none
        else none
termination_by cs.length
decreasing_by
  · simp
  · have := scanString_length _h
    simp only [List.length_cons]
    omega
  · simp
  · have := (List.dropWhile_suffix (l := rest) isWordChar).length_le
    simp only [List.length_cons]
    omega

/-- The tokens of a text. -/
def tokens? (s : String) : Option (List Token) :=
  tokensFrom [] s.toList

/-! ## Trees -/

/-- An open container, with what it holds so far, last first. A record may be waiting for the value
of a key. -/
inductive Frame
  | list (items : List Tree)
  | record (members : List (Tree × Tree)) (key : Option Tree)

/-- What may come next. -/
inductive Awaiting
  | value
  | valueOrClose
  | key
  | keyOrClose
  | colon
  | commaOrClose
  | nothing

/-- A text that has been read in part: the open containers, innermost first, what may come next, and
the tree once it is complete. -/
structure Reading where
  frames : List Frame
  awaiting : Awaiting
  result : Option Tree

/-- The reading after a complete value. -/
def Reading.complete (r : Reading) (t : Tree) : Option Reading :=
  match r.frames with
  | [] => some ⟨[], .nothing, some t⟩
  | .list items :: outer => some ⟨.list (t :: items) :: outer, .commaOrClose, none⟩
  | .record members (some key) :: outer =>
    some ⟨.record ((key, t) :: members) none :: outer, .commaOrClose, none⟩
  | .record _ none :: _ => none

/-- The tree of a container that was open at a level, if that level can be read. -/
def leveled (level : Nat) (t : Tree) : Tree :=
  if level ≤ maxLevel then t else .unreadable

/-- The reading after one more token. -/
def Reading.step (r : Reading) (token : Token) : Option Reading :=
  match r.awaiting, token with
  | .value, .literal t | .valueOrClose, .literal t
  | .value, .string t | .valueOrClose, .string t => r.complete t
  | .value, .openList | .valueOrClose, .openList =>
    some ⟨.list [] :: r.frames, .valueOrClose, none⟩
  | .value, .openRecord | .valueOrClose, .openRecord =>
    some ⟨.record [] none :: r.frames, .keyOrClose, none⟩
  | .key, .string k | .keyOrClose, .string k =>
    match r.frames with
    | .record members none :: outer => some ⟨.record members (some k) :: outer, .colon, none⟩
    | _ => none
  | .colon, .colon => some { r with awaiting := .value }
  | .commaOrClose, .comma =>
    match r.frames with
    | .list _ :: _ => some { r with awaiting := .value }
    | .record _ _ :: _ => some { r with awaiting := .key }
    | [] => none
  | .valueOrClose, .closeList | .commaOrClose, .closeList =>
    match r.frames with
    | .list items :: outer =>
      { r with frames := outer }.complete (leveled r.frames.length (.list items.reverse))
    | _ => none
  | .keyOrClose, .closeRecord | .commaOrClose, .closeRecord =>
    match r.frames with
    | .record members none :: outer =>
      { r with frames := outer }.complete (leveled r.frames.length (.record members.reverse))
    | _ => none
  | _, _ => none

/-- The tree of a JSON text, if it is one. -/
def readTree? (s : String) : Option Tree := do
  let r ← (← tokens? s).foldlM Reading.step ⟨[], .value, none⟩
  match r.awaiting with
  | .nothing => r.result
  | _ => none

end OpenApiGen.Json
