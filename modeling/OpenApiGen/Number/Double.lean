/-!
Finite floating-point numbers of 64 bits, by their value: a sign, and a mantissa times a power of
two. Rounding goes to the nearest number, a tie to the even mantissa, in exact arithmetic.
-/

namespace OpenApiGen

/-- The number `± mantissa · 2 ^ exponent`. Either the mantissa has 53 bits, or the exponent is the
least one, -1074, and the mantissa has at most 53 bits. -/
structure Double where
  negative : Bool
  mantissa : Nat
  exponent : Int
  deriving DecidableEq, Repr

/-- A power of two. -/
def twoTo (n : Nat) : Nat :=
  Nat.pow 2 n

/-- A power of ten. -/
def tenTo (n : Nat) : Nat :=
  Nat.pow 10 n

/-- The quotient rounded to an integer, a half to the even one. -/
def roundHalfEven (num den : Nat) : Nat :=
  let q := num / den
  let twice := 2 * (num % den)
  if twice < den ∨ (twice = den ∧ q % 2 = 0) then q else q + 1

/-- Numerator and denominator of a quotient divided by `2 ^ e`. -/
def scaleByTwo (num den : Nat) (e : Int) : Nat × Nat :=
  if 0 ≤ e then (num, den * twoTo e.toNat) else (num * twoTo (-e).toNat, den)

namespace Double

/-- Zero with a sign. -/
def zero (negative : Bool) : Double :=
  ⟨negative, 0, -1074⟩

/-- The number nearest to a quotient, if it is in range. -/
def ofQuotient? (negative : Bool) (num den : Nat) : Option Double :=
  if num = 0 then some (zero negative)
  else
    let estimate := max ((num.log2 : Int) - den.log2 - 53) (-1074)
    let (n, d) := scaleByTwo num den estimate
    let e := if n / d < twoTo 53 then estimate else estimate + 1
    let (n, d) := scaleByTwo num den e
    let m := roundHalfEven n d
    let (m, e) := if m = twoTo 53 then (twoTo 52, e + 1) else (m, e)
    if 971 < e then none else some ⟨negative, m, e⟩

/-- Numerator and denominator of the absolute value. -/
def quotient (x : Double) : Nat × Nat :=
  if 0 ≤ x.exponent then (x.mantissa * twoTo x.exponent.toNat, 1)
  else (x.mantissa, twoTo (-x.exponent).toNat)

/-- The product, if it is in range. -/
def mul? (x y : Double) : Option Double :=
  let (a, b) := x.quotient
  let (c, d) := y.quotient
  ofQuotient? (x.negative != y.negative) (a * c) (b * d)

/-- The quotient, if it is in range. -/
def div? (x y : Double) : Option Double :=
  let (a, b) := x.quotient
  let (c, d) := y.quotient
  if c = 0 then none else ofQuotient? (x.negative != y.negative) (a * d) (b * c)

/-- The number nearest to `digits · 10 ^ exponent`, if it is in range. Beyond 400 places a number
that is not zero is out of range or rounds to zero. -/
def ofDecimal? (negative : Bool) (digits : Nat) (exponent : Int) : Option Double :=
  let magnitude := (Nat.toDigits 10 digits).length + exponent
  if digits = 0 ∨ magnitude < -400 then some (zero negative)
  else if 400 < magnitude then none
  else if 0 ≤ exponent then ofQuotient? negative (digits * tenTo exponent.toNat) 1
  else ofQuotient? negative digits (tenTo (-exponent).toNat)

/-- The exponent of the leading decimal digit of a positive quotient. -/
def leadingExponent (num den : Nat) : Int :=
  let reaches (k : Int) : Bool :=
    if 0 ≤ k then tenTo k.toNat * den ≤ num else den ≤ num * tenTo (-k).toNat
  let estimate := (((num.log2 : Int) - den.log2) * 30103).fdiv 100000
  if reaches (estimate + 1) then estimate + 1
  else if reaches estimate then estimate
  else estimate - 1

/-- The digits of the absolute value on the decimal grid of step `10 ^ p`, if a point of the grid
reads back as the number: of the two neighbours on the grid the nearer one that does, at a tie the
even one. -/
def onGrid? (x : Double) (p : Int) : Option Nat :=
  let q := x.exponent - 2
  let value := 4 * x.mantissa
  let lower := if x.mantissa = twoTo 52 ∧ -1074 < x.exponent then value - 1 else value - 2
  let upper := value + 2
  let unit := twoTo q.toNat * tenTo (-p).toNat
  let step := tenTo p.toNat * twoTo (-q).toNat
  let readsBack (c : Nat) : Bool :=
    if x.mantissa % 2 = 0 then lower * unit ≤ c * step && c * step ≤ upper * unit
    else lower * unit < c * step && c * step < upper * unit
  let below := value * unit / step
  let above := below + 1
  match readsBack below, readsBack above with
  | true, true => some (roundHalfEven (value * unit) step)
  | true, false => some below
  | false, true => some above
  | false, false => none

/-- The fewest digits that read back as the absolute value of a number other than zero, with the
exponent of the last one. -/
def shortest (x : Double) : Nat × Int :=
  let (num, den) := x.quotient
  let lead := leadingExponent num den
  let grids := (List.range 17).map fun (n : Nat) => lead - n
  match grids.findSome? fun p => (x.onGrid? p).map fun c => (c, p) with
  | some found => found
  | none => (num / den, 0)

end Double

end OpenApiGen
