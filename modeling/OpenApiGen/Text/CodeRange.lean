/-!
Sets of characters given by ranges of code points.
-/

namespace OpenApiGen.Text

/-- Whether a code point lies in one of the closed ranges. -/
def inRanges (ranges : List (Nat × Nat)) (c : Char) : Bool :=
  ranges.any fun r => r.1 ≤ c.toNat && c.toNat ≤ r.2

/-- Whether a character is one of the 128 of ASCII. -/
def isAscii (c : Char) : Bool :=
  c.toNat < 128

end OpenApiGen.Text
