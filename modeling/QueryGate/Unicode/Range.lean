/-!
Sets of characters written as ranges.
-/

namespace QueryGate.Unicode

/-- Every `step`-th code point from `first` to `last`. -/
structure Range where
  first : Nat
  last : Nat
  step : Nat
deriving DecidableEq, Repr

def Range.contains (range : Range) (code : Nat) : Bool :=
  range.first ≤ code && code ≤ range.last && (code - range.first) % range.step == 0

/-- Whether a character is in one of the ranges. -/
def inRanges (ranges : List Range) (c : Char) : Bool :=
  ranges.any (·.contains c.toNat)

end QueryGate.Unicode
