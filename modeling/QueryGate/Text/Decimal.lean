/-!
Numbers written with decimal digits, a point and an exponent.
-/

namespace QueryGate.Text

/-- A number by the digits of its spelling: `digits * 10 ^ (exponent - places)`,
where `places` counts the digits after the point. -/
structure Decimal where
  whole : List Char
  fraction : List Char
  exponent : Int
deriving DecidableEq, Repr

/-- The number that digits spell. -/
def digitsNumber (digits : List Char) : Nat :=
  digits.foldl (fun n c => 10 * n + (c.toNat - '0'.toNat)) 0

namespace Decimal

/-- The digits that count, as a number. -/
def significand (d : Decimal) : Nat :=
  digitsNumber (d.whole ++ d.fraction)

/-- The power of ten that the significand is multiplied by. -/
def scale (d : Decimal) : Int :=
  d.exponent - (d.fraction.length : Int)

/-- How many digits there are, without zeros before them. -/
def digitCount (d : Decimal) : Nat :=
  ((d.whole ++ d.fraction).dropWhile (· = '0')).length

/-- The least number that is too large for the binary64 format: half a place above
the largest number there. -/
def binary64Limit : Nat :=
  Nat.pow 2 1024 - Nat.pow 2 970

/-- Whether the number is too large for the binary64 format. Only for a number of as
many places as the limit the digits have to be looked at. -/
def exceedsBinary64 (d : Decimal) : Bool :=
  let places := (d.digitCount : Int) + d.scale
  if d.significand = 0 || places < 309 then false
  else if 309 < places then true
  else if 0 ≤ d.scale then binary64Limit ≤ d.significand * Nat.pow 10 d.scale.toNat
  else binary64Limit * Nat.pow 10 (-d.scale).toNat ≤ d.significand

end Decimal

end QueryGate.Text
