/-!
Numbers in the binary64 format, by their bits.

A finite magnitude is `m * 2 ^ q`. Arithmetic is exact on quotients of natural
numbers and rounded once at the end, to the nearest magnitude and on a tie to the
one with an even last bit.
-/

namespace QueryGate.Json

/-- A number in the binary64 format. -/
structure Binary64 where
  bits : UInt64
deriving DecidableEq, Repr

namespace Binary64

/-- The bits of positive infinity, and the first bits that are no finite
magnitude. -/
def infinity : Nat := 0x7FF <<< 52

/-- The quotient of two natural numbers rounded to a natural number, ties to
even. -/
def roundQuotient (num den : Nat) : Nat :=
  let q := num / den
  let twice := 2 * (num % den)
  if den < twice || (den = twice && q % 2 = 1) then q + 1 else q

/-- A quotient multiplied by a power of two, as a quotient. -/
def scaled (num den : Nat) (exponent : Int) : Nat × Nat :=
  if 0 ≤ exponent then (num * Nat.pow 2 exponent.toNat, den)
  else (num, den * Nat.pow 2 (-exponent).toNat)

/-- The exponent of the power of two at or just below a positive quotient. -/
def floorLog2 (num den : Nat) : Int :=
  let guess : Int := (num.log2 : Int) - (den.log2 : Int)
  let (n, d) := scaled num den (-guess)
  if n < d then guess - 1 else guess

/-- The bits of the magnitude nearest to a quotient. The last place of the result is
worth `2 ^ q`; adding the rounded multiple of it to the exponent field carries where
it has to. -/
def magnitude (num den : Nat) : Nat :=
  if num = 0 then 0
  else
    let q := max (floorLog2 num den - 52) (-1074)
    let (n, d) := scaled num den (-q)
    min infinity ((q + 1074).toNat <<< 52 + roundQuotient n d)

/-- The quotient that a finite magnitude stands for. -/
def quotient (magnitude : Nat) : Nat × Nat :=
  let field := magnitude >>> 52
  let fraction := magnitude % Nat.pow 2 52
  if field = 0 then scaled fraction 1 (-1074)
  else scaled (Nat.pow 2 52 + fraction) 1 ((field : Int) - 1075)

/-- The number with a sign and a magnitude. -/
def signed (negative : Bool) (magnitude : Nat) : Binary64 :=
  ⟨(magnitude + (if negative then Nat.pow 2 63 else 0)).toUInt64⟩

/-- The magnitude nearest to a power of ten. -/
def powerOfTen (exponent : Nat) : Nat :=
  magnitude (Nat.pow 10 exponent) 1

/-- The product of a magnitude and a power of ten, rounded. -/
def timesPowerOfTen (m exponent : Nat) : Nat :=
  let (a, b) := quotient m
  let (c, d) := quotient (powerOfTen exponent)
  magnitude (a * c) (b * d)

/-- The quotient of a magnitude by a power of ten, rounded. -/
def overPowerOfTen (m exponent : Nat) : Nat :=
  let (a, b) := quotient m
  let (c, d) := quotient (powerOfTen exponent)
  magnitude (a * d) (b * c)

/-- Divides by the largest power of ten with a magnitude of its own, 308 places at a
time, and then by the power that is left. -/
def shrink (m exponent : Nat) : Nat :=
  if m = 0 then 0
  else if exponent ≤ 308 then overPowerOfTen m exponent
  else shrink (overPowerOfTen m 308) (exponent - 308)
termination_by exponent

/-- The magnitude of a decimal number: its digits are rounded first and the product
with the power of ten once more. There is none for a number too large. -/
def ofDecimal? (digits : Nat) (exponent : Int) : Option Nat :=
  let m := magnitude digits 1
  if exponent < 0 then some (shrink m (-exponent).toNat)
  else if m = 0 then some 0
  else if 308 < exponent then none
  else
    let product := timesPowerOfTen m exponent.toNat
    if product < infinity then some product else none

end Binary64

end QueryGate.Json
