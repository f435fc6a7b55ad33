import QueryGate.Text.Blank

/-!
Whole numbers in arguments and environment variables.
-/

namespace QueryGate.Tool

/-- The number that decimal digits spell. -/
def digitsValue? (digits : List Char) : Option Nat :=
  if digits.isEmpty || !digits.all Char.isDigit then none
  else some (digits.foldl (fun n c => 10 * n + (c.toNat - '0'.toNat)) 0)

/-- The number that digits spell, with or without a plus sign before them. -/
def unsignedValue? : List Char → Option Nat
  | '+' :: digits => digitsValue? digits
  | digits => digitsValue? digits

/-- The largest number of 64 bits. -/
def largestWord : Nat := Nat.pow 2 64 - 1

/-- Reads a number of 64 bits. Blanks around it do not matter. -/
def readWord? (text : String) : Option Nat :=
  (unsignedValue? (Text.trim text.toList)).filter (· ≤ largestWord)

end QueryGate.Tool
