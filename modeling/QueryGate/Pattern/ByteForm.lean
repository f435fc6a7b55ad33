import QueryGate.Unicode.CodeSet

/-!
The bytes that the characters of a set are written with.

A character takes up to four bytes, and all but the first hold six bits each.
`byteForms` gives for every part of a set the ranges that its bytes come from: a
form stands for exactly those characters whose bytes lie in its ranges, and the
forms of a set are in order and have no character in common.
-/

namespace QueryGate.Pattern

open QueryGate.Unicode

/-- The bytes from `first` to `last`. -/
structure ByteRange where
  first : Nat
  last : Nat
deriving DecidableEq, Repr

namespace ByteRange

/-- Any byte after the first of a character. -/
def following : ByteRange :=
  ⟨0x80, 0xBF⟩

end ByteRange

/-- One range for every byte of a character. -/
abbrev ByteForm := List ByteRange

/-- The forms of the numbers from `low` to `high`, written with a byte that is
counted from `base` and `count` bytes of six bits after it. Numbers that share their
first byte make a form of their own, unless every number with that byte is among
them. -/
def numberForms : Nat → Nat → Nat → Nat → List ByteForm
  | 0, base, low, high => [[⟨base + low, base + high⟩]]
  | count + 1, base, low, high =>
      let block := Nat.pow 64 (count + 1)
      let start := low / block
      let stop := high / block
      let sharing := fun (byte low high : Nat) =>
        (numberForms count 0x80 low high).map fun form =>
          (⟨base + byte, base + byte⟩ : ByteRange) :: form
      if start = stop then sharing start (low % block) (high % block)
      else
        let fromBlock := low % block = 0
        let toBlock := high % block = block - 1
        let first := if fromBlock then start else start + 1
        let last := if toBlock then stop else stop - 1
        (if fromBlock then [] else sharing start (low % block) (block - 1)) ++
          (if last < first then []
            else [⟨base + first, base + last⟩ ::
              List.replicate (count + 1) .following]) ++
          (if toBlock then [] else sharing stop 0 (high % block))

/-- The characters by how many bytes they take: the first and the last of them, how
many bytes follow the first one, and what that one is counted from. -/
def encodings : List (Nat × Nat × Nat × Nat) :=
  [(0, 0x7F, 0, 0), (0x80, 0x7FF, 1, 0xC0), (0x800, 0xFFFF, 2, 0xE0),
    (0x10000, 0x10FFFF, 3, 0xF0)]

/-- The forms of the characters from `low` to `high`. -/
def intervalForms (low high : Nat) : List ByteForm :=
  encodings.flatMap fun (first, last, count, base) =>
    if high < first || last < low then []
    else numberForms count base (max low first) (min high last)

/-- The forms of the characters of a set. -/
def byteForms (set : CodeSet) : List ByteForm :=
  set.intervals.flatMap fun (low, high) => intervalForms low high

end QueryGate.Pattern
