import QueryGate.Unicode.Range

/-!
Sets of code points.

A set is written as the places where membership changes, so sets are joined in one
pass over both of them: `CodeSet.combine` decides at every place of either set by
what both sets say there.
-/

namespace QueryGate.Unicode

/-- A set of code points. They are in it from the first change to the second, from
the third to the fourth, and so on. Changes are given in increasing order. -/
structure CodeSet where
  changes : List Nat
deriving DecidableEq, Repr

namespace CodeSet

/-- Whether a code point is in the set whose changes these are, where `inside` tells
it for the code points before the first change. -/
def holdsAt (inside : Bool) : List Nat → Nat → Bool
  | [], _ => inside
  | change :: rest, code =>
      if code < change then inside else holdsAt (!inside) rest code

def contains (set : CodeSet) (c : Char) : Bool :=
  holdsAt false set.changes c.toNat

/-- The changes of the set that `op` makes of two sets, where `a` and `b` tell
whether the code points before the first changes are inside. Once one set has no
change left, the other decides alone. -/
def joinChanges (op : Bool → Bool → Bool) (a b : Bool) :
    List Nat → List Nat → List Nat
  | [], right => if op a true = op a false then [] else right
  | left, [] => if op true b = op false b then [] else left
  | x :: left, y :: right =>
      if x < y then
        let rest := joinChanges op (!a) b left (y :: right)
        if op a b = op (!a) b then rest else x :: rest
      else if y < x then
        let rest := joinChanges op a (!b) (x :: left) right
        if op a b = op a (!b) then rest else y :: rest
      else
        let rest := joinChanges op (!a) (!b) left right
        if op a b = op (!a) (!b) then rest else x :: rest
termination_by left right => left.length + right.length

/-- The set of the code points for which `op` holds of their memberships. Nothing is
in it that is in neither set. -/
def combine (op : Bool → Bool → Bool) (s t : CodeSet) : CodeSet :=
  ⟨joinChanges op false false s.changes t.changes⟩

def empty : CodeSet :=
  ⟨[]⟩

/-- Every code point that a character may have. -/
def all : CodeSet :=
  ⟨[0, 0xD800, 0xE000, 0x110000]⟩

instance : Union CodeSet := ⟨combine fun a b => a || b⟩

instance : Inter CodeSet := ⟨combine fun a b => a && b⟩

instance : SDiff CodeSet := ⟨combine fun a b => a && !b⟩

/-- What is in one of two sets only. -/
def symmetricDifference (s t : CodeSet) : CodeSet :=
  combine (fun a b => a != b) s t

def complement (set : CodeSet) : CodeSet :=
  all \ set

/-- The code points from `first` to `last`. -/
def interval (first last : Nat) : CodeSet :=
  ⟨[first, last + 1]⟩

def ofRange (range : Range) : CodeSet :=
  if range.step ≤ 1 then interval range.first range.last
  else
    ⟨(List.range ((range.last - range.first) / range.step + 1)).flatMap fun count =>
      [range.first + count * range.step, range.first + count * range.step + 1]⟩

/-- The union of ranges. It takes one pass when they are given in order. -/
def ofRanges (ranges : List Range) : CodeSet :=
  ranges.foldr (fun range set => ofRange range ∪ set) empty

/-- The set moved by `delta`. -/
def shift (delta : Int) (set : CodeSet) : CodeSet :=
  ⟨set.changes.map fun change : Nat => ((change : Int) + delta).toNat⟩

/-- The first and the last code point of each part. -/
def intervalsOf : List Nat → List (Nat × Nat)
  | first :: next :: rest => (first, next - 1) :: intervalsOf rest
  | _ => []

def intervals (set : CodeSet) : List (Nat × Nat) :=
  intervalsOf set.changes

/-- Whether only ASCII characters are in the set. -/
def isAscii (set : CodeSet) : Bool :=
  set.changes.getLast?.all fun change => change ≤ 0x80

/-- The only code point of a set that has just one. -/
def single? (set : CodeSet) : Option Nat :=
  match set.changes with
  | [first, next] => if next = first + 1 then some first else none
  | _ => none

end CodeSet

end QueryGate.Unicode
