import QueryGate.Unicode.Category
import QueryGate.Unicode.CodeSet

/-!
Choices of characters.

A selection says how a choice is put together from tables, and nothing is computed
before it is asked for: `Selection.contains` answers for one character,
`Selection.codes` gives the whole set.
-/

namespace QueryGate.Unicode

inductive Selection where
  | every
  | ranges (list : List Range)
  | categories (list : List Category)
  | either (left right : Selection)
  | both (left right : Selection)
  | without (left right : Selection)
deriving DecidableEq, Repr

namespace Selection

instance : Union Selection := ⟨either⟩

instance : Inter Selection := ⟨both⟩

instance : SDiff Selection := ⟨without⟩

def contains : Selection → Char → Bool
  | every, _ => true
  | ranges list, c => inRanges list c
  | categories list, c => inCategories list c
  | either left right, c => left.contains c || right.contains c
  | both left right, c => left.contains c && right.contains c
  | without left right, c => left.contains c && !right.contains c

/-- The set of the characters that are chosen. -/
def codes : Selection → CodeSet
  | every => .all
  | ranges list => .ofRanges list
  | categories list =>
      list.foldl (fun set category => set ∪ .ofRanges category.ranges) .empty
  | either left right => left.codes ∪ right.codes
  | both left right => left.codes ∩ right.codes
  | without left right => left.codes \ right.codes

/-- One character, by its code point. -/
def one (code : Nat) : Selection :=
  ranges [⟨code, code, 1⟩]

/-- The code points that no character of the tables has. -/
def unassigned : Selection :=
  every \ categories Category.assigned

end Selection

/-- A choice of characters that patterns refer to by one of several names. Names are
in lower case and without separators. -/
structure NamedSelection where
  names : List String
  selection : Selection
deriving DecidableEq, Repr

/-- The choice of a name. -/
def NamedSelection.find? (list : List NamedSelection) (name : String) :
    Option Selection :=
  (list.find? fun entry => entry.names.contains name).map NamedSelection.selection

end QueryGate.Unicode
