import QueryGate.Unicode.Property

/-!
Sets of characters as a pattern writes them.

A set is kept as the characters in it, together with how deep its writing nests,
because patterns that nest too deep are refused.
-/

namespace QueryGate.Pattern

open QueryGate.Unicode

/-- Which characters the named classes know: those of ASCII, or all. -/
inductive Alphabet where
  | ascii
  | unicode
deriving DecidableEq, Repr

namespace Alphabet

def digits : Alphabet → Selection
  | ascii => .ranges [⟨0x30, 0x39, 1⟩]
  | unicode => Property.digit

def blanks : Alphabet → Selection
  | ascii => .ranges [⟨0x9, 0xD, 1⟩, ⟨0x20, 0x20, 1⟩]
  | unicode => Property.whiteSpace

def words : Alphabet → Selection
  | ascii =>
      .ranges [⟨0x30, 0x39, 1⟩, ⟨0x41, 0x5A, 1⟩, ⟨0x5F, 0x5F, 1⟩, ⟨0x61, 0x7A, 1⟩]
  | unicode => Property.word

def isWord : Alphabet → Char → Bool
  | ascii => fun c => c.isAlphanum || c == '_'
  | unicode => Unicode.isWord

/-- How characters are folded where case does not count. -/
def folds : Alphabet → List FoldRange
  | ascii => asciiFolds
  | unicode => foldRanges

end Alphabet

/-- The classes of ASCII characters that are named within brackets. -/
inductive AsciiClass where
  | alnum | alpha | ascii | blank | cntrl | digit | graph | lower | print | punct
      | space | upper
  | word | xdigit
deriving DecidableEq, Repr

namespace AsciiClass

def ofName? (name : List Char) : Option AsciiClass :=
  [("alnum", alnum), ("alpha", alpha), ("ascii", ascii), ("blank", blank),
    ("cntrl", cntrl), ("digit", digit), ("graph", graph), ("lower", lower),
    ("print", print), ("punct", punct), ("space", space), ("upper", upper),
    ("word", word), ("xdigit", xdigit)].findSome?
    fun (known, value) => if known.toList = name then some value else none

def ranges : AsciiClass → List Range
  | alnum => [⟨0x30, 0x39, 1⟩, ⟨0x41, 0x5A, 1⟩, ⟨0x61, 0x7A, 1⟩]
  | alpha => [⟨0x41, 0x5A, 1⟩, ⟨0x61, 0x7A, 1⟩]
  | ascii => [⟨0x0, 0x7F, 1⟩]
  | blank => [⟨0x9, 0x9, 1⟩, ⟨0x20, 0x20, 1⟩]
  | cntrl => [⟨0x0, 0x1F, 1⟩, ⟨0x7F, 0x7F, 1⟩]
  | digit => [⟨0x30, 0x39, 1⟩]
  | graph => [⟨0x21, 0x7E, 1⟩]
  | lower => [⟨0x61, 0x7A, 1⟩]
  | print => [⟨0x20, 0x7E, 1⟩]
  | punct => [⟨0x21, 0x2F, 1⟩, ⟨0x3A, 0x40, 1⟩, ⟨0x5B, 0x60, 1⟩, ⟨0x7B, 0x7E, 1⟩]
  | space => [⟨0x9, 0xD, 1⟩, ⟨0x20, 0x20, 1⟩]
  | upper => [⟨0x41, 0x5A, 1⟩]
  | word => [⟨0x30, 0x39, 1⟩, ⟨0x41, 0x5A, 1⟩, ⟨0x5F, 0x5F, 1⟩, ⟨0x61, 0x7A, 1⟩]
  | xdigit => [⟨0x30, 0x39, 1⟩, ⟨0x41, 0x46, 1⟩, ⟨0x61, 0x66, 1⟩]

def isHexDigit (c : Char) : Bool :=
  c.isDigit || ('a' ≤ c && c ≤ 'f') || ('A' ≤ c && c ≤ 'F')

end AsciiClass

/-- How two sets are joined. -/
inductive SetOperation where
  | intersection
  | difference
  | symmetricDifference
deriving DecidableEq, Repr

def SetOperation.apply : SetOperation → CodeSet → CodeSet → CodeSet
  | .intersection => fun left right => left ∩ right
  | .difference => fun left right => left \ right
  | .symmetricDifference => CodeSet.symmetricDifference

/-- A set of characters: its code points, and how deep its writing nests. -/
structure CharSet where
  codes : CodeSet
  depth : Nat
deriving DecidableEq, Repr

namespace CharSet

/-- A set that is referred to by a name. -/
def named (selection : Selection) : CharSet :=
  ⟨selection.codes, 0⟩

/-- The characters from `first` to `last`. -/
def range (first last : Char) : CharSet :=
  ⟨.interval first.toNat last.toNat ∩ .all, 0⟩

def char (c : Char) : CharSet :=
  range c c

def contains (set : CharSet) (c : Char) : Bool :=
  set.codes.contains c

def complement (set : CharSet) : CharSet :=
  { set with codes := set.codes.complement }

/-- The set with every other case of its characters. -/
def anyCase (alphabet : Alphabet) (set : CharSet) : CharSet :=
  { set with codes := set.codes.withCases alphabet.folds }

/-- The union of the items of a bracket. Only items side by side nest. -/
def ofItems : List CharSet → CharSet
  | [] => ⟨.empty, 0⟩
  | [set] => set
  | sets =>
      ⟨sets.foldr (fun set all => set.codes ∪ all) .empty,
        1 + sets.foldr (fun set deepest => max set.depth deepest) 0⟩

def joined (operation : SetOperation) (left right : CharSet) : CharSet :=
  ⟨operation.apply left.codes right.codes, 1 + max left.depth right.depth⟩

/-- The set of a bracket, which nests once more than what is in it. -/
def bracketed (set : CharSet) : CharSet :=
  { set with depth := 1 + set.depth }

end CharSet

end QueryGate.Pattern
