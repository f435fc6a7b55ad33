import QueryGate.Pattern.Expression

/-!
Patterns as they are laid out for matching.

A layout holds no part that matching does not need: neighbouring characters are one
text, a repetition of what covers no character is at most one round, a choice
between characters is a set, and what all branches of a choice begin with stands
before the choice.
-/

namespace QueryGate.Pattern

open QueryGate.Unicode

/-- The ends of what is captured are remembered. -/
inductive Layout where
  | nothing
  | text (characters : List Char)
  | oneOf (codes : CodeSet)
  | look (look : Look)
  | repeated (least : Nat) (most : Option Nat) (item : Layout)
  | captured (item : Layout)
  | sequence (items : List Layout)
  | choice (branches : List Layout)
deriving Repr

namespace Layout

mutual

/-- Whether two layouts are the same. One that is remembered is the same as no
other. -/
def same : Layout → Layout → Bool
  | nothing, nothing => true
  | text a, text b => a == b
  | oneOf a, oneOf b => decide (a = b)
  | look a, look b => decide (a = b)
  | repeated least most a, repeated least' most' b =>
      least == least' && most == most' && same a b
  | sequence a, sequence b => sameAll a b
  | choice a, choice b => sameAll a b
  | _, _ => false

def sameAll : List Layout → List Layout → Bool
  | [], [] => true
  | a :: left, b :: right => same a b && sameAll left right
  | _, _ => false

end

def textSize (characters : List Char) : Nat :=
  characters.foldr (fun c size => c.utf8Size + size) 0

mutual

/-- The least number of bytes that is covered, where anything can be. -/
def shortest : Layout → Option Nat
  | nothing => some 0
  | text characters => some (textSize characters)
  | oneOf codes => codes.changes.head?.map fun code => (Char.ofNat code).utf8Size
  | look _ => some 0
  | repeated least _ item => item.shortest.map (least * ·)
  | captured item => item.shortest
  | sequence items => shortestSum items
  | choice branches => shortestOf branches

def shortestSum : List Layout → Option Nat
  | [] => some 0
  | item :: rest =>
      match item.shortest, shortestSum rest with
      | some a, some b => some (a + b)
      | _, _ => none

def shortestOf : List Layout → Option Nat
  | [] => none
  | [branch] => branch.shortest
  | branch :: rest =>
      match branch.shortest, shortestOf rest with
      | some a, some b => some (min a b)
      | _, _ => none

end

mutual

/-- Whether nothing but places is covered, and never a character. -/
def coversNothing : Layout → Bool
  | nothing => true
  | text characters => characters.isEmpty
  | oneOf _ => false
  | look _ => true
  | repeated _ _ item => item.coversNothing
  | captured item => item.coversNothing
  | sequence items => allCoverNothing items
  | choice branches => allCoverNothing branches

def allCoverNothing : List Layout → Bool
  | [] => true
  | item :: rest => item.coversNothing && allCoverNothing rest

end

mutual

/-- How many parts a layout has. -/
def partCount : Layout → Nat
  | repeated _ _ item => 1 + item.partCount
  | captured item => 1 + item.partCount
  | sequence items => 1 + totalParts items
  | choice branches => 1 + totalParts branches
  | _ => 1

def totalParts : List Layout → Nat
  | [] => 0
  | item :: rest => item.partCount + totalParts rest

end

/-- A set, which is a text where it has one character alone. -/
def ofCodes (codes : CodeSet) : Layout :=
  match codes.single? with
  | some code => text [Char.ofNat code]
  | none => oneOf codes

/-- A repetition. What covers no character is repeated once at most. -/
def ofRepetition (least : Nat) (most : Option Nat) (item : Layout) : Layout :=
  let (least, most) :=
    if item.coversNothing then (min least 1, some (most.elim 1 (min · 1)))
    else (least, most)
  if most = some 0 then nothing
  else if least = 1 && most = some 1 then item
  else repeated least most item

/-- Joins neighbouring texts. -/
def joinTexts : List Layout → List Layout
  | [] => []
  | text a :: rest =>
      match joinTexts rest with
      | text b :: further => text (a ++ b) :: further
      | joined => text a :: joined
  | item :: rest => item :: joinTexts rest

/-- The items of a sequence, those of sequences among them in their place. -/
def itemsOf : Layout → List Layout
  | nothing => []
  | sequence items => items
  | item => [item]

/-- The branches of a choice, and anything else as the only branch. -/
def branchesOf : Layout → List Layout
  | choice branches => branches
  | item => [item]

def ofItems (items : List Layout) : Layout :=
  match joinTexts (items.flatMap itemsOf) with
  | [] => nothing
  | [item] => item
  | joined => sequence joined

def singleCharacter? : Layout → Option Char
  | text [c] => some c
  | _ => none

def codes? : Layout → Option CodeSet
  | oneOf codes => some codes
  | _ => none

/-- The items of a sequence, and none of anything else. -/
def sequenceItems : Layout → List Layout
  | sequence items => items
  | _ => []

/-- What two lists begin with in common. -/
def commonItems : List Layout → List Layout → List Layout
  | a :: left, b :: right => if a.same b then a :: commonItems left right else []
  | _, _ => []

/-- What all branches begin with in common. -/
def sharedItems : List Layout → List Layout
  | [] => []
  | first :: rest =>
      rest.foldl (fun shared branch => commonItems shared branch.sequenceItems)
        first.sequenceItems

/-- A choice. Every step takes a shared item out of each branch, so there are no
more steps than parts in a branch. -/
def ofBranchesWithin : Nat → List Layout → Layout
  | fuel, branches =>
      match branches.flatMap branchesOf with
      | [branch] => branch
      | flat =>
          match flat.mapM singleCharacter?, flat.mapM codes? with
          | some characters, _ =>
              ofCodes (characters.foldr
                (fun c codes => .interval c.toNat c.toNat ∪ codes) .empty)
          | none, some sets =>
              ofCodes (sets.foldr (fun set codes => set ∪ codes) .empty)
          | none, none =>
              match fuel, sharedItems flat with
              | fuel + 1, shared@(_ :: _) =>
                  let rests := flat.map fun branch =>
                    ofItems (branch.sequenceItems.drop shared.length)
                  ofItems (shared ++ [ofBranchesWithin fuel rests])
              | _, _ => choice flat

def ofBranches (branches : List Layout) : Layout :=
  ofBranchesWithin (totalParts branches) branches

mutual

/-- How a pattern is laid out. -/
def ofExpression : Expression → Layout
  | .empty => nothing
  | .setting => nothing
  | .one set => ofCodes set.codes
  | .look l => look l
  | .sequence items => ofItems (ofExpressions items)
  | .choice branches => ofBranches (ofExpressions branches)
  | .repeated least most item => ofRepetition least most (ofExpression item)
  | .group remembered item =>
      if remembered then captured (ofExpression item) else ofExpression item

def ofExpressions : List Expression → List Layout
  | [] => []
  | item :: rest => ofExpression item :: ofExpressions rest

end

mutual

/-- Whether one of the conditions of a layout has a property. -/
def hasLook (p : Look → Bool) : Layout → Bool
  | look l => p l
  | repeated _ _ item => item.hasLook p
  | captured item => item.hasLook p
  | sequence items => anyHasLook p items
  | choice branches => anyHasLook p branches
  | _ => false

def anyHasLook (p : Look → Bool) : List Layout → Bool
  | [] => false
  | item :: rest => item.hasLook p || anyHasLook p rest

end

mutual

/-- Whether the start of the text comes before any character. -/
def startsText : Layout → Bool
  | look l => decide (l = .textStart)
  | repeated least _ item => decide (0 < least) && item.startsText
  | captured item => item.startsText
  | sequence items => someStartsText items
  | choice branches => allStartText branches
  | _ => false

def someStartsText : List Layout → Bool
  | [] => false
  | item :: rest => item.startsText || (item.coversNothing && someStartsText rest)

def allStartText : List Layout → Bool
  | [] => true
  | branch :: rest => branch.startsText && allStartText rest

end

mutual

/-- Whether the end of the text comes after any character. -/
def endsText : Layout → Bool
  | look l => decide (l = .textEnd)
  | repeated least _ item => decide (0 < least) && item.endsText
  | captured item => item.endsText
  | sequence items => someEndsText items
  | choice branches => allEndText branches
  | _ => false

def someEndsText : List Layout → Bool
  | [] => false
  | item :: rest => (item.endsText && allCoverNothing rest) || someEndsText rest

def allEndText : List Layout → Bool
  | [] => true
  | branch :: rest => branch.endsText && allEndText rest

end

end Layout

namespace Expression

/-- Whether it matters to a pattern where words of any script begin and end. -/
def looksAtWords (e : Expression) : Bool :=
  (Layout.ofExpression e).hasLook Look.isUnicodeWord

end Expression

end QueryGate.Pattern
