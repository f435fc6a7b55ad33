import QueryGate.Pattern.CharSet

/-!
Patterns and the texts they occur in.

A pattern runs from places of a text to others. `Expression.spread` takes the marked
places of a text to all the places that the pattern can run to from them, so a text
is passed over once for every part of the pattern, and repetitions end as soon as
they lead nowhere new. A pattern occurs in a text when it can run from some place of
it to any place.
-/

namespace QueryGate.Pattern

/-- A condition on the place between two characters. For lines, `crlf` tells whether
a carriage return ends one too. The last two ask that no word character is before or
after the place. -/
inductive Look where
  | textStart
  | textEnd
  | lineStart (crlf : Bool)
  | lineEnd (crlf : Bool)
  | wordBoundary (alphabet : Alphabet)
  | noWordBoundary (alphabet : Alphabet)
  | wordStart (alphabet : Alphabet)
  | wordEnd (alphabet : Alphabet)
  | noWordBefore (alphabet : Alphabet)
  | noWordAfter (alphabet : Alphabet)
deriving DecidableEq, Repr

/-- Whether a condition is about words of any script. -/
def Look.isUnicodeWord : Look → Bool
  | wordBoundary a => a == .unicode
  | noWordBoundary a => a == .unicode
  | wordStart a => a == .unicode
  | wordEnd a => a == .unicode
  | noWordBefore a => a == .unicode
  | noWordAfter a => a == .unicode
  | _ => false

/-- A pattern. A setting changes how the rest is read, and holds at every place. A
group is an item in parentheses, and what it covers may be remembered. -/
inductive Expression where
  | empty
  | setting
  | one (set : CharSet)
  | look (look : Look)
  | sequence (items : List Expression)
  | choice (branches : List Expression)
  | repeated (least : Nat) (most : Option Nat) (item : Expression)
  | group (remembered : Bool) (item : Expression)
deriving Repr

/-- A place in a text: the character before it, if there is one, and what
follows. -/
structure Place where
  before : Option Char
  rest : List Char
deriving DecidableEq, Repr

namespace Place

/-- The places of a text after `before`, from first to last. -/
def allFrom (before : Option Char) : List Char → List Place
  | [] => [⟨before, []⟩]
  | c :: rest => ⟨before, c :: rest⟩ :: allFrom (some c) rest

/-- The places of a text. -/
def all (text : List Char) : List Place :=
  allFrom none text

def isWordBefore (place : Place) (alphabet : Alphabet) : Bool :=
  place.before.any alphabet.isWord

def isWordAfter (place : Place) (alphabet : Alphabet) : Bool :=
  place.rest.head?.any alphabet.isWord

end Place

/-- Whether the condition holds at a place. -/
def Look.holds (look : Look) (place : Place) : Bool :=
  match look with
  | textStart => place.before.isNone
  | textEnd => place.rest.isEmpty
  | lineStart false => place.before.all (· == '\n')
  | lineEnd false => place.rest.head?.all (· == '\n')
  | lineStart true =>
      match place.before with
      | none => true
      | some c => c == '\n' || (c == '\r' && place.rest.head? != some '\n')
  | lineEnd true =>
      match place.rest.head? with
      | none => true
      | some c => c == '\r' || (c == '\n' && place.before != some '\r')
  | wordBoundary a => place.isWordBefore a != place.isWordAfter a
  | noWordBoundary a => place.isWordBefore a == place.isWordAfter a
  | wordStart a => !place.isWordBefore a && place.isWordAfter a
  | wordEnd a => place.isWordBefore a && !place.isWordAfter a
  | noWordBefore a => !place.isWordBefore a
  | noWordAfter a => !place.isWordAfter a

/-- Which places of a text are marked, in the order of the places. -/
abbrev Marks := List Bool

namespace Marks

def isEmpty (marks : Marks) : Bool :=
  marks.all fun mark => !mark

/-- The places that are marked in one of two. -/
def either (a b : Marks) : Marks :=
  List.zipWith (fun x y => x || y) a b

/-- The places that are marked in the first of two alone. -/
def without (a b : Marks) : Marks :=
  List.zipWith (fun x y => x && !y) a b

/-- The marks moved over one character, where it is in the set. -/
def pass (set : CharSet) (places : List Place) (marks : Marks) : Marks :=
  let leaving :=
    List.zipWith (fun place mark => mark && place.rest.head?.any set.contains)
    places marks
  false :: leaving.dropLast

/-- The marks of the places where a condition holds. -/
def keep (look : Look) (places : List Place) (marks : Marks) : Marks :=
  List.zipWith (fun place mark => mark && look.holds place) places marks

/-- The marks that `count` steps lead to. When a step changes nothing, the others do
not either. -/
def after (step : Marks → Marks) : Nat → Marks → Marks
  | 0, marks => marks
  | count + 1, marks =>
      let next := step marks
      if next == marks then marks else after step count next

/-- The marks that at most `count` steps lead to, where `fresh` are those that no
step was taken from. -/
def within (step : Marks → Marks) : Nat → Marks → Marks → Marks
  | 0, seen, _ => seen
  | count + 1, seen, fresh =>
      if fresh.isEmpty then seen
      else
        let found := (step fresh).without seen
        within step count (seen.either found) found

end Marks

namespace Expression

mutual

/-- The places that a pattern runs to from the marked places of a text. More rounds
of a repetition than there are places lead nowhere new: a round too many stays where
it is. -/
def spread (places : List Place) : Expression → Marks → Marks
  | empty, marks => marks
  | setting, marks => marks
  | one set, marks => marks.pass set places
  | look l, marks => marks.keep l places
  | sequence items, marks => spreadAll places items marks
  | choice branches, marks => spreadAny places branches marks
  | repeated least most item, marks =>
      let rounds := places.length
      let step := fun from_ => spread places item from_
      let started := Marks.after step (min least rounds) marks
      let further := match most with
        | some n => min (n - least) rounds
        | none => rounds
      Marks.within step further started started
  | group _ item, marks => spread places item marks

/-- One pattern after the other. -/
def spreadAll (places : List Place) : List Expression → Marks → Marks
  | [], marks => marks
  | item :: rest, marks => spreadAll places rest (spread places item marks)

/-- Any of the patterns. -/
def spreadAny (places : List Place) : List Expression → Marks → Marks
  | [], marks => marks.map fun _ => false
  | branch :: rest, marks =>
      (spread places branch marks).either (spreadAny places rest marks)

end

/-- Whether a pattern covers some part of a text. -/
def occursIn (e : Expression) (text : List Char) : Bool :=
  let places := Place.all text
  !(e.spread places (places.map fun _ => true)).isEmpty

mutual

/-- How deep a pattern nests. -/
def depth : Expression → Nat
  | empty => 0
  | setting => 0
  | one set => set.depth
  | look _ => 0
  | sequence items => 1 + maxDepth items
  | choice branches => 1 + maxDepth branches
  | repeated _ _ item => 1 + item.depth
  | group _ item => 1 + item.depth

def maxDepth : List Expression → Nat
  | [] => 0
  | item :: rest => max item.depth (maxDepth rest)

end

/-- The greatest depth of a pattern that is accepted. -/
def maxNesting : Nat := 250

def isShallow (e : Expression) : Bool :=
  decide (e.depth ≤ maxNesting)

end Expression

end QueryGate.Pattern
