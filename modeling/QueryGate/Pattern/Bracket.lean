import QueryGate.Pattern.Primitive

/-!
Sets of characters in brackets.

The brackets still open are kept in a list, innermost first. Each step reads an
opening or a closing bracket, an operator between sets, a class of ASCII characters
by name, or a character or range.
-/

namespace QueryGate.Pattern

open QueryGate.Text

/-- A bracket whose end was not read yet: the operator read last with the set on its
left, and the items since then, latest first. -/
structure OpenBracket where
  negated : Bool
  left : Option (SetOperation × CharSet)
  items : List CharSet
deriving Repr

namespace OpenBracket

def add (bracket : OpenBracket) (set : CharSet) : OpenBracket :=
  { bracket with items := set :: bracket.items }

/-- The set that was read so far. Operators are applied from left to right. -/
def value (flags : Flags) (bracket : OpenBracket) : CharSet :=
  let right := flags.withCases (.ofItems bracket.items.reverse)
  match bracket.left with
  | some (operation, left) => .joined operation left right
  | none => right

/-- Goes on to the right side of an operator. -/
def operator (flags : Flags) (bracket : OpenBracket) (operation : SetOperation) :
    OpenBracket :=
  { bracket with left := some (operation, bracket.value flags), items := [] }

/-- The set of a bracket that is closed. -/
def close? (flags : Flags) (bracket : OpenBracket) : Option CharSet :=
  (flags.complementIf? bracket.negated (bracket.value flags)).map CharSet.bracketed

end OpenBracket

/-- Reads hyphens at the start of a bracket. They stand for themselves. -/
def readHyphens (flags : Flags) (inComment : Bool) :
    List Char → List CharSet × List Char
  | [] => ([], [])
  | c :: rest =>
      if inComment then readHyphens flags (c != '\n') rest
      else if flags.spaced && isBlank c then readHyphens flags false rest
      else if flags.spaced && c = '#' then readHyphens flags true rest
      else if c = '-' then
        let further := readHyphens flags false rest
        (.char '-' :: further.1, further.2)
      else ([], c :: rest)

/-- Reads what may follow an opening bracket: a caret, then hyphens, or a closing
bracket that stands for itself. -/
def openBracket? (flags : Flags) (s : List Char) :
    Option (OpenBracket × List Char) :=
  let (negated, start) := match flags.skip s with
    | '^' :: rest => (true, flags.skip rest)
    | start => (false, start)
  match readHyphens flags false start with
  | ([], ']' :: rest) =>
      match flags.skip rest with
      | [] => none
      | after => some (⟨negated, none, [.char ']']⟩, after)
  | (_, []) => none
  | (hyphens, after) => some (⟨negated, none, hyphens.reverse⟩, after)

/-- Reads the name of a class of ASCII characters after an opening bracket. -/
def readAsciiClass? (s : List Char) : Option ((Bool × AsciiClass) × List Char) :=
  match s with
  | ':' :: rest =>
      let (negated, start) := match rest with
        | '^' :: after => (true, after)
        | other => (false, other)
      match start.span (· != ':') with
      | (name, ':' :: ']' :: after) =>
          (AsciiClass.ofName? name).map fun found => ((negated, found), after)
      | _ => none
  | _ => none

/-- A character that may stand in brackets. Without Unicode it is one of ASCII. -/
def Flags.bracketChar? (flags : Flags) : Primitive → Option Char
  | .char c _ => if flags.unicode || Unicode.isAscii c then some c else none
  | _ => none

/-- A character or a class that may stand in brackets. -/
def Flags.bracketItem? (flags : Flags) : Primitive → Option CharSet
  | .set set => some set
  | other => (flags.bracketChar? other).map .char

/-- Reads a character or an escape within brackets. -/
def readBracketPrimitive? (flags : Flags) :
    List Char → Option (Primitive × List Char)
  | [] => none
  | '\\' :: rest => readEscape? flags rest
  | c :: rest => some (.char c false, rest)

/-- The first character that is neither a blank nor the first number sign. Comments
are looked into, because their end is a blank itself. -/
def firstInComment (inComment : Bool) : List Char → Option Char
  | [] => none
  | c :: rest =>
      if isBlank c then firstInComment inComment rest
      else if c = '#' && !inComment then firstInComment true rest
      else some c

/-- The character after a hyphen, by which it is decided whether the hyphen makes a
range. -/
def Flags.afterHyphen? (flags : Flags) (s : List Char) : Option Char :=
  if flags.spaced then firstInComment false s <|> s.head? else s.head?

/-- Reads a character, a class, or a range of characters. -/
def readBracketItem? (flags : Flags) (s : List Char) :
    Option (CharSet × List Char) := do
  let (first, after) ← readBracketPrimitive? flags s
  match flags.skip after with
  | [] => none
  | '-' :: rest =>
      if flags.afterHyphen? rest = some ']' ||
        flags.afterHyphen? rest = some '-' then
        return (← flags.bracketItem? first, '-' :: rest)
      else
        let (last, after) ← readBracketPrimitive? flags (flags.skip rest)
        let low ← flags.bracketChar? first
        let high ← flags.bracketChar? last
        if low ≤ high then return (.range low high, after) else none
  | rest => return (← flags.bracketItem? first, rest)

/-- What one step leaves to be read: more within brackets, or what follows them. -/
inductive BracketStep where
  | more (open_ : List OpenBracket) (rest : List Char)
  | done (set : CharSet) (rest : List Char)

/-- Opens a bracket within another one, unless it holds the name of a class. -/
def nestBracket? (flags : Flags) (inner : OpenBracket) (outer : List OpenBracket)
    (rest : List Char) : Option BracketStep :=
  match readAsciiClass? rest with
  | some ((negated, name), after) => do
      let set ← flags.complementIf? negated
        (flags.withCases (.named (.ranges name.ranges)))
      return .more (inner.add set :: outer) after
  | none => do
      let (opened, after) ← openBracket? flags rest
      return .more (opened :: inner :: outer) after

/-- Reads one part of what stands in the innermost bracket. -/
def stepBracket? (flags : Flags) (inner : OpenBracket) (outer : List OpenBracket)
    (s : List Char) : Option BracketStep :=
  match s with
  | [] => none
  | '[' :: rest => nestBracket? flags inner outer rest
  | ']' :: rest => do
      let set ← inner.close? flags
      match outer with
      | [] => return .done set rest
      | next :: further => return .more (next.add set :: further) rest
  | '&' :: '&' :: rest =>
      some (.more (inner.operator flags .intersection :: outer) rest)
  | '-' :: '-' :: rest =>
      some (.more (inner.operator flags .difference :: outer) rest)
  | '~' :: '~' :: rest =>
      some (.more (inner.operator flags .symmetricDifference :: outer) rest)
  | _ => do
      let (set, rest) ← readBracketItem? flags s
      return .more (inner.add set :: outer) rest

/-- Reads to the end of the outermost bracket, in at most `fuel` steps. -/
def readBrackets? (flags : Flags) :
    Nat → List OpenBracket → List Char → Option (CharSet × List Char)
  | fuel + 1, inner :: outer, s =>
      match stepBracket? flags inner outer (flags.skip s) with
      | some (.more open_ rest) => readBrackets? flags fuel open_ rest
      | some (.done set rest) => some (set, rest)
      | none => none
  | _, _, _ => none

/-- Reads a set after its opening bracket. Every step reads a character, so there
are no more steps than characters. -/
def readSet? (flags : Flags) (s : List Char) : Option (CharSet × List Char) := do
  let (opened, rest) ← openBracket? flags s
  readBrackets? flags (rest.length + 1) [opened] rest

end QueryGate.Pattern
