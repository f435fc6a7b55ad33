import QueryGate.Pattern.Bracket
import QueryGate.Pattern.Room

/-!
Reading a pattern from its text.

The groups still open are kept in a list, innermost first, with what stands before
them. Each step reads one part: a parenthesis, a bar, a set in brackets, a
repetition, or a character. `Expression.ofText?` gives the pattern of a text that is
one and is small enough.
-/

namespace QueryGate.Pattern

open QueryGate.Text

/-- A group whose end was not read yet: the switches that hold again after it, the
branches before the one with the group in it, and what stands before the group in
its branch, both latest first. -/
structure OpenGroup where
  remembered : Bool
  flags : Flags
  branches : List Expression
  items : List Expression
deriving Repr

/-- How far a pattern has been read: the finished branches of the innermost group
and what was read of the branch after them, both latest first, the groups around it,
and the names given to groups. -/
structure ReaderState where
  flags : Flags
  branches : List Expression
  items : List Expression
  open_ : List OpenGroup
  names : List (List Char)
deriving Repr

namespace ReaderState

def start : ReaderState :=
  ⟨.start, [], [], [], []⟩

def add (s : ReaderState) (item : Expression) : ReaderState :=
  { s with items := item :: s.items }

/-- The branch that is being read. -/
def branch (s : ReaderState) : Expression :=
  match s.items with
  | [] => .empty
  | [item] => item
  | items => .sequence items.reverse

/-- What the innermost group holds. -/
def content (s : ReaderState) : Expression :=
  match s.branches with
  | [] => s.branch
  | branches => .choice (s.branch :: branches).reverse

/-- Goes on to the next branch. -/
def nextBranch (s : ReaderState) : ReaderState :=
  { s with branches := s.branch :: s.branches, items := [] }

/-- Begins a group in which the given switches hold. -/
def enter (s : ReaderState) (remembered : Bool) (flags : Flags) : ReaderState :=
  { s with
    flags := flags
    branches := []
    items := []
    open_ := ⟨remembered, s.flags, s.branches, s.items⟩ :: s.open_ }

/-- Ends the innermost group. -/
def leave? (s : ReaderState) : Option ReaderState :=
  match s.open_ with
  | [] => none
  | group :: outer =>
      some { s with
        flags := group.flags
        branches := group.branches
        items := .group group.remembered s.content :: group.items
        open_ := outer }

/-- Repeats the item read last. There has to be one. -/
def repeatLast? (s : ReaderState) (least : Nat) (most : Option Nat) :
    Option ReaderState :=
  match s.items with
  | [] => none
  | .setting :: _ => none
  | item :: before => some { s with items := .repeated least most item :: before }

/-- The whole pattern, when no group is open any more. -/
def finish? (s : ReaderState) : Option Expression :=
  if s.open_.isEmpty then some s.content else none

end ReaderState

/-- The characters of the names of groups. -/
def isNameChar (first : Bool) (c : Char) : Bool :=
  c == '_' || Unicode.isAlphabetic c ||
    (!first && (Unicode.isNumeric c || c == '.' || c == '[' || c == ']'))

def isGroupName : List Char → Bool
  | [] => false
  | c :: rest => isNameChar true c && rest.all (isNameChar false)

/-- Reads the name of a group up to its closing angle bracket. -/
def readGroupName? (s : List Char) : Option (List Char × List Char) :=
  match s.span (· != '>') with
  | (name, '>' :: rest) => if isGroupName name then some (name, rest) else none
  | _ => none

/-- Letters of switches are given once each, and a hyphen has letters after it. -/
def areSwitches (letters : List Char) : Bool :=
  decide letters.Nodup && letters.getLast? != some '-'

/-- Reads what follows a question mark after an opening parenthesis: switches for
the rest of the group, or a group with switches of its own. -/
def readSwitches? (state : ReaderState) (s : List Char) :
    Option (ReaderState × List Char) :=
  match s.span fun c => c != ':' && c != ')' with
  | (letters, c :: rest) =>
      if areSwitches letters then do
        let flags ← state.flags.setAll? true letters
        if c = ':' then return (state.enter false flags, rest)
        else if letters.isEmpty then none
        else return ({ state with flags := flags }.add .setting, rest)
      else none
  | _ => none

/-- Reads what follows an opening parenthesis. Conditions on what stands around a
place are no part of patterns. -/
def readGroup? (state : ReaderState) (s : List Char) :
    Option (ReaderState × List Char) :=
  let named := fun (rest : List Char) => do
    let (name, after) ← readGroupName? rest
    if state.names.contains name then none
    else
      return ({ state with names := name :: state.names }.enter true state.flags,
        after)
  match state.flags.skip s with
  | '?' :: '=' :: _ => none
  | '?' :: '!' :: _ => none
  | '?' :: '<' :: '=' :: _ => none
  | '?' :: '<' :: '!' :: _ => none
  | '?' :: 'P' :: '<' :: rest => named rest
  | '?' :: '<' :: rest => named rest
  | '?' :: rest => readSwitches? state rest
  | start => some (state.enter true state.flags, start)

/-- Reads a number, with blanks around it. -/
def readCount? (flags : Flags) (s : List Char) : Option Nat × List Char :=
  let (digits, rest) := flags.run Char.isDigit false (s.dropWhile isBlank)
  let count := digits.foldl (fun n c => 10 * n + (c.toNat - '0'.toNat)) 0
  (if digits.isEmpty || Nat.pow 2 32 ≤ count then none else some count,
    flags.skip (rest.dropWhile isBlank))

/-- Reads the bounds of a repetition after the opening brace. -/
def readBounds? (flags : Flags) (s : List Char) :
    Option ((Nat × Option Nat) × List Char) :=
  let (first, rest) := readCount? flags (flags.skip s)
  match rest with
  | ',' :: after =>
      match flags.skip after with
      | '}' :: after => first.map fun least => ((least, none), after)
      | second =>
          match readCount? flags second with
          | (some most, '}' :: after) =>
              first.bind fun least =>
                if least ≤ most then some ((least, some most), after) else none
          | _ => none
  | '}' :: after => first.map fun count => ((count, some count), after)
  | _ => none

/-- Passes over the mark of a lazy repetition. Whether a pattern occurs does not
depend on it. -/
def skipLazy : List Char → List Char
  | '?' :: rest => rest
  | s => s

/-- The pattern of a primitive. Without Unicode a byte has to be a whole
character. -/
def Flags.expression? (flags : Flags) : Primitive → Option Expression
  | .char c asByte =>
      if !flags.unicode && asByte && !Unicode.isAscii c then none
      else some (.one (flags.withCases (.char c)))
  | .set set => some (.one set)
  | .look look => some (.look look)

/-- What a dot stands for. Without Unicode it would include parts of characters. -/
def Flags.dot? (flags : Flags) : Option Expression :=
  let set : CharSet :=
    if flags.dotMatchesAll then .named .every
    else if flags.crlf then
      (CharSet.named (.ranges [⟨0xA, 0xA, 1⟩, ⟨0xD, 0xD, 1⟩])).complement
    else (CharSet.char '\n').complement
  if flags.unicode then some (.one set) else none

def Flags.caret (flags : Flags) : Look :=
  if flags.multiLine then .lineStart flags.crlf else .textStart

def Flags.dollar (flags : Flags) : Look :=
  if flags.multiLine then .lineEnd flags.crlf else .textEnd

/-- Reads one part of a pattern, which begins with `c`. -/
def readPart? (state : ReaderState) (c : Char) (rest : List Char) :
    Option (ReaderState × List Char) :=
  let flags := state.flags
  match c with
  | '(' => readGroup? state rest
  | ')' => state.leave?.map fun left => (left, rest)
  | '|' => some (state.nextBranch, rest)
  | '[' => (readSet? flags rest).map fun read => (state.add (.one read.1), read.2)
  | '?' => (state.repeatLast? 0 (some 1)).map fun next => (next, skipLazy rest)
  | '*' => (state.repeatLast? 0 none).map fun next => (next, skipLazy rest)
  | '+' => (state.repeatLast? 1 none).map fun next => (next, skipLazy rest)
  | '{' => do
      let ((least, most), after) ← readBounds? flags rest
      let next ← state.repeatLast? least most
      return (next, skipLazy (flags.skip after))
  | '\\' => do
      let (read, after) ← readEscape? flags rest
      return (state.add (← flags.expression? read), after)
  | '.' => flags.dot?.map fun dot => (state.add dot, rest)
  | '^' => some (state.add (.look flags.caret), rest)
  | '$' => some (state.add (.look flags.dollar), rest)
  | c => (flags.expression? (.char c false)).map fun read => (state.add read, rest)

/-- Reads to the end of the text, in at most `fuel` parts. -/
def readParts? : Nat → ReaderState → List Char → Option Expression
  | 0, _, _ => none
  | fuel + 1, state, s =>
      match state.flags.skip s with
      | [] => state.finish?
      | c :: rest =>
          match readPart? state c rest with
          | some (next, after) => readParts? fuel next after
          | none => none

/-- The pattern of a text that nests no deeper than patterns may. Every part has a
character, so there are no more parts than characters. -/
def Expression.read? (text : List Char) : Option Expression :=
  (readParts? (text.length + 1) .start text).filter Expression.isShallow

/-- The pattern of a text that takes no more room than patterns may. -/
def Expression.ofText? (text : List Char) : Option Expression :=
  (read? text).filter Expression.fits

end QueryGate.Pattern
