import QueryGate.Toml.Scalar
import QueryGate.Toml.Table

/-!
Reading a TOML document.

`Document.ofText?` gives the entries of a document, or nothing when the text is
none.
-/

namespace QueryGate.Toml

/-- Passes over comments, blanks and line ends. It stops where something else
begins. -/
def skipFiller (inComment : Bool) : List Char → List Char
  | [] => []
  | '\r' :: '\n' :: rest => skipFiller false rest
  | '\n' :: rest => skipFiller false rest
  | c :: rest =>
      if inComment then (if isPrintable c then skipFiller true rest else c :: rest)
      else if isInlineBlank c then skipFiller false rest
      else if c = '#' then skipFiller true rest
      else c :: rest

def skipInlineBlanks (s : List Char) : List Char :=
  s.dropWhile isInlineBlank

/-- What follows the end of a line, when nothing but blanks and a comment stands
before it. -/
def afterLineEnd? (s : List Char) : Option (List Char) :=
  let rest := match skipInlineBlanks s with
    | '#' :: comment => comment.dropWhile isPrintable
    | other => other
  match rest with
  | [] => some []
  | '\n' :: after => some after
  | '\r' :: '\n' :: after => some after
  | _ => none

/-- The characters of keys without quotes. -/
def isBareKeyChar (c : Char) : Bool :=
  c.isAlphanum || c == '_' || c == '-'

/-- Reads one part of a key. -/
def readKeyPart? (s : List Char) : Option (String × List Char) :=
  let asString := fun read : Option (List Char × List Char) =>
    read.map fun (content, rest) => (String.ofList content, rest)
  match s with
  | '"' :: rest => asString (quotedRest? rest)
  | '\'' :: rest => asString (literalRest? rest)
  | _ =>
      let bare := s.takeWhile isBareKeyChar
      if bare.isEmpty then none
      else some (String.ofList bare, s.dropWhile isBareKeyChar)

/-- Reads the parts of a key, with dots between them, in at most `fuel` parts. -/
def readKeyParts? : Nat → List Char → Option (List String × List Char)
  | 0, _ => none
  | fuel + 1, s =>
      match readKeyPart? (skipInlineBlanks s) with
      | none => none
      | some (part, rest) =>
          match skipInlineBlanks rest with
          | '.' :: after =>
              (readKeyParts? fuel after).map fun (parts, rest) =>
                (part :: parts, rest)
          | rest => some ([part], rest)

/-- How deep values may nest, and how many parts a key may have. -/
def maxDepth : Nat := 79

/-- Reads a key: the parts before the last, and the last. -/
def readKey? (s : List Char) : Option ((List String × String) × List Char) := do
  let (parts, rest) ← readKeyParts? maxDepth s
  let last ← parts.getLast?
  return ((parts.dropLast, last), rest)

mutual

/-- Reads a value. `depth` is how much deeper values may nest. -/
def readValue? : Nat → Nat → List Char → Option (Value × List Char)
  | 0, _, _ => none
  | fuel + 1, depth, s =>
      match s with
      | '"' :: _ => (readText? s).map fun (text, rest) => (.text text, rest)
      | '\'' :: _ => (readText? s).map fun (text, rest) => (.text text, rest)
      | '[' :: rest =>
          if depth = 0 then none else readItems? fuel (depth - 1) [] rest
      | '{' :: rest =>
          if depth = 0 then none
          else
            match skipInlineBlanks rest with
            | '}' :: after => some (.table [], after)
            | start => readPairs? fuel (depth - 1) [] start
      | _ => readScalar? s

/-- Reads the items of a list and its closing bracket. -/
def readItems? : Nat → Nat → List Value → List Char → Option (Value × List Char)
  | 0, _, _, _ => none
  | fuel + 1, depth, items, s =>
      match skipFiller false s with
      | ']' :: rest => some (.list items.reverse, rest)
      | start =>
          match readValue? fuel depth start with
          | none => none
          | some (item, rest) =>
              match skipFiller false rest with
              | ',' :: after => readItems? fuel depth (item :: items) after
              | ']' :: after => some (.list (item :: items).reverse, after)
              | _ => none

/-- Reads the pairs of a table on one line and its closing brace. -/
def readPairs? : Nat → Nat → Entries → List Char → Option (Value × List Char)
  | 0, _, _, _ => none
  | fuel + 1, depth, entries, s =>
      match readKey? s with
      | some ((path, key), '=' :: rest) =>
          match readValue? fuel depth (skipInlineBlanks rest) with
          | none => none
          | some (value, rest) =>
              match entries.set path key value .declared with
              | none => none
              | some entries =>
                  match skipInlineBlanks rest with
                  | ',' :: after => readPairs? fuel depth entries after
                  | '}' :: after =>
                      some ((Node.table .declared entries).toValue, after)
                  | _ => none
      | _ => none

end

/-- The tables that were read so far, and the header of the one that pairs belong
to. -/
structure Document where
  entries : Entries
  header : List String
deriving Repr

namespace Document

def empty : Document :=
  ⟨[], []⟩

/-- Reads a header after its opening bracket. -/
def readHeader? (document : Document) (s : List Char) :
    Option (Document × List Char) :=
  match s with
  | '[' :: rest =>
      match readKey? rest with
      | some ((parents, key), ']' :: ']' :: after) => do
          let entries ← document.entries.append parents key
          return (⟨entries, parents ++ [key]⟩, after)
      | _ => none
  | _ =>
      match readKey? s with
      | some ((parents, key), ']' :: after) => do
          let entries ← document.entries.declare parents key
          return (⟨entries, parents ++ [key]⟩, after)
      | _ => none

/-- Reads a pair of a key and a value. -/
def readPair? (document : Document) (s : List Char) :
    Option (Document × List Char) :=
  match readKey? s with
  | some ((path, key), '=' :: rest) => do
      let (value, after) ← readValue? (2 * rest.length + 2) maxDepth
        (skipInlineBlanks rest)
      let entries ← document.entries.setIn document.header path key value
      return ({ document with entries := entries }, after)
  | _ => none

/-- Reads the lines of a document, at most `fuel` of them. -/
def readLines? : Nat → Document → List Char → Option Document
  | 0, _, _ => none
  | fuel + 1, document, s =>
      match skipFiller false s with
      | [] => some document
      | start =>
          let line := match start with
            | '[' :: rest => document.readHeader? rest
            | _ => document.readPair? start
          match line with
          | none => none
          | some (next, rest) => (afterLineEnd? rest).bind (readLines? fuel next)

/-- The character that may mark the order of bytes at the start of a text. -/
def byteOrderMark : Char := '\uFEFF'

/-- The entries of a document. Every line has a character, so there are no more
lines than characters. -/
def ofText? (text : List Char) : Option (List (String × Value)) :=
  let start := match text with
    | c :: rest => if c = byteOrderMark then rest else text
    | [] => []
  (readLines? (start.length + 1) .empty start).map fun document =>
    Node.valuesOf document.entries

end Document

end QueryGate.Toml
