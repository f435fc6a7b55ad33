import QueryGate.Document.Lexeme
import QueryGate.Document.Operation

/-!
The sections of a query document.

A document holds an optional block of variables, operations and fragment
definitions, introduced by the keywords `variables`, `query`, `mutation`,
`subscription` and `fragment`. A keyword counts where no brace and no parenthesis is
open and no sigil stands before it; a selection set that stands alone is an
operation too. A section's text ends with the last brace that closes at the top
level, and a section without such a brace is dropped.
-/

namespace QueryGate.Document

open QueryGate.Text

inductive SectionKind where
  | vars
  | operation
  | fragment
deriving DecidableEq, Repr

/-- The kind of section that a word introduces. -/
def SectionKind.ofKeyword? (word : List Char) : Option SectionKind :=
  if word = "variables".toList then some .vars
  else if word = "fragment".toList then some .fragment
  else (Operation.ofKeyword? word).map fun _ => .operation

/-- A section of a document with its trimmed text. -/
structure Section where
  kind : SectionKind
  text : List Char
deriving DecidableEq, Repr

/-- A section that is being read: the lexemes since it began, and those up to its
last closing brace at the top level, both latest first. -/
structure OpenSection where
  kind : SectionKind
  since : List Lexeme
  closed : Option (List Lexeme)
deriving DecidableEq, Repr

def OpenSection.start (kind : SectionKind) (lexemes : List Lexeme) : OpenSection :=
  ⟨kind, lexemes, none⟩

def OpenSection.push (s : OpenSection) (l : Lexeme) : OpenSection :=
  { s with since := l :: s.since }

/-- Marks the end of what was read so far as the end of the section's text. -/
def OpenSection.close (s : OpenSection) : OpenSection :=
  { s with closed := some s.since }

/-- The finished section, unless it never closed. -/
def OpenSection.finish (s : OpenSection) : Option Section :=
  s.closed.map fun lexemes => ⟨s.kind, trim (Lexeme.text lexemes.reverse)⟩

/-- How far a document has been read: the trimmed bodies of the comments at the top
level and the finished sections, both latest first, how many braces and parentheses
are open, and whether the lexeme just read makes the next word a variable or a
directive. -/
structure Reading where
  comments : List (List Char) := []
  finished : List Section := []
  current : Option OpenSection := none
  depth : Nat := 0
  parens : Nat := 0
  afterSigil : Bool := false
deriving DecidableEq, Repr

/-- A word here may be a section keyword. -/
def Reading.atTopLevel (r : Reading) : Bool :=
  r.depth == 0 && r.parens == 0 && !r.afterSigil

def Reading.push (r : Reading) (l : Lexeme) : Reading :=
  { r with current := r.current.map (·.push l), afterSigil := false }

def Reading.comment (r : Reading) (body : List Char) : Reading :=
  if r.depth = 0 then { r with comments := trim body :: r.comments } else r

/-- Ends the section that is being read. -/
def Reading.endSection (r : Reading) : Reading :=
  { r with
    finished := (r.current.bind OpenSection.finish).toList ++ r.finished
    current := none }

/-- Begins a section. The keyword belongs to the text of an operation or a fragment,
and not to that of the variables. -/
def Reading.beginSection (r : Reading) (kind : SectionKind)
    (keyword : Lexeme) : Reading :=
  { r.endSection with
    current := some (.start kind (if kind = .vars then [] else [keyword]))
    afterSigil := false }

/-- Reads one lexeme. -/
def Reading.step (r : Reading) (l : Lexeme) : Reading :=
  match l with
  | .lineComment body => (r.comment body).push l
  | .blockComment body _ => (r.comment body).push l
  | .openBrace =>
      let r' :=
        if r.depth = 0 && r.current.isNone then
          { r with current := some (.start .operation [l]), afterSigil := false }
        else r.push l
      { r' with depth := r.depth + 1 }
  | .closeBrace =>
      let r' := { r.push l with depth := r.depth - 1 }
      if r'.depth = 0 then
        { r' with current := r'.current.map OpenSection.close }
      else r'
  | .openParen => { r.push l with parens := r.parens + 1 }
  | .closeParen => { r.push l with parens := r.parens - 1 }
  | .word text =>
      match SectionKind.ofKeyword? text with
      | some kind => if r.atTopLevel then r.beginSection kind l else r.push l
      | none => r.push l
  | .mark c => { r.push l with afterSigil := c == '$' || c == '@' }
  | .literal _ => r.push l

/-- Reads lexemes one after the other. -/
def Reading.run (r : Reading) (ls : List Lexeme) : Reading :=
  ls.foldl Reading.step r

/-- The reading of a whole document. -/
def Reading.ofText (text : List Char) : Reading :=
  (Reading.run {} (lexemes text)).endSection

/-- The sections of a document, in order. -/
def sections (text : List Char) : List Section :=
  (Reading.ofText text).finished.reverse

/-- The trimmed bodies of a document's comments at the top level, in order. -/
def topComments (text : List Char) : List (List Char) :=
  (Reading.ofText text).comments.reverse

end QueryGate.Document
