import QueryGate.Document.Item

/-!
How a document is written.

A document is written as comments and clauses, with blank characters between them. A
clause is a keyword, the rest of its header and a body in braces: the block of
variables, an operation or a fragment definition. `Written parts text` says that a
text is a document of these parts, without reading it: what a body and a header may
hold is said by `Balanced` and `Header`.
-/

namespace QueryGate.Document

open QueryGate.Text

/-- The words that begin a clause. -/
def keywords : List String :=
  ["variables", "query", "mutation", "subscription", "fragment"]

/-- A text does not go on with a character of a word. -/
def EndsWord (rest : List Char) : Prop :=
  ∀ c ∈ rest.head?, isWordChar c = false

instance : (rest : List Char) → Decidable (EndsWord rest)
  | [] => isTrue fun _ hc => by cases hc
  | c :: _ => decidable_of_iff (isWordChar c = false) (by simp [EndsWord])

/-- All characters of a word, of which there is at least one. -/
def IsWord (word : List Char) : Prop :=
  word ≠ [] ∧ ∀ c ∈ word, isWordChar c = true

instance (word : List Char) : Decidable (IsWord word) :=
  decidable_of_iff (word ≠ [] ∧ word.all isWordChar = true)
    (by rw [IsWord, List.all_eq_true])

/-- A character that stands for itself before a text: it belongs to no word, and
begins neither a literal nor a comment. -/
def IsMark (c : Char) (rest : List Char) : Prop :=
  isWordChar c = false ∧ c ∉ ['"', '#', '{', '}', '(', ')'] ∧
    (c = '/' → rest.head? ≠ some '*')

instance (c : Char) (rest : List Char) : Decidable (IsMark c rest) :=
  inferInstanceAs (Decidable (isWordChar c = false ∧
    c ∉ ['"', '#', '{', '}', '(', ')'] ∧
    (c = '/' → rest.head? ≠ some '*')))

/-- The inside of a string literal. A backslash takes the next character with it; no
other quote and no other line end is inside. -/
inductive Quoted : List Char → Prop
  | nil : Quoted []
  | char {c : Char} {rest : List Char} (hquote : c ≠ '"') (hline : c ≠ '\n')
      (hescape : c ≠ '\\') (h : Quoted rest) : Quoted (c :: rest)
  | escaped (c : Char) {rest : List Char} (h : Quoted rest) :
      Quoted ('\\' :: c :: rest)

/-- The quotes around a block string. -/
def blockQuotes : List Char :=
  ['"', '"', '"']

/-- The inside of a block string, after a character. With the closing quotes behind
it, the first three quotes that no backslash precedes are the closing ones. -/
inductive BlockQuoted : Char → List Char → Prop
  | nil {before : Char} (hclose : before ≠ '\\') : BlockQuoted before []
  | char {before c : Char} {rest : List Char}
      (hopen : before = '\\' ∨ ¬ blockQuotes <+: c :: rest ++ blockQuotes)
      (h : BlockQuoted c rest) : BlockQuoted before (c :: rest)

/-- The inside of a comment between slashes and stars. -/
def IsBlockComment (body : List Char) : Prop :=
  ¬ ['*', '/'] <:+: body

instance (body : List Char) : Decidable (IsBlockComment body) :=
  inferInstanceAs (Decidable (¬ ['*', '/'] <:+: body))

/-- A text that closes all braces and parentheses open before it and those that it
opens, and never one more. Those inside a literal or a comment do not count;
literals and comments end in the text, a literal also with its line. -/
inductive Balanced : Nat → Nat → List Char → Prop
  | nil : Balanced 0 0 []
  | openBrace {braces parens : Nat} {rest : List Char}
      (h : Balanced (braces + 1) parens rest) :
      Balanced braces parens ('{' :: rest)
  | closeBrace {braces parens : Nat} {rest : List Char}
      (h : Balanced braces parens rest) :
      Balanced (braces + 1) parens ('}' :: rest)
  | openParen {braces parens : Nat} {rest : List Char}
      (h : Balanced braces (parens + 1) rest) :
      Balanced braces parens ('(' :: rest)
  | closeParen {braces parens : Nat} {rest : List Char}
      (h : Balanced braces parens rest) :
      Balanced braces (parens + 1) (')' :: rest)
  | word {braces parens : Nat} (word : List Char) {rest : List Char}
      (hword : IsWord word) (hends : EndsWord rest)
      (h : Balanced braces parens rest) :
      Balanced braces parens (word ++ rest)
  | mark {braces parens : Nat} {c : Char} {rest : List Char} (hmark : IsMark c rest)
      (h : Balanced braces parens rest) : Balanced braces parens (c :: rest)
  | literal {braces parens : Nat} (inner : List Char) {rest : List Char}
      (hinner : Quoted inner)
      (hempty : inner = [] → rest.head? ≠ some '"')
      (h : Balanced braces parens rest) :
      Balanced braces parens ('"' :: inner ++ ['"'] ++ rest)
  | cutLiteral {braces parens : Nat} (inner : List Char) {rest : List Char}
      (hinner : Quoted inner) (h : Balanced braces parens ('\n' :: rest)) :
      Balanced braces parens ('"' :: inner ++ '\n' :: rest)
  | blockString {braces parens : Nat} (inner : List Char) {rest : List Char}
      (hinner : BlockQuoted '"' inner) (h : Balanced braces parens rest) :
      Balanced braces parens (blockQuotes ++ inner ++ blockQuotes ++ rest)
  | lineComment {braces parens : Nat} (body : List Char) {rest : List Char}
      (hbody : '\n' ∉ body) (h : Balanced braces parens ('\n' :: rest)) :
      Balanced braces parens ('#' :: body ++ '\n' :: rest)
  | blockComment {braces parens : Nat} (body : List Char) {rest : List Char}
      (hbody : IsBlockComment body) (h : Balanced braces parens rest) :
      Balanced braces parens ('/' :: '*' :: body ++ ['*', '/'] ++ rest)

/-- A header after its keyword, with parentheses open before it. It holds no braces,
literals or comments, it closes all parentheses, and outside of them it holds no
keyword. -/
inductive Header : Nat → List Char → Prop
  | nil : Header 0 []
  | openParen {parens : Nat} {rest : List Char} (h : Header (parens + 1) rest) :
      Header parens ('(' :: rest)
  | closeParen {parens : Nat} {rest : List Char} (h : Header parens rest) :
      Header (parens + 1) (')' :: rest)
  | word {parens : Nat} (word : List Char) {rest : List Char} (hword : IsWord word)
      (hends : EndsWord rest)
      (hkeyword : parens = 0 → ∀ keyword ∈ keywords, word ≠ keyword.toList)
      (h : Header parens rest) :
      Header parens (word ++ rest)
  | mark {parens : Nat} {c : Char} {rest : List Char} (hmark : IsMark c rest)
      (h : Header parens rest) : Header parens (c :: rest)

/-- What begins with a keyword. -/
inductive ClauseKind where
  | vars
  | operation (kind : Operation)
  | fragment
deriving DecidableEq, Repr

def ClauseKind.keyword : ClauseKind → String
  | .vars => "variables"
  | .operation kind => kind.keyword
  | .fragment => "fragment"

/-- The kind of section that a clause is. -/
def ClauseKind.sectionKind : ClauseKind → SectionKind
  | .vars => .vars
  | .operation _ => .operation
  | .fragment => .fragment

/-- A clause: its keyword, a gap, the name that it defines, the rest of its header,
and its body. -/
structure Clause where
  kind : ClauseKind
  gap : List Char
  name : List Char
  rest : List Char
  body : List Char
deriving DecidableEq, Repr

namespace Clause

/-- The header after the keyword. -/
def header (clause : Clause) : List Char :=
  clause.gap ++ clause.name ++ clause.rest

/-- The body in its braces. -/
def block (clause : Clause) : List Char :=
  '{' :: clause.body ++ ['}']

/-- A clause from its keyword to its closing brace. -/
def text (clause : Clause) : List Char :=
  clause.kind.keyword.toList ++ clause.header ++ clause.block

/-- The name is the first thing in the header, and it ends where the rest begins.
The block of variables has nothing between its keyword and its brace. -/
structure Proper (clause : Clause) : Prop where
  gap : ∀ c ∈ clause.gap, isBlank c = true
  name : ∀ c ∈ clause.name, isWordChar c = true
  apart : clause.gap = [] → clause.name = []
  ends : EndsWord clause.rest
  unnamed : clause.name = [] → ∀ c ∈ clause.rest.head?, isBlank c = false
  vars : clause.kind = .vars → clause.name = [] ∧ clause.rest = []
  header : Header 0 clause.header
  body : Balanced 0 0 clause.body

end Clause

/-- A part of a document. -/
inductive Part where
  | comment (body : List Char)
  | clause (clause : Clause)

/-- The bodies of the comments between clauses, in order. -/
def commentsOf (parts : List Part) : List (List Char) :=
  parts.filterMap fun
    | .comment body => some body
    | .clause _ => none

/-- The clauses, in order. -/
def clausesOf (parts : List Part) : List Clause :=
  parts.filterMap fun
    | .comment _ => none
    | .clause clause => some clause

/-- The clauses that are sections of a kind, in order. -/
def clausesOfKind (kind : SectionKind) (parts : List Part) : List Clause :=
  (clausesOf parts).filter (·.kind.sectionKind = kind)

/-- A text is a document of these parts, in this order. -/
inductive Written : List Part → List Char → Prop
  | nil : Written [] []
  | blank {parts : List Part} {c : Char} {rest : List Char}
      (hblank : isBlank c = true) (h : Written parts rest) :
      Written parts (c :: rest)
  | lineComment {parts : List Part} {body rest : List Char} (hbody : '\n' ∉ body)
      (hends : ∀ c ∈ rest.head?, c = '\n') (h : Written parts rest) :
      Written (.comment body :: parts) ('#' :: body ++ rest)
  | blockComment {parts : List Part} {body rest : List Char}
      (hbody : IsBlockComment body) (h : Written parts rest) :
      Written (.comment body :: parts) ('/' :: '*' :: body ++ ['*', '/'] ++ rest)
  | clause {parts : List Part} {clause : Clause} {rest : List Char}
      (hclause : clause.Proper)
      (h : Written parts rest) : Written (.clause clause :: parts)
      (clause.text ++ rest)

end QueryGate.Document
