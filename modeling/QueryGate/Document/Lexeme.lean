import QueryGate.Text.Split
import QueryGate.Text.Word

/-!
The lexemes of a query document.

A document is read as a sequence of string literals, comments, braces, parentheses,
words and single characters. Each lexeme keeps the characters it was read from, so
the lexemes of a text concatenate to that text. Braces, parentheses and words inside
a literal or a comment are part of it and never lexemes of their own.
-/

namespace QueryGate.Document

open QueryGate.Text

/-- A literal is a string or block string together with its quotes. A line comment
goes from its number sign up to the end of the line, and a block comment to the end
of the document where it is not closed. A word is a longest run of identifier
characters, and a mark is any other character. -/
inductive Lexeme where
  | literal (text : List Char)
  | lineComment (body : List Char)
  | blockComment (body : List Char) (closed : Bool)
  | openBrace
  | closeBrace
  | openParen
  | closeParen
  | word (text : List Char)
  | mark (c : Char)
deriving DecidableEq, Repr

/-- The characters a lexeme was read from. -/
def Lexeme.chars : Lexeme → List Char
  | .literal text => text
  | .lineComment body => '#' :: body
  | .blockComment body closed =>
      '/' :: '*' :: body ++ (if closed then ['*', '/'] else [])
  | .openBrace => ['{']
  | .closeBrace => ['}']
  | .openParen => ['(']
  | .closeParen => [')']
  | .word text => text
  | .mark c => [c]

/-- The characters of a sequence of lexemes. -/
def Lexeme.text (lexemes : List Lexeme) : List Char :=
  lexemes.flatMap Lexeme.chars

/-- Reads a string literal after its opening quote: up to and including the closing
quote, up to the end of the line, or up to the end of the text. A backslash takes
the next character with it. -/
def quotedRest : List Char → List Char × List Char
  | [] => ([], [])
  | '"' :: rest => (['"'], rest)
  | '\n' :: rest => ([], '\n' :: rest)
  | '\\' :: c :: rest =>
      let cut := quotedRest rest
      ('\\' :: c :: cut.1, cut.2)
  | c :: rest =>
      let cut := quotedRest rest
      (c :: cut.1, cut.2)

/-- Reads a block string after its opening quotes: up to and including the first
three quotes that no backslash precedes, or up to the end of the text. `before` is
the character read last. -/
def blockRest (before : Char) : List Char → List Char × List Char
  | [] => ([], [])
  | c :: rest =>
      if before != '\\' && ['"', '"', '"'].isPrefixOf (c :: rest) then
        ((c :: rest).take 3, (c :: rest).drop 3)
      else
        let cut := blockRest c rest
        (c :: cut.1, cut.2)

/-- Reads the literal that an opening quote begins. -/
def literalFrom (afterQuote : List Char) : Lexeme × List Char :=
  if ['"', '"'].isPrefixOf afterQuote then
    let cut := blockRest '"' (afterQuote.drop 2)
    (.literal ('"' :: '"' :: '"' :: cut.1), cut.2)
  else
    let cut := quotedRest afterQuote
    (.literal ('"' :: cut.1), cut.2)

/-- Reads the comment whose two opening characters were just read. -/
def blockCommentFrom (afterMark : List Char) : Lexeme × List Char :=
  match splitOnce ['*', '/'] afterMark with
  | some (body, rest) => (.blockComment body true, rest)
  | none => (.blockComment afterMark false, [])

/-- The lexeme a non-empty text begins with, and what follows it. -/
def firstLexeme (c : Char) (rest : List Char) : Lexeme × List Char :=
  if c = '"' then literalFrom rest
  else if c = '#' then
    (.lineComment (rest.takeWhile (· != '\n')), rest.dropWhile (· != '\n'))
  else if c = '/' && ['*'].isPrefixOf rest then blockCommentFrom (rest.drop 1)
  else if c = '{' then (.openBrace, rest)
  else if c = '}' then (.closeBrace, rest)
  else if c = '(' then (.openParen, rest)
  else if c = ')' then (.closeParen, rest)
  else if isWordChar c then (.word (c :: leadingWord rest), afterLeadingWord rest)
  else (.mark c, rest)

theorem quotedRest_append (s : List Char) :
    (quotedRest s).1 ++ (quotedRest s).2 = s := by
  fun_induction quotedRest s with
  | case1 => rfl
  | case2 => rfl
  | case3 => rfl
  | case4 c rest cut ih => simpa [cut] using ih
  | case5 c rest _ _ _ cut ih => simpa [cut] using ih

theorem blockRest_append (before : Char) (s : List Char) :
    (blockRest before s).1 ++ (blockRest before s).2 = s := by
  fun_induction blockRest before s with
  | case1 => rfl
  | case2 => simp only [List.take_append_drop]
  | case3 before c rest _ cut ih => simpa [cut] using ih

theorem literalFrom_append (s : List Char) :
    (literalFrom s).1.chars ++ (literalFrom s).2 = '"' :: s := by
  simp only [literalFrom]
  split
  · next h =>
      obtain ⟨t, rfl⟩ := List.isPrefixOf_iff_prefix.1 h
      simp [Lexeme.chars, blockRest_append]
  · simp [Lexeme.chars, quotedRest_append]

theorem blockCommentFrom_append (s : List Char) :
    (blockCommentFrom s).1.chars ++ (blockCommentFrom s).2 = '/' :: '*' :: s := by
  simp only [blockCommentFrom]
  split
  · next body rest h => simp [Lexeme.chars, eq_append_of_splitOnce h]
  · simp [Lexeme.chars]

/-- Reading a lexeme neither loses nor reorders a character. -/
theorem firstLexeme_append (c : Char) (rest : List Char) :
    (firstLexeme c rest).1.chars ++ (firstLexeme c rest).2 = c :: rest := by
  simp only [firstLexeme]
  split
  · next h => rw [h, literalFrom_append]
  split
  · next h => simp [h, Lexeme.chars, List.takeWhile_append_dropWhile]
  split
  · next h =>
      simp only [Bool.and_eq_true, decide_eq_true_eq] at h
      obtain ⟨t, ht⟩ := List.isPrefixOf_iff_prefix.1 h.2
      rw [blockCommentFrom_append, h.1, ← ht]
      rfl
  split
  · next h => simp [h, Lexeme.chars]
  split
  · next h => simp [h, Lexeme.chars]
  split
  · next h => simp [h, Lexeme.chars]
  split
  · next h => simp [h, Lexeme.chars]
  split
  · simp [Lexeme.chars, leadingWord_append_afterLeadingWord]
  · simp [Lexeme.chars]

theorem chars_firstLexeme_ne_nil (c : Char) (rest : List Char) :
    (firstLexeme c rest).1.chars ≠ [] := by
  simp only [firstLexeme, literalFrom, blockCommentFrom]
  repeat' split
  all_goals simp [Lexeme.chars]

/-- Every lexeme takes at least one character, so reading comes to an end. -/
theorem length_firstLexeme_lt (c : Char) (rest : List Char) :
    (firstLexeme c rest).2.length < (c :: rest).length := by
  have h := congrArg List.length (firstLexeme_append c rest)
  have hpos := List.length_pos_iff.2 (chars_firstLexeme_ne_nil c rest)
  rw [List.length_append] at h
  omega

/-- The lexemes of a text. -/
def lexemes : List Char → List Lexeme
  | [] => []
  | c :: rest => (firstLexeme c rest).1 :: lexemes (firstLexeme c rest).2
termination_by s => s.length
decreasing_by exact length_firstLexeme_lt c rest

/-- The lexemes of a text concatenate to it. -/
theorem text_lexemes (s : List Char) : Lexeme.text (lexemes s) = s := by
  fun_induction lexemes s with
  | case1 => rfl
  | case2 c rest ih =>
      rw [← firstLexeme_append c rest]
      simpa [Lexeme.text] using ih

end QueryGate.Document
