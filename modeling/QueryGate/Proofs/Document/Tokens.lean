import QueryGate.Proofs.Document.Lexing
import Mathlib.Data.List.TakeWhile

/-!
The tokens of a text.

They are its lexemes, but for the blank characters between them. Where a text has a
first token, it stands behind blank characters, and what follows it is no part of
it: after a word no character of a word, after the comment of a line the end of the
line. These are the converses of what the lexemes are that a document is written
with.
-/

namespace QueryGate.Text

/-- The characters of a text that are not blank. -/
def ink (s : List Char) : List Char :=
  s.filter (!isBlank ·)

theorem ink_append (s rest : List Char) : ink (s ++ rest) = ink s ++ ink rest :=
  List.filter_append s rest

theorem ink_eq_nil_iff {s : List Char} :
    ink s = [] ↔ ∀ c ∈ s, isBlank c = true := by
  simp [ink, List.filter_eq_nil_iff]

/-- A prefix is the longest one of characters that satisfy a condition only where
the text goes on with another character. -/
theorem stops_of_takeWhile_append {p : Char → Bool} {s rest : List Char}
    (h : (s ++ rest).takeWhile p = s) : ∀ c ∈ rest.head?, p c = false := by
  have hall : ∀ c ∈ s, p c = true := by
    intro c hc
    rw [← h] at hc
    exact List.mem_takeWhile_imp hc
  rw [List.takeWhile_append_of_pos hall] at h
  have hnone : rest.takeWhile p = [] := List.append_right_eq_self.mp h
  intro c hc
  cases rest with
  | nil => cases hc
  | cons d rest =>
      cases hc
      rw [Bool.eq_false_iff]
      intro hp
      rw [List.takeWhile_cons_of_pos hp] at hnone
      cases hnone

end QueryGate.Text

namespace QueryGate.Document

open QueryGate.Text

theorem alphanumerics_ink (s : List Char) :
    alphanumerics (ink s) = alphanumerics s := by
  rw [alphanumerics, ink, List.filter_filter]
  refine List.filter_congr fun c _ => ?_
  cases hblank : isBlank c with
  | false => simp
  | true =>
      have hword := isWordChar_of_isBlank hblank
      rw [isWordChar, Bool.or_eq_false_iff] at hword
      simp [hword.1]

/-- A blank character outside of literals and comments. -/
def Lexeme.isGap : Lexeme → Bool
  | .mark c => isBlank c
  | _ => false

/-- The lexemes of a text but for the blank characters between them. -/
def tokens (s : List Char) : List Lexeme :=
  (lexemes s).filter (!·.isGap)

/-- Two texts have the same tokens: they differ in the blank characters between them
only. -/
def Respaced (s t : List Char) : Prop :=
  tokens s = tokens t

section Tokens

variable {c : Char} {l : Lexeme} {s rest after : List Char}

theorem tokens_of_lexemes (h : lexemes s = l :: lexemes rest)
    (hsolid : l.isGap = false) : tokens s = l :: tokens rest := by
  rw [tokens, h, List.filter_cons_of_pos (by simpa using hsolid)]
  rfl

theorem tokens_blank (hblank : isBlank c = true) (rest : List Char) :
    tokens (c :: rest) = tokens rest := by
  rw [tokens, lexemes_mark (isMark_of_isBlank hblank rest),
    List.filter_cons_of_neg (by simpa [Lexeme.isGap] using hblank)]
  rfl

/-- A text that begins with no blank character begins with a token. -/
theorem exists_lexeme (hsolid : isBlank c = false) (rest : List Char) :
    ∃ l after, c :: rest = l.chars ++ after ∧
      lexemes (c :: rest) = l :: lexemes after ∧
      l.isGap = false := by
  have happend := firstLexeme_append c rest
  refine ⟨(firstLexeme c rest).1, (firstLexeme c rest).2, happend.symm,
    by rw [lexemes], ?_⟩
  cases hfirst : (firstLexeme c rest).1 with
  | mark d =>
      rw [hfirst] at happend
      obtain ⟨rfl, _⟩ := List.cons.inj happend
      exact hsolid
  | _ => rfl

/-- The first token of a text stands behind blank characters, and the other tokens
are those of what follows it. -/
theorem exists_of_tokens {ls : List Lexeme} (h : tokens s = l :: ls) :
    ∃ gap after, s = gap ++ (l.chars ++ after) ∧ (∀ c ∈ gap, isBlank c = true) ∧
      lexemes (l.chars ++ after) = l :: lexemes after ∧ tokens after = ls := by
  induction s with
  | nil => simp [tokens, lexemes] at h
  | cons c rest ih =>
      cases hblank : isBlank c with
      | true =>
          rw [tokens_blank hblank] at h
          obtain ⟨gap, after, rfl, hgap, hnext⟩ := ih h
          exact ⟨c :: gap, after, rfl, List.forall_mem_cons.mpr ⟨hblank, hgap⟩,
            hnext⟩
      | false =>
          obtain ⟨first, after, htext, hlexemes, hsolid⟩ :=
            exists_lexeme hblank rest
          rw [tokens_of_lexemes hlexemes hsolid] at h
          obtain ⟨rfl, rfl⟩ := List.cons.inj h
          rw [htext] at hlexemes ⊢
          exact ⟨[], after, rfl, List.forall_mem_nil _, hlexemes, rfl⟩

/-- A text without tokens is blank. -/
theorem all_blank_of_tokens (h : tokens s = []) : ∀ c ∈ s, isBlank c = true := by
  induction s with
  | nil => exact List.forall_mem_nil _
  | cons c rest ih =>
      cases hblank : isBlank c with
      | true =>
          rw [tokens_blank hblank] at h
          exact List.forall_mem_cons.mpr ⟨hblank, ih h⟩
      | false =>
          obtain ⟨first, after, _, hlexemes, hsolid⟩ := exists_lexeme hblank rest
          rw [tokens_of_lexemes hlexemes hsolid] at h
          cases h

end Tokens

section Following

variable {c : Char} {word body inner after : List Char}

theorem EndsWord.of_append {s rest : List Char} (h : EndsWord (s ++ rest)) :
    EndsWord s := by
  cases s with
  | nil => exact fun c hc => by cases hc
  | cons d s => exact h

theorem head?_ne_of_append {s rest : List Char} {c : Char}
    (h : (s ++ rest).head? ≠ some c) : s.head? ≠ some c := by
  intro hs
  rw [List.head?_append, hs] at h
  exact h rfl

theorem firstLexeme_of_lexemes {l : Lexeme} {ls : List Lexeme} {rest : List Char}
    (h : lexemes (c :: rest) = l :: ls) : (firstLexeme c rest).1 = l := by
  rw [lexemes] at h
  exact (List.cons.inj h).1

theorem endsWord_of_lexemes (hword : IsWord word)
    (h : lexemes (word ++ after) = .word word :: lexemes after) :
    EndsWord after := by
  have hlonger : IsWord (word ++ leadingWord after) := by
    refine ⟨fun hnil => hword.1 (List.append_eq_nil_iff.mp hnil).1, ?_⟩
    exact List.forall_mem_append.mpr
      ⟨hword.2, fun c hc => List.mem_takeWhile_imp hc⟩
  have hfull := lexemes_word hlonger (stops_dropWhile isWordChar after)
  rw [List.append_assoc,
    show leadingWord after ++ after.dropWhile isWordChar = after from
    leadingWord_append_afterLeadingWord after, h] at hfull
  have hsame : word = word ++ leadingWord after :=
    Lexeme.word.inj (List.cons.inj hfull).1
  have hnone : leadingWord after = [] := List.append_right_eq_self.mp hsame.symm
  exact stops_of_takeWhile_append (s := []) hnone

/-- A text begins with a word, with a mark, or with a lexeme that has a beginning of
its own. -/
theorem firstLexeme_cases (c : Char) (rest : List Char) :
    (isWordChar c = true ∧ ∃ word, (firstLexeme c rest).1 = .word word) ∨
      (IsMark c rest ∧ (firstLexeme c rest).1 = .mark c) ∨
      ((∀ word, (firstLexeme c rest).1 ≠ .word word) ∧
        ∀ d, (firstLexeme c rest).1 ≠ .mark d) := by
  have hliteral : (∀ word, (literalFrom rest).1 ≠ .word word) ∧
      ∀ d, (literalFrom rest).1 ≠ .mark d := by
    rw [literalFrom]
    split <;> simp
  have hblock : (∀ word, (blockCommentFrom (rest.drop 1)).1 ≠ .word word) ∧
      ∀ d, (blockCommentFrom (rest.drop 1)).1 ≠ .mark d := by
    rw [blockCommentFrom]
    split <;> simp
  rw [firstLexeme]
  split_ifs with hquote hhash hslash hopen hclose hopenParen hcloseParen hword
  · exact Or.inr (Or.inr hliteral)
  · simp
  · exact Or.inr (Or.inr hblock)
  · simp
  · simp
  · simp
  · simp
  · exact Or.inl ⟨hword, _, rfl⟩
  · refine Or.inr (Or.inl ⟨⟨Bool.eq_false_iff.mpr hword, ?_, ?_⟩, rfl⟩)
    · simp [hquote, hhash, hopen, hclose, hopenParen, hcloseParen]
    · intro hc hstar
      obtain ⟨after, rfl⟩ := List.head?_eq_some_iff.mp hstar
      exact hslash (by simp [hc])

/-- What is a mark by itself begins nothing longer. -/
theorem isMark_of_lexemes (h : lexemes (c :: after) = .mark c :: lexemes after) :
    IsMark c after := by
  have hfirst := firstLexeme_of_lexemes h
  rcases firstLexeme_cases c after with ⟨_, word, hword⟩ | ⟨hmark, _⟩ | ⟨_, hother⟩
  · rw [hfirst] at hword
    cases hword
  · exact hmark
  · exact absurd hfirst (hother c)

theorem isWordChar_of_lexemes {ls : List Lexeme}
    (h : lexemes (c :: after) = .word word :: ls) : isWordChar c = true := by
  have hfirst := firstLexeme_of_lexemes h
  rcases firstLexeme_cases c after with ⟨hchar, _⟩ | ⟨_, hmark⟩ | ⟨hother, _⟩
  · exact hchar
  · rw [hfirst] at hmark
    cases hmark
  · exact absurd hfirst (hother word)

theorem newline_of_lineComment
    (h : lexemes ('#' :: body ++ after) = .lineComment body :: lexemes after) :
    ∀ c ∈ after.head?, c = '\n' := by
  have hfirst := firstLexeme_of_lexemes h
  have hbody : (body ++ after).takeWhile (· != '\n') = body := by
    simpa [firstLexeme] using hfirst
  intro c hc
  simpa using stops_of_takeWhile_append hbody c hc

theorem head?_of_literal
    (h : lexemes ('"' :: inner ++ ['"'] ++ after) =
      .literal ('"' :: inner ++ ['"']) :: lexemes after) :
    inner = [] → after.head? ≠ some '"' := by
  rintro rfl hquote
  obtain ⟨rest, rfl⟩ := List.head?_eq_some_iff.mp hquote
  have hfirst := firstLexeme_of_lexemes h
  simp [firstLexeme, literalFrom] at hfirst

theorem quotedRest_append_quoted (hinner : Quoted inner) (rest : List Char) :
    (quotedRest (inner ++ rest)).1 = inner ++ (quotedRest rest).1 := by
  induction hinner with
  | nil => rfl
  | char hquote hline hescape h ih => simp [quotedRest, hescape, ih]
  | escaped c h ih => simp [quotedRest, ih]

/-- Reading a literal stops before a line end without taking anything. -/
theorem newline_of_quotedRest (h : (quotedRest after).1 = []) :
    ∀ c ∈ after.head?, c = '\n' := by
  intro c hc
  unfold quotedRest at h
  split at h
  · cases hc
  · cases h
  · cases hc
    rfl
  · cases h
  · cases h

theorem newline_of_cutLiteral (hinner : Quoted inner)
    (h : lexemes ('"' :: inner ++ after) =
      .literal ('"' :: inner) :: lexemes after) :
    ∀ c ∈ after.head?, c = '\n' := by
  have hfirst := firstLexeme_of_lexemes h
  simp only [firstLexeme, if_true, literalFrom] at hfirst
  split at hfirst
  · -- A block string would begin with more quotes than the literal.
    have hquotes : ∃ rest, '"' :: rest = inner := ⟨_, by simpa using hfirst⟩
    obtain ⟨rest, rfl⟩ := hquotes
    cases hinner with
    | char hquote => exact absurd rfl hquote
  · have hrest : (quotedRest (inner ++ after)).1 = inner := by
      simpa using hfirst
    rw [quotedRest_append_quoted hinner] at hrest
    exact newline_of_quotedRest (List.append_right_eq_self.mp hrest)

end Following

/-- The word that a list of tokens begins with, if it does. -/
def firstWord : List Lexeme → List Char
  | .word word :: _ => word
  | _ => []

theorem leadingWord_eq_firstWord {c : Char} (hsolid : isBlank c = false)
    (rest : List Char) :
    leadingWord (c :: rest) = firstWord (tokens (c :: rest)) := by
  cases hchar : isWordChar c with
  | true =>
      have hword : IsWord (leadingWord (c :: rest)) := by
        refine ⟨?_, fun d hd => List.mem_takeWhile_imp hd⟩
        rw [leadingWord, List.takeWhile_cons_of_pos hchar]
        exact List.cons_ne_nil _ _
      have hlexemes := lexemes_word hword (stops_dropWhile isWordChar (c :: rest))
      rw [show leadingWord (c :: rest) ++ (c :: rest).dropWhile isWordChar =
        c :: rest from
        leadingWord_append_afterLeadingWord (c :: rest)] at hlexemes
      rw [tokens_of_lexemes hlexemes rfl, firstWord]
  | false =>
      obtain ⟨l, after, _, hlexemes, hl⟩ := exists_lexeme hsolid rest
      rw [tokens_of_lexemes hlexemes hl, leadingWord,
        List.takeWhile_cons_of_neg (by simp [hchar])]
      cases l with
      | word word =>
          rw [isWordChar_of_lexemes hlexemes] at hchar
          cases hchar
      | _ => rfl

/-- The word that a text begins with, behind blank characters, is its first
token. -/
theorem leadingWord_trimStart (s : List Char) :
    leadingWord (trimStart s) = firstWord (tokens s) := by
  induction s with
  | nil => simp [trimStart, leadingWord, tokens, lexemes, firstWord]
  | cons c rest ih =>
      cases hblank : isBlank c with
      | true =>
          rw [tokens_blank hblank, ← ih, trimStart,
            List.dropWhile_cons_of_pos hblank, trimStart]
      | false =>
          have hstart : trimStart (c :: rest) = c :: rest := by
            simp [trimStart, hblank]
          rw [hstart, leadingWord_eq_firstWord hblank]

end QueryGate.Document
