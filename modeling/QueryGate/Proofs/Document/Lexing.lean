import QueryGate.Proofs.Document.Written

/-!
The lexemes of what a document is written with.

A word, a mark, a brace, a parenthesis, a literal or a comment at the beginning of a
text is its first lexeme, and the lexemes of what follows are the others. What
follows matters only where it could go on with the piece.
-/

namespace QueryGate.Text

/-- A prefix of what satisfies a condition is the longest one where something else
follows. -/
theorem takeWhile_append_of_stops {α : Type} {p : α → Bool} {s rest : List α}
    (hall : ∀ c ∈ s, p c = true) (hstops : ∀ c ∈ rest.head?, p c = false) :
    (s ++ rest).takeWhile p = s := by
  rw [List.takeWhile_append_of_pos hall]
  cases rest with
  | nil => simp
  | cons c rest =>
      have hc : p c = false := hstops c rfl
      simp [hc]

theorem dropWhile_append_of_stops {p : Char → Bool} {s rest : List Char}
    (hall : ∀ c ∈ s, p c = true) (hstops : ∀ c ∈ rest.head?, p c = false) :
    (s ++ rest).dropWhile p = rest := by
  rw [List.dropWhile_append_of_pos hall]
  cases rest with
  | nil => rfl
  | cons c rest =>
      have hc : p c = false := hstops c rfl
      simp [hc]

/-- What is left after dropping the characters of a condition stops it. -/
theorem stops_dropWhile (p : Char → Bool) (s : List Char) :
    ∀ c ∈ (s.dropWhile p).head?, p c = false := by
  intro c hc
  have hstops := List.head?_dropWhile_not p s
  rw [Option.mem_def.mp hc] at hstops
  exact hstops

end QueryGate.Text

namespace QueryGate.Document

open QueryGate.Text

theorem isWordChar_of_isBlank {c : Char} (hblank : isBlank c = true) :
    isWordChar c = false := by
  rw [Bool.eq_false_iff]
  intro hword
  have hbounds := toNat_of_isWordChar hword
  simp only [isBlank, Bool.or_eq_true, Bool.and_eq_true, decide_eq_true_eq,
    beq_iff_eq] at hblank
  omega

theorem isMark_of_isBlank {c : Char} (hblank : isBlank c = true)
    (rest : List Char) : IsMark c rest := by
  refine ⟨isWordChar_of_isBlank hblank, ?_, ?_⟩
  · intro hc
    have hnone : ['"', '#', '{', '}', '(', ')'].all (!isBlank ·) = true := by decide
    have hnot := List.all_eq_true.mp hnone c hc
    rw [hblank] at hnot
    cases hnot
  · rintro rfl
    exact absurd hblank (by decide)

theorem lexemes_of_firstLexeme {c : Char} {rest after : List Char} {l : Lexeme}
    (h : firstLexeme c rest = (l, after)) :
    lexemes (c :: rest) = l :: lexemes after := by
  rw [lexemes, h]

theorem lexemes_openBrace (rest : List Char) :
    lexemes ('{' :: rest) = .openBrace :: lexemes rest :=
  lexemes_of_firstLexeme (by simp [firstLexeme])

theorem lexemes_closeBrace (rest : List Char) :
    lexemes ('}' :: rest) = .closeBrace :: lexemes rest :=
  lexemes_of_firstLexeme (by simp [firstLexeme])

theorem lexemes_openParen (rest : List Char) :
    lexemes ('(' :: rest) = .openParen :: lexemes rest :=
  lexemes_of_firstLexeme (by simp [firstLexeme])

theorem lexemes_closeParen (rest : List Char) :
    lexemes (')' :: rest) = .closeParen :: lexemes rest :=
  lexemes_of_firstLexeme (by simp [firstLexeme])

theorem lexemes_mark {c : Char} {rest : List Char} (hmark : IsMark c rest) :
    lexemes (c :: rest) = .mark c :: lexemes rest := by
  obtain ⟨hword, hspecial, hslash⟩ := hmark
  have hcomment : ¬ (c = '/' ∧ ['*'] <+: rest) := by
    rintro ⟨hc, after, rfl⟩
    exact hslash hc rfl
  simp only [List.mem_cons, List.not_mem_nil, or_false, not_or] at hspecial
  obtain ⟨hquote, hhash, hopen, hclose, hopenParen, hcloseParen⟩ := hspecial
  refine lexemes_of_firstLexeme ?_
  simp [firstLexeme, hquote, hhash, hcomment, hopen, hclose, hopenParen,
    hcloseParen, hword]

theorem lexemes_word {word rest : List Char} (hword : IsWord word)
    (hends : EndsWord rest) :
    lexemes (word ++ rest) = .word word :: lexemes rest := by
  obtain ⟨hne, hchars⟩ := hword
  cases word with
  | nil => exact absurd rfl hne
  | cons c word =>
      have hc : isWordChar c = true := hchars c List.mem_cons_self
      have hother : ∀ d : Char, isWordChar d = false → c ≠ d := by
        intro d hd hcd
        rw [hcd, hd] at hc
        cases hc
      have hrest : ∀ d ∈ word, isWordChar d = true :=
        fun d hd => hchars d (List.mem_cons_of_mem c hd)
      refine lexemes_of_firstLexeme ?_
      simp [firstLexeme, hother '"' (by decide), hother '#' (by decide),
        hother '/' (by decide), hother '{' (by decide), hother '}' (by decide),
        hother '(' (by decide), hother ')' (by decide), hc, leadingWord,
        afterLeadingWord, takeWhile_append_of_stops hrest hends,
        dropWhile_append_of_stops hrest hends]

theorem quotedRest_closed {inner : List Char} (hinner : Quoted inner)
    (rest : List Char) :
    quotedRest (inner ++ '"' :: rest) = (inner ++ ['"'], rest) := by
  induction hinner with
  | nil => simp [quotedRest]
  | char hquote hline hescape h ih => simp [quotedRest, hescape, ih]
  | escaped c h ih => simp [quotedRest, ih]

theorem quotedRest_cut {inner : List Char} (hinner : Quoted inner)
    (rest : List Char) :
    quotedRest (inner ++ '\n' :: rest) = (inner, '\n' :: rest) := by
  induction hinner with
  | nil => simp [quotedRest]
  | char hquote hline hescape h ih => simp [quotedRest, hescape, ih]
  | escaped c h ih => simp [quotedRest, ih]

theorem lexemes_literal {inner rest : List Char} (hinner : Quoted inner)
    (hempty : inner = [] → rest.head? ≠ some '"') :
    lexemes ('"' :: inner ++ ['"'] ++ rest) =
      .literal ('"' :: inner ++ ['"']) :: lexemes rest := by
  have hplain : ¬ ['"', '"'] <+: inner ++ '"' :: rest := by
    cases hinner with
    | nil =>
        rintro ⟨after, hafter⟩
        obtain ⟨_, hnext⟩ := List.cons.inj hafter
        exact hempty rfl (by rw [← hnext]; rfl)
    | char hquote hline hescape h => simp [List.cons_prefix_cons, Ne.symm hquote]
    | escaped c h => simp [List.cons_prefix_cons]
  rw [List.append_assoc]
  refine lexemes_of_firstLexeme ?_
  simp [firstLexeme, literalFrom, hplain, quotedRest_closed hinner]

theorem lexemes_cutLiteral {inner : List Char} (hinner : Quoted inner)
    (rest : List Char) :
    lexemes ('"' :: inner ++ '\n' :: rest) =
      .literal ('"' :: inner) :: lexemes ('\n' :: rest) := by
  have hplain : ¬ ['"', '"'] <+: inner ++ '\n' :: rest := by
    cases hinner with
    | nil => simp [List.cons_prefix_cons]
    | char hquote hline hescape h => simp [List.cons_prefix_cons, Ne.symm hquote]
    | escaped c h => simp [List.cons_prefix_cons]
  refine lexemes_of_firstLexeme ?_
  simp [firstLexeme, literalFrom, hplain, quotedRest_cut hinner]

theorem blockRest_closed {before : Char} {inner : List Char}
    (hinner : BlockQuoted before inner) (rest : List Char) :
    blockRest before (inner ++ (blockQuotes ++ rest)) =
      (inner ++ blockQuotes, rest) := by
  induction hinner with
  | nil hclose => simp [blockRest, blockQuotes, hclose]
  | @char before c inner hopen h ih =>
      -- The closing quotes leave room for three quotes, so what follows them makes
      -- no difference.
      have hinside :
          ¬ (before ≠ '\\' ∧ blockQuotes <+: c ::
            (inner ++ (blockQuotes ++ rest))) := by
        rintro ⟨hplain, hbegins⟩
        rcases hopen with hescaped | hopen
        · exact hplain hescaped
        · exact hopen (List.prefix_of_prefix_length_le hbegins ⟨rest, by simp⟩
            (by simp [blockQuotes]))
      rw [List.cons_append, blockRest, if_neg, ih]
      · rfl
      · rw [Bool.and_eq_true, bne_iff_ne, List.isPrefixOf_iff_prefix]
        exact hinside

theorem lexemes_blockString {inner : List Char} (hinner : BlockQuoted '"' inner)
    (rest : List Char) :
    lexemes (blockQuotes ++ inner ++ blockQuotes ++ rest) =
      .literal (blockQuotes ++ inner ++ blockQuotes) :: lexemes rest := by
  have hclosed := blockRest_closed hinner rest
  simp only [blockQuotes, List.cons_append, List.nil_append,
    List.append_assoc] at hclosed ⊢
  refine lexemes_of_firstLexeme ?_
  simp [firstLexeme, literalFrom, hclosed]

theorem lexemes_lineComment {body rest : List Char} (hbody : '\n' ∉ body)
    (hends : ∀ c ∈ rest.head?, c = '\n') :
    lexemes ('#' :: body ++ rest) = .lineComment body :: lexemes rest := by
  have hline : ∀ c ∈ body, (c != '\n') = true := by
    intro c hc
    have hne : c ≠ '\n' := fun hcn => hbody (hcn ▸ hc)
    simpa using hne
  have hstops : ∀ c ∈ rest.head?, (c != '\n') = false := by
    intro c hc
    rw [hends c hc]
    rfl
  refine lexemes_of_firstLexeme ?_
  simp [firstLexeme, takeWhile_append_of_stops hline hstops,
    dropWhile_append_of_stops hline hstops]

theorem splitOnce_blockComment {body : List Char} (hbody : IsBlockComment body)
    (rest : List Char) :
    splitOnce ['*', '/'] (body ++ '*' :: '/' :: rest) = some (body, rest) := by
  induction body with
  | nil => simp [splitOnce]
  | cons c body ih =>
      have hrest : IsBlockComment body :=
        fun hwithin => hbody (hwithin.trans (List.suffix_cons c body).isInfix)
      have hfirst : ¬ ['*', '/'] <+: c :: (body ++ '*' :: '/' :: rest) := by
        rw [List.cons_prefix_cons]
        rintro ⟨rfl, hslash⟩
        cases body with
        | nil => simp [List.cons_prefix_cons] at hslash
        | cons d body =>
            rw [List.cons_append, List.cons_prefix_cons] at hslash
            obtain ⟨rfl, _⟩ := hslash
            exact hbody ⟨[], body, rfl⟩
      rw [List.cons_append, splitOnce, if_neg, ih hrest]
      · rfl
      · rw [List.isPrefixOf_iff_prefix]
        exact hfirst

theorem lexemes_blockComment {body : List Char} (hbody : IsBlockComment body)
    (rest : List Char) :
    lexemes ('/' :: '*' :: body ++ ['*', '/'] ++ rest) =
      .blockComment body true :: lexemes rest := by
  rw [List.append_assoc]
  refine lexemes_of_firstLexeme ?_
  simp [firstLexeme, blockCommentFrom, splitOnce_blockComment hbody]

end QueryGate.Document
