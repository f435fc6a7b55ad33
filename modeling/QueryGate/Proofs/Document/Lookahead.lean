import QueryGate.Proofs.Document.Tokens

/-!
How far a lexeme looks ahead.

A lexeme is told by its own characters and the one that follows them:
`Lexeme.Before` says what may stand before a character, and it does so whatever
comes after that. So a text that is cut out of another one in front of a lexeme and
behind a closing brace has the lexemes that it has there.
-/

namespace QueryGate.Document

open QueryGate.Text

/-- Reading a literal ends with its quote, with its line or with the text. -/
theorem quotedRest_cases (s : List Char) :
    (∃ inner, Quoted inner ∧ (quotedRest s).1 = inner ++ ['"']) ∨
      (Quoted (quotedRest s).1 ∧ (quotedRest s).2.head? = some '\n') ∨
      (quotedRest s).2 = [] := by
  fun_induction quotedRest s with
  | case1 => exact Or.inr (Or.inr rfl)
  | case2 => exact Or.inl ⟨[], .nil, rfl⟩
  | case3 => exact Or.inr (Or.inl ⟨.nil, rfl⟩)
  | case4 c rest cut ih =>
      rcases ih with ⟨inner, hinner, hcut⟩ | ⟨hinner, hline⟩ | hend
      · exact Or.inl ⟨'\\' :: c :: inner, .escaped c hinner, by simp [cut, hcut]⟩
      · exact Or.inr (Or.inl ⟨.escaped c hinner, hline⟩)
      · exact Or.inr (Or.inr hend)
  | case5 c rest hquote hline hescape cut ih =>
      by_cases hslash : c = '\\'
      · -- A backslash that takes nothing with it is the last character.
        have hrest : rest = [] := by
          cases rest with
          | nil => rfl
          | cons d rest => exact (hescape d rest hslash rfl).elim
        subst hrest
        exact Or.inr (Or.inr rfl)
      · rcases ih with ⟨inner, hinner, hcut⟩ | ⟨hinner, hnewline⟩ | hend
        · exact Or.inl ⟨c :: inner, .char hquote hline hslash hinner,
            by simp [cut, hcut]⟩
        · exact Or.inr (Or.inl ⟨.char hquote hline hslash hinner, hnewline⟩)
        · exact Or.inr (Or.inr hend)

/-- Reading a block string ends with its closing quotes or with the text. -/
theorem blockRest_cases (before : Char) (s : List Char) :
    (∃ inner, BlockQuoted before inner ∧ (blockRest before s).1 = inner ++
      blockQuotes) ∨
      (blockRest before s).2 = [] := by
  fun_induction blockRest before s with
  | case1 => exact Or.inr rfl
  | case2 before c rest h =>
      rw [Bool.and_eq_true, bne_iff_ne, List.isPrefixOf_iff_prefix] at h
      obtain ⟨hclose, after, hquotes⟩ := h
      refine Or.inl ⟨[], .nil hclose, ?_⟩
      rw [← hquotes]
      rfl
  | case3 before c rest h cut ih =>
      refine ih.imp_left ?_
      rintro ⟨inner, hinner, hcut⟩
      have hrest : inner ++ blockQuotes <+: rest :=
        ⟨cut.2, by rw [← hcut]; exact blockRest_append c rest⟩
      refine ⟨c :: inner, .char ?_ hinner, by simp [cut, hcut]⟩
      rw [Bool.and_eq_true, bne_iff_ne, List.isPrefixOf_iff_prefix,
        Classical.not_and_iff_not_or_not, not_not] at h
      exact h.imp_right fun hquotes hopen =>
        hquotes (hopen.trans ((List.prefix_cons_inj c).mpr hrest))

/-- What is cut off at the first closing mark does not hold the mark. -/
theorem isBlockComment_of_splitOnce {s body rest : List Char}
    (h : splitOnce ['*', '/'] s = some (body, rest)) : IsBlockComment body := by
  induction s generalizing body with
  | nil => simp [splitOnce] at h
  | cons c s ih =>
      rw [splitOnce] at h
      split at h
      · obtain ⟨rfl, _⟩ := Prod.mk.inj (Option.some.inj h)
        simp [IsBlockComment]
      · next hfirst =>
          obtain ⟨⟨inner, after⟩, hcut, hbody⟩ := Option.map_eq_some_iff.mp h
          obtain ⟨rfl, rfl⟩ := Prod.mk.inj hbody
          rw [List.isPrefixOf_iff_prefix] at hfirst
          rintro hmark
          rcases List.infix_cons_iff.mp hmark with hmark | hmark
          · have hinner : inner <+: s := by
              rw [eq_append_of_splitOnce hcut, List.append_assoc]
              exact List.prefix_append _ _
            exact hfirst (hmark.trans ((List.prefix_cons_inj c).mpr hinner))
          · exact ih hcut hmark

/-- A lexeme that may stand before a character. -/
inductive Lexeme.Before : Lexeme → Char → Prop
  | openBrace (d : Char) : Before .openBrace d
  | closeBrace (d : Char) : Before .closeBrace d
  | openParen (d : Char) : Before .openParen d
  | closeParen (d : Char) : Before .closeParen d
  | word {word : List Char} {d : Char} (hword : IsWord word)
      (hends : isWordChar d = false) :
      Before (.word word) d
  | mark {c d : Char} (hmark : IsMark c [d]) : Before (.mark c) d
  | literal {inner : List Char} {d : Char} (hinner : Quoted inner)
      (hempty : inner = [] → d ≠ '"') :
      Before (.literal ('"' :: inner ++ ['"'])) d
  | cutLiteral {inner : List Char} (hinner : Quoted inner) :
      Before (.literal ('"' :: inner)) '\n'
  | blockString {inner : List Char} (hinner : BlockQuoted '"' inner) (d : Char) :
      Before (.literal (blockQuotes ++ inner ++ blockQuotes)) d
  | lineComment {body : List Char} (hbody : '\n' ∉ body) :
      Before (.lineComment body) '\n'
  | blockComment {body : List Char} (hbody : IsBlockComment body) (d : Char) :
      Before (.blockComment body true) d

section Before

variable {c d : Char} {l : Lexeme} {rest after : List Char}

/-- What stands before a character is a lexeme there, whatever comes after the
character. -/
theorem Lexeme.Before.lexemes (h : l.Before d) (after : List Char) :
    lexemes (l.chars ++ d :: after) = l :: Document.lexemes (d :: after) := by
  cases h with
  | openBrace => exact lexemes_openBrace _
  | closeBrace => exact lexemes_closeBrace _
  | openParen => exact lexemes_openParen _
  | closeParen => exact lexemes_closeParen _
  | word hword hends =>
      exact lexemes_word hword fun c hc => Option.some.inj hc ▸ hends
  | mark hmark => exact lexemes_mark ⟨hmark.1, hmark.2.1, fun hc => hmark.2.2 hc⟩
  | literal hinner hempty =>
      exact lexemes_literal hinner fun hnil hquote =>
        hempty hnil (Option.some.inj hquote)
  | cutLiteral hinner => exact lexemes_cutLiteral hinner after
  | blockString hinner => exact lexemes_blockString hinner _
  | lineComment hbody =>
      exact lexemes_lineComment hbody fun c hc => (Option.some.inj hc).symm
  | blockComment hbody => exact lexemes_blockComment hbody _

theorem before_of_literalFrom (h : literalFrom rest = (l, d :: after)) :
    l.Before d := by
  rw [literalFrom] at h
  split at h
  · next hquotes =>
      obtain ⟨hl, hafter⟩ := Prod.mk.inj h
      rcases blockRest_cases '"' (rest.drop 2) with ⟨inner, hinner, hcut⟩ | hend
      · rw [hcut] at hl
        exact hl ▸ .blockString hinner d
      · rw [hend] at hafter
        cases hafter
  · next hplain =>
      obtain ⟨rfl, hafter⟩ := Prod.mk.inj h
      have happend := quotedRest_append rest
      rw [hafter] at happend
      rcases quotedRest_cases rest with ⟨inner, hinner, hcut⟩
        | ⟨hinner, hline⟩ | hend
      · rw [hcut] at happend ⊢
        refine .literal hinner ?_
        rintro rfl rfl
        rw [← happend] at hplain
        exact hplain rfl
      · rw [hafter] at hline
        obtain rfl := Option.some.inj hline
        exact .cutLiteral hinner
      · rw [hend] at hafter
        cases hafter

theorem before_of_blockCommentFrom (h : blockCommentFrom rest = (l, d :: after)) :
    l.Before d := by
  rw [blockCommentFrom] at h
  split at h
  · next hcut =>
      obtain ⟨rfl, _⟩ := Prod.mk.inj h
      exact .blockComment (isBlockComment_of_splitOnce hcut) d
  · cases h

/-- A lexeme that does not reach the end of the text stands before the next
character. -/
theorem before_of_firstLexeme (h : firstLexeme c rest = (l, d :: after)) :
    l.Before d := by
  rw [firstLexeme] at h
  split_ifs at h with hquote hhash hslash hopen hclose hopenParen hcloseParen hword
  · exact before_of_literalFrom h
  · obtain ⟨rfl, hafter⟩ := Prod.mk.inj h
    have hstops := stops_dropWhile (· != '\n') rest
    rw [hafter] at hstops
    obtain rfl : d = '\n' := by simpa using hstops d rfl
    refine .lineComment fun hline => ?_
    simpa using List.mem_takeWhile_imp hline
  · exact before_of_blockCommentFrom h
  · cases h
    exact .openBrace d
  · cases h
    exact .closeBrace d
  · cases h
    exact .openParen d
  · cases h
    exact .closeParen d
  · obtain ⟨rfl, hafter⟩ := Prod.mk.inj h
    have hstops := stops_dropWhile isWordChar rest
    rw [show rest.dropWhile isWordChar = d :: after from hafter] at hstops
    refine .word ⟨List.cons_ne_nil _ _, ?_⟩ (hstops d rfl)
    exact List.forall_mem_cons.mpr ⟨hword, fun e he => List.mem_takeWhile_imp he⟩
  · obtain ⟨rfl, rfl⟩ := Prod.mk.inj h
    have hmark : (firstLexeme c (d :: after)).1 = .mark c := by
      simp [firstLexeme, hquote, hhash, hslash, hopen, hclose, hopenParen,
        hcloseParen, hword]
    rcases firstLexeme_cases c (d :: after) with ⟨_, word, hother⟩
      | ⟨h, _⟩ | ⟨_, hother⟩
    · rw [hmark] at hother
      cases hother
    · exact .mark ⟨h.1, h.2.1, h.2.2⟩
    · exact absurd hmark (hother c)

/-- The lexemes of a text go on behind its first one with those of the rest. -/
theorem exists_of_lexemes_cons {s : List Char} {ls : List Lexeme}
    (h : lexemes s = l :: ls) :
    s = l.chars ++ Lexeme.text ls ∧ lexemes (Lexeme.text ls) = ls ∧ l.chars ≠ [] ∧
      ∀ d rest, Lexeme.text ls = d :: rest → l.Before d := by
  cases s with
  | nil =>
      rw [lexemes] at h
      cases h
  | cons c rest =>
      rw [lexemes] at h
      obtain ⟨rfl, rfl⟩ := List.cons.inj h
      rw [text_lexemes]
      refine ⟨(firstLexeme_append c rest).symm, rfl,
        chars_firstLexeme_ne_nil c rest, ?_⟩
      intro d after hafter
      exact before_of_firstLexeme (Prod.ext rfl hafter)

end Before

theorem Lexeme.text_append (ls others : List Lexeme) :
    Lexeme.text (ls ++ others) = Lexeme.text ls ++ Lexeme.text others :=
  List.flatMap_append

theorem Lexeme.text_singleton (l : Lexeme) : Lexeme.text [l] = l.chars :=
  List.flatMap_singleton Lexeme.chars l

section Cutting

variable {s : List Char} {ls inner after : List Lexeme}

/-- A text that begins with a lexeme of another one has the same lexemes from there
on. -/
theorem lexemes_text_of_append (h : lexemes s = ls ++ after) :
    lexemes (Lexeme.text after) = after := by
  induction ls generalizing s with
  | nil =>
      rw [List.nil_append] at h
      rw [← h, text_lexemes]
  | cons l ls ih => exact ih (exists_of_lexemes_cons h).2.1

/-- Up to a closing brace the lexemes are the same, whatever follows it. -/
theorem lexemes_text_closeBrace (h : lexemes s = ls ++ .closeBrace :: after)
    (rest : List Char) :
    lexemes (Lexeme.text ls ++ '}' :: rest) = ls ++
      .closeBrace :: lexemes rest := by
  induction ls generalizing s with
  | nil => exact lexemes_closeBrace rest
  | cons l ls ih =>
      obtain ⟨_, hnext, _, hbefore⟩ := exists_of_lexemes_cons h
      -- The character behind the lexeme is the same in both texts.
      obtain ⟨d, t, u, ht, hu⟩ : ∃ d t u,
        Lexeme.text (ls ++ .closeBrace :: after) = d :: t ∧
          Lexeme.text ls ++ '}' :: rest = d :: u := by
        rw [Lexeme.text_append]
        cases Lexeme.text ls with
        | nil => exact ⟨'}', _, rest, rfl, rfl⟩
        | cons d t => exact ⟨d, _, _, rfl, rfl⟩
      calc lexemes (Lexeme.text (l :: ls) ++ '}' :: rest)
          = lexemes (l.chars ++ d :: u) := by
            rw [← hu, ← List.append_assoc]
            rfl
        _ = l :: lexemes (Lexeme.text ls ++ '}' :: rest) := by
            rw [(hbefore d t ht).lexemes u, hu]
        _ = l :: ls ++ .closeBrace :: lexemes rest := by
            rw [ih hnext]
            rfl

/-- A piece of a text from a lexeme to a closing brace has the lexemes that it has
in the text. -/
theorem lexemes_text_piece (h : lexemes s = ls ++ (inner ++ .closeBrace :: after)) :
    lexemes (Lexeme.text (inner ++ [.closeBrace])) = inner ++ [.closeBrace] := by
  have hcut := lexemes_text_closeBrace (lexemes_text_of_append h) []
  rw [lexemes] at hcut
  rw [Lexeme.text_append, Lexeme.text_singleton]
  exact hcut

end Cutting

/-- A sign that makes the word behind it a variable or a directive. -/
def Lexeme.isSigil : Lexeme → Bool
  | .mark c => c == '$' || c == '@'
  | _ => false

/-- No word stands directly before another one, and a sigil only as a mark of its
own. -/
theorem Lexeme.Before.last {l : Lexeme} {d : Char} (h : l.Before d)
    (hd : isWordChar d = true) :
    ∀ c ∈ l.chars.getLast?, isWordChar c = false ∧
      (l.isSigil = true ↔ c = '$' ∨ c = '@') := by
  have hplain : ∀ {c : Char} {l : Lexeme}, isWordChar c = false →
    l.isSigil = false → c ≠ '$' →
      c ≠ '@' → isWordChar c = false ∧ (l.isSigil = true ↔ c = '$' ∨ c = '@') := by
    intro c l hword hsigil hdollar hat
    simp [hword, hsigil, hdollar, hat]
  have hline : isWordChar '\n' ≠ true := by decide
  intro c hc
  cases h with
  | word _ hends =>
      rw [hd] at hends
      cases hends
  | cutLiteral => exact absurd hd hline
  | lineComment => exact absurd hd hline
  | @mark e _ hmark =>
      obtain rfl : e = c := Option.some.inj hc
      exact ⟨hmark.1, by simp [Lexeme.isSigil]⟩
  | literal =>
      rw [Lexeme.chars, List.getLast?_concat] at hc
      cases hc
      exact hplain (by decide) rfl (by decide) (by decide)
  | @blockString inner _ =>
      rw [Lexeme.chars, blockQuotes, List.getLast?_append] at hc
      cases hc
      exact hplain (by decide) rfl (by decide) (by decide)
  | @blockComment body _ =>
      rw [Lexeme.chars, if_pos rfl, List.getLast?_append] at hc
      cases hc
      exact hplain (by decide) rfl (by decide) (by decide)
  | _ =>
      cases hc
      exact hplain (by decide) rfl (by decide) (by decide)

/-- The last lexeme before a word is no sigil exactly when no sigil stands before
the word, and no character of a word stands there in any case. -/
theorem isSigil_iff_of_lexemes {s word : List Char} {ls after : List Lexeme}
    (h : lexemes s = ls ++ .word word :: after) :
    (∀ l ∈ ls.getLast?, l.isSigil = false) ↔
      ∀ c ∈ (Lexeme.text ls).getLast?, isWordChar c = false ∧
        c ≠ '$' ∧ c ≠ '@' := by
  rcases ls.eq_nil_or_concat with rfl | ⟨ls, l, rfl⟩
  · simp [Lexeme.text]
  · rw [List.concat_eq_append, List.append_assoc] at h
    have hhere := lexemes_text_of_append h
    obtain ⟨_, hnext, hne, hbefore⟩ := exists_of_lexemes_cons hhere
    obtain ⟨_, _, hword, _⟩ := exists_of_lexemes_cons hnext
    obtain ⟨d, rest, rfl⟩ := List.exists_cons_of_ne_nil hword
    have hd : isWordChar d = true := isWordChar_of_lexemes hnext
    have hc := List.getLast?_eq_some_getLast hne
    have hlast := (hbefore d _ rfl).last hd _ hc
    rw [List.concat_eq_append, List.getLast?_concat, Lexeme.text_append,
      Lexeme.text_singleton, List.getLast?_append, hc]
    simp [hlast.1, ← Bool.not_eq_true, hlast.2, not_or]

end QueryGate.Document
