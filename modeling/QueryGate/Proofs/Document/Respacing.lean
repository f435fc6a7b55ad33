import QueryGate.Proofs.Document.RoundTrip
import QueryGate.Proofs.Document.Tokens
import Mathlib.Data.List.Forall2

/-!
Documents that differ in their blank characters.

Where two texts have the same tokens and one is a written document, the other is a
written document too, with the same comments, and with clauses that differ in blank
characters only. The proof goes along the first document and finds each piece of it
in the other one, behind any number of blank characters; what the lexemes there are
tells that nothing else comes between.
-/

namespace QueryGate.Document

open QueryGate.Text

/-- A piece of the form may have blank characters before it. -/
def Spacious (P : List Char → Prop) : Prop :=
  ∀ c s, isBlank c = true → P s → P (c :: s)

theorem Spacious.of_gap {P : List Char → Prop} (hP : Spacious P) {gap s : List Char}
    (hgap : ∀ c ∈ gap, isBlank c = true) (hs : P s) : P (gap ++ s) := by
  induction gap with
  | nil => exact hs
  | cons c gap ih =>
      obtain ⟨hblank, hgap⟩ := List.forall_mem_cons.mp hgap
      exact hP c _ hblank (ih hgap)

theorem spacious_balanced {braces parens : Nat} :
    Spacious (Balanced braces parens) :=
  fun _ s hblank h => .mark (isMark_of_isBlank hblank s) h

theorem spacious_header {parens : Nat} : Spacious (Header parens) :=
  fun _ s hblank h => .mark (isMark_of_isBlank hblank s) h

theorem spacious_written {parts : List Part} : Spacious (Written parts) :=
  fun _ _ => .blank

/-- A text begins with a piece of a form up to a character. The piece is another one
but for blank characters, and what follows the character has the same tokens as what
followed the other piece. -/
def Recurs (P : List Char → Prop) (stop : Char)
    (piece after t : List Char) : Prop :=
  ∃ found rest, t = found ++ stop :: rest ∧ P found ∧ ink found = ink piece ∧
    Respaced after rest

namespace Recurs

variable {P Q : List Char → Prop} {stop : Char} {piece after t : List Char}

/-- The empty piece recurs as blank characters. -/
theorem nil {l : Lexeme} (hchars : l.chars = [stop])
    (hlexemes : lexemes (stop :: after) = l :: lexemes after)
    (hsolid : l.isGap = false) (hP : Spacious P) (hnil : P [])
    (h : Respaced (stop :: after) t) : Recurs P stop [] after t := by
  obtain ⟨gap, rest, rfl, hgap, _, htokens⟩ :=
    exists_of_tokens (h.symm.trans (tokens_of_lexemes hlexemes hsolid))
  refine ⟨gap, rest, by rw [hchars]; rfl, ?_, ink_eq_nil_iff.mpr hgap, htokens.symm⟩
  have hfound := hP.of_gap hgap hnil
  rwa [List.append_nil] at hfound

/-- A blank character is left out where a piece recurs. -/
theorem blank {c : Char} (hblank : isBlank c = true)
    (h : Respaced (c :: piece ++ stop :: after) t)
    (hpiece : Respaced (piece ++ stop :: after) t → Recurs P stop piece after t) :
    Recurs P stop (c :: piece) after t := by
  obtain ⟨found, rest, ht, hfound, hink, hrest⟩ :=
    hpiece ((tokens_blank hblank (piece ++ stop :: after)).symm.trans h)
  refine ⟨found, rest, ht, hfound, hink.trans ?_, hrest⟩
  simp [ink, hblank]

/-- A token recurs behind blank characters, and the rest of the piece behind it. -/
theorem token (l : Lexeme) (h : Respaced (l.chars ++ piece ++ stop :: after) t)
    (hlexemes : lexemes (l.chars ++ (piece ++ stop :: after)) =
      l :: lexemes (piece ++ stop :: after))
    (hsolid : l.isGap = false) (hP : Spacious P)
    (hpiece : ∀ u, Respaced (piece ++ stop :: after) u →
      Recurs Q stop piece after u)
    (hfollow : ∀ found rest,
      Q found → lexemes (l.chars ++ (found ++ stop :: rest)) =
      l :: lexemes (found ++ stop :: rest) → P (l.chars ++ found)) :
    Recurs P stop (l.chars ++ piece) after t := by
  rw [List.append_assoc] at h
  obtain ⟨gap, u, rfl, hgap, hnext, hu⟩ :=
    exists_of_tokens (h.symm.trans (tokens_of_lexemes hlexemes hsolid))
  obtain ⟨found, rest, rfl, hfound, hink, hrest⟩ := hpiece u hu.symm
  refine ⟨gap ++ (l.chars ++ found), rest, by simp, ?_, ?_, hrest⟩
  · exact hP.of_gap hgap (hfollow found rest hfound hnext)
  · rw [ink_append, ink_append, ink_append, hink, ink_eq_nil_iff.mpr hgap,
      List.nil_append]

end Recurs

theorem IsMark.of_append {c : Char} {s rest : List Char}
    (h : IsMark c (s ++ rest)) : IsMark c s :=
  ⟨h.1, h.2.1, fun hc => head?_ne_of_append (h.2.2 hc)⟩

/-- What ends with its line has the end of the line in the same piece. -/
theorem exists_of_newline {found rest : List Char}
    (h : ∀ c ∈ (found ++ '}' :: rest).head?, c = '\n') :
    ∃ s, found = '\n' :: s := by
  cases found with
  | nil => exact absurd (h '}' rfl) (by decide)
  | cons c s =>
      obtain rfl : c = '\n' := h c rfl
      exact ⟨s, rfl⟩

/-- A body recurs as a body up to its closing brace. -/
theorem Balanced.recurs {braces parens : Nat} {s : List Char}
    (h : Balanced braces parens s) {after t : List Char}
    (ht : Respaced (s ++ '}' :: after) t) :
    Recurs (Balanced braces parens) '}' s after t := by
  have hends : EndsWord ('}' :: after) := by
    intro c hc
    cases hc
    decide
  have hbrace : ∀ c, c ≠ '}' → ('}' :: after).head? ≠ some c := by
    intro c hc hhead
    cases hhead
    exact hc rfl
  -- Each case takes one token off both texts; what it may not be followed by is
  -- known for the first text from its form, and for the other one from its lexemes.
  induction h generalizing t with
  | nil => exact .nil rfl (lexemes_closeBrace after) rfl spacious_balanced .nil ht
  | openBrace h ih =>
      exact .token .openBrace ht (lexemes_openBrace _) rfl
        spacious_balanced (fun _ => ih) fun _ _ hfound _ => .openBrace hfound
  | closeBrace h ih =>
      exact .token .closeBrace ht (lexemes_closeBrace _) rfl
        spacious_balanced (fun _ => ih) fun _ _ hfound _ => .closeBrace hfound
  | openParen h ih =>
      exact .token .openParen ht (lexemes_openParen _) rfl
        spacious_balanced (fun _ => ih) fun _ _ hfound _ => .openParen hfound
  | closeParen h ih =>
      exact .token .closeParen ht (lexemes_closeParen _) rfl
        spacious_balanced (fun _ => ih) fun _ _ hfound _ => .closeParen hfound
  | word word hword hend h ih =>
      exact .token (.word word) ht (lexemes_word hword (hend.append hends)) rfl
        spacious_balanced (fun _ => ih) fun _ _ hfound hlexemes =>
          .word word hword (endsWord_of_lexemes hword hlexemes).of_append hfound
  | @mark _ _ c _ hmark h ih =>
      cases hblank : isBlank c with
      | true => exact .blank hblank ht ih
      | false =>
          exact .token (.mark c) ht
            (lexemes_mark (hmark.append (hbrace '*' (by decide)))) hblank
            spacious_balanced (fun _ => ih) fun found _ hfound hlexemes =>
              .mark
                (IsMark.of_append (s := found) (isMark_of_lexemes hlexemes)) hfound
  | literal inner hinner hempty h ih =>
      exact .token (.literal ('"' :: inner ++ ['"'])) ht
        (lexemes_literal hinner fun hnil =>
          head?_append_ne (hempty hnil) (hbrace '"' (by decide))) rfl
            spacious_balanced
        (fun _ => ih) fun _ _ hfound hlexemes =>
          .literal inner hinner (fun hnil =>
            head?_ne_of_append (head?_of_literal hlexemes hnil))
            hfound
  | cutLiteral inner hinner h ih =>
      refine .token (.literal ('"' :: inner)) ht (lexemes_cutLiteral hinner _) rfl
        spacious_balanced (fun _ => ih) ?_
      intro found rest hfound hlexemes
      obtain ⟨s, rfl⟩ := exists_of_newline (newline_of_cutLiteral hinner hlexemes)
      exact .cutLiteral inner hinner hfound
  | blockString inner hinner h ih =>
      exact .token (.literal (blockQuotes ++ inner ++ blockQuotes)) ht
        (lexemes_blockString hinner _) rfl spacious_balanced (fun _ => ih)
        fun _ _ hfound _ => .blockString inner hinner hfound
  | lineComment body hbody h ih =>
      refine .token (.lineComment body) ht
        (lexemes_lineComment hbody fun c hc => (Option.some.inj hc).symm) rfl
          spacious_balanced
        (fun _ => ih) ?_
      intro found rest hfound hlexemes
      obtain ⟨s, rfl⟩ := exists_of_newline (newline_of_lineComment hlexemes)
      exact .lineComment body hbody hfound
  | blockComment body hbody h ih =>
      exact .token (.blockComment body true) ht (lexemes_blockComment hbody _) rfl
        spacious_balanced (fun _ => ih) fun _ _ hfound _ =>
          .blockComment body hbody hfound

/-- A header recurs as a header up to the brace that follows it. -/
theorem Header.recurs {parens : Nat} {s : List Char} (h : Header parens s)
    {after t : List Char} (ht : Respaced (s ++ '{' :: after) t) :
    Recurs (Header parens) '{' s after t := by
  have hends : EndsWord ('{' :: after) := by
    intro c hc
    cases hc
    decide
  induction h generalizing t with
  | nil => exact .nil rfl (lexemes_openBrace after) rfl spacious_header .nil ht
  | openParen h ih =>
      exact .token .openParen ht (lexemes_openParen _) rfl
        spacious_header (fun _ => ih) fun _ _ hfound _ => .openParen hfound
  | closeParen h ih =>
      exact .token .closeParen ht (lexemes_closeParen _) rfl
        spacious_header (fun _ => ih) fun _ _ hfound _ => .closeParen hfound
  | word word hword hend hkeyword h ih =>
      exact .token (.word word) ht (lexemes_word hword (hend.append hends)) rfl
        spacious_header (fun _ => ih) fun _ _ hfound hlexemes =>
          .word word hword (endsWord_of_lexemes hword hlexemes).of_append
            hkeyword hfound
  | @mark _ c _ hmark h ih =>
      cases hblank : isBlank c with
      | true => exact .blank hblank ht ih
      | false =>
          exact .token (.mark c) ht (lexemes_mark (hmark.append (by simp))) hblank
            spacious_header (fun _ => ih) fun found _ hfound hlexemes =>
              .mark
                (IsMark.of_append (s := found) (isMark_of_lexemes hlexemes)) hfound

namespace Clause

/-- Two clauses differ in blank characters only, and not in their names. -/
structure Restates (clause other : Clause) : Prop where
  kind : other.kind = clause.kind
  name : other.name = clause.name
  ink : ink other.text = ink clause.text

theorem ink_text (clause : Clause) :
    Text.ink clause.text = Text.ink clause.kind.keyword.toList ++
    Text.ink clause.header ++
      '{' :: Text.ink clause.body ++ ['}'] := by
  have hopen : isBlank '{' = false := by decide
  have hclose : isBlank '}' = false := by decide
  simp [Clause.text, block, Text.ink, hopen, hclose]

/-- A clause recurs behind blank characters, as one that differs from it in blank
characters only. -/
theorem recurs {clause : Clause} (h : clause.Proper) {after t : List Char}
    (ht : Respaced (clause.text ++ after) t) :
    ∃ gap other rest, t = gap ++ (other.text ++ rest) ∧
      (∀ c ∈ gap, isBlank c = true) ∧
      other.Proper ∧ clause.Restates other ∧ Respaced after rest := by
  have hword := clause.kind.isWord_keyword
  have hsplit : ∀ (clause : Clause) (after : List Char),
    clause.header ++ (clause.block ++ after) =
      clause.header ++ '{' :: (clause.body ++ '}' :: after) := by
    simp [block]
  have hends : EndsWord (clause.header ++ (clause.block ++ after)) := by
    rw [← List.append_assoc]
    exact endsWord_header h after
  rw [Clause.text, List.append_assoc, List.append_assoc] at ht
  obtain ⟨gap, u, rfl, hgap, hkeyword, hu⟩ := exists_of_tokens
    (ht.symm.trans (tokens_of_lexemes (lexemes_word hword hends) rfl))
  -- The ink of a header does not tell where its name ends, but the tokens behind
  -- the keyword do.
  have hname := congrArg firstWord hu
  rw [hsplit] at hu
  obtain ⟨header, v, rfl, hheader, hheaderInk, hv⟩ := h.header.recurs hu.symm
  obtain ⟨body, rest, rfl, hbody, hbodyInk, hrest⟩ := h.body.recurs hv
  have hvars : clause.kind = .vars → ∀ c ∈ header, isBlank c = true := by
    intro hkind
    obtain ⟨hnone, hempty⟩ := h.vars hkind
    rw [Clause.header, hnone, hempty, List.append_nil, List.append_nil,
      ink_eq_nil_iff.mpr h.gap] at hheaderInk
    exact ink_eq_nil_iff.mp hheaderInk
  obtain ⟨other, hother, hkind, rfl, rfl⟩ := exists_proper clause.kind hheader
    (endsWord_of_lexemes hword hkeyword).of_append hvars hbody
  refine ⟨gap, other, rest, ?_, hgap, hother, ⟨hkind, ?_, ?_⟩, hrest⟩
  · show gap ++ (clause.kind.keyword.toList ++ _) = _
    rw [← hkind, ← hsplit, Clause.text, List.append_assoc, List.append_assoc]
  · rw [← leadingWord_trimStart, ← leadingWord_trimStart, ← hsplit,
      leadingWord_header hother, leadingWord_header h] at hname
    exact hname
  · rw [ink_text, ink_text, hkind, hheaderInk, hbodyInk]

end Clause

/-- Two parts of documents differ in blank characters only. -/
inductive Part.Restates : Part → Part → Prop
  | comment (body : List Char) : Restates (.comment body) (.comment body)
  | clause {clause other : Clause} (h : clause.Restates other) :
      Restates (.clause clause) (.clause other)

/-- What has the tokens of a written document is a written document, whose parts
differ in blank characters only. -/
theorem Written.respaced {parts : List Part} {s t : List Char} (h : Written parts s)
    (ht : Respaced s t) :
    ∃ others, Written others t ∧ List.Forall₂ Part.Restates parts others := by
  induction h generalizing t with
  | nil =>
      have hnone : tokens [] = [] := by simp [tokens, lexemes]
      have hblank : ∀ c ∈ t, isBlank c = true :=
        all_blank_of_tokens (ht.symm.trans hnone)
      refine ⟨[], ?_, .nil⟩
      have hwritten := spacious_written.of_gap hblank .nil
      rwa [List.append_nil] at hwritten
  | blank hblank h ih => exact ih ((tokens_blank hblank _).symm.trans ht)
  | @lineComment parts body rest hbody hends h ih =>
      obtain ⟨gap, u, rfl, hgap, hlexemes, hu⟩ := exists_of_tokens
        (ht.symm.trans (tokens_of_lexemes (lexemes_lineComment hbody hends) rfl))
      obtain ⟨others, hothers, hrestates⟩ := ih hu.symm
      exact ⟨.comment body :: others,
        spacious_written.of_gap hgap
          (.lineComment hbody (newline_of_lineComment hlexemes) hothers),
        .cons (.comment body) hrestates⟩
  | @blockComment parts body rest hbody h ih =>
      obtain ⟨gap, u, rfl, hgap, _, hu⟩ := exists_of_tokens
        (ht.symm.trans (tokens_of_lexemes (lexemes_blockComment hbody _) rfl))
      obtain ⟨others, hothers, hrestates⟩ := ih hu.symm
      exact ⟨.comment body :: others,
        spacious_written.of_gap hgap (.blockComment hbody hothers),
        .cons (.comment body) hrestates⟩
  | clause hclause h ih =>
      obtain ⟨gap, other, rest, rfl, hgap, hother, hrestates, hrest⟩ :=
        Clause.recurs hclause ht
      obtain ⟨others, hothers, hall⟩ := ih hrest
      exact ⟨.clause other :: others,
        spacious_written.of_gap hgap (.clause hother hothers),
        .cons (.clause hrestates) hall⟩

end QueryGate.Document
