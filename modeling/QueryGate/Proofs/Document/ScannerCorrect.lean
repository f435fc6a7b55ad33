import QueryGate.Proofs.Document.Scanner
import QueryGate.Proofs.Sequence
import QueryGate.Proofs.Document.Stretches

/-!
The scanner finds the sections of a document.

Before and behind every lexeme the state of the scanner follows that of the reading:
the offsets of a span stand where the lexemes of the open section begin and where
those up to its last closing brace end. One lemma for each kind of lexeme says that
the scanner comes over it without a fault; the run over all lexemes is their
composition. Main statement: on every text the scanner has a result, and it is the
item of the text.
-/

namespace QueryGate.Document

open QueryGate.Text

theorem lastText_concat (kind : SectionKind) (ss : List Section) (s : Section) :
    lastText kind (ss ++ [s]) = if s.kind = kind then s.text
      else lastText kind ss := by
  rw [lastText, List.filter_append]
  split
  · next h =>
      rw [List.filter_cons_of_pos (by simpa using h), List.filter_nil,
        List.getLast?_concat]
      rfl
  · next h =>
      rw [List.filter_cons_of_neg (by simpa using h), List.filter_nil,
        List.append_nil, lastText]

/-- A section that ended is the last one of its kind so far. -/
def Scan.keep (found : Section) (s : Scan) : Scan :=
  match found.kind with
  | .vars => { s with vars := found.text }
  | .operation => { s with query := found.text }
  | .fragment => { s with fragments := s.fragments ++ [Fragment.ofText found.text] }

/-- The span of an open section, behind a text that ends with the lexemes of the
section. -/
inductive Spans (front : List Char) : Option OpenSection → Option OpenSpan → Prop
  | none : Spans front none none
  | some {before : List Char} {o : OpenSection}
      (hfront : front = before ++ Lexeme.text o.since.reverse)
      (hclosed : ∀ ls ∈ o.closed, ls <:+ o.since) :
      Spans front (some o) (some ⟨o.kind, byteSize before,
        o.closed.map fun ls => byteSize (before ++ Lexeme.text ls.reverse)⟩)

/-- The scanner has found behind a text what the reading of its lexemes has. -/
structure Follows (front : List Char) (r : Reading) (s : Scan) : Prop where
  depth : s.depth = r.depth
  parens : s.parens = r.parens
  comments : s.comments = r.comments.reverse
  vars : s.vars = lastText .vars r.finished.reverse
  query : s.query = lastText .operation r.finished.reverse
  fragments : s.fragments =
    (r.finished.reverse.filter (·.kind = .fragment)).map fun s =>
      Fragment.ofText s.text
  current : Spans front r.current s.current

namespace Spans

variable {front : List Char} {o : Option OpenSection} {span : Option OpenSpan}

theorem push (h : Spans front o span) (l : Lexeme) :
    Spans (front ++ l.chars) (o.map (·.push l)) span := by
  cases h with
  | none => exact .none
  | @some before o hfront hclosed =>
      refine Spans.some (o := o.push l) ?_ fun ls hls => ?_
      · rw [hfront, OpenSection.push, List.reverse_cons, Lexeme.text_append,
          Lexeme.text_singleton, List.append_assoc]
      · exact (hclosed ls hls).trans (List.suffix_cons l o.since)

theorem close (h : Spans front o span) :
    Spans front (o.map OpenSection.close)
      (span.map fun span => { span with
        last := Option.some (byteSize front) }) := by
  cases h with
  | none => exact .none
  | @some before o hfront hclosed =>
      subst hfront
      exact Spans.some (o := o.close) rfl fun ls hls => by
        obtain rfl := Option.some.inj hls
        exact List.suffix_rfl

theorem isNone_eq (h : Spans front o span) : span.isNone = o.isNone := by
  cases h <;> rfl

/-- The text of a section that ends is a slice of the document. -/
theorem slice_eq {before : List Char} {o : OpenSection} {ls : List Lexeme}
    (rest : List Char) (hfront : front = before ++ Lexeme.text o.since.reverse)
    (hls : ls <:+ o.since) :
    slice (front ++ rest) (byteSize before)
    (byteSize (before ++ Lexeme.text ls.reverse)) =
      .ok (Lexeme.text ls.reverse) := by
  obtain ⟨behind, hbehind⟩ := hls
  refine slice_eq_ok_iff.mpr ⟨before, Lexeme.text behind.reverse ++ rest, ?_,
    rfl, rfl⟩
  rw [hfront, ← hbehind, List.reverse_append, Lexeme.text_append]
  simp only [List.append_assoc]

end Spans

namespace Follows

variable {text front rest : List Char} {r : Reading} {s : Scan}

theorem push (h : Follows front r s) (l : Lexeme) :
    Follows (front ++ l.chars) (r.push l) s :=
  { h with current := h.current.push l }

theorem comment (h : Follows front r s) {first last : Nat} {body : List Char}
    (hslice : slice text first last = .ok body) :
    ∃ s', s.comment text first last = .ok s' ∧
      Follows front (r.comment body) s' := by
  by_cases hdepth : r.depth = 0
  · refine ⟨{ s with comments := s.comments ++ [trim body] }, ?_, ?_⟩
    · rw [Scan.comment, if_pos (h.depth.trans hdepth), hslice, ok_bind]
    · rw [Reading.comment, if_pos hdepth]
      exact { h with comments := by rw [h.comments, List.reverse_cons] }
  · refine ⟨s, ?_, ?_⟩
    · rw [Scan.comment, if_neg fun hzero => hdepth (h.depth.symm.trans hzero)]
    · rwa [Reading.comment, if_neg hdepth]

theorem keep (h : Follows front r s) (found : Section) :
    Follows front { r with finished := found :: r.finished } (s.keep found) := by
  have hlast : ∀ kind, lastText kind (found :: r.finished).reverse =
      if found.kind = kind then found.text
      else lastText kind r.finished.reverse := by
    intro kind
    rw [List.reverse_cons, lastText_concat]
  have hfragments :
    (((found :: r.finished).reverse).filter (·.kind = .fragment)).map
      (fun s => Fragment.ofText s.text) =
      s.fragments ++ if found.kind = .fragment then [Fragment.ofText found.text]
        else [] := by
    rw [h.fragments, List.reverse_cons, List.filter_append, List.map_append]
    split
    · next hkind => rw [List.filter_cons_of_pos (by simpa using hkind)]; rfl
    · next hkind => rw [List.filter_cons_of_neg (by simpa using hkind)]; rfl
  rw [Scan.keep]
  cases hkind : found.kind with
  | vars =>
      exact { h with
        vars := by rw [hlast, if_pos hkind]
        query := by rw [hlast, if_neg (by simp [hkind]), h.query]
        fragments := by rw [hfragments, if_neg (by simp [hkind]), List.append_nil] }
  | operation =>
      exact { h with
        vars := by rw [hlast, if_neg (by simp [hkind]), h.vars]
        query := by rw [hlast, if_pos hkind]
        fragments := by rw [hfragments, if_neg (by simp [hkind]), List.append_nil] }
  | fragment =>
      exact { h with
        vars := by rw [hlast, if_neg (by simp [hkind]), h.vars]
        query := by rw [hlast, if_neg (by simp [hkind]), h.query]
        fragments := by rw [hfragments, if_pos hkind] }

theorem cleared (h : Follows front r s) :
    Follows front { r with current := none } { s with current := none } :=
  { h with current := .none }

/-- A section ends without a fault. -/
theorem endSection (h : Follows front r s) (htext : text = front ++ rest) :
    ∃ s', s.close text = .ok s' ∧ Follows front r.endSection s' := by
  have hcurrent := h.current
  rw [Scan.close, Reading.endSection]
  generalize hspan : s.current = span, ho : r.current = o at hcurrent
  cases hcurrent with
  | none =>
      have hcleared := h.cleared
      rw [← hspan] at hcleared
      exact ⟨s, rfl, hcleared⟩
  | @some before o hfront hclosed =>
      cases hlast : o.closed with
      | none =>
          refine ⟨{ s with current := none }, rfl, ?_⟩
          rw [Option.bind_some, OpenSection.finish, hlast]
          exact h.cleared
      | some ls =>
          have hslice := Spans.slice_eq rest hfront (hclosed ls hlast)
          rw [← htext] at hslice
          refine ⟨{ s.keep ⟨o.kind, trim (Lexeme.text ls.reverse)⟩ with
            current := none }, ?_, ?_⟩
          · simp only [Option.map_some, hslice, ok_bind, nameOf_eq]
            rw [Scan.keep]
            cases o.kind <;> rfl
          · rw [Option.bind_some, OpenSection.finish, hlast]
            exact (h.keep _).cleared

/-- The text of the variables begins behind the keyword, that of another section
with it. -/
theorem beginSection (h : Follows front r.endSection s) (kind : SectionKind)
    (l : Lexeme) :
    Follows (front ++ l.chars) (r.beginSection kind l) { s with
      current := some ⟨kind,
        if kind = .vars then byteSize (front ++ l.chars) else byteSize front,
        none⟩ } := by
  have hcurrent : Spans (front ++ l.chars)
      (some (.start kind (if kind = .vars then [] else [l])))
      (some ⟨kind, if kind = .vars then byteSize (front ++ l.chars)
        else byteSize front,
        none⟩) := by
    by_cases hkind : kind = .vars
    · rw [if_pos hkind, if_pos hkind]
      exact .some (o := .start kind []) (List.append_nil _).symm
        fun ls hls => by cases hls
    · rw [if_neg hkind, if_neg hkind]
      exact .some (o := .start kind [l]) (congrArg _ (Lexeme.text_singleton l).symm)
        fun ls hls => by cases hls
  exact { h with current := hcurrent }

end Follows

/-- The scanner comes over a lexeme without a fault. -/
def Passes (text front : List Char) (l : Lexeme) (r : Reading) (s : Scan) : Prop :=
  ∃ s', Follows (front ++ l.chars) (r.step l) s' ∧
    Scan.run text (byteSize front) s =
      Scan.run text (byteSize (front ++ l.chars)) s'

section Passing

variable {text front tail : List Char} {l : Lexeme} {r : Reading} {s : Scan}
  {c : Char}

/-- It does in one round where the round comes to the end of the lexeme. -/
theorem passes_of_round (further : Scan) (htext : text = front ++ c :: tail)
    (hne : l.chars ≠ [])
    (hround : Scan.round text (byteSize front) s =
      .ok (.next (byteSize (front ++ l.chars)) further))
    (hfollows : Follows (front ++ l.chars) (r.step l) further) :
    Passes text front l r s := by
  refine ⟨further, hfollows, rounds_next ?_ hround (byteSize_lt_append front hne)⟩
  rw [htext]
  exact byteSize_lt_append front (List.cons_ne_nil c tail)

theorem byteAt_eq (htext : text = front ++ c :: tail) (hc : IsAscii c) :
    byteAt text (byteSize front) = .ok c :=
  htext ▸ byteAt_append front tail hc

theorem passes_literal (h : Follows front r s)
    (htext : text = front ++ '"' :: tail) :
    Passes text front (literalFrom tail).1 r s := by
  have hliteral : ∃ inner, (literalFrom tail).1 = .literal ('"' :: inner) := by
    rw [literalFrom]
    split <;> exact ⟨_, rfl⟩
  obtain ⟨inner, hinner⟩ := hliteral
  have hround : Scan.round text (byteSize front) s =
      .ok (.next (byteSize (front ++ (literalFrom tail).1.chars)) s) := by
    rw [Scan.round, byteAt_eq htext (by decide), ok_bind, if_pos rfl,
      literalEnd_eq htext, ok_bind]
  refine passes_of_round s htext (by simp [hinner, Lexeme.chars]) hround ?_
  rw [hinner]
  exact h.push _

theorem passes_lineComment (h : Follows front r s)
    (htext : text = front ++ '#' :: tail) :
    Passes text front (.lineComment (tail.takeWhile (· != '\n'))) r s := by
  have hrest : slice text (byteSize front) (byteSize text) = .ok ('#' :: tail) :=
    htext ▸ slice_rest front ('#' :: tail)
  have hlast := find?_newline htext
  have hline : ('#' :: tail).takeWhile (· != '\n') =
    '#' :: tail.takeWhile (· != '\n') := rfl
  rw [hline] at hlast
  have hopen : byteSize front + 1 = byteSize (front ++ ['#']) :=
    (byteSize_append front ['#']).symm
  have hbody : slice text (byteSize front + 1)
      (byteSize (front ++ '#' :: tail.takeWhile (· != '\n'))) =
        .ok (tail.takeWhile (· != '\n')) := by
    rw [hopen]
    refine slice_eq_ok_iff.mpr ⟨front ++ ['#'], tail.dropWhile (· != '\n'), ?_,
      rfl, ?_⟩
    · rw [htext, List.append_assoc, List.takeWhile_append_dropWhile,
        List.append_cons front '#' tail]
    · rw [List.append_cons front '#' (tail.takeWhile (· != '\n'))]
  obtain ⟨s', hs', hfollows⟩ := h.comment hbody
  refine passes_of_round s' htext (List.cons_ne_nil _ _) ?_ (hfollows.push _)
  rw [Scan.round, byteAt_eq htext (by decide), ok_bind, if_neg (by decide),
    if_pos rfl]
  simp only [Scan.lineComment, hrest, ok_bind, hlast, hs']
  rfl

theorem passes_blockComment (h : Follows front r s)
    (htext : text = front ++ '/' :: '*' :: tail) :
    Passes text front (blockCommentFrom tail).1 r s := by
  have hopen : byteSize front + 2 = byteSize (front ++ ['/', '*']) :=
    (byteSize_append front ['/', '*']).symm
  have hbehind : text = front ++ ['/', '*'] ++ tail := by rw [htext]; simp
  have hround : Scan.round text (byteSize front) s =
      s.blockComment text (byteSize front) := by
    have hstar : (bytes text)[byteSize front + 1]? = some '*' := by
      rw [htext, List.append_cons front '/' ('*' :: tail),
        show byteSize front + 1 = byteSize (front ++ ['/'])
          from (byteSize_append front ['/']).symm]
      exact (getElem?_bytes_append (by decide) _ _).mpr rfl
    rw [Scan.round, byteAt_eq htext (by decide), ok_bind, if_neg (by decide),
      if_neg (by decide), if_pos ⟨rfl, hstar⟩]
  have hrest : slice text (byteSize front + 2) (byteSize text) = .ok tail := by
    rw [hopen, hbehind]
    exact slice_rest _ tail
  rw [blockCommentFrom]
  cases hcut : splitOnce ['*', '/'] tail with
  | none =>
      obtain ⟨s', hs', hfollows⟩ := h.comment hrest
      refine passes_of_round s' htext (List.cons_ne_nil _ _) ?_ (hfollows.push _)
      rw [hround]
      have hwhole : front ++ (Lexeme.blockComment tail false).chars = text := by
        rw [htext]
        simp [Lexeme.chars]
      simp only [Scan.blockComment, hrest, ok_bind, find?, hcut, Option.map_none,
        hs', hwhole]
  | some cut =>
      obtain ⟨body, after⟩ := cut
      have hbody : slice text (byteSize front + 2)
        (byteSize front + 2 + byteSize body) =
          .ok body := by
        rw [hopen, hbehind, eq_append_of_splitOnce hcut, List.append_assoc body,
          ← List.append_assoc]
        exact slice_append _ body _
      obtain ⟨s', hs', hfollows⟩ := h.comment hbody
      refine passes_of_round s' htext (List.cons_ne_nil _ _) ?_ (hfollows.push _)
      rw [hround]
      have hwhole : byteSize (front ++ (Lexeme.blockComment body true).chars) =
          byteSize front + 4 + byteSize body := by
        have hchars : (Lexeme.blockComment body true).chars =
            ['/', '*'] ++ body ++ ['*', '/'] := rfl
        have hmark : byteSize ['/', '*'] = 2 := rfl
        have hend : byteSize ['*', '/'] = 2 := rfl
        rw [hchars, byteSize_append, byteSize_append, byteSize_append]
        omega
      simp only [Scan.blockComment, hrest, ok_bind, find?, hcut, Option.map_some,
        hs', hwhole]

theorem passes_openBrace (h : Follows front r s)
    (htext : text = front ++ '{' :: tail) : Passes text front .openBrace r s := by
  refine passes_of_round (s.openBrace (byteSize front)) htext
    (List.cons_ne_nil _ _) ?_ ?_
  · rw [Scan.round, byteAt_eq htext (by decide), ok_bind, byteSize_append]
    rfl
  · have hdepth : s.depth + 1 = r.depth + 1 := congrArg (· + 1) h.depth
    by_cases hbegins : r.depth = 0 ∧ r.current.isNone
    · have hcond : (decide (r.depth = 0) && r.current.isNone) = true := by
        simpa using hbegins
      have hscan : s.depth = 0 ∧ s.current.isNone := by
        rwa [h.depth, h.current.isNone_eq]
      rw [Reading.step, if_pos hcond, Scan.openBrace, if_pos hscan]
      exact { h with
        depth := hdepth
        current := .some (o := .start .operation [.openBrace]) rfl
          fun ls hls => by cases hls }
    · have hcond : ¬ (decide (r.depth = 0) && r.current.isNone) = true := by
        simpa using hbegins
      have hscan : ¬ (s.depth = 0 ∧ s.current.isNone) := by
        rwa [h.depth, h.current.isNone_eq]
      rw [Reading.step, if_neg hcond, Scan.openBrace, if_neg hscan]
      exact { h.push .openBrace with depth := hdepth }

theorem passes_closeBrace (h : Follows front r s)
    (htext : text = front ++ '}' :: tail) : Passes text front .closeBrace r s := by
  refine passes_of_round (s.closeBrace (byteSize front)) htext
    (List.cons_ne_nil _ _) ?_ ?_
  · rw [Scan.round, byteAt_eq htext (by decide), ok_bind, byteSize_append]
    rfl
  · have hdepth : s.depth - 1 = r.depth - 1 := congrArg (· - 1) h.depth
    have hpush := h.push .closeBrace
    rw [Reading.step, Scan.closeBrace]
    by_cases hzero : r.depth - 1 = 0
    · have hend : byteSize front + 1 = byteSize (front ++ ['}']) :=
        (byteSize_append front ['}']).symm
      rw [if_pos (hdepth.trans hzero), hend]
      simp only [hzero, ↓reduceIte]
      exact { hpush with
        depth := hdepth.trans hzero
        current := hpush.current.close }
    · have hscan : ¬ s.depth - 1 = 0 := fun heq => hzero (hdepth.symm.trans heq)
      rw [if_neg hscan]
      simp only [hzero, ↓reduceIte]
      exact { hpush with depth := hdepth }

theorem passes_openParen (h : Follows front r s)
    (htext : text = front ++ '(' :: tail) : Passes text front .openParen r s := by
  refine passes_of_round { s with parens := s.parens + 1 } htext
    (List.cons_ne_nil _ _) ?_ ?_
  · rw [Scan.round, byteAt_eq htext (by decide), ok_bind, byteSize_append]
    rfl
  · exact { h.push .openParen with parens := congrArg (· + 1) h.parens }

theorem passes_closeParen (h : Follows front r s)
    (htext : text = front ++ ')' :: tail) : Passes text front .closeParen r s := by
  refine passes_of_round { s with parens := s.parens - 1 } htext
    (List.cons_ne_nil _ _) ?_ ?_
  · rw [Scan.round, byteAt_eq htext (by decide), ok_bind, byteSize_append]
    rfl
  · exact { h.push .closeParen with parens := congrArg (· - 1) h.parens }

/-- Neither a sigil nor a word ends before an offset where none does in the text
before it. -/
theorem apart_eq (front rest : List Char) :
    Scan.apart (front ++ rest) (byteSize front) =
      .ok (front.getLast?.all fun c =>
        !(isWordChar c || c == '$' || c == '@')) := by
  rcases front.eq_nil_or_concat with rfl | ⟨front, c, rfl⟩
  · rfl
  · have hne : byteSize (front ++ [c]) ≠ 0 := Nat.ne_of_gt (byteSize_pos (by simp))
    obtain ⟨byte, hbyte, hat⟩ := exists_byteBefore front rest c
    have hdollar : (byte == '$') = (c == '$') := by
      rw [Bool.eq_iff_iff, beq_iff_eq, beq_iff_eq,
        eq_iff_of_mem_charBytes (by decide) hbyte]
    have hat' : (byte == '@') = (c == '@') := by
      rw [Bool.eq_iff_iff, beq_iff_eq, beq_iff_eq,
        eq_iff_of_mem_charBytes (by decide) hbyte]
    rw [List.concat_eq_append, Scan.apart, if_neg hne, ← List.append_cons, hat,
      ok_bind, isWordChar_of_mem_charBytes hbyte, hdollar, hat',
      List.getLast?_concat]
    rfl

/-- A round at a byte that is no sign. -/
theorem round_other {offset : Nat} {byte : Char}
    (hat : byteAt text offset = .ok byte)
    (hsigns : byte ∉ ['"', '#', '{', '}', '(', ')'])
    (hslash : byte = '/' → (bytes text)[offset + 1]? ≠ some '*') :
    Scan.round text offset s =
      if s.depth = 0 ∧ s.parens = 0 ∧ isWordChar byte = true then do
        if ← Scan.apart text offset then s.word text offset
        else .ok (.next (offset + 1) s)
      else .ok (.next (offset + 1) s) := by
  simp only [List.mem_cons, List.not_mem_nil, or_false, not_or] at hsigns
  obtain ⟨hquote, hhash, hopen, hclose, hopenParen, hcloseParen⟩ := hsigns
  rw [Scan.round, hat, ok_bind, if_neg hquote, if_neg hhash,
    if_neg fun h => hslash h.1 h.2, if_neg hopen, if_neg hclose, if_neg hopenParen,
    if_neg hcloseParen]

/-- No character of a word is a sign. -/
theorem no_sign_of_isWordChar (hc : isWordChar c = true) :
    c ≠ '/' ∧ c ∉ ['"', '#', '{', '}', '(', ')'] := by
  have hsigns : ['/', '"', '#', '{', '}', '(', ')'].all (!isWordChar ·) =
    true := by decide
  have hother : c ∉ ['/', '"', '#', '{', '}', '(', ')'] := fun hmem => by
    have hnot := List.all_eq_true.mp hsigns c hmem
    rw [hc] at hnot
    cases hnot
  rwa [List.mem_cons, not_or] at hother

theorem passes_mark (h : Follows front r s) (htext : text = front ++ c :: tail)
    (hmark : IsMark c tail) : Passes text front (.mark c) r s := by
  refine ⟨s, { h.push (.mark c) with },
    rounds_char htext fun offset hfirst hlast => ?_⟩
  obtain ⟨byte, hbyte, hat⟩ := exists_byteAt tail hfirst hlast
  rw [← htext] at hat
  rw [round_other hat ?_ ?_, if_neg ?_]
  · rintro ⟨-, -, hword⟩
    rw [isWordChar_of_mem_charBytes hbyte, hmark.1] at hword
    cases hword
  · intro hmem
    have hsigns : ['"', '#', '{', '}', '(', ')'].all (decide <| IsAscii ·) =
      true := by decide
    have hascii : IsAscii byte :=
      of_decide_eq_true (List.all_eq_true.mp hsigns byte hmem)
    obtain rfl : c = byte := (eq_iff_of_mem_charBytes hascii hbyte).mp rfl
    exact hmark.2.1 hmem
  · rintro rfl hstar
    obtain rfl : c = '/' := (eq_iff_of_mem_charBytes (by decide) hbyte).mp rfl
    have hbehind : byteSize (front ++ ['/']) = byteSize front + 1 :=
      byteSize_append front ['/']
    have hoffset : offset + 1 = byteSize (front ++ ['/']) := by omega
    rw [hoffset, htext, List.append_cons front '/' tail,
      getElem?_bytes_append (by decide)] at hstar
    exact hmark.2.2 rfl hstar

/-- Where no section may begin a word is passed byte by byte. -/
theorem run_word {word : List Char} (rest : List Char)
    (hword : ∀ c ∈ word, isWordChar c = true) (htext : text = front ++ word ++ rest)
    (hlow : s.depth = 0 → s.parens = 0 →
      Scan.apart text (byteSize front) = .ok false) :
    Scan.run text (byteSize front) s =
      Scan.run text (byteSize (front ++ word)) s := by
  induction word generalizing front with
  | nil => rw [List.append_nil]
  | cons c word ih =>
      obtain ⟨hc, hword⟩ := List.forall_mem_cons.mp hword
      have hascii : IsAscii c := isAscii_of_isWordChar hc
      have hhere : text = front ++ c :: (word ++ rest) := by
        rw [htext, List.append_assoc]; rfl
      have hbehind : text = front ++ [c] ++ (word ++ rest) := by
        rw [hhere, List.append_cons front c (word ++ rest)]
      obtain ⟨hslash, hsigns⟩ := no_sign_of_isWordChar hc
      have hround : Scan.round text (byteSize front) s =
          .ok (.next (byteSize front + 1) s) := by
        rw [round_other (byteAt_eq hhere hascii) hsigns fun heq =>
          absurd heq hslash]
        split
        · next htop =>
            rw [hlow htop.1 htop.2.1, ok_bind]
            rfl
        · rfl
      have hone : byteSize (front ++ [c]) = byteSize front + 1 := by
        rw [byteSize_append, byteSize_cons, utf8Size_of_isAscii hascii]
        rfl
      have hsize : byteSize front < byteSize text := by
        rw [hhere]
        exact byteSize_lt_append front (List.cons_ne_nil _ _)
      have hapart : Scan.apart text (byteSize (front ++ [c])) = .ok false := by
        rw [hbehind, apart_eq, List.getLast?_concat, Option.all_some, hc]
        rfl
      have hnext : Scan.run text (byteSize front) s =
          Scan.run text (byteSize (front ++ [c])) s := by
        rw [hone]
        exact rounds_next hsize hround (Nat.lt_succ_self _)
      rw [hnext, ih hword (by rw [hbehind, List.append_assoc (front ++ [c])])
        fun _ _ => hapart,
        List.append_cons front c word]

/-- At the top level a round looks at the word that begins there. -/
theorem round_word (h : Follows front r s) (htext : text = front ++ c :: tail)
    (hc : isWordChar c = true)
    (hapart : Scan.apart text (byteSize front) = .ok !r.afterSigil)
    (htop : r.atTopLevel = true) :
    Scan.round text (byteSize front) s = s.word text (byteSize front) := by
  obtain ⟨⟨hdepth, hparens⟩, hsigil⟩ :
    (r.depth = 0 ∧ r.parens = 0) ∧ r.afterSigil = false := by
    simpa [Reading.atTopLevel] using htop
  obtain ⟨hslash, hsigns⟩ := no_sign_of_isWordChar hc
  rw [round_other (byteAt_eq htext (isAscii_of_isWordChar hc)) hsigns fun heq =>
    absurd heq hslash,
    if_pos ⟨h.depth.trans hdepth, h.parens.trans hparens, hc⟩, hapart, hsigil,
      ok_bind]
  rfl

/-- At the top level a word is passed in one round, which begins a section at a
keyword. -/
theorem passes_word_topLevel (h : Follows front r s)
    (htext : text = front ++ c :: tail) (hc : isWordChar c = true)
    (hapart : Scan.apart text (byteSize front) = .ok !r.afterSigil)
    (htop : r.atTopLevel = true) :
    Passes text front (.word (c :: leadingWord tail)) r s := by
  have hword : leadingWord (c :: tail) = c :: leadingWord tail :=
    List.takeWhile_cons_of_pos hc
  have hrest : slice text (byteSize front) (byteSize text) = .ok (c :: tail) :=
    htext ▸ slice_rest front (c :: tail)
  have hmark : byteSize front + byteSize (c :: leadingWord tail) =
      byteSize (front ++ c :: leadingWord tail) := (byteSize_append front _).symm
  have hfurther : byteSize front + max (byteSize (c :: leadingWord tail)) 1 =
      byteSize (front ++ c :: leadingWord tail) := by
    rw [← hmark,
      Nat.max_eq_left (byteSize_pos (List.cons_ne_nil c (leadingWord tail)))]
  cases hkind : SectionKind.ofKeyword? (c :: leadingWord tail) with
  | none =>
      refine passes_of_round s htext (List.cons_ne_nil _ _) ?_ ?_
      · rw [round_word h htext hc hapart htop, Scan.word]
        simp only [hrest, ok_bind, wordOf_eq, hword, hkind, hfurther]
        rfl
      · rw [Reading.step]
        simp only [hkind]
        exact h.push _
  | some kind =>
      obtain ⟨closed, hclosed, hends⟩ := h.endSection htext
      let begun : OpenSpan := ⟨kind, if kind = .vars then
        byteSize (front ++ c :: leadingWord tail) else byteSize front, none⟩
      refine passes_of_round { closed with current := some begun } htext
        (List.cons_ne_nil _ _) ?_ ?_
      · rw [round_word h htext hc hapart htop, Scan.word]
        simp only [hrest, ok_bind, wordOf_eq, hword, hkind, hfurther,
          hclosed, hmark]
        rfl
      · rw [Reading.step]
        simp only [hkind, htop, ↓reduceIte]
        exact hends.beginSection kind (.word (c :: leadingWord tail))

/-- Elsewhere, and behind a sigil, a word is nothing but its characters. -/
theorem passes_word_within (h : Follows front r s)
    (htext : text = front ++ c :: tail) (hc : isWordChar c = true)
    (hapart : Scan.apart text (byteSize front) = .ok !r.afterSigil)
    (htop : ¬ r.atTopLevel = true) :
    Passes text front (.word (c :: leadingWord tail)) r s := by
  have hword : leadingWord (c :: tail) = c :: leadingWord tail :=
    List.takeWhile_cons_of_pos hc
  have hlow : s.depth = 0 → s.parens = 0 → Scan.apart text (byteSize front) =
      .ok false := by
    intro hdepth hparens
    have hsigil : r.afterSigil = true := by
      simpa [Reading.atTopLevel, h.depth ▸ hdepth, h.parens ▸ hparens] using htop
    rw [hapart, hsigil]
    rfl
  have hstep : r.step (.word (c :: leadingWord tail)) =
      r.push (.word (c :: leadingWord tail)) := by
    rw [Reading.step]
    split
    · exact if_neg htop
    · rfl
  refine ⟨s, hstep ▸ h.push _, run_word (afterLeadingWord tail) ?_ ?_ hlow⟩
  · exact fun d hd => List.mem_takeWhile_imp (hword ▸ hd)
  · rw [htext, List.append_assoc, Lexeme.chars, List.cons_append,
      leadingWord_append_afterLeadingWord]

theorem passes_word (h : Follows front r s) (htext : text = front ++ c :: tail)
    (hc : isWordChar c = true)
    (hapart : Scan.apart text (byteSize front) = .ok !r.afterSigil) :
    Passes text front (.word (c :: leadingWord tail)) r s := by
  by_cases htop : r.atTopLevel = true
  · exact passes_word_topLevel h htext hc hapart htop
  · exact passes_word_within h htext hc hapart htop

end Passing

section Document

variable {document : List Char} {ls after : List Lexeme} {l : Lexeme} {s : Scan}

/-- Where a word stands, a sigil ends before it exactly where the reading remembers
one. -/
theorem apart_of_lexemes {word rest : List Char}
    (hlexemes : lexemes document = ls ++ .word word :: after)
    (htext : document = Lexeme.text ls ++ rest) :
    Scan.apart document (byteSize (Lexeme.text ls)) =
      .ok !(Reading.run {} ls).afterSigil := by
  obtain ⟨-, -, hsigil⟩ := Reading.run_counts ls
  rw [isSigil_iff_of_lexemes hlexemes] at hsigil
  rw [htext, apart_eq]
  congr 1
  rw [Bool.eq_iff_iff, Bool.not_eq_true', hsigil, Option.all_eq_true]
  simp [and_assoc]

/-- The scanner comes over each lexeme of a document. -/
theorem passes_lexeme (hlexemes : lexemes document = ls ++ l :: after)
    (h : Follows (Lexeme.text ls) (Reading.run {} ls) s) :
    Passes document (Lexeme.text ls) l (Reading.run {} ls) s := by
  have hhere := lexemes_text_of_append hlexemes
  have htext : document = Lexeme.text ls ++ Lexeme.text (l :: after) := by
    rw [← Lexeme.text_append, ← hlexemes, text_lexemes]
  cases hrest : Lexeme.text (l :: after) with
  | nil =>
      rw [hrest, lexemes] at hhere
      cases hhere
  | cons c tail =>
      rw [hrest] at hhere htext
      have hfirst := firstLexeme_of_lexemes hhere
      rw [firstLexeme] at hfirst
      split_ifs at hfirst with hquote hhash hslash hopen hclose hopenParen
        hcloseParen hword
      · subst hquote hfirst
        exact passes_literal h htext
      · subst hhash hfirst
        exact passes_lineComment h htext
      · obtain ⟨hc, hstar⟩ := Bool.and_eq_true_iff.mp hslash
        obtain rfl := of_decide_eq_true hc
        obtain ⟨inner, rfl⟩ := List.isPrefixOf_iff_prefix.mp hstar
        subst hfirst
        exact passes_blockComment h htext
      · subst hopen hfirst
        exact passes_openBrace h htext
      · subst hclose hfirst
        exact passes_closeBrace h htext
      · subst hopenParen hfirst
        exact passes_openParen h htext
      · subst hcloseParen hfirst
        exact passes_closeParen h htext
      · subst hfirst
        exact passes_word h htext hword (apart_of_lexemes hlexemes htext)
      · subst hfirst
        obtain ⟨htail, hafter, -⟩ := exists_of_lexemes_cons hhere
        obtain rfl : tail = Lexeme.text after := (List.cons.inj htail).2
        exact passes_mark h htext (isMark_of_lexemes (hafter.symm ▸ hhere))

/-- The scanner comes to the end of a document. -/
theorem run_lexemes (hlexemes : lexemes document = ls ++ after)
    (h : Follows (Lexeme.text ls) (Reading.run {} ls) s) :
    ∃ s', Scan.run document (byteSize (Lexeme.text ls)) s = .ok s' ∧
      Follows document (Reading.run {} (lexemes document)) s' := by
  induction after generalizing ls s with
  | nil =>
      rw [List.append_nil] at hlexemes
      have htext : document = Lexeme.text ls := by rw [← hlexemes, text_lexemes]
      refine ⟨s, rounds_of_le (Nat.le_of_eq (congrArg byteSize htext)), ?_⟩
      rw [hlexemes]
      exact htext ▸ h
  | cons l after ih =>
      obtain ⟨s', hfollows, hrun⟩ := passes_lexeme hlexemes h
      rw [← Lexeme.text_singleton, ← Lexeme.text_append] at hfollows hrun
      rw [← Reading.run_concat] at hfollows
      rw [hrun]
      exact ih (by rw [hlexemes]; simp) hfollows

end Document

/-- A round for a document never ends its loop. -/
theorem exists_next {text : List Char} {offset : Nat} {s : Scan}
    {ended : Round Scan Scan} (h : Scan.round text offset s = .ok ended) :
    ∃ further s', ended = .next further s' := by
  have hnext : ∀ {further : Nat} {outcome : Except Fault Scan},
      (do .ok (.next further (← outcome))) = Except.ok ended →
        ∃ further s', ended = .next further s' := by
    intro further outcome h
    obtain ⟨s', -, h⟩ := bind_eq_ok_iff.mp h
    exact ⟨further, s', (Except.ok.inj h).symm⟩
  obtain ⟨byte, -, h⟩ := bind_eq_ok_iff.mp h
  split_ifs at h
  · obtain ⟨further, -, h⟩ := bind_eq_ok_iff.mp h
    exact ⟨further, s, (Except.ok.inj h).symm⟩
  · obtain ⟨rest, -, h⟩ := bind_eq_ok_iff.mp h
    exact hnext h
  · obtain ⟨rest, -, h⟩ := bind_eq_ok_iff.mp h
    split at h <;> exact hnext h
  · exact ⟨_, _, (Except.ok.inj h).symm⟩
  · exact ⟨_, _, (Except.ok.inj h).symm⟩
  · exact ⟨_, _, (Except.ok.inj h).symm⟩
  · exact ⟨_, _, (Except.ok.inj h).symm⟩
  · obtain ⟨apart, -, h⟩ := bind_eq_ok_iff.mp h
    split at h
    · obtain ⟨rest, -, h⟩ := bind_eq_ok_iff.mp h
      obtain ⟨found, -, h⟩ := bind_eq_ok_iff.mp h
      split at h
      · exact ⟨_, _, (Except.ok.inj h).symm⟩
      · obtain ⟨closed, -, h⟩ := bind_eq_ok_iff.mp h
        exact ⟨_, _, (Except.ok.inj h).symm⟩
    · exact ⟨_, _, (Except.ok.inj h).symm⟩
  · exact ⟨_, _, (Except.ok.inj h).symm⟩

/-- On every text the scanner comes to the end and finds the item. -/
theorem exists_run (text : List Char) :
    ∃ s closed, Scan.run text 0 {} = .ok s ∧ s.close text = .ok closed ∧
      closed.item = .ok (Item.ofText (String.ofList text)) := by
  have hstart : Follows (Lexeme.text []) (Reading.run {} []) {} :=
    { depth := rfl, parens := rfl, comments := rfl, vars := rfl, query := rfl,
      fragments := rfl,
      current := .none }
  have hlexemes : lexemes text = [] ++ lexemes text := rfl
  obtain ⟨s, hrun, hfollows⟩ := run_lexemes hlexemes hstart
  obtain ⟨closed, hclosed, hends⟩ := hfollows.endSection (List.append_nil text).symm
  have hcomments : closed.comments = topComments text := hends.comments
  have hvars : closed.vars = lastText .vars (sections text) := hends.vars
  have hquery : closed.query = lastText .operation (sections text) := hends.query
  have hfragments : closed.fragments =
      ((sections text).filter (·.kind = .fragment)).map fun s =>
        Fragment.ofText s.text :=
    hends.fragments
  refine ⟨s, closed, hrun, hclosed, ?_⟩
  rw [Scan.item]
  simp only [nameOf_eq, operationOf_eq, ok_bind, hcomments, hvars, hquery,
    hfragments]
  rw [Item.ofText, String.toList_ofList]
  rfl

/-- The scanner splits every text without a fault and finds the item of the text:
each byte that it reads is there, each slice that it takes lies between characters
of the text, and every round that its loop comes to moves on. So does every round of
the loops for strings that does not end its loop. -/
theorem scan_faultless (text : String) :
    scan text.toList = .ok (Item.ofText text) ∧
      (∀ offset s,
        Reaches (byteSize text.toList) (Scan.round text.toList) 0 {} offset s →
        offset < byteSize text.toList → ∃ further s',
          Scan.round text.toList offset s = .ok (.next further s') ∧
          offset < further) ∧
      (∀ offset, offset < byteSize text.toList →
        (∃ last, quotedRound text.toList offset () = .ok (.done last)) ∨
          ∃ further, quotedRound text.toList offset () = .ok (.next further ()) ∧
            offset < further) ∧
      ∀ offset, 0 < offset → offset < byteSize text.toList →
        (∃ last, blockRound text.toList offset () = .ok (.done last)) ∨
          ∃ further, blockRound text.toList offset () = .ok (.next further ()) ∧
            offset < further := by
  obtain ⟨s, closed, hrun, hclosed, hitem⟩ := exists_run text.toList
  rw [String.ofList_toList] at hitem
  refine ⟨?_, fun offset here hreaches hoffset => ?_, fun _ => quotedRound_moves_on,
    fun _ => blockRound_moves_on⟩
  · rw [scan, hrun, ok_bind, hclosed, ok_bind, hitem]
  · rcases hreaches.moves_on hrun hoffset with hdone | ⟨further, s', hnext, hlt⟩
    · obtain ⟨further, s', hended⟩ := exists_next hdone
      cases hended
    · exact ⟨further, s', hnext, hlt⟩

/-- A string with a backslash before a character of two bytes: the loop goes on
within the character. -/
def escaped : String := "\"\\é"

theorem scan_faultless_escaped :
    (0 < byteSize escaped.toList ∧ ∃ further s',
        Scan.round escaped.toList 0 {} = .ok (.next further s') ∧ 0 < further) ∧
      quotedRound escaped.toList 1 () = .ok (.next 3 ()) ∧
      (2 < byteSize escaped.toList ∧
        ((∃ last, blockRound escaped.toList 2 () = .ok (.done last)) ∨
          ∃ further, blockRound escaped.toList 2 () = .ok (.next further ()) ∧
            2 < further)) ∧
      scan escaped.toList = .ok (Item.ofText escaped) := by
  obtain ⟨hscan, hloop, hquoted, hblock⟩ := scan_faultless escaped
  have hsize : byteSize escaped.toList = 4 := by decide +kernel
  refine ⟨⟨by omega, hloop 0 {} .start (by omega)⟩, ?_,
    ⟨by omega, hblock 2 (by decide) (by omega)⟩, hscan⟩
  rcases hquoted 1 (by omega) with ⟨last, hdone⟩ | ⟨further, hnext, -⟩
  · cases hdone
  · exact hnext.trans (by cases hnext; rfl)

end QueryGate.Document
