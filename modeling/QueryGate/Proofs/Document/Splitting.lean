import QueryGate.Proofs.Document.Lexing

/-!
Splitting a document gives back what it was written with.

While a clause is read, `Inside` says what was read of it; between clauses,
`Between` says which comments and sections a document has so far. A body leaves the
reading where it found it, so nothing in it begins or ends a section: words, quotes,
comments and braces that balance are only text.
-/

namespace QueryGate.Text

/-- Blank characters before a text whose own ends are not blank are all that
trimming takes. -/
theorem trim_append_of_edges {gap s : List Char}
    (hgap : ∀ c ∈ gap, isBlank c = true) (hfirst : ∀ c ∈ s.head?, isBlank c = false)
    (hlast : ∀ c ∈ s.getLast?, isBlank c = false) : trim (gap ++ s) = s := by
  have hstops : ∀ c ∈ s.reverse.head?, isBlank c = false := by
    rw [List.head?_reverse]
    exact hlast
  have hend : s.reverse.dropWhile isBlank = s.reverse :=
    dropWhile_append_of_stops (s := []) (by simp) hstops
  rw [trim, dropAround, dropWhile_append_of_stops hgap hfirst, dropEndWhile, hend,
    List.reverse_reverse]

end QueryGate.Text

namespace QueryGate.Document

open QueryGate.Text

theorem head?_append_ne {s rest : List Char} {c : Char} (hs : s.head? ≠ some c)
    (hrest : rest.head? ≠ some c) : (s ++ rest).head? ≠ some c := by
  cases s with
  | nil => exact hrest
  | cons d s => exact hs

theorem EndsWord.append {s rest : List Char} (hs : EndsWord s)
    (hrest : EndsWord rest) : EndsWord (s ++ rest) := by
  cases s with
  | nil => exact hrest
  | cons d s => exact hs

theorem IsMark.append {c : Char} {s rest : List Char} (h : IsMark c s)
    (hrest : rest.head? ≠ some '*') : IsMark c (s ++ rest) :=
  ⟨h.1, h.2.1, fun hc => head?_append_ne (h.2.2 hc) hrest⟩

theorem Lexeme.text_reverse_cons (l : Lexeme) (ls : List Lexeme) :
    Lexeme.text (l :: ls).reverse = Lexeme.text ls.reverse ++ l.chars := by
  simp [Lexeme.text]

theorem ClauseKind.ofKeyword?_keyword (kind : ClauseKind) :
    SectionKind.ofKeyword? kind.keyword.toList = some kind.sectionKind := by
  cases kind with
  | vars => decide
  | operation kind => cases kind <;> decide
  | fragment => decide

theorem SectionKind.ofKeyword?_eq_none {word : List Char}
    (h : ∀ keyword ∈ keywords, word ≠ keyword.toList) :
    SectionKind.ofKeyword? word = none := by
  have hvars := h "variables" (by simp [keywords])
  have hquery := h "query" (by simp [keywords])
  have hmutation := h "mutation" (by simp [keywords])
  have hsubscription := h "subscription" (by simp [keywords])
  have hfragment := h "fragment" (by simp [keywords])
  rw [SectionKind.ofKeyword?, if_neg hvars, if_neg hfragment, Operation.ofKeyword?,
    if_neg hquery, if_neg hmutation, if_neg hsubscription]
  rfl

/-- The section of a clause. The keyword belongs to it, unless it is the one of the
variables. -/
def Clause.toSection (clause : Clause) : Section :=
  ⟨clause.kind.sectionKind, if clause.kind = .vars then clause.block
    else clause.text⟩

namespace Reading

theorem run_cons (r : Reading) (l : Lexeme) (ls : List Lexeme) :
    r.run (l :: ls) = (r.step l).run ls :=
  rfl

/-- A section of a kind is being read, with so many braces and parentheses open:
what was read of it, and what was collected before it. -/
structure Inside (r : Reading) (comments : List (List Char))
    (finished : List Section) (kind : SectionKind) (soFar : List Char)
    (braces parens : Nat) : Prop where
  comments : r.comments = comments
  finished : r.finished = finished
  current : ∃ o, r.current = some o ∧ o.kind = kind ∧
    Lexeme.text o.since.reverse = soFar
  depth : r.depth = braces
  parens : r.parens = parens

namespace Inside

variable {r : Reading} {comments : List (List Char)} {finished : List Section}
  {kind : SectionKind} {soFar : List Char} {braces parens : Nat}

theorem push (h : r.Inside comments finished kind soFar braces parens)
    (l : Lexeme) :
    (r.push l).Inside comments finished kind (soFar ++ l.chars) braces parens := by
  obtain ⟨o, hcurrent, hkind, htext⟩ := h.current
  refine ⟨h.comments, h.finished, ⟨o.push l, ?_, hkind, ?_⟩, h.depth, h.parens⟩
  · rw [Reading.push, hcurrent]
    rfl
  · rw [OpenSection.push, Lexeme.text_reverse_cons, htext]

theorem openBrace (h : r.Inside comments finished kind soFar braces parens) :
    (r.step .openBrace).Inside comments finished kind (soFar ++ ['{'])
    (braces + 1) parens := by
  obtain ⟨o, hcurrent, _⟩ := h.current
  have hpush := h.push .openBrace
  have hstep : r.step .openBrace =
      { r.push .openBrace with depth := r.depth + 1 } := by
    simp [step, hcurrent]
  rw [hstep]
  exact ⟨hpush.comments, hpush.finished, hpush.current, congrArg (· + 1) h.depth,
    hpush.parens⟩

theorem closeBrace (h : r.Inside comments finished kind soFar (braces + 2) parens) :
    (r.step .closeBrace).Inside comments finished kind (soFar ++ ['}'])
    (braces + 1) parens := by
  have hpush := h.push .closeBrace
  have hstep : r.step .closeBrace =
      { r.push .closeBrace with depth := braces + 1 } := by
    simp [step, h.depth]
  rw [hstep]
  exact ⟨hpush.comments, hpush.finished, hpush.current, rfl, hpush.parens⟩

theorem openParen (h : r.Inside comments finished kind soFar braces parens) :
    (r.step .openParen).Inside comments finished kind (soFar ++ ['(']) braces
      (parens + 1) := by
  have hpush := h.push .openParen
  exact ⟨hpush.comments, hpush.finished, hpush.current, hpush.depth,
    congrArg (· + 1) h.parens⟩

theorem closeParen (h : r.Inside comments finished kind soFar braces (parens + 1)) :
    (r.step .closeParen).Inside comments finished kind (soFar ++ [')']) braces
      parens := by
  have hpush := h.push .closeParen
  exact ⟨hpush.comments, hpush.finished, hpush.current, hpush.depth,
    congrArg (· - 1) h.parens⟩

/-- A word that is no keyword, or stands inside braces or parentheses, is only
text. -/
theorem word (h : r.Inside comments finished kind soFar braces parens)
    {word : List Char}
    (htext : braces = 0 → parens = 0 → SectionKind.ofKeyword? word = none) :
    (r.step (.word word)).Inside comments finished kind (soFar ++ word) braces
      parens := by
  have hstep : r.step (.word word) = r.push (.word word) := by
    cases hkeyword : SectionKind.ofKeyword? word with
    | none => simp only [step, hkeyword]
    | some other =>
        have hdeep : r.atTopLevel = false := by
          refine Bool.eq_false_iff.mpr fun htop => ?_
          simp only [atTopLevel, Bool.and_eq_true, beq_iff_eq] at htop
          obtain ⟨⟨hdepth, hparens⟩, _⟩ := htop
          rw [htext (h.depth ▸ hdepth) (h.parens ▸ hparens)] at hkeyword
          cases hkeyword
        simp [step, hkeyword, hdeep]
  rw [hstep]
  exact h.push (.word word)

theorem mark (h : r.Inside comments finished kind soFar braces parens) (c : Char) :
    (r.step (.mark c)).Inside comments finished kind (soFar ++ [c]) braces
      parens := by
  have hpush := h.push (.mark c)
  exact ⟨hpush.comments, hpush.finished, hpush.current, hpush.depth, hpush.parens⟩

theorem comment_eq (h : r.Inside comments finished kind soFar (braces + 1) parens)
    (body : List Char) : r.comment body = r := by
  simp [comment, h.depth]

/-- A comment inside braces is not collected. -/
theorem lineComment (h : r.Inside comments finished kind soFar (braces + 1) parens)
    (body : List Char) :
    (r.step (.lineComment body)).Inside comments finished kind
      (soFar ++ '#' :: body) (braces + 1) parens := by
  simp only [step, h.comment_eq]
  exact h.push (.lineComment body)

theorem blockComment (h : r.Inside comments finished kind soFar (braces + 1) parens)
    (body : List Char) :
    (r.step (.blockComment body true)).Inside comments finished kind
      (soFar ++ ('/' :: '*' :: body ++ ['*', '/'])) (braces + 1) parens := by
  simp only [step, h.comment_eq]
  exact h.push (.blockComment body true)

end Inside

end Reading

/-- Reading a text leads from one state to another, whatever is made of what
follows. -/
def Reads (r : Reading) (s after : List Char) (r' : Reading) : Prop :=
  r.run (lexemes (s ++ after)) = r'.run (lexemes after)

section Texts

variable {comments : List (List Char)} {finished : List Section}
  {kind : SectionKind} {braces parens : Nat} {soFar after : List Char} {r : Reading}

/-- Reading goes on after a lexeme. -/
theorem Reads.append (piece : List Char) {s : List Char} {l : Lexeme}
    {braces parens : Nat}
    (hpiece : lexemes (piece ++ (s ++ after)) = l :: lexemes (s ++ after))
    (hrest : ∃ r', Reads (r.step l) s after r' ∧
      r'.Inside comments finished kind (soFar ++ piece ++ s) braces parens) :
    ∃ r', Reads r (piece ++ s) after r' ∧
      r'.Inside comments finished kind (soFar ++ (piece ++ s)) braces parens := by
  obtain ⟨r', hreads, hinside⟩ := hrest
  refine ⟨r', ?_, ?_⟩
  · rw [Reads, List.append_assoc, hpiece]
    exact hreads
  · rw [← List.append_assoc]
    exact hinside

/-- Reading a body leaves its section open as it was, with the body read. -/
theorem Balanced.reads {s : List Char} (h : Balanced braces parens s)
    (after : List Char)
    (hr : r.Inside comments finished kind soFar (braces + 1) parens) :
    ∃ r', Reads r s ('}' :: after) r' ∧
      r'.Inside comments finished kind (soFar ++ s) 1 0 := by
  have hends : EndsWord ('}' :: after) := by
    intro c hc
    cases hc
    decide
  have hbrace : ∀ c, c ≠ '}' → ('}' :: after).head? ≠ some c := by
    intro c hc hhead
    cases hhead
    exact hc rfl
  induction h generalizing r soFar with
  | nil =>
      rw [List.append_nil]
      exact ⟨r, rfl, hr⟩
  | openBrace h ih =>
      exact Reads.append ['{'] (lexemes_openBrace _) (ih hr.openBrace)
  | closeBrace h ih =>
      exact Reads.append ['}'] (lexemes_closeBrace _) (ih hr.closeBrace)
  | openParen h ih =>
      exact Reads.append ['('] (lexemes_openParen _) (ih hr.openParen)
  | closeParen h ih =>
      exact Reads.append [')'] (lexemes_closeParen _) (ih hr.closeParen)
  | word word hword hend h ih =>
      have hdeep : ∀ n : Nat, n + 1 = 0 → False := fun n => Nat.succ_ne_zero n
      exact Reads.append _ (lexemes_word hword (hend.append hends))
        (ih (hr.word fun hzero => (hdeep _ hzero).elim))
  | @mark _ _ c _ hmark h ih =>
      exact Reads.append [c] (lexemes_mark (hmark.append (hbrace '*' (by decide))))
        (ih (hr.mark c))
  | literal inner hinner hempty h ih =>
      exact Reads.append _ (lexemes_literal hinner fun hnil =>
        head?_append_ne (hempty hnil) (hbrace '"' (by decide))) (ih (hr.push _))
  | cutLiteral inner hinner h ih =>
      exact Reads.append _ (lexemes_cutLiteral hinner _) (ih (hr.push _))
  | blockString inner hinner h ih =>
      exact Reads.append _ (lexemes_blockString hinner _) (ih (hr.push _))
  | lineComment body hbody h ih =>
      exact Reads.append _ (lexemes_lineComment hbody fun c hc =>
        (Option.some.inj hc).symm)
        (ih (hr.lineComment _))
  | blockComment body hbody h ih =>
      exact Reads.append _ (lexemes_blockComment hbody _) (ih (hr.blockComment _))

/-- Reading a header leaves its section open as it was, with the header read. -/
theorem Header.reads {s : List Char} (h : Header parens s) (after : List Char)
    (hr : r.Inside comments finished kind soFar 0 parens) :
    ∃ r', Reads r s ('{' :: after) r' ∧
      r'.Inside comments finished kind (soFar ++ s) 0 0 := by
  have hends : EndsWord ('{' :: after) := by
    intro c hc
    cases hc
    decide
  induction h generalizing r soFar with
  | nil =>
      rw [List.append_nil]
      exact ⟨r, rfl, hr⟩
  | openParen h ih =>
      exact Reads.append ['('] (lexemes_openParen _) (ih hr.openParen)
  | closeParen h ih =>
      exact Reads.append [')'] (lexemes_closeParen _) (ih hr.closeParen)
  | word word hword hend hkeyword h ih =>
      exact Reads.append _ (lexemes_word hword (hend.append hends))
        (ih (hr.word fun _ hzero => SectionKind.ofKeyword?_eq_none
          (hkeyword hzero)))
  | @mark _ c _ hmark h ih =>
      exact Reads.append [c] (lexemes_mark (hmark.append (by simp)))
        (ih (hr.mark c))

end Texts

/-- Between clauses: the trimmed comments and the sections of what was read, in
order. The section that was read last ends where its last brace closed. -/
structure Reading.Between (r : Reading) (comments : List (List Char))
    (done : List Section) : Prop where
  comments : r.comments = comments.reverse
  finished : r.endSection.finished = done.reverse
  depth : r.depth = 0
  parens : r.parens = 0
  afterSigil : r.afterSigil = false

namespace Reading.Between

variable {r : Reading} {comments : List (List Char)} {done : List Section}

theorem finished_push (r : Reading) (l : Lexeme) :
    (r.push l).endSection.finished = r.endSection.finished := by
  obtain ⟨_, _, current, _, _, _⟩ := r
  cases current <;> rfl

theorem push (h : r.Between comments done) (l : Lexeme) :
    (r.push l).Between comments done :=
  ⟨h.comments, (finished_push r l).trans h.finished, h.depth, h.parens, rfl⟩

theorem blank (h : r.Between comments done) {c : Char} (hblank : isBlank c = true) :
    (r.step (.mark c)).Between comments done := by
  have hpush := h.push (.mark c)
  have hsigil : (c == '$' || c == '@') = false := by
    rw [Bool.or_eq_false_iff, beq_eq_false_iff_ne, beq_eq_false_iff_ne]
    constructor <;>
      · rintro rfl
        exact absurd hblank (by decide)
  exact ⟨hpush.comments, hpush.finished, hpush.depth, hpush.parens, hsigil⟩

theorem comment (h : r.Between comments done) (body : List Char) :
    (r.comment body).Between (comments ++ [trim body]) done := by
  have hcomment : r.comment body =
      { r with comments := trim body :: r.comments } := by
    simp [Reading.comment, h.depth]
  rw [hcomment]
  refine ⟨?_, h.finished, h.depth, h.parens, h.afterSigil⟩
  rw [h.comments, List.reverse_append]
  rfl

/-- A keyword ends the section before it and begins one of its own. -/
theorem keyword (h : r.Between comments done) (kind : ClauseKind) :
    (r.step (.word kind.keyword.toList)).Inside comments.reverse done.reverse
      kind.sectionKind (if kind = .vars then [] else kind.keyword.toList) 0 0 := by
  have htop : r.atTopLevel = true := by
    simp [atTopLevel, h.depth, h.parens, h.afterSigil]
  have hstep : r.step (.word kind.keyword.toList) =
      r.beginSection kind.sectionKind (.word kind.keyword.toList) := by
    simp only [step, kind.ofKeyword?_keyword, htop, if_true]
  rw [hstep]
  refine ⟨h.comments, h.finished, ⟨_, rfl, rfl, ?_⟩, h.depth, h.parens⟩
  cases kind with
  | vars => rfl
  | operation kind => cases kind <;> rfl
  | fragment => rfl

end Reading.Between

/-- The brace that closes the last open one belongs to the section, and marks an end
of it. -/
theorem Reading.Inside.exists_closed {r : Reading} {comments : List (List Char)}
    {finished : List Section} {kind : SectionKind} {soFar : List Char}
    {parens : Nat} (h : r.Inside comments finished kind soFar 1 parens) :
    ∃ o : OpenSection, o.kind = kind ∧
      Lexeme.text o.since.reverse = soFar ++ ['}'] ∧
      r.step .closeBrace =
        { r with current := some o.close, depth := 0, afterSigil := false } := by
  have hpush := h.push .closeBrace
  obtain ⟨o, hcurrent, hkind, htext⟩ := hpush.current
  refine ⟨o, hkind, htext, ?_⟩
  have hstep : r.step .closeBrace =
      { r.push .closeBrace with depth := 0, current := some o.close } := by
    simp [step, h.depth, hcurrent]
  rw [hstep]
  rfl

theorem Reading.Inside.closeLast {r : Reading} {comments : List (List Char)}
    {finished : List Section} {kind : SectionKind} {soFar : List Char}
    {parens : Nat} (h : r.Inside comments finished kind soFar 1 parens) :
    (r.step .closeBrace).Inside comments finished kind (soFar ++ ['}']) 0
      parens := by
  obtain ⟨o, hkind, htext, hstep⟩ := h.exists_closed
  rw [hstep]
  exact ⟨h.comments, h.finished, ⟨o.close, rfl, hkind, htext⟩, rfl, h.parens⟩

/-- The brace that closes a body ends a section. -/
theorem Reading.Inside.close {r : Reading} {comments : List (List Char)}
    {done : List Section} {kind : SectionKind} {soFar : List Char}
    (h : r.Inside comments.reverse done.reverse kind soFar 1 0) :
    (r.step .closeBrace).Between comments
      (done ++ [⟨kind, trim (soFar ++ ['}'])⟩]) := by
  obtain ⟨o, hkind, htext, hstep⟩ := h.exists_closed
  have hfinish : o.close.finish = some ⟨kind, trim (soFar ++ ['}'])⟩ := by
    rw [← hkind, ← htext]
    rfl
  rw [hstep]
  refine ⟨h.comments, ?_, rfl, h.parens, rfl⟩
  show o.close.finish.toList ++ r.finished = _
  rw [hfinish, h.finished, List.reverse_append]
  rfl

/-- A body in its braces belongs to the section that is read, and ends it for
now. -/
theorem Balanced.reads_block {r : Reading} {comments : List (List Char)}
    {done : List Section} {kind : SectionKind} {soFar body : List Char}
    (h : Balanced 0 0 body) (after : List Char)
    (hr : r.Inside comments.reverse done.reverse kind soFar 0 0) :
    ∃ r', Reads r ('{' :: body ++ ['}']) after r' ∧
      r'.Inside comments.reverse done.reverse kind
        (soFar ++ ('{' :: body ++ ['}'])) 0 0 ∧
      r'.Between comments
        (done ++ [⟨kind, trim (soFar ++ ('{' :: body ++ ['}']))⟩]) := by
  obtain ⟨r₁, hbody, hr₁⟩ := h.reads after hr.openBrace
  have hsoFar : soFar ++ ['{'] ++ body ++ ['}'] = soFar ++
    ('{' :: body ++ ['}']) := by simp
  refine ⟨r₁.step .closeBrace, ?_, hsoFar ▸ hr₁.closeLast, hsoFar ▸ hr₁.close⟩
  have hsplit : '{' :: body ++ ['}'] ++ after =
    '{' :: (body ++ '}' :: after) := by simp
  rw [Reads, hsplit, lexemes_openBrace, Reading.run_cons, hbody, lexemes_closeBrace,
    Reading.run_cons]

theorem ClauseKind.isWord_keyword (kind : ClauseKind) :
    IsWord kind.keyword.toList := by
  rcases kind with _ | (_ | _ | _) | _ <;> decide

theorem ClauseKind.head_keyword (kind : ClauseKind) (rest : List Char) :
    ∀ c ∈ (kind.keyword.toList ++ rest).head?, isBlank c = false := by
  intro c hc
  rcases kind with _ | (_ | _ | _) | _ <;>
    · cases hc
      decide

namespace Clause

variable {clause : Clause}

/-- The keyword of a clause ends where its header begins. -/
theorem endsWord_header (h : clause.Proper) (after : List Char) :
    EndsWord (clause.header ++ clause.block ++ after) := by
  have hblock : EndsWord (clause.block ++ after) := by
    intro c hc
    cases hc
    decide
  rw [List.append_assoc, header]
  rcases hgap : clause.gap with _ | ⟨c, gap⟩
  · rw [h.apart hgap]
    exact h.ends.append hblock
  · intro d hd
    cases hd
    exact isWordChar_of_isBlank (h.gap c (hgap ▸ List.mem_cons_self))

theorem getLast?_block (clause : Clause) (s : List Char) :
    ∀ c ∈ (s ++ clause.block).getLast?, isBlank c = false := by
  intro c hc
  rw [block, ← List.append_assoc, List.getLast?_concat] at hc
  cases hc
  decide

theorem trim_text (clause : Clause) : trim clause.text = clause.text := by
  refine trim_append_of_edges (s := clause.text) (List.forall_mem_nil _) ?_
    (clause.getLast?_block _)
  rw [Clause.text, List.append_assoc]
  exact clause.kind.head_keyword _

theorem trim_block (h : clause.Proper) :
    trim (clause.gap ++ clause.block) = clause.block := by
  refine trim_append_of_edges h.gap ?_ (clause.getLast?_block [])
  intro c hc
  cases hc
  decide

/-- What is read of a clause up to its last brace gives its section. -/
theorem toSection_eq (h : clause.Proper) :
    (⟨clause.kind.sectionKind, trim ((if clause.kind = .vars then [] else
      clause.kind.keyword.toList) ++ clause.header ++ clause.block)⟩ : Section) =
      clause.toSection := by
  rw [toSection]
  split
  · next hvars =>
      obtain ⟨hname, hrest⟩ := h.vars hvars
      rw [header, hname, hrest, List.nil_append, List.append_nil, List.append_nil,
        trim_block h]
  · exact congrArg _ (trim_text clause)

/-- Reading a clause adds its section to what was read. The section stays open
behind it. -/
theorem reads_open (h : clause.Proper) (after : List Char) {r : Reading}
    {comments : List (List Char)} {done : List Section}
    (hr : r.Between comments done) :
    ∃ r', Reads r clause.text after r' ∧
      r'.Inside comments.reverse done.reverse clause.kind.sectionKind
        ((if clause.kind = .vars then [] else clause.kind.keyword.toList) ++
          clause.header ++
          clause.block) 0 0 ∧
      r'.Between comments (done ++ [clause.toSection]) := by
  obtain ⟨r₁, hheader, hr₁⟩ := h.header.reads (clause.body ++ '}' :: after)
    (hr.keyword clause.kind)
  obtain ⟨r₂, hblock, hinside, hbetween⟩ := h.body.reads_block after hr₁
  refine ⟨r₂, ?_, hinside, ?_⟩
  · have hword : lexemes (clause.kind.keyword.toList ++
      (clause.header ++ clause.block ++ after)) =
        .word clause.kind.keyword.toList ::
          lexemes (clause.header ++ clause.block ++ after) :=
      lexemes_word clause.kind.isWord_keyword (endsWord_header h after)
    have hsplit : clause.header ++ clause.block ++ after =
        clause.header ++ '{' :: (clause.body ++ '}' :: after) := by
      simp [block]
    have hbraces : '{' :: (clause.body ++ '}' :: after) =
        '{' :: clause.body ++ ['}'] ++ after := by
      simp
    rw [Reads, Clause.text, List.append_assoc, List.append_assoc,
      ← List.append_assoc clause.header, hword, Reading.run_cons, hsplit, hheader,
      hbraces, hblock]
  · rw [← toSection_eq h]
    exact hbetween

theorem reads (h : clause.Proper) (after : List Char) {r : Reading}
    {comments : List (List Char)} {done : List Section}
    (hr : r.Between comments done) :
    ∃ r', Reads r clause.text after r' ∧
      r'.Between comments (done ++ [clause.toSection]) := by
  obtain ⟨r', hreads, _, hbetween⟩ := reads_open h after hr
  exact ⟨r', hreads, hbetween⟩

end Clause

/-- Reading what a document is written with gives its comments and its clauses. -/
theorem Written.run {parts : List Part} {s : List Char} (h : Written parts s)
    {r : Reading} {comments : List (List Char)} {done : List Section}
    (hr : r.Between comments done) :
    (r.run (lexemes s)).Between (comments ++ (commentsOf parts).map trim)
      (done ++ (clausesOf parts).map Clause.toSection) := by
  induction h generalizing r comments done with
  | nil => simpa [commentsOf, clausesOf, lexemes, Reading.run] using hr
  | @blank _ c _ hblank h ih =>
      rw [lexemes_mark (isMark_of_isBlank hblank _)]
      exact ih (hr.blank hblank)
  | @lineComment parts body _ hbody hends h ih =>
      rw [lexemes_lineComment hbody hends]
      have hnext := ih ((hr.comment body).push (.lineComment body))
      rw [List.append_assoc] at hnext
      exact hnext
  | @blockComment parts body _ hbody h ih =>
      rw [lexemes_blockComment hbody]
      have hnext := ih ((hr.comment body).push (.blockComment body true))
      rw [List.append_assoc] at hnext
      exact hnext
  | clause hclause h ih =>
      obtain ⟨r', hreads, hr'⟩ := Clause.reads hclause _ hr
      have hnext := ih hr'
      rw [List.append_assoc] at hnext
      rw [hreads]
      exact hnext

end QueryGate.Document
