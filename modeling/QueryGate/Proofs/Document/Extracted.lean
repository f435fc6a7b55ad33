import QueryGate.Proofs.Document.Pieces

/-!
Sections that are read by themselves.

A section that begins with a keyword is read the same when its text is all there is:
where the keyword stands no bracket is open, so the brackets behind it are counted
as they are in the whole text. Main statement: an operation with a keyword and a
fragment are found again, and nothing else, in the text that was found.
-/

namespace QueryGate.Document

open QueryGate.Text

theorem openBrackets_append_of_none {opening closing : Lexeme} {front : List Lexeme}
    (hfront : openBrackets opening closing front = 0) (rest : List Lexeme) :
    openBrackets opening closing (front ++ rest) =
      openBrackets opening closing rest := by
  rw [openBrackets_append, hfront]
  rfl

/-- What stands before a boundary makes no difference to what is a boundary behind
it. -/
theorem boundary_append {front rest : List Lexeme} (hfront : Boundary front)
    (hne : rest ≠ []) : Boundary (front ++ rest) ↔ Boundary rest := by
  have hbraces : openBraces (front ++ rest) = openBraces rest :=
    openBrackets_append_of_none hfront.braces rest
  have hparens : openParens (front ++ rest) = openParens rest :=
    openBrackets_append_of_none hfront.parens rest
  have hlast : (front ++ rest).getLast? = rest.getLast? :=
    List.getLast?_append_of_ne_nil _ hne
  constructor
  · exact fun h => ⟨hbraces ▸ h.braces, hparens ▸ h.parens, hlast ▸ h.sigil⟩
  · exact fun h => ⟨hbraces ▸ h.braces, hparens ▸ h.parens, hlast ▸ h.sigil⟩

theorem boundary_nil : Boundary [] :=
  ⟨rfl, rfl, fun l hl => by cases hl⟩

namespace Stretch

variable {p : Stretch} {document : List Char} {clauseKind : ClauseKind}

/-- A stretch with nothing before it. -/
def alone (p : Stretch) : Stretch :=
  { p with before := [] }

/-- A section that begins with a keyword closes by itself where it does among
others. -/
theorem Closed.alone (h : p.Closed) (hkeyword : p.opening.keyword? = some p.kind)
    (hboundary : Boundary p.before) : p.alone.Closed := by
  refine ⟨⟨.keyword hkeyword boundary_nil, ?_⟩, h.closes.1, ?_⟩
  · intro front l hl hother
    have hnot := h.silent front l hl hother
    rw [List.append_assoc, boundary_append hboundary (by simp)] at hnot
    exact hnot
  · exact (openBrackets_append_of_none hboundary.braces _).symm.trans h.closes.2

/-- The lexemes of a section that is cut out of a text are those that it has
there. -/
theorem lexemes_text (h : p.Closes) (hvars : p.kind ≠ .vars)
    (hopening : p.opening = .word clauseKind.keyword.toList)
    (hwithin : p.upTo <+: lexemes document) : lexemes p.text = p.alone.upTo := by
  obtain ⟨ls, hls⟩ := h.exists_content
  rw [content, if_neg hvars] at hls
  obtain ⟨after, hafter⟩ := hwithin
  have hdocument : lexemes document = p.before ++ (ls ++ .closeBrace :: after) := by
    rw [← hafter, upTo, hls]
    simp
  have htext : p.text = Lexeme.text (ls ++ [.closeBrace]) := by
    rw [text_of_keyword h hvars hopening, ← hls, hopening]
    rfl
  rw [htext, lexemes_text_piece hdocument, ← hls]
  rfl

/-- The text of a section that begins with a keyword has this section, and no other
one. -/
theorem sections_text (h : p.Closed) (hvars : p.kind ≠ .vars)
    (hopening : p.opening = .word clauseKind.keyword.toList)
    (hkind : clauseKind.sectionKind = p.kind) (hboundary : Boundary p.before)
    (hwithin : p.upTo <+: lexemes document) : sections p.text = [p.toSection] := by
  have hkeyword : p.opening.keyword? = some p.kind := by
    rw [hopening, ← hkind]
    exact clauseKind.ofKeyword?_keyword
  have halone := h.alone hkeyword hboundary
  rw [sections, Reading.ofText, lexemes_text h.closes hvars hopening hwithin,
    Reading.endSection_run_begun halone.toBegun, closing?_of_closes halone.closes]
  rfl

end Stretch

theorem sections_of_mem {document : List Char} {s : Section}
    (h : s ∈ sections document) (hvars : s.kind ≠ .vars)
    (hbrace : s.kind = .operation → s.text.head? ≠ some '{') :
    sections s.text = [s] := by
  obtain ⟨stretches, hsections, hfound⟩ := exists_stretches document
  rw [hsections] at h
  obtain ⟨p, hp, rfl⟩ := List.mem_map.mp h
  have hclosed := hfound.closed p hp
  rcases hclosed.toBegun.cases with ⟨clauseKind, hopening, hkind, hboundary⟩
    | ⟨hopening, hkind⟩
  · exact Stretch.sections_text hclosed hvars hopening hkind hboundary
      (hfound.within p hp)
  · refine absurd ?_ (hbrace hkind)
    rw [show p.toSection.text = p.text from rfl,
      Stretch.text_of_brace hclosed.closes hvars hopening]
    rfl

/-- What is found in a text is found again in the piece of the text that it is: an
operation with a keyword with its query, its name and its kind and with nothing
else, and a fragment with no other one and without a query. -/
theorem ofText_extracted (document : String) :
    ((∃ operation : Operation,
      operation.keyword.toList <+: (Item.ofText document).query.toList) →
      (Item.ofText (Item.ofText document).query).query =
        (Item.ofText document).query ∧
        (Item.ofText (Item.ofText document).query).name =
          (Item.ofText document).name ∧
        (Item.ofText (Item.ofText document).query).operation =
          (Item.ofText document).operation ∧
        (Item.ofText (Item.ofText document).query).fragments = [] ∧
        (Item.ofText (Item.ofText document).query).vars = "") ∧
      ∀ fragment ∈ (Item.ofText document).fragments,
        (Item.ofText fragment.value).fragments = [fragment] ∧
          (Item.ofText fragment.value).query = "" := by
  constructor
  · rintro ⟨operation, hkeyword⟩
    let query := lastText .operation (sections document.toList)
    have hquery : (Item.ofText document).query = String.ofList query := rfl
    rw [hquery, String.toList_ofList] at hkeyword
    obtain ⟨rest, hrest⟩ := hkeyword
    have hne : query ≠ [] := by
      rw [← hrest]
      exact List.append_ne_nil_of_left_ne_nil
        (ClauseKind.isWord_keyword (.operation operation)).1 rest
    have hbrace : query.head? ≠ some '{' := by
      rw [← hrest]
      cases operation <;>
        · intro hhead
          cases hhead
    obtain ⟨s, hs, hkind, htext⟩ := exists_of_lastText hne
    have htext : s.text = query := htext
    have hagain : sections query = [s] :=
      htext ▸ sections_of_mem hs (by simp [hkind]) fun _ => htext ▸ hbrace
    have hlast : lastText .operation [s] = query := by
      simp [lastText, hkind, htext]
    have hitem : Item.ofText (String.ofList query) =
        Item.ofSections (topComments query) [s] := by
      rw [Item.ofText, String.toList_ofList, hagain]
    rw [hquery, hitem]
    refine ⟨congrArg String.ofList hlast, ?_, congrArg Operation.detect hlast, ?_,
      ?_⟩
    · exact congrArg (fun text => String.ofList (definedName text)) hlast
    · simp [Item.ofSections, hkind]
    · simp [Item.ofSections, lastText, hkind]
  · intro fragment hfragment
    obtain ⟨s, hs, rfl⟩ := List.mem_map.mp hfragment
    obtain ⟨hs, hkind⟩ := List.mem_filter.mp hs
    have hkind : s.kind = .fragment := of_decide_eq_true hkind
    have hagain : sections s.text = [s] :=
      sections_of_mem hs (by simp [hkind]) fun hother => by simp [hkind] at hother
    simp [Item.ofText, Item.ofSections, Fragment.ofText, hagain, lastText, hkind]

namespace Torn

/-- A document with brackets that close nothing, a literal that its line cuts off
and a parenthesis that stays open. -/
def text : String :=
  "\x7d $query ) \"\x7b\nquery a \x7b b \x7d fragment F on T \x7b c \x7d (query"

theorem ofText_extracted_torn :
    Operation.query.keyword.toList <+: (Item.ofText text).query.toList ∧
      (Item.ofText (Item.ofText text).query).query = "query a \x7b b \x7d" ∧
      (Item.ofText "fragment F on T \x7b c \x7d").fragments =
        [⟨"F", "fragment F on T \x7b c \x7d"⟩] := by
  have hkeyword : Operation.query.keyword.toList <+:
      (Item.ofText text).query.toList := by
    decide +kernel
  have hfragment : ⟨"F", "fragment F on T \x7b c \x7d"⟩ ∈
      (Item.ofText text).fragments := by
    decide +kernel
  obtain ⟨hquery, hfragments⟩ := ofText_extracted text
  exact ⟨hkeyword, (hquery ⟨.query, hkeyword⟩).1.trans (by decide +kernel),
    (hfragments _ hfragment).1⟩

end Torn

end QueryGate.Document
