import QueryGate.Proofs.Document.Splitting
import Mathlib.Data.List.TakeWhile

/-!
The item of a written document.

Splitting a document gives its comments and clauses back in order. What the item
says about the operation and the fragments is what their headers say, whatever their
bodies hold.
-/

namespace QueryGate.Document

open QueryGate.Text

namespace Clause

variable {clause : Clause}

theorem trimStart_text (clause : Clause) : trimStart clause.text = clause.text := by
  rw [Clause.text, List.append_assoc]
  exact dropWhile_append_of_stops (s := []) (List.forall_mem_nil _)
    (clause.kind.head_keyword _)

theorem text_eq_append (clause : Clause) :
    clause.text = clause.kind.keyword.toList ++
      (clause.header ++ clause.block) := by
  rw [Clause.text, List.append_assoc]

theorem endsWord_keyword (h : clause.Proper) :
    EndsWord (clause.header ++ clause.block) := by
  have hends := endsWord_header h []
  rw [List.append_nil] at hends
  exact hends

/-- The first word of a clause is its keyword. -/
theorem leadingWord_text (h : clause.Proper) :
    leadingWord clause.text = clause.kind.keyword.toList := by
  rw [text_eq_append]
  exact takeWhile_append_of_stops clause.kind.isWord_keyword.2 (endsWord_keyword h)

/-- What follows the gap after a keyword is not blank: a name, or where there is
none, the rest of the header or the brace. -/
theorem head_named (h : clause.Proper) :
    ∀ c ∈ (clause.name ++ (clause.rest ++ clause.block)).head?,
      isBlank c = false := by
  intro c hc
  rcases hname : clause.name with _ | ⟨d, name⟩
  · rw [hname] at hc
    rcases hrest : clause.rest with _ | ⟨e, rest⟩
    · rw [hrest] at hc
      cases hc
      decide
    · rw [hrest] at hc
      exact h.unnamed hname c (hrest ▸ hc)
  · rw [hname] at hc
    cases hc
    rw [Bool.eq_false_iff]
    intro hblank
    have hword := h.name c (hname ▸ List.mem_cons_self)
    rw [isWordChar_of_isBlank hblank] at hword
    cases hword

/-- The name of a clause is the first word of its header. -/
theorem leadingWord_header (h : clause.Proper) (after : List Char) :
    leadingWord (trimStart (clause.header ++ (clause.block ++ after))) =
      clause.name := by
  have hhead :
    ∀ c ∈ (clause.name ++ (clause.rest ++ (clause.block ++ after))).head?,
      isBlank c = false := by
    intro c hc
    refine head_named h c ?_
    simpa [block, List.head?_append] using hc
  have hends : EndsWord (clause.rest ++ (clause.block ++ after)) :=
    h.ends.append fun c hc => by
    cases hc
    decide
  rw [header, List.append_assoc, List.append_assoc, trimStart,
    dropWhile_append_of_stops h.gap hhead]
  exact takeWhile_append_of_stops h.name hends

/-- The name of a clause is the word after its keyword, whatever follows the
clause. -/
theorem definedName_append (h : clause.Proper) (after : List Char) :
    definedName (clause.text ++ after) = clause.name := by
  have hsplit : clause.text ++ after =
      clause.kind.keyword.toList ++ (clause.header ++ (clause.block ++ after)) := by
    rw [text_eq_append]
    simp
  have hends : EndsWord (clause.header ++ (clause.block ++ after)) := by
    rw [← List.append_assoc]
    exact endsWord_header h after
  have hstart : trimStart (clause.text ++ after) = clause.text ++ after := by
    rw [hsplit]
    exact dropWhile_append_of_stops (s := []) (List.forall_mem_nil _)
      (clause.kind.head_keyword _)
  have hkeyword : leadingWord (clause.text ++ after) =
      clause.kind.keyword.toList := by
    rw [hsplit]
    exact takeWhile_append_of_stops clause.kind.isWord_keyword.2 hends
  have hrest : afterLeadingWord (clause.text ++ after) =
      clause.header ++ (clause.block ++ after) := by
    rw [hsplit]
    exact dropWhile_append_of_stops clause.kind.isWord_keyword.2 hends
  have hnonempty : clause.kind.keyword.toList.isEmpty = false :=
    List.isEmpty_eq_false_iff.mpr clause.kind.isWord_keyword.1
  rw [definedName, hstart, hkeyword, hrest]
  simp only [hnonempty, Bool.false_eq_true, if_false]
  exact leadingWord_header h after

theorem definedName_text (h : clause.Proper) :
    definedName clause.text = clause.name := by
  simpa using definedName_append h []

theorem detect_text (h : clause.Proper) {kind : Operation}
    (hkind : clause.kind = .operation kind) :
    Operation.detect clause.text = some kind := by
  have hword := leadingWord_text h
  rw [Operation.detect, trimStart_text]
  split
  · next rest htext =>
      rw [htext] at hword
      exact absurd hword.symm clause.kind.isWord_keyword.1
  · rw [hword, hkind]
    exact Operation.ofKeyword?_keyword kind

/-- Every header that goes with a keyword is the header of a proper clause: the name
is the first word in it, if it has one. -/
theorem exists_proper (kind : ClauseKind) {header body : List Char}
    (hheader : Header 0 header) (hends : EndsWord header)
    (hvars : kind = .vars → ∀ c ∈ header, isBlank c = true)
    (hbody : Balanced 0 0 body) :
    ∃ clause : Clause, clause.Proper ∧ clause.kind = kind ∧ clause.header = header ∧
      clause.body = body := by
  let gap := header.takeWhile isBlank
  let start := header.dropWhile isBlank
  have hblank : gap ++ start = header := List.takeWhile_append_dropWhile
  have hnamed : leadingWord start ++ afterLeadingWord start = start :=
    leadingWord_append_afterLeadingWord start
  have hsplit : gap ++ leadingWord start ++ afterLeadingWord start = header := by
    rw [List.append_assoc, hnamed, hblank]
  refine ⟨⟨kind, gap, leadingWord start, afterLeadingWord start, body⟩, ?_, rfl,
    hsplit, rfl⟩
  constructor
  case gap => exact fun c hc => List.mem_takeWhile_imp hc
  case name => exact fun c hc => List.mem_takeWhile_imp hc
  case apart =>
    intro hgap
    have hstart : start = header := by
      rw [← hblank, show gap = [] from hgap, List.nil_append]
    show leadingWord start = []
    rw [hstart]
    exact takeWhile_append_of_stops (s := []) (List.forall_mem_nil _) hends
  case ends => exact stops_dropWhile isWordChar start
  case unnamed =>
    intro hname
    rw [show leadingWord start = [] from hname, List.nil_append] at hnamed
    show ∀ c ∈ (afterLeadingWord start).head?, isBlank c = false
    rw [hnamed]
    exact stops_dropWhile isBlank header
  case vars =>
    intro hkind
    have hstart : start = [] := List.dropWhile_eq_nil_iff.mpr (hvars hkind)
    show leadingWord start = [] ∧ afterLeadingWord start = []
    rw [hstart]
    exact ⟨rfl, rfl⟩
  case header => exact (congrArg (Header 0) hsplit).mpr hheader
  case body => exact hbody

theorem toSection_text_of_ne (h : clause.kind.sectionKind ≠ .vars) :
    clause.toSection.text = clause.text := by
  rw [toSection, if_neg]
  rintro hvars
  exact h (hvars ▸ rfl)

theorem toSection_text_of_vars (h : clause.kind.sectionKind = .vars) :
    clause.toSection.text = clause.block := by
  have hvars : clause.kind = .vars := by
    cases hkind : clause.kind <;> rw [hkind] at h <;> first | rfl | cases h
  rw [toSection, if_pos hvars]

end Clause

section Whole

variable {parts : List Part} {text : List Char}

theorem Written.between (h : Written parts text) :
    (Reading.run {} (lexemes text)).Between ((commentsOf parts).map trim)
      ((clausesOf parts).map Clause.toSection) :=
  have hstart : Reading.Between {} [] [] := ⟨rfl, rfl, rfl, rfl, rfl⟩
  h.run hstart

/-- The sections of a written document are its clauses. -/
theorem sections_of_written (h : Written parts text) :
    sections text = (clausesOf parts).map Clause.toSection := by
  rw [sections, Reading.ofText, h.between.finished, List.reverse_reverse]

/-- The comments of a written document are those between its clauses. -/
theorem topComments_of_written (h : Written parts text) :
    topComments text = (commentsOf parts).map trim := by
  show (Reading.run {} (lexemes text)).comments.reverse = _
  rw [h.between.comments, List.reverse_reverse]

theorem filter_sections (kind : SectionKind) (parts : List Part) :
    ((clausesOf parts).map Clause.toSection).filter (·.kind = kind) =
      (clausesOfKind kind parts).map Clause.toSection := by
  rw [List.filter_map]
  rfl

theorem Written.proper (h : Written parts text) :
    ∀ clause ∈ clausesOf parts, clause.Proper := by
  induction h with
  | nil => exact List.forall_mem_nil _
  | blank _ _ ih => exact ih
  | lineComment _ _ _ ih => exact ih
  | blockComment _ _ ih => exact ih
  | clause hclause _ ih => exact List.forall_mem_cons.mpr ⟨hclause, ih⟩

theorem mem_clausesOfKind {kind : SectionKind} {clause : Clause} :
    clause ∈ clausesOfKind kind parts ↔
      clause ∈ clausesOf parts ∧ clause.kind.sectionKind = kind := by
  rw [clausesOfKind, List.mem_filter, decide_eq_true_iff]

/-- The last section of a kind, where a document has at most one. -/
theorem lastText_sections {kind : SectionKind} {only : Option Clause}
    (h : clausesOfKind kind parts = only.toList) :
    lastText kind ((clausesOf parts).map Clause.toSection) =
      (only.map fun clause => clause.toSection.text).getD [] := by
  rw [lastText, filter_sections, h]
  cases only <;> rfl

/-- Splitting a document that is written with comments, at most one block of
variables, one operation and any fragments gives exactly these. -/
theorem ofText_of_written {parts : List Part} {text : String}
    {values : Option Clause} {operation : Clause} {kind : Operation}
    (hwritten : Written parts text.toList)
    (hvalues : clausesOfKind .vars parts = values.toList)
    (hoperation : clausesOfKind .operation parts = [operation])
    (hkind : operation.kind = .operation kind) :
    Item.ofText text =
      { comment := String.ofList (join ['\n'] ((commentsOf parts).map trim))
        vars := String.ofList ((values.map Clause.block).getD [])
        query := String.ofList operation.text
        fragments := (clausesOfKind .fragment parts).map fun clause =>
          ⟨String.ofList clause.name, String.ofList clause.text⟩
        name := String.ofList operation.name
        operation := some kind
        order := Order.ofComment (join ['\n'] ((commentsOf parts).map trim)) } := by
  have hproper := hwritten.proper
  have hvars : lastText .vars ((clausesOf parts).map Clause.toSection) =
      (values.map Clause.block).getD [] := by
    rw [lastText_sections hvalues]
    cases values with
    | none => rfl
    | some clause =>
        have hmem : clause ∈ clausesOfKind .vars parts :=
          hvalues ▸ List.mem_cons_self
        exact Clause.toSection_text_of_vars (mem_clausesOfKind.mp hmem).2
  have hmem : operation ∈ clausesOf parts ∧
      operation.kind.sectionKind = .operation :=
    mem_clausesOfKind.mp (hoperation ▸ List.mem_cons_self)
  have hquery : lastText .operation ((clausesOf parts).map Clause.toSection) =
      operation.text := by
    have honly : clausesOfKind .operation parts = (some operation).toList :=
      hoperation
    rw [lastText_sections honly]
    exact Clause.toSection_text_of_ne (by rw [hmem.2]; decide)
  have hfragments :
    (((clausesOf parts).map Clause.toSection).filter (·.kind = .fragment)).map
      (fun s => Fragment.ofText s.text) =
        (clausesOfKind .fragment parts).map fun clause =>
        ⟨String.ofList clause.name, String.ofList clause.text⟩ := by
    rw [filter_sections, List.map_map]
    refine List.map_congr_left fun clause hclause => ?_
    obtain ⟨hin, hfragment⟩ := mem_clausesOfKind.mp hclause
    have htext : clause.toSection.text = clause.text :=
      Clause.toSection_text_of_ne (by rw [hfragment]; decide)
    rw [Function.comp_apply, htext, Fragment.ofText,
      Clause.definedName_text (hproper clause hin)]
  have hin := hproper operation hmem.1
  rw [Item.ofText, sections_of_written hwritten, topComments_of_written hwritten]
  simp only [Item.ofSections, hvars, hquery, hfragments,
    Clause.definedName_text hin, Clause.detect_text hin hkind]

end Whole

namespace UsersDocument

def comment : List Char := " Users\n@order sort: asc ".toList

def values : Clause := ⟨.vars, [' '], [], [], "\"\x7d\"".toList⟩

def operation : Clause :=
  ⟨.operation .query, [' '], "users".toList, "($query: Int) ".toList, " id ".toList⟩

def fragment : Clause :=
  ⟨.fragment, [' '], ['F'], " on users ".toList, "#\x7d\n".toList⟩

def parts : List Part :=
  [.comment comment, .clause values, .clause operation, .clause fragment]

def text : String :=
  String.ofList ('/' :: '*' :: comment ++ ['*', '/'] ++
    '\n' :: (values.text ++ '\n' ::
    (operation.text ++ '\n' :: (fragment.text ++ []))))

/-- The brace in the string is no brace of the block. -/
theorem proper_values : values.Proper := by
  constructor
  case header => exact .mark (by decide) .nil
  case body =>
    exact .literal ['}'] (.char (by decide) (by decide) (by decide) .nil)
      (by decide) .nil
  case gap => exact List.all_eq_true.mp rfl
  case name => exact List.all_eq_true.mp rfl
  case unnamed => exact fun _ c hc => by cases hc
  all_goals decide

/-- The word in the parentheses is no keyword. -/
theorem proper_operation : operation.Proper := by
  have harguments : Header 1 "$query: Int) ".toList :=
    .mark (by decide) <| .word "query".toList (by decide) (by decide) (by decide) <|
      .mark (by decide) <| .mark (by decide) <|
      .word "Int".toList (by decide) (by decide) (by decide) <|
      .closeParen <| .mark (by decide) .nil
  constructor
  case header =>
    exact .mark (by decide) <|
      .word "users".toList (by decide) (by decide) (by decide)
        (.openParen harguments)
  case body =>
    exact .mark (by decide) <| .word "id".toList (by decide) (by decide) <|
      .mark (by decide) .nil
  case gap => exact List.all_eq_true.mp rfl
  case name => exact List.all_eq_true.mp rfl
  case unnamed => exact fun hname => by cases hname
  all_goals decide

/-- The brace in the comment is no brace of the fragment. -/
theorem proper_fragment : fragment.Proper := by
  constructor
  case header =>
    exact .mark (by decide) <| .word ['F'] (by decide) (by decide) (by decide) <|
      .mark (by decide) <| .word "on".toList (by decide) (by decide) (by decide) <|
      .mark (by decide) <| .word "users".toList (by decide) (by decide)
        (by decide) <|
      .mark (by decide) .nil
  case body =>
    exact .lineComment ['}'] (by decide) (.mark (by decide) .nil)
  case gap => exact List.all_eq_true.mp rfl
  case name => exact List.all_eq_true.mp rfl
  case unnamed => exact fun hname => by cases hname
  all_goals decide

theorem written : Written parts text.toList := by
  rw [text, String.toList_ofList]
  exact .blockComment (by decide +kernel) <| .blank (by decide) <|
    .clause proper_values <|
    .blank (by decide) <| .clause proper_operation <| .blank (by decide) <|
    .clause proper_fragment .nil

theorem ofText_of_written_users :
    Written parts text.toList ∧ Item.ofText text =
      { comment := "Users\n@order sort: asc"
        vars := "\x7b\"\x7d\"\x7d"
        query := "query users($query: Int) \x7b id \x7d"
        fragments := [⟨"F", "fragment F on users \x7b#\x7d\n\x7d"⟩]
        name := "users"
        operation := some .query
        order := some ⟨"sort", ["asc"]⟩ } := by
  have hvalues : clausesOfKind .vars parts = (some values).toList := by decide
  have hoperation : clausesOfKind .operation parts = [operation] := by decide
  have hkind : operation.kind = .operation .query := rfl
  refine ⟨written, (ofText_of_written written hvalues hoperation hkind).trans ?_⟩
  decide +kernel

end UsersDocument

namespace Unended

/-- A literal that its line cuts off, with a brace in it. -/
def literal : Clause :=
  ⟨.operation .query, [' '], ['a'], [' '], ['{', '"', '}', '\n']⟩

/-- A comment whose line goes on after the body. -/
def comment : Clause := ⟨.operation .query, [' '], ['a'], [' '], ['#', ' ', 'x']⟩

/-- Braces that balance are not enough. A literal need not be closed to hide the
braces in it, and a comment that the body does not end hides the brace behind the
body. -/
theorem query_ne_text :
    (Header 0 literal.header ∧ literal.body.count '"' = 1 ∧
      literal.body.filter (· ∈ ['{', '}', '(', ')', '#', '/']) = ['{', '}'] ∧
      (Item.ofText (String.ofList literal.text)).query ≠
        String.ofList literal.text) ∧
    (Header 0 comment.header ∧ (∀ c ∈ comment.body,
      c ∉ ['{', '}', '(', ')', '"', '/']) ∧
      (Item.ofText (String.ofList comment.text)).query ≠
        String.ofList comment.text) := by
  have hheader : Header 0 [' ', 'a', ' '] :=
    .mark (by decide) <| .word ['a'] (by decide) (by decide) (by decide) <|
      .mark (by decide) .nil
  exact ⟨⟨hheader, by decide, by decide, by decide +kernel⟩,
    ⟨hheader, by simp [comment], by decide +kernel⟩⟩

end Unended

end QueryGate.Document
