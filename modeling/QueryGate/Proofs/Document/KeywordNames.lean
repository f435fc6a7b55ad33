import QueryGate.Proofs.Document.Extracted
import QueryGate.Proofs.Document.Respacing
import QueryGate.Proofs.Document.SelectionSets

/-!
Names that spell a keyword.

A keyword begins a section wherever no bracket is open, and that is so in a header
too, where names and types stand. So an operation and a fragment are found under any
name and on any type that spells no keyword, and under a name that does, neither is
found. Main statement: both directions, for an operation and a fragment that share a
name.
-/

namespace QueryGate.Document

open QueryGate.Text

/-- A word that begins a section. -/
def IsKeyword (word : List Char) : Prop :=
  ∃ keyword ∈ keywords, word = keyword.toList

instance (word : List Char) : Decidable (IsKeyword word) :=
  inferInstanceAs (Decidable (∃ keyword ∈ keywords, word = keyword.toList))

theorem not_isKeyword_iff {word : List Char} :
    ¬ IsKeyword word ↔ ∀ keyword ∈ keywords, word ≠ keyword.toList := by
  simp [IsKeyword]

theorem not_isKeyword_of_keyword? {word : List Char}
    (h : (Lexeme.word word).keyword? = none) : ¬ IsKeyword word := by
  rintro ⟨keyword, hkeyword, rfl⟩
  have hall : ∀ keyword ∈ keywords, SectionKind.ofKeyword? keyword.toList ≠
    none := by decide
  exact hall keyword hkeyword h

/-- Blank characters are marks. -/
theorem lexemes_gap {gap : List Char} (hgap : ∀ c ∈ gap, isBlank c = true)
    (rest : List Char) : lexemes (gap ++ rest) = gap.map .mark ++ lexemes rest := by
  induction gap with
  | nil => rfl
  | cons c gap ih =>
      obtain ⟨hblank, hgap⟩ := List.forall_mem_cons.mp hgap
      rw [List.cons_append, lexemes_mark (isMark_of_isBlank hblank _), ih hgap]
      rfl

/-- A section that begins with a word has no keyword at a boundary behind it. -/
theorem keyword?_eq_none_of_mem {document word : List Char} {s : Section}
    {front rest : List Lexeme} {l : Lexeme} (hs : s ∈ sections document)
    (hvars : s.kind ≠ .vars)
    (hlexemes : lexemes s.text = .word word :: (front ++ l :: rest))
    (hboundary : Boundary (.word word :: front)) : l.keyword? = none := by
  obtain ⟨stretches, hsections, hfound⟩ := exists_stretches document
  rw [hsections] at hs
  obtain ⟨p, hp, rfl⟩ := List.mem_map.mp hs
  have hclosed := hfound.closed p hp
  rcases hclosed.toBegun.cases with ⟨clauseKind, hopening, hkind, hbefore⟩
    | ⟨hopening, hkind⟩
  · have hkeyword : p.opening.keyword? = some p.kind := by
      rw [hopening, ← hkind]
      exact clauseKind.ofKeyword?_keyword
    have hinner : .word word :: (front ++ l :: rest) = p.opening :: p.inner :=
      hlexemes.symm.trans (Stretch.lexemes_text hclosed.closes hvars hopening
        (hfound.within p hp))
    obtain ⟨hword, hinner⟩ := List.cons.inj hinner
    by_contra hl
    have hsilent := (hclosed.alone hkeyword hbefore).silent front l
      ⟨rest, by rw [List.append_assoc]; exact hinner⟩ hl
    exact hsilent (hword ▸ hboundary)
  · have htext : p.toSection.text = '{' :: Lexeme.text p.inner :=
      Stretch.text_of_brace hclosed.closes hvars hopening
    rw [htext, lexemes_openBrace] at hlexemes
    cases hlexemes

/-- An operation and a fragment definition that share a name, with a gap between the
words of their headers and a space between the two. -/
structure Namesakes where
  operation : Operation
  name : List Char
  type : List Char
  body : List Char
  fields : List Char
  gap : List Char
  space : List Char
  isWord_name : IsWord name
  isWord_type : IsWord type
  balanced_body : Balanced 0 0 body
  balanced_fields : Balanced 0 0 fields
  gap_ne_nil : gap ≠ []
  gap_blank : ∀ c ∈ gap, isBlank c = true
  space_blank : ∀ c ∈ space, isBlank c = true

namespace Namesakes

variable (pair : Namesakes)

def operationClause : Clause :=
  ⟨.operation pair.operation, pair.gap, pair.name, pair.gap, pair.body⟩

def fragmentClause : Clause :=
  ⟨.fragment, pair.gap, pair.name,
    pair.gap ++ ("on".toList ++ (pair.gap ++ (pair.type ++ pair.gap))),
    pair.fields⟩

def text : List Char :=
  pair.operationClause.text ++ (pair.space ++ pair.fragmentClause.text)

theorem endsWord_gap (rest : List Char) : EndsWord (pair.gap ++ rest) := by
  obtain ⟨c, gap, hgap⟩ := List.exists_cons_of_ne_nil pair.gap_ne_nil
  rw [hgap]
  intro d hd
  cases hd
  exact isWordChar_of_isBlank (pair.gap_blank c (hgap ▸ List.mem_cons_self))

theorem header_gap {rest : List Char} (h : Header 0 rest) :
    Header 0 (pair.gap ++ rest) :=
  spacious_header.of_gap pair.gap_blank h

/-- A word and a gap are a header where the word is no keyword. -/
theorem header_word {word rest : List Char} (hword : IsWord word)
    (hkeyword : ¬ IsKeyword word) (h : Header 0 rest) :
    Header 0 (word ++ (pair.gap ++ rest)) :=
  .word word hword (pair.endsWord_gap rest) (fun _ => not_isKeyword_iff.mp hkeyword)
    (pair.header_gap h)

theorem isWord_on : IsWord "on".toList := by decide

theorem proper_operation (hname : ¬ IsKeyword pair.name) :
    pair.operationClause.Proper where
  gap := pair.gap_blank
  name := pair.isWord_name.2
  apart := fun hgap => absurd hgap pair.gap_ne_nil
  ends := by simpa [operationClause] using pair.endsWord_gap []
  unnamed := fun hnil => absurd hnil pair.isWord_name.1
  vars := fun hkind => by cases hkind
  header := by
    have hheader := pair.header_gap (pair.header_word pair.isWord_name hname .nil)
    simpa [operationClause, Clause.header] using hheader
  body := pair.balanced_body

theorem proper_fragment (hname : ¬ IsKeyword pair.name)
    (htype : ¬ IsKeyword pair.type) : pair.fragmentClause.Proper where
  gap := pair.gap_blank
  name := pair.isWord_name.2
  apart := fun hgap => absurd hgap pair.gap_ne_nil
  ends := pair.endsWord_gap _
  unnamed := fun hnil => absurd hnil pair.isWord_name.1
  vars := fun hkind => by cases hkind
  header := by
    have hheader := pair.header_gap (pair.header_word pair.isWord_name hname
      (pair.header_word isWord_on (by decide)
        (pair.header_word pair.isWord_type htype .nil)))
    simpa [fragmentClause, Clause.header] using hheader
  body := pair.balanced_fields

/-- Where neither the name nor the type is a keyword, the document is written with
its two clauses. -/
theorem written (hname : ¬ IsKeyword pair.name) (htype : ¬ IsKeyword pair.type) :
    Written [.clause pair.operationClause, .clause pair.fragmentClause]
      pair.text := by
  have hfragment : Written [.clause pair.fragmentClause]
      pair.fragmentClause.text := by
    simpa using Written.clause (pair.proper_fragment hname htype) .nil
  exact .clause (pair.proper_operation hname)
    (spacious_written.of_gap pair.space_blank hfragment)

/-- The lexemes of a word and the gap behind it. -/
theorem lexemes_word_gap {word : List Char} (hword : IsWord word)
    (rest : List Char) :
    lexemes (word ++ (pair.gap ++ rest)) =
      .word word :: (pair.gap.map .mark ++ lexemes rest) := by
  rw [lexemes_word hword (pair.endsWord_gap rest), lexemes_gap pair.gap_blank]

/-- Behind a gap there is a boundary, where no bracket was opened before it. -/
theorem boundary_gap (ls : List Lexeme) (hbrace : .openBrace ∉ ls)
    (hparen : .openParen ∉ ls) : Boundary (ls ++ pair.gap.map .mark) := by
  refine ⟨openBrackets_of_notMem (by simpa using hbrace),
    openBrackets_of_notMem (by simpa using hparen), ?_⟩
  obtain ⟨gap, c, hgap⟩ := (pair.gap.eq_nil_or_concat).resolve_left pair.gap_ne_nil
  have hblank : isBlank c = true := pair.gap_blank c (by simp [hgap])
  rw [hgap, List.concat_eq_append, List.map_append, ← List.append_assoc,
    List.map_singleton, List.getLast?_concat]
  rintro l hl
  obtain rfl := Option.some.inj hl
  rw [Lexeme.isSigil, Bool.or_eq_false_iff, beq_eq_false_iff_ne,
    beq_eq_false_iff_ne]
  constructor <;>
    · rintro rfl
      exact absurd hblank (by decide)

/-- An operation is found with its whole header only if its name is no keyword. -/
theorem not_isKeyword_of_operation {s : Section} {document : List Char}
    (hs : s ∈ sections document) (hkind : s.kind = .operation)
    (htext : s.text = pair.operationClause.text) : ¬ IsKeyword pair.name := by
  have hword : IsWord pair.operation.keyword.toList :=
    (ClauseKind.operation pair.operation).isWord_keyword
  have hsplit : pair.operationClause.text = pair.operation.keyword.toList ++
      (pair.gap ++ (pair.name ++ (pair.gap ++ pair.operationClause.block))) := by
    simp [operationClause, Clause.text, Clause.header, ClauseKind.keyword]
  have hlexemes : lexemes s.text = .word pair.operation.keyword.toList ::
      (pair.gap.map .mark ++ .word pair.name ::
        (pair.gap.map .mark ++ lexemes pair.operationClause.block)) := by
    rw [htext, hsplit, pair.lexemes_word_gap hword,
      pair.lexemes_word_gap pair.isWord_name]
  exact not_isKeyword_of_keyword?
    (keyword?_eq_none_of_mem hs (by simp [hkind]) hlexemes
      (pair.boundary_gap [.word _] (by simp) (by simp)))

/-- A fragment is found with its whole header only if neither its name nor its type
is a keyword. -/
theorem not_isKeyword_of_fragment {s : Section} {document : List Char}
    (hs : s ∈ sections document) (hkind : s.kind = .fragment)
    (htext : s.text = pair.fragmentClause.text) :
    ¬ IsKeyword pair.name ∧ ¬ IsKeyword pair.type := by
  have hword : IsWord "fragment".toList := ClauseKind.fragment.isWord_keyword
  have hsplit : pair.fragmentClause.text = "fragment".toList ++
    (pair.gap ++ (pair.name ++
      (pair.gap ++ ("on".toList ++ (pair.gap ++ (pair.type ++ (pair.gap ++
        pair.fragmentClause.block))))))) := by
    simp [fragmentClause, Clause.text, Clause.header, ClauseKind.keyword]
  have hlexemes : lexemes s.text = .word "fragment".toList :: (pair.gap.map .mark ++
      .word pair.name :: (pair.gap.map .mark ++
        .word "on".toList :: (pair.gap.map .mark ++
        .word pair.type ::
          (pair.gap.map .mark ++ lexemes pair.fragmentClause.block)))) := by
    rw [htext, hsplit, pair.lexemes_word_gap hword,
      pair.lexemes_word_gap pair.isWord_name, pair.lexemes_word_gap isWord_on,
      pair.lexemes_word_gap pair.isWord_type]
  have hvars : s.kind ≠ .vars := by simp [hkind]
  constructor
  · exact not_isKeyword_of_keyword? (keyword?_eq_none_of_mem hs hvars hlexemes
      (pair.boundary_gap [.word _] (by simp) (by simp)))
  · let front : List Lexeme := pair.gap.map .mark ++ .word pair.name ::
      (pair.gap.map .mark ++ .word "on".toList :: pair.gap.map .mark)
    have htype : lexemes s.text = .word "fragment".toList ::
      (front ++ .word pair.type ::
        (pair.gap.map .mark ++ lexemes pair.fragmentClause.block)) := by
      simpa [front] using hlexemes
    have hboundary : Boundary (.word "fragment".toList :: front) := by
      have hgap :=
        pair.boundary_gap (.word "fragment".toList :: (pair.gap.map .mark ++
          .word pair.name :: (pair.gap.map .mark ++ [.word "on".toList])))
          (by simp) (by simp)
      simpa [front] using hgap
    exact not_isKeyword_of_keyword?
      (keyword?_eq_none_of_mem hs hvars htype hboundary)

/-- What is found of an operation and a fragment that share a name. Where neither
the name nor the type spells a keyword, both are found. Where the name does, neither
is; where the type does, the fragment is not. -/
theorem ofText_namesakes :
    (¬ IsKeyword pair.name → ¬ IsKeyword pair.type →
      Item.ofText (String.ofList pair.text) =
      { comment := ""
        vars := ""
        query := String.ofList pair.operationClause.text
        fragments :=
          [⟨String.ofList pair.name, String.ofList pair.fragmentClause.text⟩]
        name := String.ofList pair.name
        operation := some pair.operation
        order := none }) ∧
      ((Item.ofText (String.ofList pair.text)).query =
        String.ofList pair.operationClause.text →
        ¬ IsKeyword pair.name) ∧
      (⟨String.ofList pair.name, String.ofList pair.fragmentClause.text⟩ ∈
          (Item.ofText (String.ofList pair.text)).fragments →
        ¬ IsKeyword pair.name ∧ ¬ IsKeyword pair.type) := by
  refine ⟨fun hname htype => ?found, fun hquery => ?operation,
    fun hfragment => ?fragment⟩
  case found =>
    have hwritten := pair.written hname htype
    have honly : clausesOfKind .operation [.clause pair.operationClause,
        .clause pair.fragmentClause] = (some pair.operationClause).toList := rfl
    have hoperation : lastText .operation ((clausesOf [.clause pair.operationClause,
        .clause pair.fragmentClause]).map Clause.toSection) =
          pair.operationClause.text :=
      (lastText_sections honly).trans (Clause.toSection_text_of_ne nofun)
    have hproper := pair.proper_operation hname
    rw [ofText_of_between hwritten.between,
      ofSections_eq (lastText_clauses_eq_nil rfl) hoperation
      (fragmentsOf_clauses hwritten.proper), Clause.definedName_text hproper,
      Clause.detect_text hproper rfl]
    rfl
  case operation =>
    have hlast : lastText .operation (sections (String.ofList pair.text).toList) =
        pair.operationClause.text := String.ofList_injective hquery
    have hne : pair.operationClause.text ≠ [] := by
      intro hnil
      have hblock := congrArg List.length hnil
      simp [Clause.text, Clause.block] at hblock
    obtain ⟨s, hs, hkind, htext⟩ := exists_of_lastText (hlast ▸ hne)
    exact pair.not_isKeyword_of_operation hs hkind (htext.trans hlast)
  case fragment =>
    obtain ⟨s, hs, hsame⟩ := List.mem_map.mp hfragment
    obtain ⟨hs, hkind⟩ := List.mem_filter.mp hs
    have htext : s.text = pair.fragmentClause.text :=
      String.ofList_injective (congrArg Fragment.value hsame)
    exact pair.not_isKeyword_of_fragment hs (of_decide_eq_true hkind) htext

/-- A subscription and a fragment whose name begins with a keyword. -/
def queries : Namesakes where
  operation := .subscription
  name := "query1".toList
  type := "on".toList
  body := " query ".toList
  fields := "#\x7d\n".toList
  gap := [' ']
  space := []
  isWord_name := by decide
  isWord_type := by decide
  balanced_body :=
    .mark (by decide) <| .word "query".toList (by decide) (by decide) <|
    .mark (by decide) .nil
  balanced_fields := .lineComment ['}'] (by decide) (.mark (by decide) .nil)
  gap_ne_nil := by decide
  gap_blank := List.all_eq_true.mp rfl
  space_blank := List.forall_mem_nil _

theorem ofText_namesakes_queries :
    (Item.ofText (String.ofList queries.text)).query =
        "subscription query1 { query }" ∧
      (Item.ofText (String.ofList queries.text)).name = "query1" ∧
      (Item.ofText (String.ofList queries.text)).fragments =
        [⟨"query1", "fragment query1 on on \x7b#\x7d\n\x7d"⟩] := by
  rw [(ofText_namesakes queries).1 (by decide) (by decide)]
  decide +kernel

/-- An operation and a fragment with the name of a keyword. -/
def keywordNamed : Namesakes :=
  { queries with name := "query".toList, isWord_name := by decide }

/-- With such a name neither the operation nor the fragment is found, and the name
is another one. -/
theorem query_ne_operation_text :
    (Item.ofText (String.ofList keywordNamed.text)).query ≠
        String.ofList keywordNamed.operationClause.text ∧
      (Item.ofText (String.ofList keywordNamed.text)).name ≠
        String.ofList keywordNamed.name ∧
      (Item.ofText (String.ofList keywordNamed.text)).operation ≠
        some keywordNamed.operation ∧
      (Item.ofText (String.ofList keywordNamed.text)).fragments = [] := by
  decide +kernel

end Namesakes

end QueryGate.Document
