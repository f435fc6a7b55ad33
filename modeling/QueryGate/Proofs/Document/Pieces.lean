import Mathlib.Data.List.DropRight
import QueryGate.AllowList
import QueryGate.Proofs.Document.Splitting
import QueryGate.Proofs.Document.Stretches

/-!
What any text is split into.

Nothing is asked of the text: brackets need not balance, and literals and comments
need not end. Its sections are pieces of it, one behind the other, each of which
ends with a closing brace and begins as its kind says. Main statement: the parts of
an item are such pieces, a keyword begins a section exactly where it is free to, and
a text has an operation exactly when a stretch of it closes one.
-/

namespace QueryGate.Text

/-- Where a text does not end with a blank character, trimming takes only those at
its beginning. -/
theorem trim_eq_trimStart {s : List Char}
    (h : ∀ c ∈ s.getLast?, isBlank c = false) : trim s = trimStart s := by
  have hsplit : s.takeWhile isBlank ++ trimStart s = s :=
    List.takeWhile_append_dropWhile
  have hlast : ∀ c ∈ (trimStart s).getLast?, isBlank c = false := by
    intro c hc
    refine h c ?_
    rw [← hsplit, List.getLast?_append, Option.mem_def.mp hc]
    rfl
  have hblank : ∀ c ∈ s.takeWhile isBlank, isBlank c = true :=
    fun c hc => List.mem_takeWhile_imp hc
  have htrim := trim_append_of_edges hblank (stops_dropWhile isBlank s) hlast
  rwa [show s.takeWhile isBlank ++ s.dropWhile isBlank = s from hsplit] at htrim

end QueryGate.Text

namespace QueryGate.Document

open QueryGate.Text

/-- The words that begin a section are those that begin a clause. -/
theorem SectionKind.exists_clauseKind {word : List Char} {kind : SectionKind}
    (h : SectionKind.ofKeyword? word = some kind) :
    ∃ clauseKind : ClauseKind, word = clauseKind.keyword.toList ∧
      clauseKind.sectionKind = kind := by
  rw [SectionKind.ofKeyword?, Operation.ofKeyword?] at h
  split_ifs at h with hvars hfragment hquery hmutation hsubscription
  · cases h
    exact ⟨.vars, hvars, rfl⟩
  · cases h
    exact ⟨.fragment, hfragment, rfl⟩
  · cases h
    exact ⟨.operation .query, hquery, rfl⟩
  · cases h
    exact ⟨.operation .mutation, hmutation, rfl⟩
  · cases h
    exact ⟨.operation .subscription, hsubscription, rfl⟩
  · cases h

namespace Stretch

variable {p : Stretch}

/-- The lexemes before the text of the section. The keyword of the variables is one
of them. -/
def lead (p : Stretch) : List Lexeme :=
  if p.kind = .vars then p.before ++ [p.opening] else p.before

/-- The text of the section. -/
def text (p : Stretch) : List Char :=
  p.toSection.text

/-- What stands before the text of the section. -/
def front (p : Stretch) : List Char :=
  Lexeme.text p.lead ++ (Lexeme.text p.content).takeWhile isBlank

theorem lead_append_content (p : Stretch) : p.lead ++ p.content = p.upTo := by
  rw [lead, content, upTo]
  split <;> simp

theorem Closes.exists_content (h : p.Closes) :
    ∃ ls, p.content = ls ++ [.closeBrace] := by
  obtain ⟨inner, hinner⟩ := List.getLast?_eq_some_iff.mp h.1
  rw [content, hinner]
  split
  · exact ⟨inner, rfl⟩
  · exact ⟨p.opening :: inner, rfl⟩

/-- What is trimmed from the text of a section that closes stands before it. -/
theorem text_eq_trimStart (h : p.Closes) :
    p.text = trimStart (Lexeme.text p.content) := by
  obtain ⟨ls, hls⟩ := h.exists_content
  refine trim_eq_trimStart ?_
  rw [hls, Lexeme.text_append, Lexeme.text_singleton, Lexeme.chars,
    List.getLast?_concat]
  intro c hc
  cases hc
  decide

theorem front_append_text (h : p.Closes) :
    p.front ++ p.text = Lexeme.text p.upTo := by
  rw [text_eq_trimStart h, front, List.append_assoc, trimStart,
    List.takeWhile_append_dropWhile, ← Lexeme.text_append, lead_append_content]

theorem getLast?_text (h : p.Closes) : p.text.getLast? = some '}' := by
  obtain ⟨ls, hls⟩ := h.exists_content
  have hbrace : trimStart ['}'] = ['}'] := by decide
  rw [text_eq_trimStart h, hls, Lexeme.text_append, Lexeme.text_singleton,
    Lexeme.chars, trimStart, List.dropWhile_append]
  split
  · exact congrArg List.getLast? hbrace
  · exact List.getLast?_concat

theorem text_ne_nil (h : p.Closes) : p.text ≠ [] := by
  intro hnil
  have hlast := getLast?_text h
  rw [hnil] at hlast
  cases hlast

theorem trim_text (h : p.Closes) : trim p.text = p.text := by
  refine trim_append_of_edges (s := p.text) (List.forall_mem_nil _) ?_ ?_
  · rw [text_eq_trimStart h]
    exact stops_dropWhile isBlank _
  · rw [getLast?_text h]
    intro c hc
    cases hc
    decide

theorem trimStart_text (h : p.Closes) : trimStart p.text = p.text := by
  rw [text_eq_trimStart h]
  exact List.dropWhile_idempotent isBlank _

/-- Where a text is left over, what stands before the one behind it begins with
both. -/
theorem upTo_prefix_front {q : Stretch} (h : p.upTo <+: q.before) :
    Lexeme.text p.upTo <+: q.front := by
  have hlead : q.before <+: q.lead := by
    rw [lead]
    split
    · exact List.prefix_append _ _
    · exact List.prefix_refl _
  exact ((h.trans hlead).flatMap Lexeme.chars).trans (List.prefix_append _ _)

/-- A section begins with the keyword of a clause, or with a brace. -/
theorem Begun.cases (h : p.Begun) :
    (∃ clauseKind : ClauseKind, p.opening = .word clauseKind.keyword.toList ∧
      clauseKind.sectionKind = p.kind ∧ Boundary p.before) ∨
      (p.opening = .openBrace ∧ p.kind = .operation) := by
  obtain ⟨kind, before, opening, inner⟩ := p
  cases h.begins with
  | keyword hkeyword hboundary =>
      cases opening with
      | word text =>
          obtain ⟨clauseKind, rfl, hkind⟩ := SectionKind.exists_clauseKind hkeyword
          exact Or.inl ⟨clauseKind, rfl, hkind, hboundary⟩
      | _ => cases hkeyword
  | brace => exact Or.inr ⟨rfl, rfl⟩

/-- The keyword of a section that belongs to its text is the beginning of it. -/
theorem text_of_keyword {clauseKind : ClauseKind} (h : p.Closes)
    (hvars : p.kind ≠ .vars)
    (hopening : p.opening = .word clauseKind.keyword.toList) :
    p.text = clauseKind.keyword.toList ++ Lexeme.text p.inner := by
  have hcontent : Lexeme.text p.content = clauseKind.keyword.toList ++
      Lexeme.text p.inner := by
    rw [content, if_neg hvars, hopening]
    rfl
  rw [text_eq_trimStart h, hcontent]
  exact dropWhile_append_of_stops (s := []) (List.forall_mem_nil _)
    (clauseKind.head_keyword _)

theorem text_of_brace (h : p.Closes) (hvars : p.kind ≠ .vars)
    (hopening : p.opening = .openBrace) : p.text = '{' :: Lexeme.text p.inner := by
  have hcontent : Lexeme.text p.content = '{' :: Lexeme.text p.inner := by
    rw [content, if_neg hvars, hopening]
    rfl
  rw [text_eq_trimStart h, hcontent]
  exact dropWhile_append_of_stops (s := []) (List.forall_mem_nil _) fun c hc => by
    cases hc
    decide

/-- The keyword ends where the lexemes behind it begin. -/
theorem leadingWord_of_keyword {clauseKind : ClauseKind} {document : List Char}
    (h : p.Closes) (hvars : p.kind ≠ .vars)
    (hopening : p.opening = .word clauseKind.keyword.toList)
    (hwithin : p.upTo <+: lexemes document) :
    leadingWord p.text = clauseKind.keyword.toList := by
  obtain ⟨after, hafter⟩ := hwithin
  rw [upTo, List.append_assoc, hopening] at hafter
  have hhere := lexemes_text_of_append hafter.symm
  have hbehind := (exists_of_lexemes_cons hhere).2.1
  have hends : EndsWord (Lexeme.text (p.inner ++ after)) := by
    refine endsWord_of_lexemes clauseKind.isWord_keyword ?_
    rw [show lexemes (Lexeme.text (p.inner ++ after)) = p.inner ++
      after from hbehind]
    exact hhere
  rw [Lexeme.text_append] at hends
  rw [text_of_keyword h hvars hopening]
  exact takeWhile_append_of_stops clauseKind.isWord_keyword.2 hends.of_append

/-- The text of an operation or a fragment begins with its keyword, or with the
brace of an operation that has none. -/
theorem Closed.begins_text {document : List Char} (h : p.Closed)
    (hvars : p.kind ≠ .vars) (hwithin : p.upTo <+: lexemes document) :
    (p.kind = .operation ∧ p.text.head? = some '{') ∨
      ∃ clauseKind : ClauseKind, clauseKind.sectionKind = p.kind ∧
        leadingWord p.text = clauseKind.keyword.toList := by
  rcases h.toBegun.cases with ⟨clauseKind, hopening, hkind, _⟩ | ⟨hopening, hkind⟩
  · exact Or.inr ⟨clauseKind, hkind,
      leadingWord_of_keyword h.closes hvars hopening hwithin⟩
  · refine Or.inl ⟨hkind, ?_⟩
    rw [text_of_brace h.closes hvars hopening]
    rfl

end Stretch

/-- The sections of a text are read from stretches that close, one behind the
other. -/
theorem exists_stretches (document : List Char) :
    ∃ stretches, sections document = stretches.map Stretch.toSection ∧
      Found (lexemes document) stretches := by
  obtain ⟨stretches, hsections, hfound⟩ := exists_found (lexemes document)
  refine ⟨stretches, ?_, hfound⟩
  rw [sections, Reading.ofText, hsections, List.reverse_reverse]

/-- The last section of a kind is read from the last stretch of it. -/
theorem lastText_map_toSection (kind : SectionKind) (stretches : List Stretch) :
    lastText kind (stretches.map Stretch.toSection) =
      ((stretches.filter (·.kind = kind)).getLast?.map Stretch.text).getD [] := by
  rw [lastText, List.filter_map, List.getLast?_map, Option.map_map]
  rfl

/-- The name of a fragment is the word behind its keyword. -/
theorem definedName_of_fragment {text : List Char}
    (htrimmed : trimStart text = text)
    (hkeyword : leadingWord text = "fragment".toList) :
    definedName text = leadingWord (trimStart (text.drop "fragment".length)) := by
  have hrest : afterLeadingWord text = text.drop "fragment".length := by
    conv_rhs => rw [← leadingWord_append_afterLeadingWord text, hkeyword]
    exact (List.drop_left ..).symm
  rw [definedName, htrimmed, hkeyword, hrest]
  rfl

/-- An item is put together from sections of a text: pieces of the text that end
with a closing brace, one behind the other. The variables and the query are the last
ones of their kinds, and the fragments are all of theirs, each under the word behind
its keyword. -/
structure Item.CutFrom (item : Item) (document : List Char)
    (stretches : List Stretch) : Prop where
  closed : ∀ p ∈ stretches, p.Closed ∧ p.upTo <+: lexemes document
  within : ∀ p ∈ stretches, p.front ++ p.text <+: document
  apart : stretches.Pairwise fun p q => p.front ++ p.text <+: q.front
  ends : ∀ p ∈ stretches, p.text.getLast? = some '}'
  trimmed : ∀ p ∈ stretches, trim p.text = p.text
  operation : ∀ p ∈ stretches, p.kind = .operation →
    p.text.head? = some '{' ∨
      ∃ operation : Operation, leadingWord p.text = operation.keyword.toList
  fragment : ∀ p ∈ stretches, p.kind = .fragment →
    leadingWord p.text = "fragment".toList
  vars : item.vars.toList =
    ((stretches.filter (·.kind = .vars)).getLast?.map Stretch.text).getD []
  query : item.query.toList =
    ((stretches.filter (·.kind = .operation)).getLast?.map Stretch.text).getD []
  fragments : item.fragments = (stretches.filter (·.kind = .fragment)).map fun p =>
    ⟨.ofList (leadingWord (trimStart (p.text.drop "fragment".length))),
      .ofList p.text⟩

theorem exists_cutFrom (document : String) :
    ∃ stretches, (Item.ofText document).CutFrom document.toList stretches := by
  obtain ⟨stretches, hsections, hfound⟩ := exists_stretches document.toList
  have hpiece : ∀ p ∈ stretches, p.front ++ p.text = Lexeme.text p.upTo :=
    fun p hp => Stretch.front_append_text (hfound.closed p hp).closes
  have hkeyword : ∀ p ∈ stretches, p.kind = .fragment →
      leadingWord p.text = "fragment".toList := by
    intro p hp hkind
    rcases (hfound.closed p hp).begins_text (by simp [hkind])
      (hfound.within p hp) with
      ⟨hother, _⟩ | ⟨clauseKind, hsame, hword⟩
    · rw [hkind] at hother
      cases hother
    · rw [hkind] at hsame
      cases clauseKind with
      | fragment => exact hword
      | _ => cases hsame
  refine ⟨stretches, ?_⟩
  constructor
  case closed => exact fun p hp => ⟨hfound.closed p hp, hfound.within p hp⟩
  case within =>
    intro p hp
    rw [hpiece p hp, ← text_lexemes document.toList]
    exact (hfound.within p hp).flatMap Lexeme.chars
  case apart =>
    refine hfound.apart.imp_of_mem fun {p q} hp _ hpq => ?_
    rw [hpiece p hp]
    exact Stretch.upTo_prefix_front hpq
  case ends => exact fun p hp => Stretch.getLast?_text (hfound.closed p hp).closes
  case trimmed => exact fun p hp => Stretch.trim_text (hfound.closed p hp).closes
  case operation =>
    intro p hp hkind
    rcases (hfound.closed p hp).begins_text (by simp [hkind])
      (hfound.within p hp) with
      ⟨_, hbrace⟩ | ⟨clauseKind, hsame, hword⟩
    · exact Or.inl hbrace
    · rw [hkind] at hsame
      cases clauseKind with
      | operation operation => exact Or.inr ⟨operation, hword⟩
      | _ => cases hsame
  case fragment => exact hkeyword
  case vars =>
    rw [Item.ofText, hsections, Item.ofSections, String.toList_ofList,
      lastText_map_toSection]
  case query =>
    rw [Item.ofText, hsections, Item.ofSections, String.toList_ofList,
      lastText_map_toSection]
  case fragments =>
    rw [Item.ofText, hsections, Item.ofSections, List.filter_map, List.map_map]
    refine List.map_congr_left fun p hp => ?_
    obtain ⟨hmem, hkind⟩ := List.mem_filter.mp hp
    have hname :=
      definedName_of_fragment (Stretch.trimStart_text (hfound.closed p hmem).closes)
      (hkeyword p hmem (of_decide_eq_true hkind))
    rw [← hname]
    rfl

/-- A keyword is free to begin a section behind lexemes: no brace and no parenthesis
is open, and neither a character of a word nor a sigil stands before it. -/
structure Free (before : List Lexeme) : Prop where
  braces : openBraces before = 0
  parens : openParens before = 0
  char : ∀ c ∈ (Lexeme.text before).getLast?, isWordChar c = false ∧
    c ≠ '$' ∧ c ≠ '@'

theorem boundary_iff_free {document : List Char} {before after : List Lexeme}
    {l : Lexeme} (h : lexemes document = before ++ l :: after)
    (hkeyword : l.keyword? ≠ none) : Boundary before ↔ Free before := by
  cases l with
  | word text =>
      have hsigil := isSigil_iff_of_lexemes h
      exact ⟨fun hb => ⟨hb.braces, hb.parens, hsigil.mp hb.sigil⟩,
        fun hf => ⟨hf.braces, hf.parens, hsigil.mpr hf.char⟩⟩
  | _ => exact absurd rfl hkeyword

/-- In reading a text, a section begins with each keyword that is free to begin one,
and with a brace where no section is read. Every other lexeme is added to the
section that is read. -/
structure Delimited (document : List Char) : Prop where
  begins : ∀ {before after : List Lexeme} {l : Lexeme} {kind : SectionKind},
    lexemes document = before ++ l :: after → l.keyword? = some kind → Free before →
      (Reading.run {} before).step l = (Reading.run {} before).beginSection kind l
  stays : ∀ {before after : List Lexeme} {l : Lexeme},
    lexemes document = before ++ l :: after → (l.keyword? ≠ none → ¬ Free before) →
      (l = .openBrace → (Reading.run {} before).current ≠ none) →
        ((Reading.run {} before).step l).finished =
          (Reading.run {} before).finished ∧
          ((Reading.run {} before).step l).current =
            (Reading.run {} before).current.map
              (·.take l (openBraces (before ++ [l])))

theorem delimited (document : List Char) : Delimited document := by
  constructor
  case begins =>
    intro before after l kind hdocument hkeyword hfree
    have hboundary := (boundary_iff_free hdocument (by simp [hkeyword])).mpr hfree
    rw [Reading.step_keyword hkeyword,
      if_pos ((Reading.atTopLevel_run before).mpr hboundary)]
  case stays =>
    intro before after l hdocument hfree hbrace
    have hstep := Reading.run_silent (fun hkeyword hboundary =>
      hfree hkeyword ((boundary_iff_free hdocument hkeyword).mp hboundary)) hbrace
    rwa [Reading.run_concat] at hstep

/-- An operation closes in a text. -/
def HasOperation (document : String) : Prop :=
  ∃ p : Stretch, p.kind = .operation ∧ p.Closed ∧ p.upTo <+: lexemes document.toList

theorem hasOperation_iff (document : String) :
    HasOperation document ↔ .operation ∈ (sections document.toList).map
      Section.kind := by
  rw [sections, List.map_reverse, List.mem_reverse]
  exact mem_kinds_iff.symm

instance : DecidablePred HasOperation :=
  fun document => decidable_of_iff _ (hasOperation_iff document).symm

example : HasOperation "\x7d) query a \x7b\"\x7d\n\x7d" := by decide +kernel

theorem exists_of_lastText {kind : SectionKind} {ss : List Section}
    (h : lastText kind ss ≠ []) :
    ∃ s ∈ ss, s.kind = kind ∧ s.text = lastText kind ss := by
  rw [lastText] at h ⊢
  cases hlast : (ss.filter (·.kind = kind)).getLast? with
  | none =>
      rw [hlast] at h
      exact absurd rfl h
  | some s =>
      obtain ⟨hs, hkind⟩ := List.mem_filter.mp (List.mem_of_getLast? hlast)
      exact ⟨s, hs, of_decide_eq_true hkind, rfl⟩

theorem text_ne_nil_of_mem {document : List Char} {s : Section}
    (h : s ∈ sections document) : s.text ≠ [] := by
  obtain ⟨stretches, hsections, hfound⟩ := exists_stretches document
  rw [hsections] at h
  obtain ⟨p, hp, rfl⟩ := List.mem_map.mp h
  exact Stretch.text_ne_nil (hfound.closed p hp).closes

/-- The last section of a kind has a text exactly if there is one. -/
theorem lastText_ne_nil_iff {document : List Char} {kind : SectionKind} :
    lastText kind (sections document) ≠ [] ↔
    kind ∈ (sections document).map Section.kind := by
  constructor
  · intro h
    obtain ⟨s, hs, hkind, _⟩ := exists_of_lastText h
    exact List.mem_map.mpr ⟨s, hs, hkind⟩
  · intro h
    obtain ⟨s, hs, hkind⟩ := List.mem_map.mp h
    have hmem : s ∈ (sections document).filter (·.kind = kind) :=
      List.mem_filter.mpr ⟨hs, decide_eq_true hkind⟩
    have hlast := List.getLast?_eq_some_getLast (List.ne_nil_of_mem hmem)
    rw [lastText, hlast]
    exact text_ne_nil_of_mem (List.mem_filter.mp (List.mem_of_getLast? hlast)).1

/-- The kind of an operation that closes can be told from its text. -/
theorem Stretch.Closed.isSome_detect {p : Stretch} {document : List Char}
    (h : p.Closed) (hkind : p.kind = .operation)
    (hwithin : p.upTo <+: lexemes document) :
    (Operation.detect p.text).isSome = true := by
  rw [Operation.detect, Stretch.trimStart_text h.closes]
  split
  · rfl
  · next hbraceless =>
      rcases h.begins_text (by simp [hkind]) hwithin with ⟨_, hbrace⟩
        | ⟨clauseKind, hsame, hword⟩
      · obtain ⟨rest, hrest⟩ := List.head?_eq_some_iff.mp hbrace
        exact (hbraceless rest hrest).elim
      · rw [hkind] at hsame
        cases clauseKind with
        | operation operation =>
            rw [hword]
            exact Option.isSome_iff_exists.mpr
              ⟨operation, Operation.ofKeyword?_keyword operation⟩
        | _ => cases hsame

/-- An operation is reported exactly if there is a query. -/
theorem isSome_operation_iff (document : String) :
    (Item.ofText document).operation.isSome = true ↔
    (Item.ofText document).query ≠ "" := by
  show
    (Operation.detect (lastText .operation (sections document.toList))).isSome =
      true ↔
    String.ofList (lastText .operation (sections document.toList)) ≠ ""
  rw [ne_eq, String.ofList_eq_empty_iff]
  constructor
  · intro h hnil
    rw [hnil] at h
    cases h
  · intro h
    obtain ⟨stretches, hsections, hfound⟩ := exists_stretches document.toList
    obtain ⟨s, hs, hkind, htext⟩ := exists_of_lastText h
    rw [hsections] at hs
    obtain ⟨p, hp, rfl⟩ := List.mem_map.mp hs
    rw [← htext]
    exact (hfound.closed p hp).isSome_detect hkind (hfound.within p hp)

theorem isSome_operation_iff_hasOperation (document : String) :
    (Item.ofText document).operation.isSome = true ↔ HasOperation document := by
  rw [isSome_operation_iff, hasOperation_iff, ← lastText_ne_nil_iff, ne_eq, ne_eq,
    ← String.ofList_eq_empty_iff]
  rfl

/-- A blank text has no operation. -/
theorem HasOperation.not_blank {document : String} (h : HasOperation document) :
    isBlankText document = false := by
  obtain ⟨p, _, hclosed, hwithin⟩ := h
  have hbrace : '}' ∈ document.toList := by
    rw [← text_lexemes document.toList]
    refine (hwithin.flatMap Lexeme.chars).subset ?_
    show '}' ∈ Lexeme.text p.upTo
    rw [← Stretch.front_append_text hclosed.closes]
    exact List.mem_append_right _ (List.mem_of_getLast?
      (Stretch.getLast?_text hclosed.closes))
  rw [isBlankText, List.all_eq_false]
  exact ⟨'}', hbrace, by decide⟩

end Document

namespace AllowList

open Document

/-- The records with an operation are kept, in order. -/
theorem entries_ofRecords (records : List AllowRecord) :
    (ofRecords records).entries.map (fun entry => (entry.service, entry.text)) =
      (records.filter (HasOperation ·.query)).map fun record =>
        (record.service, record.query) := by
  have hentry : ∀ record : AllowRecord,
      record.entry?.map (fun entry => (entry.service, entry.text)) =
        if HasOperation record.query then some (record.service, record.query)
        else none := by
    intro record
    split
    · next h =>
        obtain ⟨operation, hoperation⟩ := Option.isSome_iff_exists.mp
          ((isSome_operation_iff_hasOperation record.query).mpr h)
        simp [AllowRecord.entry?, h.not_blank, hoperation]
    · next h =>
        rw [← isSome_operation_iff_hasOperation, Option.not_isSome_iff_eq_none] at h
        simp [AllowRecord.entry?, h]
  rw [ofRecords, List.map_filterMap, ← List.filterMap_eq_map, List.filterMap_filter]
  simp [hentry]

end AllowList

namespace Document

/-- Whatever a text is: the variables, the query and the fragments that are found in
it are pieces of it which end with a closing brace, begin as they should and lie
apart, the fragments in their order; a section begins only with a keyword outside of
literals, comments and brackets, or with a brace where there is none yet; and there
is an operation exactly if there is a query, that is if an operation closes in the
text, and the records are kept for which this is so. -/
theorem pieces_of_any_text :
    (∀ document : String,
      (∃ stretches, (Item.ofText document).CutFrom document.toList stretches) ∧
        Delimited document.toList ∧
        ((Item.ofText document).operation.isSome = true ↔
          (Item.ofText document).query ≠ "") ∧
        ((Item.ofText document).operation.isSome = true ↔ HasOperation document)) ∧
      ∀ records : List AllowRecord,
        (AllowList.ofRecords records).entries.map
            (fun entry => (entry.service, entry.text)) =
          (records.filter (HasOperation ·.query)).map fun record =>
            (record.service, record.query) :=
  ⟨fun document => ⟨exists_cutFrom document, delimited document.toList,
      isSome_operation_iff document, isSome_operation_iff_hasOperation document⟩,
    AllowList.entries_ofRecords⟩

end Document

end QueryGate
