import QueryGate.Proofs.Document.RoundTrip

/-!
Selection sets that stand alone.

A section goes on to the last brace that closes at the top level before the next
keyword, as a brace may close in its header too. So a selection set without a
keyword begins an operation only where no section comes before it. Behind a section
it is the last part of it. Main statement: what the item of a document is where a
selection set stands before the other sections, behind the variables, or behind
fragments.
-/

namespace QueryGate.Document

open QueryGate.Text

/-- A body in its braces. -/
def braced (body : List Char) : List Char :=
  '{' :: body ++ ['}']

/-- Blank characters before a text that ends with a brace are all that trimming
takes. -/
theorem trim_append_braced (gap s : List Char) (hgap : ∀ c ∈ gap, isBlank c = true)
    (hfirst : ∀ c ∈ s.head?, isBlank c = false) (body : List Char) :
    trim (gap ++ (s ++ braced body)) = s ++ braced body := by
  refine trim_append_of_edges hgap ?_ ?_
  · intro c hc
    rw [List.head?_append] at hc
    cases hs : s.head? with
    | none =>
        rw [hs] at hc
        cases hc
        decide
    | some d =>
        rw [hs] at hc
        exact hfirst c (hs ▸ hc)
  · intro c hc
    rw [braced, ← List.append_assoc, List.getLast?_concat] at hc
    cases hc
    decide

section Reading

variable {comments : List (List Char)} {done : List Section} {r : Reading}

/-- Blank characters belong to the section that is open. -/
theorem Reading.Inside.gap {finished : List Section} {kind : SectionKind}
    {soFar gap : List Char} {braces parens : Nat}
    (hr : r.Inside comments finished kind soFar braces parens)
    (hgap : ∀ c ∈ gap, isBlank c = true) (after : List Char) :
    ∃ r', Reads r gap after r' ∧ r'.Inside comments finished kind (soFar ++ gap)
      braces parens := by
  induction gap generalizing r soFar with
  | nil =>
      rw [List.append_nil]
      exact ⟨r, rfl, hr⟩
  | cons c gap ih =>
      obtain ⟨hblank, hgap⟩ := List.forall_mem_cons.mp hgap
      exact Reads.append [c] (lexemes_mark (isMark_of_isBlank hblank _))
        (ih (hr.mark c) hgap)

/-- Blank characters begin no section. -/
theorem Reading.Between.gap {gap : List Char} (hr : r.Between comments done)
    (hgap : ∀ c ∈ gap, isBlank c = true) (after : List Char) :
    ∃ r', Reads r gap after r' ∧ r'.Between comments done ∧
      (r.current = none → r'.current = none) := by
  induction gap generalizing r with
  | nil => exact ⟨r, rfl, hr, id⟩
  | cons c gap ih =>
      obtain ⟨hblank, hgap⟩ := List.forall_mem_cons.mp hgap
      obtain ⟨r', hreads, hbetween, hnone⟩ := ih (hr.blank hblank) hgap
      refine ⟨r', ?_, hbetween, fun hcurrent => hnone ?_⟩
      · rw [Reads, List.cons_append, lexemes_mark (isMark_of_isBlank hblank _)]
        exact hreads
      · show r.current.map (·.push (.mark c)) = none
        rw [hcurrent]
        rfl

/-- Where no section is open, a brace begins an operation. -/
theorem Reading.Between.openBrace (hr : r.Between comments done)
    (hcurrent : r.current = none) :
    (r.step .openBrace).Inside comments.reverse done.reverse .operation
      ['{'] 1 0 := by
  have hstep : r.step .openBrace =
      { r with current := some (.start .operation [.openBrace]), depth := 1,
               afterSigil := false } := by
    simp [step, hr.depth, hcurrent]
  have hfinished := hr.finished
  rw [endSection, hcurrent] at hfinished
  rw [hstep]
  exact ⟨hr.comments, hfinished, ⟨_, rfl, rfl, rfl⟩, rfl, hr.parens⟩

/-- A selection set where no section is open is an operation. -/
theorem Reading.Between.selectionSet {set : List Char}
    (hr : r.Between comments done) (hcurrent : r.current = none)
    (hset : Balanced 0 0 set) (after : List Char) :
    ∃ r', Reads r (braced set) after r' ∧
      r'.Between comments (done ++ [⟨.operation, braced set⟩]) := by
  obtain ⟨r₁, hbody, hr₁⟩ := hset.reads after (hr.openBrace hcurrent)
  have htrim : trim (['{'] ++ set ++ ['}']) = braced set :=
    trim_append_braced [] [] (List.forall_mem_nil _) (fun c hc => by cases hc) set
  have hsplit : braced set ++ after =
    '{' :: (set ++ '}' :: after) := by simp [braced]
  refine ⟨r₁.step .closeBrace, ?_, htrim ▸ hr₁.close⟩
  rw [Reads, hsplit, lexemes_openBrace, Reading.run_cons, hbody, lexemes_closeBrace,
    Reading.run_cons]

/-- A selection set behind a clause is a part of its section. -/
theorem Clause.reads_selectionSet {clause : Clause} {gap set : List Char}
    (h : clause.Proper) (hgap : ∀ c ∈ gap, isBlank c = true)
    (hset : Balanced 0 0 set) (after : List Char) (hr : r.Between comments done) :
    ∃ r', Reads r (clause.text ++ (gap ++ braced set)) after r' ∧
      r'.Between comments (done ++
        [⟨clause.kind.sectionKind,
          clause.toSection.text ++ (gap ++ braced set)⟩]) := by
  obtain ⟨r₁, hclause, hinside, _⟩ :=
    Clause.reads_open h (gap ++ braced set ++ after) hr
  obtain ⟨r₂, hspace, hinside⟩ := hinside.gap hgap (braced set ++ after)
  obtain ⟨r₃, hblock, _, hbetween⟩ := hset.reads_block after hinside
  refine ⟨r₃, ?_, ?_⟩
  · rw [Reads, List.append_assoc, hclause, List.append_assoc, hspace]
    exact hblock
  · have htext : trim ((if clause.kind = .vars then []
      else clause.kind.keyword.toList) ++
        clause.header ++ clause.block ++ gap ++ braced set) =
        clause.toSection.text ++ (gap ++ braced set) := by
      rw [toSection]
      split
      · next hvars =>
          obtain ⟨hname, hrest⟩ := h.vars hvars
          rw [header, hname, hrest]
          simpa using trim_append_braced clause.gap (clause.block ++ gap) h.gap
            (fun c hc => by cases hc; decide) set
      · simpa [Clause.text] using trim_append_braced [] (clause.text ++ gap)
          (List.forall_mem_nil _) (by
            rw [text_eq_append, List.append_assoc]
            exact clause.kind.head_keyword _) set
    exact htext ▸ hbetween

/-- Reading clauses with blank characters between them adds their sections, whatever
follows. -/
theorem Written.reads_clauses {parts : List Part} {s : List Char}
    (h : Written parts s) (hclauses : commentsOf parts = []) (after : List Char)
    (hr : r.Between comments done) :
    ∃ r', Reads r s after r' ∧
      r'.Between comments (done ++ (clausesOf parts).map Clause.toSection) := by
  induction h generalizing r done with
  | nil => exact ⟨r, rfl, by simpa [clausesOf] using hr⟩
  | blank hblank h ih =>
      obtain ⟨r', hreads, hbetween⟩ := ih hclauses (hr.blank hblank)
      refine ⟨r', ?_, hbetween⟩
      rw [Reads, List.cons_append, lexemes_mark (isMark_of_isBlank hblank _)]
      exact hreads
  | lineComment => cases hclauses
  | blockComment => cases hclauses
  | @clause parts clause rest hclause h ih =>
      obtain ⟨r₁, hfirst, hr₁⟩ := Clause.reads hclause (rest ++ after) hr
      obtain ⟨r₂, hreads, hbetween⟩ := ih hclauses hr₁
      rw [List.append_assoc] at hbetween
      refine ⟨r₂, ?_, hbetween⟩
      rw [Reads, List.append_assoc, hfirst]
      exact hreads

end Reading

section Documents

variable {before after : List Part} {front gap set rest : List Char}
  {clause : Clause}

/-- A selection set before all other sections is an operation. -/
theorem between_selectionSet_first (hgap : ∀ c ∈ gap, isBlank c = true)
    (hset : Balanced 0 0 set) (hrest : Written after rest) :
    (Reading.run {} (lexemes (gap ++ (braced set ++ rest)))).Between
      ((commentsOf after).map trim)
      (⟨.operation, braced set⟩ :: (clausesOf after).map Clause.toSection) := by
  have hstart : Reading.Between {} [] [] := ⟨rfl, rfl, rfl, rfl, rfl⟩
  obtain ⟨r₁, hspace, hr₁, hnone⟩ := hstart.gap hgap (braced set ++ rest)
  obtain ⟨r₂, hreads, hr₂⟩ := hr₁.selectionSet (hnone rfl) hset rest
  rw [hspace, hreads]
  exact hrest.run hr₂

/-- A selection set behind a clause is a part of its section. -/
theorem between_selectionSet_behind (hfront : Written before front)
    (hbefore : commentsOf before = []) (hclause : clause.Proper)
    (hgap : ∀ c ∈ gap, isBlank c = true) (hset : Balanced 0 0 set)
    (hrest : Written after rest) :
    (Reading.run {} (lexemes (front ++
      (clause.text ++ (gap ++ braced set) ++ rest)))).Between
      ((commentsOf after).map trim)
      ((clausesOf before).map Clause.toSection ++
        ⟨clause.kind.sectionKind, clause.toSection.text ++ (gap ++ braced set)⟩ ::
          (clausesOf after).map Clause.toSection) := by
  have hstart : Reading.Between {} [] [] := ⟨rfl, rfl, rfl, rfl, rfl⟩
  obtain ⟨r₁, hfirst, hr₁⟩ := hfront.reads_clauses hbefore
    (clause.text ++ (gap ++ braced set) ++ rest) hstart
  obtain ⟨r₂, hreads, hr₂⟩ := Clause.reads_selectionSet hclause hgap hset rest hr₁
  have hr₃ := hrest.run hr₂
  rw [List.append_assoc] at hr₃
  rw [hfirst, hreads]
  exact hr₃

/-- What has been read of a text gives its item. -/
theorem ofText_of_between {text : List Char} {comments : List (List Char)}
    {ss : List Section} (h : (Reading.run {} (lexemes text)).Between comments ss) :
    Item.ofText (String.ofList text) = Item.ofSections comments ss := by
  have hsections : sections text = ss := by
    rw [sections, Reading.ofText, h.finished, List.reverse_reverse]
  have hcomments : topComments text = comments := by
    show (Reading.run {} (lexemes text)).comments.reverse = _
    rw [h.comments, List.reverse_reverse]
  rw [Item.ofText, String.toList_ofList, hsections, hcomments]

end Documents

section Parts

variable {kind other : SectionKind} {ss others : List Section}

theorem lastText_append (h : ∀ t ∈ others, t.kind ≠ kind) :
    lastText kind (ss ++ others) = lastText kind ss := by
  have hnone : others.filter (·.kind = kind) = [] :=
    List.filter_eq_nil_iff.mpr fun t ht => by simpa using h t ht
  rw [lastText, List.filter_append, hnone, List.append_nil, lastText]

theorem lastText_cons_of_ne (h : other ≠ kind) (text : List Char)
    (ss : List Section) :
    lastText kind (⟨other, text⟩ :: ss) = lastText kind ss := by
  rw [lastText, List.filter_cons_of_neg (by simpa using h), lastText]

theorem lastText_cons (h : ∀ t ∈ ss, t.kind ≠ kind) (text : List Char) :
    lastText kind (⟨kind, text⟩ :: ss) = text := by
  rw [show ⟨kind, text⟩ :: ss = [⟨kind, text⟩] ++ ss from rfl, lastText_append h,
    lastText, List.filter_cons_of_pos (by simp)]
  rfl

end Parts

/-- The fragments among sections. -/
def fragmentsOf (ss : List Section) : List Fragment :=
  (ss.filter (·.kind = .fragment)).map fun s => Fragment.ofText s.text

theorem fragmentsOf_append (ss others : List Section) :
    fragmentsOf (ss ++ others) = fragmentsOf ss ++ fragmentsOf others := by
  rw [fragmentsOf, List.filter_append, List.map_append, fragmentsOf, fragmentsOf]

theorem fragmentsOf_cons_of_ne {kind : SectionKind} (h : kind ≠ .fragment)
    (text : List Char) (ss : List Section) :
    fragmentsOf (⟨kind, text⟩ :: ss) = fragmentsOf ss := by
  rw [fragmentsOf, List.filter_cons_of_neg (by simpa using h), fragmentsOf]

theorem fragmentsOf_cons (text : List Char) (ss : List Section) :
    fragmentsOf (⟨.fragment, text⟩ :: ss) =
      Fragment.ofText text :: fragmentsOf ss := by
  rw [fragmentsOf, List.filter_cons_of_pos (by simp), List.map_cons, fragmentsOf]

/-- The fragment that a clause defines. -/
def Clause.toFragment (clause : Clause) : Fragment :=
  ⟨String.ofList clause.name, String.ofList clause.text⟩

theorem fragmentsOf_clauses {parts : List Part}
    (h : ∀ clause ∈ clausesOf parts, clause.Proper) :
    fragmentsOf ((clausesOf parts).map Clause.toSection) =
      (clausesOfKind .fragment parts).map Clause.toFragment := by
  rw [fragmentsOf, filter_sections, List.map_map]
  refine List.map_congr_left fun clause hclause => ?_
  obtain ⟨hin, hkind⟩ := mem_clausesOfKind.mp hclause
  have htext : clause.toSection.text = clause.text :=
    Clause.toSection_text_of_ne (by rw [hkind]; decide)
  rw [Function.comp_apply, htext, Fragment.ofText,
    Clause.definedName_text (h clause hin), Clause.toFragment]

/-- An item by its parts. -/
theorem ofSections_eq {comments : List (List Char)} {ss : List Section}
    {values query : List Char} {fragments : List Fragment}
    (hvalues : lastText .vars ss = values) (hquery : lastText .operation ss = query)
    (hfragments : fragmentsOf ss = fragments) :
    Item.ofSections comments ss =
      { comment := String.ofList (join ['\n'] comments)
        vars := String.ofList values
        query := String.ofList query
        fragments
        name := String.ofList (definedName query)
        operation := Operation.detect query
        order := Order.ofComment (join ['\n'] comments) } := by
  subst hvalues hquery hfragments
  rfl

/-- Sections of a kind come from clauses of the kind. -/
theorem kind_ne_of_clausesOfKind {parts : List Part} {kind : SectionKind}
    (h : clausesOfKind kind parts = []) :
    ∀ s ∈ (clausesOf parts).map Clause.toSection, s.kind ≠ kind := by
  intro s hs hkind
  obtain ⟨clause, hclause, rfl⟩ := List.mem_map.mp hs
  have hmem : clause ∈ clausesOfKind kind parts :=
    mem_clausesOfKind.mpr ⟨hclause, hkind⟩
  rw [h] at hmem
  cases hmem

theorem lastText_clauses_eq_nil {parts : List Part} {kind : SectionKind}
    (h : clausesOfKind kind parts = []) :
    lastText kind ((clausesOf parts).map Clause.toSection) = [] := by
  have hnone : clausesOfKind kind parts = (none : Option Clause).toList := h
  exact lastText_sections hnone

/-- The variables of a document with at most one block of them. -/
theorem lastText_vars {parts : List Part} {values : Option Clause}
    (h : clausesOfKind .vars parts = values.toList) :
    lastText .vars ((clausesOf parts).map Clause.toSection) =
      (values.map Clause.block).getD [] := by
  rw [lastText_sections h]
  cases values with
  | none => rfl
  | some clause =>
      have hmem : clause ∈ clausesOfKind .vars parts := h ▸ List.mem_cons_self
      exact Clause.toSection_text_of_vars (mem_clausesOfKind.mp hmem).2

/-- Clauses that are all fragments. -/
theorem clausesOfKind_of_fragments {parts : List Part}
    (h : ∀ clause ∈ clausesOf parts, clause.kind = .fragment) (kind : SectionKind) :
    clausesOfKind kind parts = if kind = .fragment
      then clausesOf parts else [] := by
  split
  · next hkind =>
      refine List.filter_eq_self.mpr fun clause hclause => ?_
      rw [h clause hclause, hkind]
      rfl
  · next hkind =>
      refine List.filter_eq_nil_iff.mpr fun clause hclause => ?_
      rw [h clause hclause, decide_eq_true_eq]
      exact Ne.symm hkind

/-- Where a selection set stands alone. Before the other sections it is the
operation of the document, which has no name, and the variables and fragments behind
it are what they are without it. Behind the variables, or behind a fragment, it is
the last part of that section: there is no operation then, and the other fragments
are what they are without it. -/
theorem selectionSet_placed {after : List Part} {gap set rest : List Char}
    (hgap : ∀ c ∈ gap, isBlank c = true) (hset : Balanced 0 0 set)
    (hrest : Written after rest)
    (hoperation : clausesOfKind .operation after = []) :
    (∀ values : Option Clause, clausesOfKind .vars after = values.toList →
      Item.ofText (String.ofList (gap ++ (braced set ++ rest))) =
        { comment := String.ofList (join ['\n'] ((commentsOf after).map trim))
          vars := String.ofList ((values.map Clause.block).getD [])
          query := String.ofList (braced set)
          fragments := (clausesOfKind .fragment after).map Clause.toFragment
          name := ""
          operation := some .query
          order := Order.ofComment (join ['\n'] ((commentsOf after).map trim)) }) ∧
      (∀ (front : List Char) (values : Clause), Written [] front → values.Proper →
        values.kind = .vars → clausesOfKind .vars after = [] →
          Item.ofText (String.ofList (front ++
            (values.text ++ (gap ++ braced set) ++ rest))) =
            { comment := String.ofList (join ['\n'] ((commentsOf after).map trim))
              vars := String.ofList (values.block ++ (gap ++ braced set))
              query := ""
              fragments := (clausesOfKind .fragment after).map Clause.toFragment
              name := ""
              operation := none
              order := Order.ofComment
                (join ['\n'] ((commentsOf after).map trim)) }) ∧
      ∀ (before : List Part) (front : List Char) (last : Clause),
        Written before front →
        commentsOf before = [] → (∀ clause ∈ clausesOf before,
          clause.kind = .fragment) →
          last.Proper → last.kind = .fragment → clausesOfKind .vars after = [] →
            Item.ofText (String.ofList (front ++
              (last.text ++ (gap ++ braced set) ++ rest))) =
              { comment := String.ofList (join ['\n'] ((commentsOf after).map trim))
                vars := ""
                query := ""
                fragments := (clausesOf before).map Clause.toFragment ++
                  ⟨String.ofList last.name,
                    String.ofList (last.text ++ (gap ++ braced set))⟩ ::
                    (clausesOfKind .fragment after).map Clause.toFragment
                name := ""
                operation := none
                order := Order.ofComment
                  (join ['\n'] ((commentsOf after).map trim)) } := by
  refine ⟨fun values hvalues => ?first,
    fun front values hfront hproper hkind hvalues =>
      ?vars, fun before front last hfront hcomments hbefore hproper hkind hvalues =>
        ?fragment⟩
  case first =>
    rw [ofText_of_between (between_selectionSet_first hgap hset hrest)]
    exact ofSections_eq ((lastText_cons_of_ne (by decide) _ _).trans
      (lastText_vars hvalues)) (lastText_cons
        (kind_ne_of_clausesOfKind hoperation) _)
      ((fragmentsOf_cons_of_ne (by decide) _ _).trans
        (fragmentsOf_clauses hrest.proper))
  case vars =>
    have hsection : values.kind.sectionKind = .vars := by rw [hkind]; rfl
    have hbetween := between_selectionSet_behind hfront rfl hproper hgap hset hrest
    rw [hsection, Clause.toSection_text_of_vars hsection] at hbetween
    rw [ofText_of_between hbetween]
    exact ofSections_eq (lastText_cons (kind_ne_of_clausesOfKind hvalues) _)
      ((lastText_cons_of_ne (by decide) _ _).trans
        (lastText_clauses_eq_nil hoperation))
      ((fragmentsOf_cons_of_ne (by decide) _ _).trans
        (fragmentsOf_clauses hrest.proper))
  case fragment =>
    have hsection : last.kind.sectionKind = .fragment := by rw [hkind]; rfl
    have htext : last.toSection.text = last.text :=
      Clause.toSection_text_of_ne (by rw [hsection]; decide)
    have hnone : ∀ kind, kind ≠ .fragment → clausesOfKind kind after = [] →
        lastText kind ((clausesOf before).map Clause.toSection ++
          ⟨.fragment, last.text ++ (gap ++ braced set)⟩ ::
            (clausesOf after).map Clause.toSection) = [] := by
      intro kind hne hafter
      rw [lastText_append, lastText_clauses_eq_nil]
      · rw [clausesOfKind_of_fragments hbefore, if_neg hne]
      · exact List.forall_mem_cons.mpr ⟨hne.symm, kind_ne_of_clausesOfKind hafter⟩
    have hbetween :=
      between_selectionSet_behind hfront hcomments hproper hgap hset hrest
    rw [hsection, htext] at hbetween
    rw [ofText_of_between hbetween]
    refine ofSections_eq (hnone .vars (by decide) hvalues)
      (hnone .operation (by decide) hoperation) ?_
    rw [fragmentsOf_append, fragmentsOf_clauses hfront.proper,
      clausesOfKind_of_fragments hbefore, if_pos rfl, fragmentsOf_cons,
      fragmentsOf_clauses hrest.proper, Fragment.ofText,
      Clause.definedName_append hproper]

namespace UsersSet

def set : List Char := " id ".toList

theorem balanced_set : Balanced 0 0 set :=
  .mark (by decide) <| .word "id".toList (by decide) (by decide) <|
    .mark (by decide) .nil

/-- A fragment with a brace in a comment. -/
def rest : List Char := '\n' :: (UsersDocument.fragment.text ++ [])

theorem written_rest : Written [.clause UsersDocument.fragment] rest :=
  .blank (by decide) (.clause UsersDocument.proper_fragment .nil)

theorem selectionSet_placed_users :
    Balanced 0 0 set ∧ Written [.clause UsersDocument.fragment] rest ∧
      (Item.ofText (String.ofList ([' '] ++ (braced set ++ rest)))).query =
        "\x7b id \x7d" ∧
      (Item.ofText (String.ofList
        ([] ++ (UsersDocument.values.text ++ ([' '] ++ braced set) ++
          rest)))).vars =
          "\x7b\"\x7d\"\x7d \x7b id \x7d" ∧
      (Item.ofText (String.ofList
        ([] ++ (UsersDocument.fragment.text ++ ([' '] ++ braced set) ++
          rest)))).fragments =
          [⟨"F", "fragment F on users \x7b#\x7d\n\x7d \x7b id \x7d"⟩,
            ⟨"F", "fragment F on users \x7b#\x7d\n\x7d"⟩] := by
  have hgap : ∀ c ∈ [' '], isBlank c = true := List.all_eq_true.mp rfl
  obtain ⟨hfirst, hvars, hfragment⟩ :=
    selectionSet_placed hgap balanced_set written_rest (by decide)
  refine ⟨balanced_set, written_rest, ?_, ?_, ?_⟩
  · rw [hfirst none (by decide)]
    decide +kernel
  · rw [hvars [] UsersDocument.values .nil UsersDocument.proper_values rfl
      (by decide)]
    decide +kernel
  · rw [hfragment [] [] UsersDocument.fragment .nil rfl (List.forall_mem_nil _)
      UsersDocument.proper_fragment rfl (by decide)]
    decide +kernel

/-- Behind the variables, and behind a fragment, a selection set is not found. -/
theorem selectionSet_lost :
    Balanced 0 0 [' '] ∧ Balanced 0 0 set ∧
      ((Item.ofText "variables \x7b \x7d \x7b id \x7d").query ≠ "\x7b id \x7d" ∧
        (Item.ofText "variables \x7b \x7d \x7b id \x7d").operation ≠ some .query ∧
        (Item.ofText "variables \x7b \x7d \x7b id \x7d").vars ≠ "\x7b \x7d") ∧
      (Item.ofText "fragment F on T \x7b \x7d \x7b id \x7d").query ≠
        "\x7b id \x7d" ∧
      (Item.ofText "fragment F on T \x7b \x7d \x7b id \x7d").fragments ≠
        [⟨"F", "fragment F on T \x7b \x7d"⟩] := by
  have hblank : Balanced 0 0 [' '] := .mark (by decide) .nil
  refine ⟨hblank, balanced_set, ?_⟩
  decide +kernel

end UsersSet

end QueryGate.Document
