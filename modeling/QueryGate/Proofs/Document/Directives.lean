import QueryGate.Proofs.Document.Splitting
import QueryGate.Proofs.Document.Stretches

/-!
The order directive.

A line of a comment declares an order where it begins with the mark of the directive
and a colon follows the variable. Nothing is asked of what stands between the mark
and the variable, so a word that only begins with the mark is read as a directive
too. Main statement: an item has the order of the first line that declares one,
which is the first of the documented form wherever no word goes on behind a mark.
-/

namespace QueryGate.Text

theorem fields_cons (sep c : Char) (s : List Char) :
    ∃ piece pieces, fields sep s = piece :: pieces ∧
      fields sep (c :: s) = if c = sep then [] :: piece :: pieces
        else (c :: piece) :: pieces := by
  obtain ⟨piece, pieces, hpieces⟩ :=
    List.exists_cons_of_ne_nil (fields_ne_nil sep s)
  exact ⟨piece, pieces, hpieces, by rw [fields, hpieces]⟩

theorem notMem_of_mem_fields {sep : Char} {s : List Char} :
    ∀ piece ∈ fields sep s, sep ∉ piece := by
  induction s with
  | nil => simp [fields]
  | cons c s ih =>
      obtain ⟨piece, pieces, hpieces, hcons⟩ := fields_cons sep c s
      rw [hpieces, List.forall_mem_cons] at ih
      rw [hcons]
      split
      · simpa using ih
      · next hc => simpa [Ne.symm hc] using ih

theorem fields_of_notMem {sep : Char} {piece : List Char} (h : sep ∉ piece) :
    fields sep piece = [piece] := by
  induction piece with
  | nil => rfl
  | cons c piece ih =>
      rw [List.mem_cons, not_or] at h
      rw [fields, ih h.2]
      simp [Ne.symm h.1]

theorem fields_append_cons (sep : Char) (s rest : List Char) :
    fields sep (s ++ sep :: rest) = fields sep s ++ fields sep rest := by
  induction s with
  | nil =>
      obtain ⟨piece, pieces, hpieces, hcons⟩ := fields_cons sep sep rest
      rw [List.nil_append, hcons, if_pos rfl, hpieces]
      rfl
  | cons c s ih =>
      obtain ⟨piece, pieces, hpieces, hcons⟩ := fields_cons sep c s
      obtain ⟨first, others, hfirst, hlonger⟩ :=
        fields_cons sep c (s ++ sep :: rest)
      rw [ih, hpieces] at hfirst
      obtain ⟨rfl, rfl⟩ := List.cons.inj hfirst
      rw [List.cons_append, hlonger, hcons]
      split <;> rfl

/-- The pieces of joined texts are those of each. -/
theorem fields_join {sep : Char} {texts : List (List Char)} (h : texts ≠ []) :
    fields sep (join [sep] texts) = texts.flatMap (fields sep) := by
  induction texts with
  | nil => exact absurd rfl h
  | cons text texts ih =>
      cases texts with
      | nil => simp [join]
      | cons other texts =>
          have hjoin : join [sep] (text :: other :: texts) =
              text ++ sep :: join [sep] (other :: texts) := by
            simp [join]
          rw [hjoin, fields_append_cons, ih (List.cons_ne_nil _ _)]
          rfl

theorem fields_join_of_notMem {sep : Char} {pieces : List (List Char)}
    (hne : pieces ≠ []) (h : ∀ piece ∈ pieces, sep ∉ piece) :
    fields sep (join [sep] pieces) = pieces := by
  rw [fields_join hne, List.flatMap_congr fun piece hpiece =>
    fields_of_notMem (h piece hpiece)]
  simp

/-- Joined texts end with the last of them. -/
theorem exists_join_concat (sep : List Char) (texts : List (List Char))
    (last : List Char) : ∃ front, join sep (texts ++ [last]) = front ++ last := by
  induction texts with
  | nil => exact ⟨[], rfl⟩
  | cons text texts ih =>
      obtain ⟨front, hfront⟩ := ih
      refine ⟨text ++ sep ++ front, ?_⟩
      rw [List.append_assoc (text ++ sep), ← hfront]
      cases texts <;> rfl

end QueryGate.Text

namespace QueryGate.Document

open QueryGate.Text

/-- The body of a comment. -/
def Lexeme.comment? : Lexeme → Option (List Char)
  | .lineComment body => some body
  | .blockComment body _ => some body
  | _ => none

/-- The bodies of the comments outside of braces, where so many braces are open at
first. -/
def commentsOutside (depth : Nat) : List Lexeme → List (List Char)
  | [] => []
  | l :: ls =>
      (if depth = 0 then l.comment?.toList else []) ++
        commentsOutside (countBracket .openBrace .closeBrace depth l) ls

theorem Reading.step_comments (r : Reading) (l : Lexeme) :
    (r.step l).comments =
      ((if r.depth = 0 then l.comment?.toList else []).map trim) ++ r.comments := by
  have hcomment : ∀ body : List Char, (r.comment body).comments =
      ((if r.depth = 0 then [body] else []).map trim) ++ r.comments := by
    intro body
    rw [comment]
    split <;> rfl
  cases l with
  | lineComment body => exact hcomment body
  | blockComment body closed => exact hcomment body
  | openBrace =>
      simp only [step]
      split <;> simp [Lexeme.comment?, push]
  | closeBrace =>
      simp only [step]
      split <;> simp [Lexeme.comment?, push]
  | word text =>
      simp only [step]
      split
      · split <;> simp [Lexeme.comment?, push, beginSection, endSection]
      · simp [Lexeme.comment?, push]
  | _ => simp [step, Lexeme.comment?, push]

theorem Reading.run_comments (r : Reading) (ls : List Lexeme) :
    (r.run ls).comments = ((commentsOutside r.depth ls).map trim).reverse ++
      r.comments := by
  induction ls generalizing r with
  | nil => rfl
  | cons l ls ih =>
      rw [run_cons, ih, step_comments, (step_counts r l).1, commentsOutside]
      split
      · cases l.comment? <;> simp
      · simp

/-- The comments at the top level are those outside of braces. -/
theorem topComments_eq (text : List Char) :
    topComments text = (commentsOutside 0 (lexemes text)).map trim := by
  show (Reading.run {} (lexemes text)).comments.reverse = _
  rw [Reading.run_comments]
  simp

/-- The lines of the comments at the top level. -/
def commentLines (document : List Char) : List (List Char) :=
  ((commentsOutside 0 (lexemes document)).map trim).flatMap (fields '\n')

namespace Order

/-- What the directive begins with. -/
def mark : List Char := "@order".toList

/-- The variable that a text names: what is left without blank characters around it
and without dollar signs before it. -/
def variableOf (text : List Char) : List Char :=
  (trim text).dropWhile (· == '$')

/-- The value that a text is, without blank characters and then without quotes
around it. -/
def valueOf (text : List Char) : List Char :=
  dropAround (· == '"') (trim text)

/-- A line declares an order: behind the mark there is a variable up to the first
colon, and behind the colon there are values between commas, of which the empty ones
do not count. -/
inductive Declares (line : List Char) : Order → Prop
  | intro {named listed : List Char} (pieces : List (List Char))
      (hline : trim line = mark ++ named ++ ':' :: listed) (hcolon : ':' ∉ named)
      (hvariable : variableOf named ≠ []) (hlisted : listed = join [','] pieces)
      (hpieces : pieces ≠ []) (hcomma : ∀ piece ∈ pieces, ',' ∉ piece) :
      Declares line ⟨String.ofList (variableOf named),
        ((pieces.map valueOf).filter (!·.isEmpty)).map String.ofList⟩

theorem ofLine_eq (line : List Char) :
    ofLine line = if mark.isPrefixOf (trim line) then
      (splitOnce [':'] ((trim line).drop mark.length)).bind fun cut =>
        if (variableOf cut.1).isEmpty then none
        else some ⟨String.ofList (variableOf cut.1),
          (((fields ',' cut.2).map valueOf).filter (!·.isEmpty)).map String.ofList⟩
      else none :=
  rfl

theorem ofLine_eq_some_iff {line : List Char} {order : Order} :
    ofLine line = some order ↔ Declares line order := by
  rw [ofLine_eq]
  constructor
  · intro h
    split at h
    · next hmark =>
        obtain ⟨behind, hbehind⟩ := List.isPrefixOf_iff_prefix.mp hmark
        obtain ⟨⟨named, listed⟩, hcut, horder⟩ := Option.bind_eq_some_iff.mp h
        rw [← hbehind, List.drop_left] at hcut
        obtain ⟨rfl, hcolon⟩ := splitOnce_char_eq_some_iff.mp hcut
        split at horder
        · cases horder
        · next hvariable =>
            obtain rfl := Option.some.inj horder
            rw [← List.append_assoc] at hbehind
            exact .intro _ hbehind.symm hcolon (by simpa using hvariable)
              (join_fields ',' listed).symm (fields_ne_nil ',' listed)
                notMem_of_mem_fields
    · cases h
  · rintro ⟨pieces, hline, hcolon, hvariable, rfl, hpieces, hcomma⟩
    rename_i named
    rw [List.append_assoc] at hline
    have hmark : mark.isPrefixOf (trim line) = true := by
      rw [List.isPrefixOf_iff_prefix, hline]
      exact List.prefix_append _ _
    have hcut : splitOnce [':'] ((trim line).drop mark.length) =
        some (named, join [','] pieces) := by
      rw [hline, List.drop_left]
      exact splitOnce_char_eq_some_iff.mpr ⟨rfl, hcolon⟩
    rw [if_pos hmark, hcut, Option.bind_some, if_neg (by simpa using hvariable),
      fields_join_of_notMem hpieces hcomma]

/-- The documented form: the mark is a word by itself, with a blank character behind
it. -/
structure DeclaresApart (line : List Char) (order : Order) : Prop where
  declares : Declares line order
  apart : ∃ c rest, trim line = mark ++ c :: rest ∧ isBlank c = true

/-- The first of some lines that declares anything declares this order. -/
def First (declares : List Char → Order → Prop) (lines : List (List Char))
    (order : Order) : Prop :=
  ∃ before line after, lines = before ++ line :: after ∧ declares line order ∧
    ∀ other ∈ before, ∀ o, ¬ declares other o

/-- Where no word goes on behind the mark, the lines that declare an order are those
of the documented form. -/
theorem declaresApart_iff {line : List Char} {order : Order}
    (h : ∀ c rest, trim line = mark ++ c :: rest → isBlank c = true ∨ c = ':') :
    DeclaresApart line order ↔ Declares line order := by
  refine ⟨DeclaresApart.declares, fun hdeclares => ⟨hdeclares, ?_⟩⟩
  cases hdeclares with
  | @intro named listed _ hline hcolon hvariable =>
      cases named with
      | nil => exact absurd rfl hvariable
      | cons c named =>
          rw [List.append_assoc] at hline
          refine ⟨c, named ++ ':' :: listed, hline, (h c _ hline).resolve_right ?_⟩
          rintro rfl
          exact hcolon List.mem_cons_self

/-- What is found in some lines is the first order that one of them declares. -/
structure ReadFrom (declares : List Char → Order → Prop) (lines : List (List Char))
    (found : Option Order) : Prop where
  isSome_iff : found.isSome = true ↔ ∃ line ∈ lines, ∃ order, declares line order
  eq_some_iff : ∀ order, found = some order ↔ First declares lines order

theorem readFrom_findSome? (lines : List (List Char)) :
    ReadFrom Declares lines (lines.findSome? ofLine) where
  isSome_iff := by
    rw [List.findSome?_isSome_iff]
    simp only [Option.isSome_iff_exists, ofLine_eq_some_iff]
  eq_some_iff := by
    intro order
    simp only [List.findSome?_eq_some_iff, First, Option.eq_none_iff_forall_ne_some,
      ne_eq, ofLine_eq_some_iff]

theorem ReadFrom.congr {P Q : List Char → Order → Prop} {lines : List (List Char)}
    {found : Option Order}
    (h : ∀ line ∈ lines, ∀ order, Q line order ↔ P line order)
    (hreads : ReadFrom P lines found) : ReadFrom Q lines found where
  isSome_iff := hreads.isSome_iff.trans
    (exists_congr fun line => and_congr_right fun hline =>
      exists_congr fun order => (h line hline order).symm)
  eq_some_iff := by
    intro order
    refine (hreads.eq_some_iff order).trans
      (exists_congr fun before => exists_congr fun line =>
      exists_congr fun after => and_congr_right fun hlines => ?_)
    have hbefore : ∀ other ∈ before, ∀ o, Q other o ↔ P other o :=
      fun other hother => h other (by simp [hlines, hother])
    exact and_congr (h line (by simp [hlines]) order).symm
      (forall₂_congr fun other hother => forall_congr' fun o =>
        not_congr (hbefore other hother o).symm)

/-- A variable and values that a directive can hold: none of the characters that end
them is in them, and nothing at their ends is taken off. -/
structure Plain (var : List Char) (values : List (List Char)) : Prop where
  named : var ≠ [] ∧ ':' ∉ var ∧ '\n' ∉ var
  first : ∀ c ∈ var.head?, isBlank c = false ∧ c ≠ '$'
  last : ∀ c ∈ var.getLast?, isBlank c = false
  listed : ∀ value ∈ values, value ≠ [] ∧ ',' ∉ value ∧ '\n' ∉ value
  value_first : ∀ value ∈ values, ∀ c ∈ value.head?, isBlank c = false ∧ c ≠ '"'
  value_last : ∀ value ∈ values, ∀ c ∈ value.getLast?, isBlank c = false ∧ c ≠ '"'

/-- The directive of a variable and its values, as in `@order v: x, y`. -/
def written (var : List Char) (values : List (List Char)) : List Char :=
  mark ++ (' ' :: var) ++ ':' :: join [','] (values.map (' ' :: ·))

namespace Plain

variable {var : List Char} {values : List (List Char)}

theorem variableOf_eq (h : Plain var values) : variableOf (' ' :: var) = var := by
  have htrim : trim ([' '] ++ var) = var :=
    trim_append_of_edges (List.all_eq_true.mp rfl)
      (fun c hc => (h.first c hc).1) h.last
  rw [variableOf, show ' ' :: var = [' '] ++ var from rfl, htrim]
  exact dropWhile_append_of_stops (s := []) (List.forall_mem_nil _)
    fun c hc => beq_eq_false_iff_ne.mpr (h.first c hc).2

theorem valueOf_eq (h : Plain var values) {value : List Char}
    (hvalue : value ∈ values) : valueOf (' ' :: value) = value := by
  have htrim : trim ([' '] ++ value) = value :=
    trim_append_of_edges (List.all_eq_true.mp rfl)
      (fun c hc => (h.value_first value hvalue c hc).1)
      (fun c hc => (h.value_last value hvalue c hc).1)
  have hfirst : value.dropWhile (· == '"') = value :=
    dropWhile_append_of_stops (s := []) (List.forall_mem_nil _)
      fun c hc => beq_eq_false_iff_ne.mpr (h.value_first value hvalue c hc).2
  have hstops : ∀ c ∈ value.reverse.head?, (c == '"') = false := by
    rw [List.head?_reverse]
    exact fun c hc => beq_eq_false_iff_ne.mpr (h.value_last value hvalue c hc).2
  have hlast : value.reverse.dropWhile (· == '"') = value.reverse :=
    dropWhile_append_of_stops (s := []) (List.forall_mem_nil _) hstops
  rw [valueOf, show ' ' :: value = [' '] ++ value from rfl, htrim,
    dropAround, hfirst, dropEndWhile, hlast, List.reverse_reverse]

/-- What a line declares that reads as a written directive. -/
theorem declares (h : Plain var values) {line : List Char}
    (hline : trim line = written var values) :
    Declares line ⟨String.ofList var, values.map String.ofList⟩ := by
  have hcolon : ':' ∉ ' ' :: var := by simpa using h.named.2.1
  have hvariable : variableOf (' ' :: var) ≠ [] := h.variableOf_eq.symm ▸ h.named.1
  rcases values.eq_nil_or_concat with rfl | ⟨_, _, hconcat⟩
  · simpa [h.variableOf_eq, valueOf, trim, dropAround, dropEndWhile] using
      Declares.intro [[]] hline hcolon hvariable rfl (by simp) (by simp)
  · have hne : values ≠ [] := by simp [hconcat]
    have hpieces : (values.map (' ' :: ·)).map valueOf = values := by
      rw [List.map_map]
      exact (List.map_congr_left fun value hvalue => h.valueOf_eq hvalue).trans
        (List.map_id _)
    have hall : values.filter (!·.isEmpty) = values :=
      List.filter_eq_self.mpr fun value hvalue => by
        simpa using (h.listed value hvalue).1
    have hdeclares :=
      Declares.intro (values.map (' ' :: ·)) hline hcolon hvariable rfl
      (by simpa using hne) (by simpa using fun value hvalue =>
        (h.listed value hvalue).2.1)
    rwa [hpieces, hall, h.variableOf_eq] at hdeclares

theorem newline_notMem (h : Plain var values) : '\n' ∉ written var values := by
  have hvalues : ∀ texts : List (List Char), (∀ text ∈ texts, '\n' ∉ text) →
      '\n' ∉ join [','] texts := by
    intro texts htexts
    induction texts with
    | nil => simp [join]
    | cons text texts ih =>
        obtain ⟨htext, htexts⟩ := List.forall_mem_cons.mp htexts
        cases texts with
        | nil => simpa [join] using htext
        | cons other texts => simpa [join, htext] using ih htexts
  have hlisted := hvalues (values.map (' ' :: ·)) (by
    simpa using fun value hvalue => (h.listed value hvalue).2.2)
  simp [written, mark, h.named.2.2, hlisted]

/-- The directive has no blank characters at its ends. -/
theorem trim_written (h : Plain var values) (gap : List Char)
    (hgap : ∀ c ∈ gap, isBlank c = true) :
    trim (gap ++ written var values) = written var values := by
  refine trim_append_of_edges hgap ?_ ?_
  · intro c hc
    cases hc
    decide
  · intro c hc
    rcases values.eq_nil_or_concat with rfl | ⟨init, value, rfl⟩
    · rw [written, List.map_nil, join, List.getLast?_concat] at hc
      cases hc
      decide
    · obtain ⟨listed, hlisted⟩ :=
        exists_join_concat [','] (init.map (' ' :: ·)) (' ' :: value)
      have hvalue : value ∈ init.concat value := by simp
      have hends : written var (init.concat value) =
          (mark ++ (' ' :: var) ++ ':' :: listed ++ [' ']) ++ value := by
        rw [written, List.concat_eq_append, List.map_append, List.map_singleton,
          hlisted]
        simp
      rw [hends, List.getLast?_append_of_ne_nil _ (h.listed value hvalue).1] at hc
      exact (h.value_last value hvalue c hc).1

end Plain

end Order

/-- The order of an item is that of the first line of its comments that declares
one. -/
theorem order_ofText (text : List Char) :
    (Item.ofText (String.ofList text)).order =
      (commentLines text).findSome? Order.ofLine := by
  have horder : (Item.ofText (String.ofList text)).order =
      (fields '\n' (join ['\n'] (topComments text))).findSome? Order.ofLine := by
    rw [Item.ofText, String.toList_ofList]
    rfl
  rw [horder, commentLines, ← topComments_eq]
  cases hcomments : topComments text with
  | nil => rfl
  | cons comment comments => rw [fields_join (List.cons_ne_nil _ _)]

/-- The lines of a document that begins with a comment of one line. -/
theorem commentLines_lineComment {body : List Char} (hbody : '\n' ∉ body)
    (rest : List Char) :
    commentLines ('#' :: body ++ '\n' :: rest) =
      fields '\n' (trim body) ++ commentLines rest := by
  have hmark : lexemes ('\n' :: rest) = .mark '\n' :: lexemes rest :=
    lexemes_mark (isMark_of_isBlank (by decide) rest)
  have hcomment : lexemes ('#' :: body ++ '\n' :: rest) =
      .lineComment body :: .mark '\n' :: lexemes rest := by
    rw [← hmark]
    exact lexemes_lineComment hbody fun c hc => (Option.some.inj hc).symm
  rw [commentLines, hcomment]
  simp [commentsOutside, Lexeme.comment?, countBracket, commentLines]

namespace Order

/-- A document has the order of the first comment line that declares one; where no
word goes on behind a mark, such a line has the documented form. A written directive
declares exactly its variable and its values. -/
theorem order_readFrom (document : List Char) :
    ReadFrom Declares (commentLines document)
      (Item.ofText (String.ofList document)).order ∧
      ((∀ line ∈ commentLines document, ∀ c rest, trim line = mark ++ c :: rest →
          isBlank c = true ∨ c = ':') →
        ReadFrom DeclaresApart (commentLines document)
          (Item.ofText (String.ofList document)).order) ∧
      ∀ var values, Plain var values →
        (∀ before line after, commentLines document = before ++ line :: after →
          (∀ other ∈ before, ∀ o, ¬ Declares other o) →
          trim line = written var values →
          (Item.ofText (String.ofList document)).order =
            some ⟨String.ofList var, values.map String.ofList⟩) ∧
        ∀ gap : List Char, (∀ c ∈ gap, isBlank c = true ∧ c ≠ '\n') →
          (Item.ofText (String.ofList
              ('#' :: (gap ++ written var values) ++ '\n' :: document))).order =
            some ⟨String.ofList var, values.map String.ofList⟩ := by
  have hreads : ReadFrom Declares (commentLines document)
      (Item.ofText (String.ofList document)).order :=
    order_ofText document ▸ readFrom_findSome? (commentLines document)
  refine ⟨hreads, fun hapart => hreads.congr fun line hline order =>
    declaresApart_iff (hapart line hline), fun var values hplain => ⟨?_, ?_⟩⟩
  · intro before line after hlines hbefore hline
    exact (hreads.eq_some_iff _).mpr
      ⟨before, line, after, hlines, hplain.declares hline, hbefore⟩
  · intro gap hgap
    have hbody : '\n' ∉ gap ++ written var values := by
      rw [List.mem_append, not_or]
      exact ⟨fun hmem => (hgap _ hmem).2 rfl, hplain.newline_notMem⟩
    have htrim : trim (gap ++ written var values) = written var values :=
      hplain.trim_written gap fun c hc => (hgap c hc).1
    have hself : trim (written var values) = written var values :=
      hplain.trim_written [] (List.forall_mem_nil _)
    rw [order_ofText, commentLines_lineComment hbody, htrim,
      fields_of_notMem hplain.newline_notMem, List.singleton_append,
      List.findSome?_cons, ofLine_eq_some_iff.mpr (hplain.declares hself)]

theorem head?_behind_mark {line rest : List Char} {c : Char}
    (h : trim line = mark ++ c :: rest) :
    ((trim line).drop mark.length).head? = some c := by
  rw [h, List.drop_left]
  rfl

def ordered : List Char := "# @order w: a\n\x7b x \x7d".toList

theorem plain_letters : Plain "v".toList ["a".toList, "b c".toList] where
  named := by decide
  first c hc := by cases hc; decide
  last c hc := by cases hc; decide
  listed := by decide
  value_first := List.forall_mem_cons.mpr
    ⟨fun c hc => by cases hc; decide, List.forall_mem_singleton.mpr fun c hc => by
      cases hc; decide⟩
  value_last := List.forall_mem_cons.mpr
    ⟨fun c hc => by cases hc; decide, List.forall_mem_singleton.mpr fun c hc => by
      cases hc; decide⟩

theorem order_readFrom_ordered :
    ReadFrom DeclaresApart (commentLines ordered)
      (Item.ofText (String.ofList ordered)).order ∧
      (Item.ofText "# @order v: a, b c\n# @order w: a\n\x7b x \x7d").order =
        some ⟨"v", ["a", "b c"]⟩ := by
  have hlines : commentLines ordered = ["@order w: a".toList] := by decide +kernel
  obtain ⟨-, hapart, hwritten⟩ := order_readFrom ordered
  have hblank : ∀ line ∈ commentLines ordered, ∀ c rest,
    trim line = mark ++ c :: rest →
      isBlank c = true ∨ c = ':' := by
    rw [hlines]
    intro line hline c rest htrim
    obtain rfl := List.mem_singleton.mp hline
    obtain rfl : c = ' ' :=
      Option.some.inj ((head?_behind_mark htrim).symm.trans (by decide))
    decide
  have hgap : ∀ c ∈ [' '], isBlank c = true ∧ c ≠ '\n' :=
    List.forall_mem_singleton.mpr (by decide)
  exact ⟨hapart hblank, (hwritten _ _ plain_letters).2 [' '] hgap⟩

/-- A word that only begins with the mark is read as a directive. -/
theorem order_of_longer_word :
    commentLines "# @orderly: a\n\x7b x \x7d".toList = ["@orderly: a".toList] ∧
      (¬ ∃ order, DeclaresApart "@orderly: a".toList order) ∧
      (Item.ofText "# @orderly: a\n\x7b x \x7d").order = some ⟨"ly", ["a"]⟩ := by
  refine ⟨by decide +kernel, ?_, by decide +kernel⟩
  rintro ⟨order, -, c, rest, htrim, hblank⟩
  obtain rfl : c = 'l' :=
    Option.some.inj ((head?_behind_mark htrim).symm.trans (by decide))
  exact absurd hblank (by decide)

end Order

end QueryGate.Document
