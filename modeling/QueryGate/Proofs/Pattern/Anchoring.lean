import QueryGate.Blocklist
import QueryGate.Proofs.Pattern.Reading
import QueryGate.Proofs.Pattern.Spreading

/-!
Patterns that are anchored at both ends of a text.

The text of a pattern is put between parentheses with anchors around them. Main
statement: what that is read as is what the pattern is read as by itself, between
the two ends of the text, unless the pattern ends in a comment, which swallows the
closing parenthesis, or has a parenthesis of its own that closes the one before it.
-/

namespace QueryGate.Pattern

open QueryGate.Text

/-- The pattern that a text is by itself, however large it is. -/
def Expression.parse? (text : List Char) : Option Expression :=
  readFrom? .start text

/-- What is written after a pattern belongs to its last comment. -/
def EndsInComment (text : List Char) : Prop :=
  (Expression.parse? text).isSome ∧ (Expression.parse? (text ++ [')'])).isSome

/-- A parenthesis in a text closes a group that is open before the text: what stands
before it is a pattern by itself, and is none with the parenthesis. -/
def Escapes (text : List Char) : Prop :=
  ∃ before after, text = before ++ ')' :: after ∧
    (Expression.parse? before).isSome ∧
    Expression.parse? (before ++ [')']) = none

/-- A pattern between the ends of a text. -/
def Expression.whole (e : Expression) : Expression :=
  sequence [look .textStart, group false e, look .textEnd]

theorem readFrom?_close_nil {state : ReaderState} (h : state.open_ = [])
    (s : List Char) : readFrom? state (')' :: s) = none := by
  have hleave : state.leave? = none := by rw [ReaderState.leave?, h]
  rw [readFrom?_eq_bind (skip_counting _ (by decide) (by decide) s),
    show readPart? state ')' s = state.leave?.map fun left =>
      (left, s) from rfl, hleave]
  rfl

theorem Closes.parse?_eq_none {text : List Char} {next : ReaderState}
    (h : Closes .start text next) (after : List Char) :
    Expression.parse? (text ++ ')' :: after) = none := by
  have hleft := h.left [] after
  rw [under_nil, under_nil, readFrom?_close_nil h.closed] at hleft
  exact hleft

theorem RunsOn.parse?_isSome {text : List Char} {next : ReaderState}
    (h : RunsOn .start text next) : (Expression.parse? (text ++ [')'])).isSome := by
  obtain ⟨past, hle, hread⟩ := h.past []
  obtain rfl := List.suffix_nil.mp hle
  have hread := hread []
  rw [under_nil, under_nil, readFrom?_eq_finish
    (List.suffix_nil.mp ((scans_skip next.flags).suffix [])),
    finish?_eq_some_iff.mpr ⟨h.closed, rfl⟩] at hread
  exact Option.isSome_iff_exists.mpr ⟨_, hread⟩

/-- A text that escapes is no pattern by itself. -/
theorem parse?_eq_none_of_escapes {text : List Char} (h : Escapes text) :
    Expression.parse? text = none := by
  obtain ⟨before, after, rfl, hbefore, hclosed⟩ := h
  obtain ⟨e, he⟩ := Option.isSome_iff_exists.mp hbefore
  obtain ⟨next, -, hcloses | hruns⟩ := closes_or_runsOn he
  · exact hcloses.parse?_eq_none after
  · have hsome := hruns.parse?_isSome
    rw [hclosed] at hsome
    cases hsome

/-- The group that a text is put into, after the anchor at the start. -/
def anchorGroup : OpenGroup :=
  ⟨false, .start, [], [.look .textStart]⟩

theorem parse?_anchored (text : List Char) :
    Expression.parse? (anchored text) =
      readFrom? (ReaderState.under .start [anchorGroup])
        (text ++ ')' :: ['$']) := by
  have hanchor : anchored text =
      '^' :: '(' :: '?' :: ':' :: (text ++ ')' :: ['$']) := by
    simp [anchored]
  rw [Expression.parse?, hanchor,
    readFrom?_eq_bind (skip_counting _ (by decide) (by decide) _)]
  show readFrom? (ReaderState.start.add (.look .textStart)) ('(' :: _) = _
  rw [readFrom?_eq_bind (skip_counting _ (by decide) (by decide) _)]
  rfl

/-- At the end the group of the anchors is closed. -/
theorem readFrom?_close_anchor {state : ReaderState} (h : state.open_ = []) :
    readFrom? (state.under [anchorGroup]) (')' :: ['$']) =
      some state.content.whole := by
  obtain ⟨flags, branches, items, open_, names⟩ := state
  obtain rfl : open_ = [] := h
  rw [readFrom?_eq_bind (skip_counting _ (by decide) (by decide) _)]
  show readFrom? ⟨.start, [], [.group false _, .look .textStart], [], names⟩
    ['$'] = _
  rw [readFrom?_eq_bind (skip_counting _ (by decide) (by decide) _)]
  show readFrom? ⟨.start, [], [.look .textEnd, .group false _, .look .textStart],
    [], names⟩ [] = _
  rw [readFrom?_eq_finish rfl]
  rfl

/-- Without a parenthesis the group of the anchors is not closed. -/
theorem readFrom?_unclosed (state : ReaderState) {past : List Char}
    (hpast : past <:+ ['$']) :
    readFrom? (state.under [anchorGroup]) past = none := by
  have hend : ∀ state : ReaderState,
      readFrom? (state.under [anchorGroup]) [] = none := fun state => by
    rw [readFrom?_eq_finish (List.suffix_nil.mp ((scans_skip _).suffix [])),
      ReaderState.finish?, if_neg (by simp [ReaderState.under])]
  rcases List.suffix_cons_iff.mp hpast with rfl | hpast
  · rw [readFrom?_eq_bind (skip_counting _ (by decide) (by decide) _)]
    exact hend (state.add (.look state.flags.dollar))
  · rw [List.suffix_nil.mp hpast]
    exact hend state

/-- A text that does not escape is read between its anchors as by itself, unless it
ends in a comment. -/
theorem parse?_anchored_iff {text : List Char} (h : ¬Escapes text)
    {read : Expression} :
    Expression.parse? (anchored text) = some read ↔
      ∃ e, Expression.parse? text = some e ∧ ¬EndsInComment text ∧
        read = e.whole := by
  rw [parse?_anchored]
  constructor
  · intro hread
    cases halone : Expression.parse? text with
    | none =>
        cases overruns_of_eq_none halone hread with
        | closes hs hcloses =>
            exact absurd ⟨_, _, hs, Option.isSome_iff_exists.mpr ⟨_, hcloses.whole⟩,
              hcloses.parse?_eq_none []⟩ h
        | @passes next _ hpast hread =>
            rw [readFrom?_unclosed next hpast] at hread
            cases hread
    | some e =>
        obtain ⟨next, rfl, hcloses | hruns⟩ := closes_or_runsOn halone
        · rw [hcloses.left, readFrom?_close_anchor hcloses.closed] at hread
          cases hread
          refine ⟨_, rfl, fun hcomment => ?_, rfl⟩
          have hsome := hcomment.2
          rw [hcloses.parse?_eq_none []] at hsome
          cases hsome
        · obtain ⟨past, hpast, hsame⟩ := hruns.past ['$']
          rw [hsame, readFrom?_unclosed next hpast] at hread
          cases hread
  · rintro ⟨e, halone, hcomment, rfl⟩
    obtain ⟨next, rfl, hcloses | hruns⟩ := closes_or_runsOn halone
    · rw [hcloses.left, readFrom?_close_anchor hcloses.closed]
    · exact absurd
        ⟨Option.isSome_iff_exists.mpr ⟨_, halone⟩, hruns.parse?_isSome⟩ hcomment

namespace Expression

/-- The anchors and their group nest twice. -/
theorem depth_whole (e : Expression) : e.whole.depth = e.depth + 2 := by
  simp only [whole, depth, maxDepth]
  omega

theorem ofText?_eq_some_iff {text : List Char} {read : Expression} :
    ofText? text = some read ↔
      parse? text = some read ∧ read.depth ≤ maxNesting ∧ read.fits = true := by
  rw [ofText?, read?_eq, Option.filter_eq_some_iff, Option.filter_eq_some_iff,
    isShallow, decide_eq_true_eq, and_assoc]
  rfl

/-- What is accepted of an anchored text that does not escape. -/
theorem ofText?_anchored_iff {text : List Char} (h : ¬Escapes text)
    {read : Expression} :
    ofText? (anchored text) = some read ↔
      ∃ e, (parse? text = some e ∧ ¬EndsInComment text) ∧
        (e.depth + 2 ≤ maxNesting ∧ e.whole.fits = true) ∧ read = e.whole := by
  rw [ofText?_eq_some_iff, parse?_anchored_iff h]
  constructor
  · rintro ⟨⟨e, halone, hcomment, rfl⟩, hdepth, hfits⟩
    rw [depth_whole] at hdepth
    exact ⟨e, ⟨halone, hcomment⟩, ⟨hdepth, hfits⟩, rfl⟩
  · rintro ⟨e, ⟨halone, hcomment⟩, ⟨hdepth, hfits⟩, rfl⟩
    rw [← depth_whole] at hdepth
    exact ⟨⟨e, halone, hcomment, rfl⟩, hdepth, hfits⟩

end Expression

end QueryGate.Pattern
