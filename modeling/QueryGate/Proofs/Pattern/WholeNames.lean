import QueryGate.Proofs.Pattern.Anchoring
import QueryGate.Proofs.Pattern.Entries

/-!
The names that a blocklist excludes.

Main statement: a list is accepted when each of its patterns is one by itself that
does not end in a comment, as long as the patterns do not nest too deep and have
enough room, and a name is blocked when one of the patterns covers all of it. The
exception are texts that are no patterns and have a parenthesis that closes the
group of the anchors: they may be accepted, and are not bound to the ends of a name.
-/

namespace QueryGate

open Pattern

/-- A pattern by itself, which is not too large between its anchors. -/
def IsWholePattern (pattern : String) : Prop :=
  ∃ e, (Expression.parse? pattern.toList = some e ∧ ¬EndsInComment pattern.toList) ∧
    e.depth + 2 ≤ Expression.maxNesting ∧ e.whole.fits = true

/-- A text that is accepted though it is no pattern by itself. -/
def IsLoosePattern (pattern : String) : Prop :=
  Escapes pattern.toList ∧ (Expression.ofText? (anchored pattern.toList)).isSome

/-- A name is what a pattern covers, or it has a part that a text covers which
escapes. -/
def Excludes (pattern name : String) : Prop :=
  (∃ e, Expression.parse? pattern.toList = some e ∧ e.Covers name.toList) ∨
    Escapes pattern.toList ∧ ∃ e, Expression.ofText?
      (anchored pattern.toList) = some e ∧
      e.occursIn name.toList = true

theorem ofText?_isSome_iff (pattern : String) :
    (Expression.ofText? (anchored pattern.toList)).isSome ↔
      IsWholePattern pattern ∨ IsLoosePattern pattern := by
  by_cases hescapes : Escapes pattern.toList
  · have halone := parse?_eq_none_of_escapes hescapes
    simp [IsWholePattern, IsLoosePattern, halone, hescapes]
  · simp only [Option.isSome_iff_exists, Expression.ofText?_anchored_iff hescapes,
      IsWholePattern, IsLoosePattern, hescapes, false_and, or_false]
    constructor
    · rintro ⟨_, e, halone, hfits, -⟩
      exact ⟨e, halone, hfits⟩
    · rintro ⟨e, halone, hfits⟩
      exact ⟨_, e, halone, hfits, rfl⟩

/-- An entry blocks the names that its pattern excludes. -/
theorem occursIn_iff_excludes {pattern name : String} {e : Expression}
    (h : Expression.ofText? (anchored pattern.toList) = some e) :
    e.occursIn name.toList = true ↔ Excludes pattern name := by
  by_cases hescapes : Escapes pattern.toList
  · have halone := parse?_eq_none_of_escapes hescapes
    simp [Excludes, halone, hescapes, h]
  · obtain ⟨alone, ⟨halone, -⟩, -, rfl⟩ :=
      (Expression.ofText?_anchored_iff hescapes).mp h
    rw [Expression.whole, Expression.occursIn_whole_iff]
    simp [Excludes, halone, hescapes]

namespace Blocklist

/-- The names that an accepted list blocks are those that its patterns exclude. -/
theorem blocks_iff_excludes {patterns : List String} {list : Blocklist}
    (h : ofPatterns patterns = .ok list) (name : String) :
    list.blocks name = true ↔ ∃ pattern ∈ patterns, Excludes pattern name := by
  rw [blocks_iff h]
  refine exists_congr fun pattern => and_congr_right fun hpattern => ?_
  obtain ⟨entry, hread⟩ := exists_ok_of_mapM (ofPatterns_eq_ok_iff.mp h).1 hpattern
  have hexpression := (BlocklistEntry.ofPattern_eq_ok_iff.mp hread).1
  rw [← occursIn_iff_excludes hexpression, hexpression]
  simp

/-- What becomes of any list of patterns, and which names are blocked. -/
theorem ofPatterns_whole_names (patterns : List String) :
    (∀ pattern : String, Escapes pattern.toList →
      Expression.parse? pattern.toList = Option.none) ∧
    match ofPatterns patterns with
    | .ok list =>
        (∀ pattern ∈ patterns, IsWholePattern pattern ∨ IsLoosePattern pattern) ∧
          ∀ name, list.blocks name = true ↔
            ∃ pattern ∈ patterns, Excludes pattern name
    | .error err =>
        (∃ before pattern after, patterns = before ++ pattern :: after ∧
          (∀ p ∈ before, IsWholePattern p ∨ IsLoosePattern p) ∧
          ¬(IsWholePattern pattern ∨ IsLoosePattern pattern) ∧
          err = .invalidBlocklist pattern) ∨
        (∀ pattern ∈ patterns, IsWholePattern pattern ∨ IsLoosePattern pattern) ∧
          Expression.fitTogether
              (patterns.filterMap fun p => Expression.ofText? (anchored p.toList)) =
            false ∧
          err = .invalidBlocklist (", ".intercalate patterns) := by
  refine ⟨fun pattern hescapes => parse?_eq_none_of_escapes hescapes, ?_⟩
  simp only [← ofText?_isSome_iff, ← BlocklistEntry.exists_ofPattern_iff]
  cases hlist : ofPatterns patterns with
  | ok list =>
      have hread := (ofPatterns_eq_ok_iff.mp hlist).1
      exact ⟨fun pattern => exists_ok_of_mapM hread,
        fun name => blocks_iff_excludes hlist name⟩
  | error err =>
      rcases ofPatterns_eq_error_iff.mp hlist with hrefused
        | ⟨entries, hread, hlarge, rfl⟩
      · obtain ⟨before, pattern, after, hsplit, hbefore, hfails⟩ :=
          mapM_eq_error_iff.mp hrefused
        refine Or.inl ⟨before, pattern, after, hsplit, hbefore, ?_,
          (BlocklistEntry.ofPattern_eq_error_iff.mp hfails).2⟩
        rintro ⟨entry, hentry⟩
        cases hfails.symm.trans hentry
      · rw [map_expression_of_mapM hread] at hlarge
        exact Or.inr ⟨fun pattern => exists_ok_of_mapM hread, hlarge, rfl⟩

/-- A text that is no pattern is accepted and blocks a name of which it describes a
part, and a pattern that ends in a comment is refused. -/
theorem ofPatterns_not_whole :
    (Expression.parse? "a)|(b".toList = Option.none ∧
      ∃ list, ofPatterns ["a)|(b"] = .ok list ∧ list.blocks "ax" = true) ∧
    (Expression.parse? "(?x)a#b".toList).isSome ∧
      ofPatterns ["(?x)a#b"] = .error (.invalidBlocklist "(?x)a#b") := by
  refine ⟨⟨by cbv, ?_⟩, by cbv, ?_⟩
  · have hblocks : (match ofPatterns ["a)|(b"] with
        | .ok list => list.blocks "ax"
        | .error _ => false) = true := by decide +kernel
    cases hlist : ofPatterns ["a)|(b"] with
    | ok list =>
        rw [hlist] at hblocks
        exact ⟨list, rfl, hblocks⟩
    | error err =>
        rw [hlist] at hblocks
        cases hblocks
  · have hnone : Expression.ofText? (anchored "(?x)a#b".toList) =
      Option.none := by cbv
    exact ofPatterns_eq_error_iff.mpr (Or.inl (by
      rw [List.mapM_cons, BlocklistEntry.ofPattern_eq_error_iff.mpr ⟨hnone, rfl⟩]
      rfl))

end Blocklist

end QueryGate
