import QueryGate.Blocklist
import QueryGate.Proofs.Sequence

/-!
The entries of a blocklist.

Each entry is read from its own pattern. A list is refused as the first pattern that
is refused, or as a whole when its patterns are too large together.
-/

namespace QueryGate

open Pattern

namespace BlocklistEntry

theorem ofPattern_eq_ok_iff {pattern : String} {entry : BlocklistEntry} :
    ofPattern pattern = .ok entry ↔
      Expression.ofText? (anchored pattern.toList) = some entry.expression ∧
        pattern = entry.pattern := by
  obtain ⟨text, e⟩ := entry
  rw [ofPattern]
  cases Expression.ofText? (anchored pattern.toList) with
  | none => simp
  | some e' => simp [and_comm]

theorem ofPattern_eq_error_iff {pattern : String} {err : Error} :
    ofPattern pattern = .error err ↔
      Expression.ofText? (anchored pattern.toList) = none ∧
      err = .invalidBlocklist pattern := by
  rw [ofPattern]
  cases Expression.ofText? (anchored pattern.toList) with
  | none => simp [eq_comm]
  | some e => simp

theorem exists_ofPattern_iff {pattern : String} :
    (∃ entry, ofPattern pattern = .ok entry) ↔
      (Expression.ofText? (anchored pattern.toList)).isSome := by
  rw [ofPattern]
  cases Expression.ofText? (anchored pattern.toList) <;> simp

end BlocklistEntry

namespace Blocklist

theorem ofPatterns_eq_ok_iff {patterns : List String} {list : Blocklist} :
    ofPatterns patterns = .ok list ↔
      patterns.mapM BlocklistEntry.ofPattern = .ok list.entries ∧
        Expression.fitTogether (list.entries.map BlocklistEntry.expression) =
          true := by
  obtain ⟨entries⟩ := list
  simp only [ofPatterns, bind_eq_ok_iff]
  constructor
  · rintro ⟨read, hread, hlist⟩
    split_ifs at hlist with hfit
    cases hlist
    exact ⟨hread, hfit⟩
  · rintro ⟨hread, hfit⟩
    exact ⟨entries, hread, if_pos hfit⟩

theorem ofPatterns_eq_error_iff {patterns : List String} {err : Error} :
    ofPatterns patterns = .error err ↔
      patterns.mapM BlocklistEntry.ofPattern = .error err ∨
      ∃ entries, patterns.mapM BlocklistEntry.ofPattern = .ok entries ∧
        Expression.fitTogether (entries.map BlocklistEntry.expression) = false ∧
        err = .invalidBlocklist (", ".intercalate patterns) := by
  simp only [ofPatterns, bind_eq_error_iff]
  refine or_congr_right (exists_congr fun entries => and_congr_right fun _ => ?_)
  split_ifs with hfit
  · simp [hfit, pure, Except.pure]
  · simp [hfit, throw, throwThe, MonadExceptOf.throw, eq_comm]

/-- The entries of a list are those of its patterns. -/
theorem mem_entries_of_ofPatterns {patterns : List String} {list : Blocklist}
    (h : ofPatterns patterns = .ok list) {entry : BlocklistEntry} :
    entry ∈ list.entries ↔ ∃ pattern ∈ patterns,
    BlocklistEntry.ofPattern pattern = .ok entry :=
  mem_of_mapM (ofPatterns_eq_ok_iff.mp h).1

theorem blocks_iff {patterns : List String} {list : Blocklist}
    (h : ofPatterns patterns = .ok list) {name : String} :
    list.blocks name = true ↔
      ∃ pattern ∈ patterns, ∃ e,
        Expression.ofText? (anchored pattern.toList) = some e ∧
        e.occursIn name.toList = true := by
  simp only [blocks, List.any_eq_true, mem_entries_of_ofPatterns h,
    BlocklistEntry.ofPattern_eq_ok_iff]
  constructor
  · rintro ⟨entry, ⟨pattern, hpattern, hread, -⟩, hname⟩
    exact ⟨pattern, hpattern, entry.expression, hread, hname⟩
  · rintro ⟨pattern, hpattern, e, hread, hname⟩
    exact ⟨⟨pattern, e⟩, ⟨pattern, hpattern, hread, rfl⟩, hname⟩

/-- More patterns block more names. -/
theorem blocks_of_subset {patterns more : List String} {list larger : Blocklist}
    (hlist : ofPatterns patterns = .ok list)
    (hlarger : ofPatterns more = .ok larger) (hsubset : patterns ⊆ more)
    {name : String} (hblocks : list.blocks name = true) :
    larger.blocks name = true := by
  obtain ⟨pattern, hpattern, hname⟩ := (blocks_iff hlist).mp hblocks
  exact (blocks_iff hlarger).mpr ⟨pattern, hsubset hpattern, hname⟩

/-- The patterns of what is read, in their order. -/
theorem map_expression_of_mapM {patterns : List String}
    {entries : List BlocklistEntry}
    (h : patterns.mapM BlocklistEntry.ofPattern = .ok entries) :
    entries.map BlocklistEntry.expression =
      patterns.filterMap fun pattern =>
        Expression.ofText? (anchored pattern.toList) := by
  rw [mapM_eq_ok_iff] at h
  induction h with
  | nil => rfl
  | cons hread _ ih =>
      rw [List.map_cons, ih, List.filterMap_cons,
        (BlocklistEntry.ofPattern_eq_ok_iff.mp hread).1]

end Blocklist

end QueryGate
