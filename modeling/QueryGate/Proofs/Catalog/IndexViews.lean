import Mathlib.Data.List.Nodup
import QueryGate.Catalog.Index

/-!
The indexes of a table and their two views.

The entries of a table are listed by column and by constraint. Either view takes the
names that occur, each of them once and in ascending order, and gives every entry
its place under its own name.
-/

namespace QueryGate

namespace Text

/-- A text is kept unless the same text comes next. -/
theorem eraseReps_loop_cons (text next : String) (rest done : List String) :
    List.eraseRepsBy.loop (· == ·) text (next :: rest) done =
      List.eraseRepsBy.loop (· == ·) next rest
        (if text = next then done else text :: done) := by
  rw [List.eraseRepsBy.loop]
  by_cases hsame : text = next
  · simp [hsame]
  · rw [if_neg hsame, beq_eq_false_iff_ne.mpr hsame]

/-- What is kept so far goes in front of what is kept of the rest. -/
theorem eraseReps_loop (text : String) (rest done : List String) :
    List.eraseRepsBy.loop (· == ·) text rest done = done.reverse ++
      (text :: rest).eraseReps := by
  have hstart : ∀ (text : String) (rest : List String),
      (text :: rest).eraseReps = List.eraseRepsBy.loop (· == ·) text rest [] :=
        fun _ _ => rfl
  induction rest generalizing text done with
  | nil => simp [hstart, List.eraseRepsBy.loop]
  | cons next rest ih =>
      rw [hstart, eraseReps_loop_cons, eraseReps_loop_cons, ih, ih]
      by_cases hsame : text = next <;> simp [hsame]

theorem eraseReps_cons_cons (text next : String) (rest : List String) :
    (text :: next :: rest).eraseReps =
      if text = next then (next :: rest).eraseReps
      else text :: (next :: rest).eraseReps := by
  show List.eraseRepsBy.loop (· == ·) text (next :: rest) [] = _
  rw [eraseReps_loop_cons, eraseReps_loop]
  by_cases hsame : text = next <;> simp [hsame]

theorem mem_eraseReps {texts : List String} {text : String} :
    text ∈ texts.eraseReps ↔ text ∈ texts := by
  induction texts with
  | nil => rfl
  | cons first rest ih =>
      cases rest with
      | nil => rfl
      | cons next rest =>
          rw [eraseReps_cons_cons]
          by_cases hsame : first = next
          · rw [if_pos hsame, ih]
            simp [hsame]
          · rw [if_neg hsame, List.mem_cons, ih,
              List.mem_cons (a := text) (b := first)]

/-- Sorted texts without repetitions are strictly ascending. -/
theorem pairwise_eraseReps {texts : List String}
    (hsorted : texts.Pairwise (· ≤ ·)) : texts.eraseReps.Pairwise (· < ·) := by
  induction texts with
  | nil => exact List.Pairwise.nil
  | cons first rest ih =>
      cases rest with
      | nil => exact List.pairwise_singleton _ _
      | cons next rest =>
          have hrest := ih hsorted.tail
          rw [eraseReps_cons_cons]
          by_cases hsame : first = next
          · rw [if_pos hsame]
            exact hrest
          · rw [if_neg hsame, List.pairwise_cons]
            have hle : ∀ text ∈ next :: rest, first ≤ text :=
              (List.pairwise_cons.mp hsorted).1
            have hnext : ∀ text ∈ next :: rest, next ≤ text := by
              intro text htext
              rcases List.mem_cons.mp htext with rfl | hmem
              · exact String.le_refl text
              · exact (List.pairwise_cons.mp hsorted.tail).1 text hmem
            refine ⟨fun text htext => ?_, hrest⟩
            have hmem := mem_eraseReps.mp htext
            -- Nothing that follows is the first text, as even the smallest of it is
            -- another one.
            have hne : first ≠ text := fun hsame' =>
              hsame (String.le_antisymm (hle next List.mem_cons_self)
                (hsame' ▸ hnext text hmem))
            exact Std.lt_of_le_of_ne (hle text hmem) hne

theorem mem_sortedDistinct {texts : List String} {text : String} :
    text ∈ sortedDistinct texts ↔ text ∈ texts := by
  rw [sortedDistinct, mem_eraseReps, sorted, List.mem_mergeSort]

theorem pairwise_sortedDistinct (texts : List String) :
    (sortedDistinct texts).Pairwise (· < ·) := by
  apply pairwise_eraseReps
  have hsorted : (sorted texts).Pairwise fun a b => decide (a ≤ b) = true := by
    apply List.pairwise_mergeSort
    · intro a b c hab hbc
      exact decide_eq_true (String.le_trans (of_decide_eq_true hab)
        (of_decide_eq_true hbc))
    · intro a b
      simpa using String.le_total a b
  exact hsorted.imp fun h => of_decide_eq_true h

theorem nodup_sortedDistinct (texts : List String) : (sortedDistinct texts).Nodup :=
  (pairwise_sortedDistinct texts).imp String.ne_of_lt

end Text

namespace Catalog

/-- Things that are sorted into places by their keys are all there, each of them
once. -/
theorem perm_flatMap_filter {α κ : Type} [DecidableEq κ] {key : α → κ}
    {keys : List κ} (hkeys : keys.Nodup) {xs : List α}
    (hall : ∀ x ∈ xs, key x ∈ keys) :
    (keys.flatMap fun k => xs.filter fun x => key x = k).Perm xs := by
  induction keys generalizing xs with
  | nil =>
      have hnone : xs = [] := List.eq_nil_iff_forall_not_mem.mpr fun x hx => by
        cases hall x hx
      rw [hnone]
      exact .nil
  | cons k keys ih =>
      obtain ⟨hfresh, hrest⟩ := List.nodup_cons.mp hkeys
      -- The other places are filled from what does not belong here.
      have hothers : (keys.flatMap fun k' => xs.filter fun x => key x = k') =
          keys.flatMap fun k' => (xs.filter fun x => !decide (key x = k)).filter
            fun x => key x = k' := by
        apply List.flatMap_congr
        intro k' hk'
        have hne : k' ≠ k := fun hsame => hfresh (hsame ▸ hk')
        rw [List.filter_filter]
        apply List.filter_congr
        intro x _
        by_cases hx : key x = k' <;> simp [hx, hne]
      have hleft : ∀ x ∈ xs.filter fun x => !decide (key x = k), key x ∈ keys := by
        intro x hx
        obtain ⟨hmem, hother⟩ := List.mem_filter.mp hx
        rcases List.mem_cons.mp (hall x hmem) with hsame | hthere
        · simp [hsame] at hother
        · exact hthere
      rw [List.flatMap_cons, hothers]
      exact ((ih hrest hleft).append_left _).trans (List.filter_append_perm _ _)

/-- Entries by a name that each of them has. -/
structure IsView (key : IndexEntry → String) (entries : List IndexEntry)
    (view : List (String × List IndexEntry)) : Prop where
  ascending : (view.map Prod.fst).Pairwise (· < ·)
  own : ∀ name members, (name, members) ∈ view → ∀ entry ∈ members, key entry = name
  filled : ∀ name members, (name, members) ∈ view → members ≠ []
  all : (view.flatMap Prod.snd).Perm entries

theorem isView_of_key (key : IndexEntry → String) (entries : List IndexEntry) :
    IsView key entries ((Text.sortedDistinct (entries.map key)).map fun name =>
      (name, entries.filter fun entry => key entry = name)) where
  ascending := by
    rw [List.map_map]
    exact (List.map_id _).symm ▸ Text.pairwise_sortedDistinct _
  own name members hplace entry hentry := by
    obtain ⟨_, _, hsame⟩ := List.mem_map.mp hplace
    obtain ⟨rfl, rfl⟩ := Prod.mk.inj hsame
    simpa using (List.mem_filter.mp hentry).2
  filled name members hplace := by
    obtain ⟨_, hname, hsame⟩ := List.mem_map.mp hplace
    obtain ⟨rfl, rfl⟩ := Prod.mk.inj hsame
    obtain ⟨entry, hentry, hkey⟩ :=
      List.mem_map.mp (Text.mem_sortedDistinct.mp hname)
    exact List.ne_nil_of_mem (List.mem_filter.mpr ⟨hentry, by simpa using hkey⟩)
  all := by
    rw [List.flatMap_map]
    apply perm_flatMap_filter (Text.nodup_sortedDistinct _)
    exact fun entry hentry => Text.mem_sortedDistinct.mpr
      (List.mem_map_of_mem hentry)

/-- The row that an entry is made of. -/
def IndexEntry.row (entry : IndexEntry) : IndexRow :=
  ⟨entry.schema, entry.constraint, entry.table, entry.type, entry.column⟩

/-- The indexes are those that rows report for a table. A constraint is composite
when it has more than one entry. -/
structure TableIndexes.Hold (rows : List IndexRow) (schema name : String)
    (indexes : TableIndexes) : Prop where
  entries : indexes.entries.map IndexEntry.row =
    rows.filter fun row => row.schema = schema && row.table = name
  composite : ∀ entry ∈ indexes.entries,
    entry.composite = decide (1 < (indexes.ofConstraint entry.constraint).length)
  byColumn : IsView IndexEntry.column indexes.entries indexes.byColumn
  byConstraint : IsView IndexEntry.constraint indexes.entries indexes.byConstraint

/-- What other tables report is of no account for a table. -/
theorem tableIndexes_filter (rows : List IndexRow) (schema table : String) :
    tableIndexes (rows.filter fun row => row.schema = schema && row.table = table)
    schema table =
      tableIndexes rows schema table := by
  rw [tableIndexes, tableIndexes, List.filter_filter]
  simp only [Bool.and_self]
  congr 1
  refine List.map_congr_left fun row hrow => ?_
  obtain ⟨hschema, htable⟩ : row.schema = schema ∧ row.table = table := by
    simpa using (List.mem_filter.mp hrow).2
  have hcount :
    (rows.filter fun row => row.schema = schema && row.table = table).countP
      row.sameConstraint = rows.countP row.sameConstraint := by
    rw [List.countP_filter]
    refine List.countP_congr fun other _ => ?_
    simp only [IndexRow.sameConstraint, hschema, htable, Bool.and_eq_true,
      decide_eq_true_eq]
    exact ⟨And.left, fun h => ⟨h, h.1.1.symm, h.1.2.symm⟩⟩
  rw [IndexEntry.ofRow, IndexEntry.ofRow, hcount]

theorem length_ofConstraint_tableIndexes (rows : List IndexRow) (row : IndexRow) :
    ((tableIndexes rows row.schema row.table).ofConstraint row.constraint).length =
      rows.countP row.sameConstraint := by
  rw [tableIndexes, TableIndexes.ofConstraint, ← List.countP_eq_length_filter,
    List.countP_map, List.countP_filter]
  apply List.countP_congr
  intro other _
  simp only [Function.comp_apply, IndexEntry.ofRow, IndexRow.sameConstraint,
    Bool.and_eq_true, decide_eq_true_eq]
  constructor
  · rintro ⟨hconstraint, hschema, htable⟩
    exact ⟨⟨hschema.symm, htable.symm⟩, (of_decide_eq_true hconstraint).symm⟩
  · rintro ⟨⟨hschema, htable⟩, hconstraint⟩
    exact ⟨decide_eq_true hconstraint.symm, hschema.symm, htable.symm⟩

theorem hold_tableIndexes (rows : List IndexRow) (schema name : String) :
    (tableIndexes rows schema name).Hold rows schema name where
  entries := by
    rw [tableIndexes, List.map_map]
    exact List.map_id _
  composite entry hentry := by
    obtain ⟨row, hrow, rfl⟩ := List.mem_map.mp hentry
    obtain ⟨hschema, hname⟩ : row.schema = schema ∧ row.table = name := by
      simpa using (List.mem_filter.mp hrow).2
    rw [← hschema, ← hname]
    show _ = decide (1 < ((tableIndexes rows row.schema row.table).ofConstraint
      row.constraint).length)
    rw [length_ofConstraint_tableIndexes]
    rfl
  byColumn := isView_of_key IndexEntry.column _
  byConstraint := isView_of_key IndexEntry.constraint _

end Catalog

end QueryGate
