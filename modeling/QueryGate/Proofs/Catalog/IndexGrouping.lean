import Mathlib.Data.List.Induction
import QueryGate.Proofs.Catalog.IndexViews

/-!
Index rows filed by table.

A first pass counts the rows of each constraint of each table. A second one files
the entry of each row under its table, and there once under its column and once
under its constraint. Main statement: there are maps for the tables that rows name
and for no others, and the two maps of a table file the same entries, which are
those that its indexes list.
-/

namespace QueryGate.Catalog

/-- How something is kept by key. -/
structure KeyedMap (μ κ β : Type) [DecidableEq κ] where
  empty : μ
  put : μ → κ → β → μ
  get? : μ → κ → Option β
  get?_empty : ∀ k, get? empty k = none
  get?_put : ∀ m key b k, get? (put m key b) k = if key = k
    then some b else get? m k

namespace KeyedMap

section Filing

variable {α β μ κ : Type} [DecidableEq κ] (p : KeyedMap μ κ β) (key : α → κ)
  (start : β) (add : β → α → β) {xs : List α} {k : κ}

/-- Adds a thing to what is kept for its key, or to `start` where nothing is kept
yet. -/
def file (m : μ) (x : α) : μ :=
  p.put m (key x) (add ((p.get? m (key x)).getD start) x)

/-- Files things from first to last. -/
def fileAll (xs : List α) : μ :=
  xs.foldl (p.file key start add) p.empty

theorem fileAll_concat (xs : List α) (x : α) :
    p.fileAll key start add (xs ++ [x]) =
      p.file key start add (p.fileAll key start add xs) x :=
  List.foldl_concat _ _ _ _

theorem filter_key_eq_nil (hnone : (xs.any fun x => key x = k) = false) :
    (xs.filter fun x => key x = k) = [] :=
  List.filter_eq_nil_iff.mpr (List.any_eq_false.mp hnone)

/-- What is kept for a key is what the things of the key add up to. -/
theorem get?_fileAll (xs : List α) (k : κ) :
    p.get? (p.fileAll key start add xs) k =
      if xs.any fun x => key x = k then
        some ((xs.filter fun x => key x = k).foldl add start)
      else none := by
  induction xs using List.reverseRecOn with
  | nil => exact p.get?_empty k
  | append_singleton xs x ih =>
      rw [fileAll_concat, file, p.get?_put]
      by_cases hkey : key x = k
      · rw [if_pos hkey, hkey, ih]
        cases hold : xs.any fun x => key x = k with
        | true => simp [hkey]
        | false => simp [hkey, filter_key_eq_nil key hold]
      · rw [if_neg hkey, ih]
        simp [hkey]

theorem getD_fileAll (xs : List α) (k : κ) :
    (p.get? (p.fileAll key start add xs) k).getD start =
      (xs.filter fun x => key x = k).foldl add start := by
  rw [get?_fileAll]
  cases hold : xs.any fun x => key x = k with
  | true => rfl
  | false => simp [filter_key_eq_nil key hold]

end Filing

/-- A hash map keeps things by key. -/
def hashed (κ β : Type) [DecidableEq κ] [BEq κ] [LawfulBEq κ] [Hashable κ] :
    KeyedMap (Std.HashMap κ β) κ β where
  empty := ∅
  put m key b := m.insert key b
  get? m key := m[key]?
  get?_empty _ := Std.HashMap.getElem?_empty
  get?_put m key b k := by rw [Std.HashMap.getElem?_insert]; simp only [beq_iff_eq]

/-- An ordered map keeps things by name. -/
def ordered (β : Type) : KeyedMap (Std.TreeMap String β) String β where
  empty := ∅
  put m name b := m.insert name b
  get? m name := m[name]?
  get?_empty _ := Std.TreeMap.getElem?_emptyc
  get?_put m name b k := by
    rw [Std.TreeMap.getElem?_insert]
    simp only [Std.LawfulEqCmp.compare_eq_iff_eq]

end KeyedMap

/-- The entries of a table by column and by constraint. -/
structure IndexMaps where
  byColumn : Std.TreeMap String (List IndexEntry)
  byConstraint : Std.TreeMap String (List IndexEntry)

namespace IndexMaps

def empty : IndexMaps :=
  ⟨∅, ∅⟩

def isEmpty (maps : IndexMaps) : Bool :=
  maps.byConstraint.isEmpty

/-- Files an entry at the end of its places. -/
def file (maps : IndexMaps) (entry : IndexEntry) : IndexMaps where
  byColumn :=
    (KeyedMap.ordered _).file IndexEntry.column [] List.concat maps.byColumn entry
  byConstraint :=
    (KeyedMap.ordered _).file IndexEntry.constraint [] List.concat
      maps.byConstraint entry

end IndexMaps

namespace IndexRow

def tableKey (row : IndexRow) : String × String :=
  (row.schema, row.table)

def constraintKey (row : IndexRow) : String × String × String :=
  (row.schema, row.table, row.constraint)

end IndexRow

namespace IndexEntry

def tableKey (entry : IndexEntry) : String × String :=
  (entry.schema, entry.table)

/-- The entry of a row whose constraint has so many rows. -/
def ofWidth (width : Nat) (row : IndexRow) : IndexEntry :=
  ⟨row.schema, row.constraint, row.table, row.type, row.column, decide (1 < width)⟩

end IndexEntry

/-- The number of rows of each constraint. -/
def constraintWidths (rows : List IndexRow) :
    Std.HashMap (String × String × String) Nat :=
  (KeyedMap.hashed _ _).fileAll IndexRow.constraintKey 0
    (fun width _ => width + 1) rows

/-- The entries of rows, with the widths that the first pass counted. -/
def countedEntries (rows : List IndexRow) : List IndexEntry :=
  rows.map fun row =>
    .ofWidth ((constraintWidths rows)[row.constraintKey]?.getD 1) row

/-- The entries of rows, filed by table. -/
def groupIndices (rows : List IndexRow) : Std.HashMap (String × String) IndexMaps :=
  (KeyedMap.hashed _ _).fileAll IndexEntry.tableKey .empty IndexMaps.file
    (countedEntries rows)

theorem sameConstraint_iff {row other : IndexRow} :
    row.sameConstraint other = true ↔ other.constraintKey = row.constraintKey := by
  simp only [IndexRow.sameConstraint, IndexRow.constraintKey, Bool.and_eq_true,
    decide_eq_true_eq, Prod.mk.injEq, and_assoc]
  constructor <;>
    · rintro ⟨hschema, htable, hconstraint⟩
      exact ⟨hschema.symm, htable.symm, hconstraint.symm⟩

theorem constraintWidths_of_mem {rows : List IndexRow} {row : IndexRow}
    (hrow : row ∈ rows) :
    (constraintWidths rows)[row.constraintKey]? =
      some (rows.countP row.sameConstraint) := by
  have hcount : ∀ xs : List IndexRow, xs.foldl (fun width _ => width + 1) 0 =
      xs.length := by
    intro xs
    induction xs using List.reverseRecOn with
    | nil => rfl
    | append_singleton xs x ih => simp [ih]
  have hkept :=
    (KeyedMap.hashed (String × String × String) Nat).get?_fileAll
      IndexRow.constraintKey
    0 (fun width _ => width + 1) rows row.constraintKey
  have hany :
      (rows.any fun other => other.constraintKey = row.constraintKey) = true :=
    List.any_eq_true.mpr ⟨row, hrow, decide_eq_true rfl⟩
  rw [if_pos hany, hcount, ← List.countP_eq_length_filter] at hkept
  refine hkept.trans (congrArg some (List.countP_congr fun other _ => ?_))
  rw [sameConstraint_iff, decide_eq_true_eq]

/-- The widths that were counted tell whether a constraint is composite. -/
theorem countedEntries_eq (rows : List IndexRow) :
    countedEntries rows = rows.map (IndexEntry.ofRow rows) := by
  refine List.map_congr_left fun row hrow => ?_
  rw [constraintWidths_of_mem hrow]
  rfl

/-- Of the entries of all rows, the indexes of a table have those of the table. -/
theorem filter_countedEntries (rows : List IndexRow) (schema table : String) :
    (countedEntries rows).filter (fun entry => entry.tableKey = (schema, table)) =
      (tableIndexes rows schema table).entries := by
  rw [countedEntries_eq, tableIndexes, List.filter_map]
  congr 1
  refine List.filter_congr fun row _ => ?_
  by_cases hschema : row.schema = schema <;> by_cases htable : row.table = table <;>
    simp [IndexEntry.tableKey, IndexEntry.ofRow, hschema, htable]

section Ordered

variable (key : IndexEntry → String) (entries : List IndexEntry)

theorem foldl_concat_nil (entries : List IndexEntry) :
    entries.foldl List.concat [] = entries := by
  induction entries using List.reverseRecOn with
  | nil => rfl
  | append_singleton entries entry ih => simp [ih]

/-- Under a name are the entries of the name, in order. -/
theorem getElem?_ordered (name : String) :
    ((KeyedMap.ordered _).fileAll key [] List.concat entries)[name]? =
      if entries.any fun entry => key entry = name then
        some (entries.filter fun entry => key entry = name)
      else none := by
  have hkept := (KeyedMap.ordered _).get?_fileAll key [] List.concat entries name
  rw [foldl_concat_nil] at hkept
  exact hkept

theorem getD_ordered (name : String) :
    ((KeyedMap.ordered _).fileAll key [] List.concat entries).getD name [] =
      entries.filter fun entry => key entry = name := by
  have hkept := (KeyedMap.ordered _).getD_fileAll key [] List.concat entries name
  rw [foldl_concat_nil] at hkept
  rw [Std.TreeMap.getD_eq_getD_getElem?]
  exact hkept

/-- An ordered map lists the view of its entries. -/
theorem toList_ordered :
    ((KeyedMap.ordered _).fileAll key [] List.concat entries).toList =
      (Text.sortedDistinct (entries.map key)).map fun name =>
        (name, entries.filter fun entry => key entry = name) := by
  set map := (KeyedMap.ordered _).fileAll key [] List.concat entries with hmap
  have hlisted : map.toList.Pairwise fun a b => a.1 < b.1 :=
    map.ordered_keys_toList.imp fun h => compareOfLessAndEq_eq_lt.mp h
  have hview : ((Text.sortedDistinct (entries.map key)).map fun name =>
      (name, entries.filter fun entry => key entry = name)).Pairwise
        fun a b => a.1 < b.1 :=
    List.pairwise_map.mpr (Text.pairwise_sortedDistinct _)
  have hnodup : ∀ places : List (String × List IndexEntry),
      (places.Pairwise fun a b => a.1 < b.1) → places.Nodup := by
    intro places h
    refine h.imp fun {a b} hlt hsame => ?_
    rw [hsame] at hlt
    exact String.lt_irrefl _ hlt
  -- Both are in strictly ascending order, so it is enough that they have the same
  -- places.
  refine List.Perm.eq_of_pairwise
    (fun a b _ _ hab hba => absurd hba (String.lt_asymm hab))
    hlisted hview
      ((List.perm_ext_iff_of_nodup (hnodup _ hlisted) (hnodup _ hview)).mpr ?_)
  rintro ⟨name, members⟩
  have hname : (entries.any fun entry => key entry = name) = true ↔
      name ∈ Text.sortedDistinct (entries.map key) := by
    simp [Text.mem_sortedDistinct]
  rw [Std.TreeMap.mem_toList_iff_getElem?_eq_some, hmap, getElem?_ordered]
  by_cases hthere : (entries.any fun entry => key entry = name) = true
  · simp [hthere, hname.mp hthere]
  · simp [hthere, mt hname.mpr hthere]

theorem isEmpty_ordered :
    ((KeyedMap.ordered _).fileAll key [] List.concat entries).isEmpty =
      entries.isEmpty := by
  rw [← Std.TreeMap.isEmpty_toList, toList_ordered, List.isEmpty_map]
  cases entries with
  | nil =>
      have hnone : Text.sortedDistinct [] = [] :=
        List.eq_nil_iff_forall_not_mem.mpr fun _ htext =>
        List.not_mem_nil (Text.mem_sortedDistinct.mp htext)
      rw [List.map_nil, hnone]
      rfl
  | cons entry rest =>
      have hthere : key entry ∈ Text.sortedDistinct ((entry :: rest).map key) :=
        Text.mem_sortedDistinct.mpr List.mem_cons_self
      rw [List.isEmpty_cons, List.isEmpty_eq_false_iff]
      exact List.ne_nil_of_mem hthere

end Ordered

namespace IndexMaps

theorem foldl_file (maps : IndexMaps) (entries : List IndexEntry) :
    entries.foldl file maps =
      ⟨entries.foldl ((KeyedMap.ordered _).file IndexEntry.column [] List.concat)
        maps.byColumn,
        entries.foldl ((KeyedMap.ordered _).file IndexEntry.constraint []
          List.concat) maps.byConstraint⟩ := by
  induction entries generalizing maps with
  | nil => rfl
  | cons entry rest ih => exact ih (maps.file entry)

/-- The maps of some entries. -/
def ofEntries (entries : List IndexEntry) : IndexMaps where
  byColumn := (KeyedMap.ordered _).fileAll IndexEntry.column [] List.concat entries
  byConstraint :=
    (KeyedMap.ordered _).fileAll IndexEntry.constraint [] List.concat entries

theorem foldl_file_empty (entries : List IndexEntry) :
    entries.foldl file .empty = ofEntries entries :=
  foldl_file .empty entries

end IndexMaps

/-- Filing row by row comes to the entries of each table. -/
theorem getElem?_groupIndices (rows : List IndexRow) (schema table : String) :
    (groupIndices rows)[(schema, table)]? =
      if rows.any fun row => row.schema = schema && row.table = table then
        some (.ofEntries (tableIndexes rows schema table).entries)
      else none := by
  have hkept :=
    (KeyedMap.hashed (String × String) IndexMaps).get?_fileAll IndexEntry.tableKey
    .empty IndexMaps.file (countedEntries rows) (schema, table)
  have hany : ((countedEntries rows).any fun entry =>
    entry.tableKey = (schema, table)) =
      rows.any fun row => row.schema = schema && row.table = table := by
    rw [countedEntries, List.any_map]
    simp [IndexEntry.tableKey, IndexEntry.ofWidth, Function.comp_def]
  rw [filter_countedEntries, IndexMaps.foldl_file_empty, hany] at hkept
  exact hkept

/-- A table that no row names has the maps of no entries. -/
theorem getD_groupIndices (rows : List IndexRow) (schema table : String) :
    (groupIndices rows).getD (schema, table) .empty =
      .ofEntries (tableIndexes rows schema table).entries := by
  have hkept :=
    (KeyedMap.hashed (String × String) IndexMaps).getD_fileAll IndexEntry.tableKey
    .empty IndexMaps.file (countedEntries rows) (schema, table)
  rw [filter_countedEntries, IndexMaps.foldl_file_empty] at hkept
  rw [Std.HashMap.getD_eq_getD_getElem?]
  exact hkept

namespace IndexMaps

/-- The maps file the entries that rows report for a table, each of them once under
its column and once under its constraint. -/
structure Filed (maps : IndexMaps) (rows : List IndexRow) (schema table : String)
    (entries : List IndexEntry) : Prop where
  onePerRow : entries.map IndexEntry.row =
    rows.filter fun row => row.schema = schema && row.table = table
  column : ∀ name, maps.byColumn.getD name [] = entries.filter (·.column = name)
  constraint : ∀ name, maps.byConstraint.getD name [] =
    entries.filter (·.constraint = name)
  allByColumn : (maps.byColumn.toList.flatMap Prod.snd).Perm entries
  allByConstraint : (maps.byConstraint.toList.flatMap Prod.snd).Perm entries
  composite_iff : ∀ entry ∈ entries, entry.composite = true ↔
    2 ≤ rows.countP fun row => row.constraintKey = (schema, table, entry.constraint)
  agree : ∀ entry ∈ entries, ∀ other ∈ entries,
    entry.constraint = other.constraint →
    entry.composite = other.composite
  isEmpty_iff : maps.isEmpty = true ↔
    maps.byColumn.isEmpty = true ∧ maps.byConstraint.isEmpty = true

/-- What is asked of the indexes of a table is what the maps hold. -/
structure Answer (maps : IndexMaps) (indexes : TableIndexes) : Prop where
  ofColumn : ∀ name, indexes.ofColumn name = maps.byColumn.getD name []
  ofConstraint : ∀ name, indexes.ofConstraint name = maps.byConstraint.getD name []
  byColumn : indexes.byColumn = maps.byColumn.toList
  byConstraint : indexes.byConstraint = maps.byConstraint.toList
  isEmpty : indexes.isEmpty = maps.isEmpty

theorem answer_ofEntries (indexes : TableIndexes) :
    (ofEntries indexes.entries).Answer indexes where
  ofColumn name := (getD_ordered IndexEntry.column _ name).symm
  ofConstraint name := (getD_ordered IndexEntry.constraint _ name).symm
  byColumn := (toList_ordered IndexEntry.column _).symm
  byConstraint := (toList_ordered IndexEntry.constraint _).symm
  isEmpty := (isEmpty_ordered IndexEntry.constraint _).symm

/-- The entries of a table agree on a constraint, as its rows are counted and
nothing else is. -/
theorem composite_iff {rows : List IndexRow} {schema table : String}
    {entry : IndexEntry}
    (hentry : entry ∈ (tableIndexes rows schema table).entries) :
    entry.composite = true ↔
      2 ≤ rows.countP fun row =>
        row.constraintKey = (schema, table, entry.constraint) := by
  obtain ⟨row, hrow, rfl⟩ := List.mem_map.mp hentry
  obtain ⟨rfl, rfl⟩ : row.schema = schema ∧ row.table = table := by
    simpa using (List.mem_filter.mp hrow).2
  have hcount : rows.countP row.sameConstraint =
      rows.countP fun other => other.constraintKey = row.constraintKey := by
    refine List.countP_congr fun other _ => ?_
    rw [sameConstraint_iff, decide_eq_true_eq]
  show decide (1 < rows.countP row.sameConstraint) = true ↔ _
  rw [hcount, decide_eq_true_eq]
  exact Nat.succ_le_iff.symm

theorem filed_tableIndexes (rows : List IndexRow) (schema table : String) :
    (ofEntries (tableIndexes rows schema table).entries).Filed rows schema table
      (tableIndexes rows schema table).entries where
  onePerRow := (hold_tableIndexes rows schema table).entries
  column := getD_ordered IndexEntry.column _
  constraint := getD_ordered IndexEntry.constraint _
  allByColumn := by
    rw [ofEntries, toList_ordered]
    exact (hold_tableIndexes rows schema table).byColumn.all
  allByConstraint := by
    rw [ofEntries, toList_ordered]
    exact (hold_tableIndexes rows schema table).byConstraint.all
  composite_iff _ := composite_iff
  agree entry hentry other hother hsame := by
    rw [Bool.eq_iff_iff, composite_iff hentry, composite_iff hother, hsame]
  isEmpty_iff := by
    rw [isEmpty, ofEntries, isEmpty_ordered, isEmpty_ordered, and_self]

end IndexMaps

/-- Index rows are filed by table: there are maps for exactly the tables that rows
name, the maps of a table file its entries under columns and under constraints and
are what its indexes tell, and no row of another table has a part in them. -/
theorem groupIndices_filed (rows : List IndexRow) (schema table : String) :
    ((schema, table) ∈ groupIndices rows ↔
      ∃ row ∈ rows, row.schema = schema ∧ row.table = table) ∧
    ((groupIndices rows).getD (schema, table) .empty).Filed rows schema table
      (tableIndexes rows schema table).entries ∧
    ((groupIndices rows).getD (schema, table) .empty).Answer
      (tableIndexes rows schema table) ∧
    (groupIndices rows)[(schema, table)]? =
      (groupIndices (rows.filter fun row =>
        row.schema = schema && row.table = table))[(schema, table)]? := by
  refine ⟨?_, ?_, ?_, ?_⟩
  · have hnamed :
        (rows.any fun row => row.schema = schema && row.table = table) = true ↔
        ∃ row ∈ rows, row.schema = schema ∧ row.table = table := by
      simp [List.any_eq_true]
    rw [Std.HashMap.mem_iff_isSome_getElem?, getElem?_groupIndices, ← hnamed]
    cases rows.any fun row => row.schema = schema && row.table = table <;> simp
  · rw [getD_groupIndices]
    exact IndexMaps.filed_tableIndexes rows schema table
  · rw [getD_groupIndices]
    exact IndexMaps.answer_ofEntries _
  · rw [getElem?_groupIndices, getElem?_groupIndices, tableIndexes_filter,
      List.any_filter]
    simp only [Bool.and_self]

end QueryGate.Catalog
