import QueryGate.Catalog.Model
import QueryGate.Proofs.Catalog.Collecting
import QueryGate.Proofs.Catalog.Shape

/-!
What rows come to.

Columns are collected from their rows, tables from columns, and functions from their
rows. For each of them the lemmas say what is found for a key: a column has the
first type and the first foreign key that its rows name and every flag that one of
them sets, and a table has its columns and the first kind that one of them reports.
-/

namespace QueryGate.Catalog

theorem firstFilled_assoc (a b c : String) :
    firstFilled (firstFilled a b) c = firstFilled a (firstFilled b c) := by
  by_cases h : a.isEmpty = true <;> simp [firstFilled, h]

/-- The first text that is not empty, if there is one. -/
def filled (texts : List String) : String :=
  texts.foldr firstFilled ""

theorem filled_cons (head : String) (tail : List String) :
    filled (head :: tail) = if head = "" then filled tail else head := by
  simp [filled, firstFilled]

theorem foldl_firstFilled (text : String) (texts : List String) :
    texts.foldl firstFilled text = firstFilled text (filled texts) := by
  induction texts generalizing text with
  | nil => by_cases h : text = "" <;> simp [filled, firstFilled, h]
  | cons head tail ih =>
      rw [List.foldl_cons, ih, firstFilled_assoc]
      rfl

theorem filled_eq_empty_iff {texts : List String} :
    filled texts = "" ↔ ∀ text ∈ texts, text = "" := by
  induction texts with
  | nil => simp [filled]
  | cons head tail ih => by_cases h : head = "" <;> simp [filled_cons, h, ih]

theorem filled_mem {texts : List String} (h : filled texts ≠ "") :
    filled texts ∈ texts := by
  induction texts with
  | nil => exact absurd rfl h
  | cons head tail ih =>
      rw [filled_cons] at h ⊢
      by_cases hempty : head = ""
      · rw [if_pos hempty] at h ⊢
        exact List.mem_cons_of_mem _ (ih h)
      · rw [if_neg hempty]
        exact List.mem_cons_self

namespace MergedColumn

/-- A merged column without its number. -/
def shape (m : MergedColumn) : MergedColumn :=
  { m with column := m.column.shape }

/-- The table that a column belongs to. -/
def tableKey (m : MergedColumn) : String × String :=
  (m.column.schema, m.column.table)

/-- What the rows of one key come to. -/
def ofRows (blocked : String → Bool) (key : ColumnKey) (rows : List ColumnRow) :
    MergedColumn :=
  rows.foldl absorb (unknown 0 key (blocked key.name))

end MergedColumn

/-- The flags that one of the rows sets. -/
def setFlagsOf (rows : List ColumnRow) : ColumnFlags :=
  rows.foldr (fun row flags => row.setFlags.union flags) .none

/-- The first foreign key that rows name. -/
def firstForeignKey? (rows : List ColumnRow) : Option ForeignKey :=
  rows.findSome? ColumnRow.foreignKey

theorem ColumnFlags.union_none (flags : ColumnFlags) :
    flags.union .none = flags := by
  simp [union, ColumnFlags.none]

theorem ColumnFlags.none_union (flags : ColumnFlags) :
    ColumnFlags.none.union flags = flags := by
  simp [union, ColumnFlags.none]

theorem ColumnFlags.union_assoc (a b c : ColumnFlags) :
    (a.union b).union c = a.union (b.union c) := by
  simp [union, Bool.or_assoc]

theorem ColumnFlags.union_left_comm (a b c : ColumnFlags) :
    a.union (b.union c) = b.union (a.union c) := by
  simp [union, Bool.or_left_comm]

/-- Rows in another order set the same flags. -/
theorem setFlagsOf_perm {rows rows' : List ColumnRow} (h : rows.Perm rows') :
    setFlagsOf rows = setFlagsOf rows' := by
  refine h.foldr_eq' (fun row _ row' _ flags => ?_) _
  exact ColumnFlags.union_left_comm _ _ _

theorem MergedColumn.foldl_absorb (m : MergedColumn) (rows : List ColumnRow) :
    rows.foldl absorb m =
      { column :=
          { m.column with
            type := firstFilled m.column.type (filled (rows.map ColumnRow.type))
            flags := m.column.flags.union (setFlagsOf rows)
            foreignKey := m.column.foreignKey <|> firstForeignKey? rows }
        tableKind :=
          firstFilled m.tableKind (filled (rows.map ColumnRow.tableKind)) } := by
  induction rows generalizing m with
  | nil =>
      have hkeep : ∀ text : String, firstFilled text (filled []) = text :=
        fun text =>
        (foldl_firstFilled text []).symm
      simp [hkeep, setFlagsOf, firstForeignKey?, ColumnFlags.union_none]
  | cons row rest ih =>
      rw [List.foldl_cons, ih]
      have hkey : firstForeignKey? (row :: rest) =
          row.foreignKey.or (firstForeignKey? rest) := by
        cases hrow : row.foreignKey <;> simp [firstForeignKey?, hrow]
      simp [absorb, firstFilled_assoc, ColumnFlags.union_assoc, filled,
        setFlagsOf, hkey, Option.or_assoc]

theorem MergedColumn.ofRows_eq (blocked : String → Bool) (key : ColumnKey)
    (rows : List ColumnRow) :
    ofRows blocked key rows =
      ⟨⟨0, key.schema, key.table, key.name, filled (rows.map ColumnRow.type),
        setFlagsOf rows, firstForeignKey? rows, blocked key.name⟩,
          filled (rows.map ColumnRow.tableKind)⟩ := by
  rw [ofRows, foldl_absorb]
  simp [unknown, firstFilled, ColumnFlags.none_union]

/-- Columns are collected by what identifies them. -/
def columnCollection (blocked : String → Bool) :
    Collection ColumnRow MergedColumn ColumnKey where
  rowKey := ColumnRow.key
  groupKey m := m.column.key
  begin? row :=
    some ((MergedColumn.unknown 0 row.key (blocked row.name)).absorb row)
  add := MergedColumn.absorb
  key_begin h := by cases h; rfl
  key_add _ _ := rfl

section Columns

variable (blocked : String → Bool)

theorem map_shape_addRow (row : ColumnRow) (id : Nat) (merged : List MergedColumn) :
    (addRow blocked row id merged).map MergedColumn.shape =
      (columnCollection blocked).put row (merged.map MergedColumn.shape) := by
  induction merged with
  | nil => rfl
  | cons m rest ih =>
      by_cases hsame : m.column.key = row.key
      · have hshape : m.shape.column.key = row.key := hsame
        simp [addRow, Collection.put, columnCollection, hsame, hshape]
        rfl
      · have hshape : ¬ m.shape.column.key = row.key := hsame
        rw [addRow, if_neg hsame, List.map_cons, ih, List.map_cons, Collection.put]
        exact (if_neg hshape).symm

/-- Up to their numbers, columns are collected from their rows. -/
theorem map_shape_mergeColumns (rows : List ColumnRow) :
    (mergeColumns blocked rows).map MergedColumn.shape =
      (columnCollection blocked).collect rows := by
  have hfold : ∀ merged : List MergedColumn,
      (rows.foldl (fun merged row => addRow blocked row merged.length merged)
        merged).map
          MergedColumn.shape =
        rows.foldl (fun groups row => (columnCollection blocked).put row groups)
          (merged.map MergedColumn.shape) := by
    induction rows with
    | nil => exact fun _ => rfl
    | cons row rest ih =>
        intro merged
        rw [List.foldl_cons, ih, map_shape_addRow]
        rfl
  exact hfold []

/-- What is found for a key is what its rows come to. -/
theorem find?_mergeColumns (rows : List ColumnRow) (key : ColumnKey) :
    ((mergeColumns blocked rows).map MergedColumn.shape).find?
    (fun m => m.column.key = key) =
      if rows.filter (fun row => row.key = key) = [] then none
      else some (.ofRows blocked key (rows.filter fun row => row.key = key)) := by
  rw [map_shape_mergeColumns]
  refine ((columnCollection blocked).find?_collect rows key).trans ?_
  have hkey : ∀ row ∈ rows.filter (fun row => row.key = key), row.key = key :=
    fun row hrow => by
    simpa using (List.mem_filter.mp hrow).2
  show (columnCollection blocked).group? (rows.filter fun row => row.key = key) = _
  cases hrows : rows.filter (fun row => row.key = key) with
  | nil => rfl
  | cons row rest =>
      have hrow : row.key = key :=
        hkey row (by rw [hrows]; exact List.mem_cons_self)
      have hname : row.name = key.name := congrArg ColumnKey.name hrow
      rw [if_neg (List.cons_ne_nil _ _), Collection.group?, List.foldl_cons,
        MergedColumn.ofRows, List.foldl_cons, ← hname, ← hrow]
      exact Collection.foldl_extend_some _ _ _

/-- There is one column for each key. -/
theorem nodup_keys_mergeColumns (rows : List ColumnRow) :
    ((mergeColumns blocked rows).map fun m => m.column.key).Nodup := by
  have hkeys := (columnCollection blocked).nodup_keys_collect rows
  rw [← map_shape_mergeColumns, List.map_map] at hkeys
  exact hkeys

theorem nodup_keys_shape_mergeColumns (rows : List ColumnRow) :
    (((mergeColumns blocked rows).map MergedColumn.shape).map fun m =>
      m.column.key).Nodup := by
  rw [List.map_map]
  exact nodup_keys_mergeColumns blocked rows

/-- A column is what the rows of its key come to. -/
theorem shape_of_mem_mergeColumns {rows : List ColumnRow} {m : MergedColumn}
    (hm : m ∈ mergeColumns blocked rows) :
    m.shape = .ofRows blocked m.column.key
      (rows.filter fun row => row.key = m.column.key) := by
  have hfound := find?_key_of_mem (nodup_keys_shape_mergeColumns blocked rows)
    (List.mem_map_of_mem hm)
  rw [find?_mergeColumns] at hfound
  split at hfound
  · cases hfound
  · exact (Option.some.inj hfound).symm

/-- A row is about one of the columns. -/
theorem exists_column_of_mem {rows : List ColumnRow} {row : ColumnRow}
    (hrow : row ∈ rows) :
    ∃ m ∈ mergeColumns blocked rows, m.column.key = row.key := by
  have hrows : rows.filter (fun other => other.key = row.key) ≠ [] :=
    List.ne_nil_of_mem (List.mem_filter.mpr ⟨hrow, by simp⟩)
  have hfound := find?_mergeColumns blocked rows row.key
  rw [if_neg hrows, List.find?_map, Option.map_eq_some_iff] at hfound
  obtain ⟨m, hm, _⟩ := hfound
  have hkey : m.shape.column.key = row.key := by simpa using List.find?_some hm
  exact ⟨m, List.mem_of_find?_eq_some hm, hkey⟩

end Columns

def TableGroup.key (group : TableGroup) : String × String :=
  (group.schema, group.name)

/-- Tables are collected by schema and name. -/
def tableCollection : Collection MergedColumn TableGroup (String × String) where
  rowKey := MergedColumn.tableKey
  groupKey := TableGroup.key
  begin? m := some ⟨m.column.schema, m.column.table, m.tableKind, [m.column]⟩
  add group m :=
    { group with
      tableKind := firstFilled group.tableKind m.tableKind
      columns := group.columns ++ [m.column] }
  key_begin h := by cases h; rfl
  key_add _ _ := rfl

theorem addColumn_eq_put (m : MergedColumn) (groups : List TableGroup) :
    addColumn m groups = tableCollection.put m groups := by
  induction groups with
  | nil => rfl
  | cons group rest ih =>
      rw [addColumn, ih, Collection.put]
      simp only [tableCollection, TableGroup.key, MergedColumn.tableKey,
        Prod.mk.injEq]

theorem groupColumns_eq_collect (merged : List MergedColumn) :
    groupColumns merged = tableCollection.collect merged := by
  simp only [groupColumns, Collection.collect, addColumn_eq_put]

/-- There is at most one group for each table. -/
theorem nodup_keys_groupColumns (merged : List MergedColumn) :
    ((groupColumns merged).map TableGroup.key).Nodup := by
  rw [groupColumns_eq_collect]
  exact tableCollection.nodup_keys_collect merged

theorem foldl_add_tableCollection (group : TableGroup)
    (merged : List MergedColumn) :
    merged.foldl tableCollection.add group =
      { group with
        tableKind :=
          firstFilled group.tableKind (filled (merged.map MergedColumn.tableKind))
        columns := group.columns ++ merged.map MergedColumn.column } := by
  induction merged generalizing group with
  | nil =>
      have hkeep : firstFilled group.tableKind (filled []) = group.tableKind :=
        (foldl_firstFilled group.tableKind []).symm
      simp [hkeep]
  | cons m rest ih =>
      rw [List.foldl_cons, ih]
      simp [tableCollection, firstFilled_assoc, filled]

/-- A table has its columns in their order, and the first kind that one of them
reports. -/
theorem find?_groupColumns (merged : List MergedColumn) (key : String × String) :
    (groupColumns merged).find? (fun group => group.key = key) =
      if merged.filter (fun m => m.tableKey = key) = [] then none
      else some ⟨key.1, key.2,
        filled ((merged.filter fun m => m.tableKey = key).map
          MergedColumn.tableKind),
        (merged.filter fun m => m.tableKey = key).map MergedColumn.column⟩ := by
  rw [groupColumns_eq_collect]
  refine (tableCollection.find?_collect merged key).trans ?_
  have hkey : ∀ m ∈ merged.filter (fun m => m.tableKey = key), m.tableKey = key :=
    fun m hm => by
    simpa using (List.mem_filter.mp hm).2
  show tableCollection.group? (merged.filter fun m => m.tableKey = key) = _
  cases hmerged : merged.filter (fun m => m.tableKey = key) with
  | nil => rfl
  | cons m rest =>
      have hm : m.tableKey = key :=
        hkey m (by rw [hmerged]; exact List.mem_cons_self)
      rw [if_neg (List.cons_ne_nil _ _), Collection.group?, List.foldl_cons, ← hm]
      refine (Collection.foldl_extend_some _ _ _).trans ?_
      rw [foldl_add_tableCollection]
      rfl

/-- Functions are collected by their identifier, and none is begun by a blocked
name. -/
def functionCollection (blocked : String → Bool) :
    Collection FunctionRow FunctionGroup String where
  rowKey := FunctionRow.id
  groupKey := FunctionGroup.id
  begin? row :=
    if blocked row.name then none else some ⟨row.id, row.name, row.param.toList⟩
  add group row := { group with params := group.params ++ row.param.toList }
  key_begin {row group} h := by
    by_cases hblocked : blocked row.name = true
    · simp [hblocked] at h
    · simp only [hblocked, Bool.false_eq_true, if_false, Option.some.injEq] at h
      rw [← h]
  key_add _ _ := rfl

theorem addFunctionRow_eq_put (blocked : String → Bool) (row : FunctionRow)
    (groups : List FunctionGroup) :
    addFunctionRow blocked row groups =
      (functionCollection blocked).put row groups := by
  induction groups with
  | nil => by_cases hblocked : blocked row.name = true <;>
      simp [addFunctionRow, Collection.put, functionCollection, hblocked]
  | cons group rest ih =>
      rw [addFunctionRow, ih, Collection.put]
      rfl

theorem groupFunctions_eq_map_collect (blocked : String → Bool)
    (rows : List FunctionRow) :
    groupFunctions blocked rows =
      ((functionCollection blocked).collect rows).map fun group =>
      ⟨group.name, orderParams group.params⟩ := by
  simp only [groupFunctions, Collection.collect, addFunctionRow_eq_put]

end QueryGate.Catalog
