import QueryGate.Proofs.Catalog.IndexViews
import QueryGate.Proofs.Catalog.TableOrder

/-!
Columns that are changed one by one.

What a column belongs to is decided by its schema and its table. A change to columns
that leaves both alone therefore comes to the same whether it is made before the
columns are grouped into tables or afterwards. The rows of internal tables, of
columns and of indexes alike, take part in all of this and leave no trace in what is
listed. What is looked up in a changed model is what was found before, and then
changed.
-/

namespace QueryGate.Catalog

/-- A change to a column leaves it in its table. -/
def KeepsTable (f : Column → Column) : Prop :=
  ∀ column, (f column).schema = column.schema ∧ (f column).table = column.table

/-- Changes the column and nothing of what its rows say about the table. -/
def MergedColumn.mapColumn (f : Column → Column) (m : MergedColumn) :
    MergedColumn :=
  { m with column := f m.column }

def TableGroup.mapColumns (f : Column → Column) (group : TableGroup) : TableGroup :=
  { group with columns := group.columns.map f }

def Table.mapColumns (f : Column → Column) (table : Table) : Table :=
  { table with columns := table.columns.map f }

theorem Table.key_mapColumns (f : Column → Column) (table : Table) :
    (table.mapColumns f).key = table.key :=
  rfl

theorem keepsTable_shape : KeepsTable Column.shape :=
  fun _ => ⟨rfl, rfl⟩

section Grouping

variable {f : Column → Column}

theorem addColumn_mapColumn (hf : KeepsTable f) (m : MergedColumn)
    (groups : List TableGroup) :
    addColumn (m.mapColumn f) (groups.map (TableGroup.mapColumns f)) =
      (addColumn m groups).map (TableGroup.mapColumns f) := by
  obtain ⟨hschema, htable⟩ := hf m.column
  induction groups with
  | nil =>
      simp [addColumn, MergedColumn.mapColumn, TableGroup.mapColumns,
        hschema, htable]
  | cons group rest ih =>
      have hsame : ((group.mapColumns f).schema = (m.mapColumn f).column.schema ∧
          (group.mapColumns f).name = (m.mapColumn f).column.table) ↔
          (group.schema = m.column.schema ∧ group.name = m.column.table) := by
        simp only [MergedColumn.mapColumn, TableGroup.mapColumns, hschema, htable]
      rw [List.map_cons, addColumn, addColumn]
      by_cases hgroup : group.schema = m.column.schema ∧ group.name = m.column.table
      · rw [if_pos hgroup, if_pos (hsame.mpr hgroup)]
        simp [MergedColumn.mapColumn, TableGroup.mapColumns]
      · rw [if_neg hgroup, if_neg (mt hsame.mp hgroup), ih, List.map_cons]

theorem groupColumns_mapColumn (hf : KeepsTable f) (merged : List MergedColumn) :
    groupColumns (merged.map (MergedColumn.mapColumn f)) =
      (groupColumns merged).map (TableGroup.mapColumns f) := by
  have hfold : ∀ groups : List TableGroup,
      (merged.map (MergedColumn.mapColumn f)).foldl
        (fun groups m => addColumn m groups)
          (groups.map (TableGroup.mapColumns f)) =
        (merged.foldl (fun groups m => addColumn m groups) groups).map
          (TableGroup.mapColumns f) := by
    induction merged with
    | nil => exact fun _ => rfl
    | cons m rest ih =>
        intro groups
        rw [List.map_cons, List.foldl_cons, addColumn_mapColumn hf, ih,
          List.foldl_cons]
  exact hfold []

/-- To leave out the tables of some keys is to leave out their columns. -/
theorem filter_groupColumns (keep : String × String → Bool)
    (merged : List MergedColumn) :
    (groupColumns merged).filter (fun group => keep group.key) =
      groupColumns (merged.filter fun m => keep m.tableKey) := by
  rw [groupColumns_eq_collect, groupColumns_eq_collect]
  exact tableCollection.filter_collect keep merged

end Grouping

/-- What keeps the keys of tables keeps their order. -/
theorem map_mergeSort_before {f : Table → Table}
    (hf : ∀ table, (f table).key = table.key) (tables : List Table) :
    (tables.mergeSort Table.before).map f =
      (tables.map f).mergeSort Table.before := by
  apply List.map_mergeSort
  intro a _ b _
  obtain ⟨hschema, hname⟩ := Prod.mk.inj (hf a)
  obtain ⟨hschema', hname'⟩ := Prod.mk.inj (hf b)
  simp only [Table.before, hschema, hname, hschema', hname']

/-- The tables that columns make up, in their order. -/
def tablesOf (blocked : String → Bool) (indexes : List IndexRow)
    (merged : List MergedColumn) : List Table :=
  (((groupColumns merged).filter fun group => !isInternal group.name).map
    (TableGroup.toTable blocked indexes)).mergeSort Table.before

section TablesOf

variable {blocked : String → Bool} {indexes : List IndexRow}
  {merged : List MergedColumn}

theorem buildTables_eq_tablesOf (blocked : String → Bool) (rows : Rows) :
    SchemaModel.buildTables blocked rows =
      tablesOf blocked rows.indexes (mergeColumns blocked rows.columns) :=
  rfl

theorem tablesOf_mapColumn {f : Column → Column} (hf : KeepsTable f) :
    tablesOf blocked indexes (merged.map (MergedColumn.mapColumn f)) =
      (tablesOf blocked indexes merged).map (Table.mapColumns f) := by
  have htable : TableGroup.toTable blocked indexes ∘ TableGroup.mapColumns f =
      Table.mapColumns f ∘ TableGroup.toTable blocked indexes := rfl
  have hshown :
    ((fun group : TableGroup => !isInternal group.name) ∘ TableGroup.mapColumns f) =
      fun group => !isInternal group.name := rfl
  rw [tablesOf, tablesOf, groupColumns_mapColumn hf, List.filter_map, hshown,
    map_mergeSort_before (Table.key_mapColumns f), List.map_map,
    List.map_map, htable]

/-- The columns of internal tables are of no account. -/
theorem tablesOf_filter (merged : List MergedColumn) :
    tablesOf blocked indexes (merged.filter fun m => !isInternal m.column.table) =
      tablesOf blocked indexes merged := by
  have hgroups := filter_groupColumns (fun key => !isInternal key.2) merged
  simp only [TableGroup.key, MergedColumn.tableKey] at hgroups
  rw [tablesOf, ← hgroups, List.filter_filter]
  simp only [Bool.and_self]
  rfl

end TablesOf

/-- The rows about tables that are shown. -/
def shownRows (rows : List ColumnRow) : List ColumnRow :=
  rows.filter fun row => !isInternal row.table

/-- The rows about indexes of tables that are shown. -/
def shownIndexRows (rows : List IndexRow) : List IndexRow :=
  rows.filter fun row => !isInternal row.table

/-- Up to their numbers, columns of tables that are shown come from the rows about
these tables. -/
theorem map_shape_filter_mergeColumns (blocked : String → Bool)
    (rows : List ColumnRow) :
    ((mergeColumns blocked rows).filter fun m => !isInternal m.column.table).map
        MergedColumn.shape =
      (mergeColumns blocked (shownRows rows)).map MergedColumn.shape := by
  have hfilter :=
    (columnCollection blocked).filter_collect
      (fun key => !isInternal key.table) rows
  rw [← map_shape_mergeColumns, List.filter_map] at hfilter
  rw [map_shape_mergeColumns]
  exact hfilter

/-- The index rows of other tables are of no account for a table. -/
theorem tableIndexes_shownIndexRows (rows : List IndexRow) {name : String}
    (hshown : isInternal name = false) (schema : String) :
    tableIndexes (shownIndexRows rows) schema name =
      tableIndexes rows schema name := by
  have hrows : (shownIndexRows rows).filter
        (fun row => row.schema = schema && row.table = name) =
      rows.filter fun row => row.schema = schema && row.table = name := by
    rw [shownIndexRows, List.filter_filter]
    apply List.filter_congr
    intro row _
    by_cases hname : row.table = name <;> simp [hname, hshown]
  rw [← tableIndexes_filter, hrows, tableIndexes_filter]

theorem tablesOf_shownIndexRows (blocked : String → Bool) (indexes : List IndexRow)
    (merged : List MergedColumn) :
    tablesOf blocked (shownIndexRows indexes) merged =
      tablesOf blocked indexes merged := by
  rw [tablesOf, tablesOf]
  congr 1
  apply List.map_congr_left
  intro group hgroup
  have hshown : isInternal group.name = false := by
    simpa using (List.mem_filter.mp hgroup).2
  rw [TableGroup.toTable, TableGroup.toTable,
    tableIndexes_shownIndexRows indexes hshown]

/-- A change to a column leaves its name and its flags. -/
def KeepsRole (f : Column → Column) : Prop :=
  ∀ column, (f column).name = column.name ∧ (f column).flags = column.flags

theorem keepsRole_shape : KeepsRole Column.shape :=
  fun _ => ⟨rfl, rfl⟩

namespace Table

section Role

variable {f : Column → Column} (hf : KeepsRole f) (table : Table)
include hf

theorem column?_mapColumns (name : String) :
    (table.mapColumns f).column? name = (table.column? name).map f := by
  rw [column?, column?, mapColumns, List.find?_map]
  simp only [Function.comp_def, (hf _).1]

theorem isIdentifying_comp : isIdentifying ∘ f = isIdentifying := by
  funext column
  simp only [Function.comp_apply, isIdentifying, (hf column).2]

theorem primary?_mapColumns : (table.mapColumns f).primary? = table.primary? := by
  rw [primary?, primary?, mapColumns, List.findIdx?_map, isIdentifying_comp hf]

theorem primaryColumn?_mapColumns :
    (table.mapColumns f).primaryColumn? = table.primaryColumn?.map f := by
  rw [primaryColumn?, primaryColumn?, mapColumns, List.find?_map,
    isIdentifying_comp hf]

theorem fullText_mapColumns : (table.mapColumns f).fullText = table.fullText := by
  rw [fullText, fullText, mapColumns, List.zipIdx_map, List.filter_map,
    List.map_map]
  simp only [Function.comp_def, Prod.map_fst, (hf _).2]
  rfl

theorem fullTextColumns_mapColumns :
    (table.mapColumns f).fullTextColumns = table.fullTextColumns.map f := by
  rw [fullTextColumns, fullTextColumns, mapColumns, List.filter_map]
  simp only [Function.comp_def, (hf _).2]

end Role

end Table

namespace SchemaModel

/-- Changes the tables and nothing else. -/
def mapTables (f : Table → Table) (model : SchemaModel) : SchemaModel :=
  { model with tables := model.tables.map f }

section Keys

variable {f : Table → Table} (hf : ∀ table, (f table).key = table.key)
  (model : SchemaModel)
include hf

theorem table?_mapTables (schema name : String) :
    (model.mapTables f).table? schema name = (model.table? schema name).map f := by
  have hkey : ∀ table : Table, (f table).schema = table.schema ∧
      (f table).name = table.name :=
    fun table => Prod.mk.inj (hf table)
  rw [table?, table?, mapTables, List.find?_map]
  simp only [Function.comp_def, hkey]

theorem table_mapTables (schema name : String) :
    (model.mapTables f).table schema name = (model.table schema name).map f := by
  rw [table, table, table?_mapTables hf]
  cases model.table? schema name <;> rfl

theorem column_mapTables {g : Column → Column}
    (hg : ∀ table name, (f table).column? name = (table.column? name).map g)
    (schema table name : String) :
    (model.mapTables f).column schema table name =
      (model.column schema table name).map g := by
  rw [column, column, table_mapTables hf]
  cases model.table schema table with
  | error e => rfl
  | ok found =>
      simp only [bind, Except.bind, Except.map, hg]
      cases found.column? name <;> rfl

theorem findTable?_mapTables (name : String) :
    (model.mapTables f).findTable? name = (model.findTable? name).map f := by
  have hany : ((model.mapTables f).tables.find? fun table => table.name = name) =
      (model.tables.find? fun table => table.name = name).map f := by
    have hname : ∀ table : Table, (f table).name = table.name :=
      fun table => (Prod.mk.inj (hf table)).2
    rw [mapTables, List.find?_map]
    simp only [Function.comp_def, hname]
  rw [findTable?, findTable?, hany, table?_mapTables hf]
  show ((model.table? model.schema name).map f <|> _) = _
  cases model.table? model.schema name <;> rfl

end Keys

end SchemaModel

end QueryGate.Catalog
