import QueryGate.Proofs.Catalog.Columnwise

/-!
Models that are the same but for the numbers of their columns.

A column is numbered by its place among all columns, those of internal tables
included. Nothing else depends on these numbers: neither the digest of a model nor
any position, and a lookup finds the same as before, apart from the number. So a
model does not show whether there were rows about internal tables.
-/

namespace QueryGate.Catalog

/-- A table whose columns have no numbers. -/
def Table.unnumbered (table : Table) : Table :=
  table.mapColumns Column.shape

/-- A model whose columns have no numbers. -/
def SchemaModel.unnumbered (model : SchemaModel) : SchemaModel :=
  { model with tables := model.tables.map Table.unnumbered }

namespace Table

/-- Two tables have the same columns in the same order, and all else is the same,
too. -/
structure SameButNumbers (table other : Table) : Prop where
  unnumbered : table.unnumbered = other.unnumbered
  primary : table.primary? = other.primary?
  fullText : table.fullText = other.fullText
  column : ∀ name,
    (table.column? name).map Column.shape = (other.column? name).map Column.shape
  primaryColumn : table.primaryColumn?.map Column.shape =
    other.primaryColumn?.map Column.shape
  fullTextColumns : table.fullTextColumns.map Column.shape =
    other.fullTextColumns.map Column.shape
  indexes : table.indexes = other.indexes

theorem shape_unnumbered (table : Table) :
    table.unnumbered.shape = table.shape := by
  simp only [shape, unnumbered, mapColumns, Multiset.map_coe, List.map_map]
  rfl

theorem primary?_unnumbered (table : Table) :
    table.unnumbered.primary? = table.primary? :=
  primary?_mapColumns keepsRole_shape table

theorem fullText_unnumbered (table : Table) :
    table.unnumbered.fullText = table.fullText :=
  fullText_mapColumns keepsRole_shape table

theorem column?_unnumbered (table : Table) (name : String) :
    table.unnumbered.column? name = (table.column? name).map Column.shape :=
  column?_mapColumns keepsRole_shape table name

theorem primaryColumn?_unnumbered (table : Table) :
    table.unnumbered.primaryColumn? = table.primaryColumn?.map Column.shape :=
  primaryColumn?_mapColumns keepsRole_shape table

theorem fullTextColumns_unnumbered (table : Table) :
    table.unnumbered.fullTextColumns = table.fullTextColumns.map Column.shape :=
  fullTextColumns_mapColumns keepsRole_shape table

theorem sameButNumbers_of_unnumbered_eq {table other : Table}
    (h : table.unnumbered = other.unnumbered) : table.SameButNumbers other where
  unnumbered := h
  primary := by rw [← primary?_unnumbered, h, primary?_unnumbered]
  fullText := by rw [← fullText_unnumbered, h, fullText_unnumbered]
  column name := by rw [← column?_unnumbered, h, column?_unnumbered]
  primaryColumn := by rw [← primaryColumn?_unnumbered, h, primaryColumn?_unnumbered]
  fullTextColumns := by rw [← fullTextColumns_unnumbered, h,
    fullTextColumns_unnumbered]
  indexes := (Table.mk.inj h).2.2.2.2.1

end Table

namespace SchemaModel

/-- Two models list the same tables in the same order and the same functions, and
whatever is looked up in one of them is found in the other one, too. -/
structure SameButNumbers (a b : SchemaModel) : Prop where
  unnumbered : a.unnumbered = b.unnumbered
  tables : List.Forall₂ Table.SameButNumbers a.tables b.tables
  functions : a.functions = b.functions
  table : ∀ schema name,
    (a.table schema name).map Table.unnumbered =
      (b.table schema name).map Table.unnumbered
  column : ∀ schema table name,
    (a.column schema table name).map Column.shape =
      (b.column schema table name).map Column.shape
  findTable : ∀ name,
    (a.findTable? name).map Table.unnumbered =
      (b.findTable? name).map Table.unnumbered
  function : ∀ name, a.function? name = b.function? name
  digest : ∀ hash : Hasher, a.digest hash = b.digest hash

theorem shape_unnumbered (model : SchemaModel) :
    model.unnumbered.shape = model.shape := by
  have htables : (fun table : Table => table.unnumbered.shape) = Table.shape :=
    funext Table.shape_unnumbered
  simp only [shape, unnumbered, Multiset.map_coe, List.map_map, Function.comp_def,
    htables]

theorem table_unnumbered (model : SchemaModel) (schema name : String) :
    model.unnumbered.table schema name =
      (model.table schema name).map Table.unnumbered :=
  table_mapTables (Table.key_mapColumns _) model schema name

theorem column_unnumbered (model : SchemaModel) (schema table name : String) :
    model.unnumbered.column schema table name =
      (model.column schema table name).map Column.shape :=
  column_mapTables (Table.key_mapColumns _) model Table.column?_unnumbered schema
    table name

theorem findTable?_unnumbered (model : SchemaModel) (name : String) :
    model.unnumbered.findTable? name =
      (model.findTable? name).map Table.unnumbered :=
  findTable?_mapTables (Table.key_mapColumns _) model name

theorem functions_eq_of_unnumbered_eq {a b : SchemaModel}
    (h : a.unnumbered = b.unnumbered) : a.functions = b.functions :=
  (SchemaModel.mk.inj h).2.2.2.2.2

/-- Nothing but the numbers themselves depends on the numbers of columns. -/
theorem sameButNumbers_of_unnumbered_eq {a b : SchemaModel}
    (h : a.unnumbered = b.unnumbered) : a.SameButNumbers b where
  unnumbered := h
  tables := by
    have htables : a.tables.map Table.unnumbered = b.tables.map Table.unnumbered :=
      congrArg SchemaModel.tables h
    rw [← List.forall₂_eq_eq_eq, List.forall₂_map_left_iff,
      List.forall₂_map_right_iff] at htables
    exact htables.imp fun _ _ => Table.sameButNumbers_of_unnumbered_eq
  functions := functions_eq_of_unnumbered_eq h
  table schema name := by rw [← table_unnumbered, h, table_unnumbered]
  column schema table name := by rw [← column_unnumbered, h, column_unnumbered]
  findTable name := by rw [← findTable?_unnumbered, h, findTable?_unnumbered]
  function name := by rw [function?, function?, functions_eq_of_unnumbered_eq h]
  digest hash := by
    apply digest_eq_of_shape_eq
    rw [← shape_unnumbered, h, shape_unnumbered]

end SchemaModel

/-- What is left of rows when those about internal tables are deleted. -/
def Rows.shown (rows : Rows) : Rows :=
  { rows with
    columns := shownRows rows.columns
    indexes := shownIndexRows rows.indexes }

theorem Rows.shown_shown (rows : Rows) : rows.shown.shown = rows.shown := by
  simp only [shown, shownRows, shownIndexRows, List.filter_filter, Bool.and_self]

namespace SchemaModel

/-- The rows about internal tables decide nothing but the numbers of columns. -/
theorem unnumbered_build_shown (kind : DatabaseKind) (blocked : String → Bool)
    (rows : Rows) :
    (build kind blocked rows.shown).unnumbered =
      (build kind blocked rows).unnumbered := by
  have htables : (buildTables blocked rows.shown).map Table.unnumbered =
      (buildTables blocked rows).map Table.unnumbered :=
    calc
      (buildTables blocked rows.shown).map Table.unnumbered
          = tablesOf blocked rows.shown.indexes
              ((mergeColumns blocked (shownRows rows.columns)).map
                MergedColumn.shape) :=
        (tablesOf_mapColumn keepsTable_shape).symm
      _ = tablesOf blocked rows.indexes
              ((mergeColumns blocked (shownRows rows.columns)).map
                MergedColumn.shape) :=
        tablesOf_shownIndexRows blocked rows.indexes _
      _ = tablesOf blocked rows.indexes
              (((mergeColumns blocked rows.columns).filter fun m =>
                !isInternal m.column.table).map MergedColumn.shape) := by
        rw [map_shape_filter_mergeColumns]
      _ = (tablesOf blocked rows.indexes
              ((mergeColumns blocked rows.columns).filter fun m =>
                !isInternal m.column.table)).map Table.unnumbered :=
        tablesOf_mapColumn keepsTable_shape
      _ = (buildTables blocked rows).map Table.unnumbered := by
        rw [tablesOf_filter, buildTables_eq_tablesOf]
  simp only [unnumbered, build, htables]
  rfl

/-- Rows that differ only in those about internal tables make models that differ
only in the numbers of columns. -/
theorem sameButNumbers_build (kind : DatabaseKind) (blocked : String → Bool)
    {rows rows' : Rows} (h : rows.shown = rows'.shown) :
    (build kind blocked rows).SameButNumbers (build kind blocked rows') := by
  apply sameButNumbers_of_unnumbered_eq
  rw [← unnumbered_build_shown, h, unnumbered_build_shown]

end SchemaModel

end QueryGate.Catalog
