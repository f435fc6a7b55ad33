import QueryGate.Proofs.Catalog.Columnwise
import QueryGate.Proofs.Catalog.IndexViews
import QueryGate.Proofs.Catalog.Lookups
import QueryGate.Proofs.Catalog.Positions

/-!
What a model represents.

The tables of a built model are the tables that its rows report, internal ones
apart, in strictly ascending order, each with its columns in the order in which they
were first reported. So much is shown of the list of tables. What is found by a
lookup, and which error it ends in, follows from it without a look at how the list
was made.
-/

namespace QueryGate.Catalog

/-- Rows report a table when one of them is about a column of it and it is not
internal. -/
def Rows.HasTable (rows : Rows) (schema name : String) : Prop :=
  isInternal name = false ∧ ∃ row ∈ rows.columns, row.schema = schema ∧
    row.table = name

/-- Rows report a column when one of them is about it and its table is not
internal. -/
def Rows.HasColumn (rows : Rows) (schema table name : String) : Prop :=
  isInternal table = false ∧ ∃ row ∈ rows.columns, row.key = ⟨schema, table, name⟩

/-- The rows about the columns of a table. -/
def columnRowsOf (rows : List ColumnRow) (schema table : String) : List ColumnRow :=
  rows.filter fun row => row.schema = schema && row.table = table

theorem mem_columnRowsOf {rows : List ColumnRow} {schema table : String}
    {row : ColumnRow} :
    row ∈ columnRowsOf rows schema table ↔
      row ∈ rows ∧ row.schema = schema ∧ row.table = table := by
  simp [columnRowsOf]

/-- A list of tables is what rows report. The columns of a table stand in the order
in which they were first seen, and all columns together are those of all rows about
tables that are shown. -/
structure Listed (rows : Rows) (tables : List Table) : Prop where
  ascending : tables.Pairwise fun a b => KeyBefore a.key b.key
  shown : ∀ table ∈ tables, isInternal table.name = false
  nonempty : ∀ table ∈ tables, table.columns ≠ []
  owned : ∀ table ∈ tables, ∀ column ∈ table.columns,
    column.schema = table.schema ∧ column.table = table.name
  names : ∀ table ∈ tables, (table.columns.map Column.name).Nodup
  firstSeen : ∀ table ∈ tables, table.columns.map Column.key =
    ((columnRowsOf rows.columns table.schema table.name).map
      ColumnRow.key).eraseDups
  columns : ((tables.flatMap Table.columns).map Column.key).Perm
    ((shownRows rows.columns).map ColumnRow.key).eraseDups
  indexes : ∀ table ∈ tables,
    table.indexes.Hold rows.indexes table.schema table.name

section Built

variable (blocked : String → Bool) (rows : Rows)

theorem columns_ne_nil_of_mem_groupColumns {merged : List MergedColumn}
    {group : TableGroup} (hgroup : group ∈ groupColumns merged) :
    group.columns ≠ [] := by
  have hfound := find?_key_of_mem (nodup_keys_groupColumns merged) hgroup
  rw [find?_groupColumns] at hfound
  split at hfound
  · cases hfound
  · rename_i hmember
    rw [← Option.some.inj hfound]
    exact mt List.map_eq_nil_iff.mp hmember

/-- The keys of a table's columns are those of its rows. -/
theorem keys_columns_buildTables {table : Table}
    (htable : table ∈ SchemaModel.buildTables blocked rows) :
    table.columns.map Column.key =
      ((columnRowsOf rows.columns table.schema table.name).map
        ColumnRow.key).eraseDups := by
  obtain ⟨group, hgroup, _, rfl⟩ :=
    exists_group_of_mem_buildTables blocked rows htable
  show group.columns.map Column.key = _
  let keep : ColumnKey → Bool :=
    fun key => decide ((key.schema, key.table) = group.key)
  have hrows : (rows.columns.filter fun row => keep row.key) =
      columnRowsOf rows.columns group.schema group.name := by
    apply List.filter_congr
    intro row _
    simp only [keep, ColumnRow.key, TableGroup.key, Prod.mk.injEq, Bool.decide_and]
  calc
    group.columns.map Column.key
        = ((mergeColumns blocked rows.columns).filter fun m =>
          keep m.column.key).map
            fun m => m.column.key := by
      rw [columns_of_mem_groupColumns hgroup, List.map_map]
      rfl
    _ = (((mergeColumns blocked rows.columns).map MergedColumn.shape).filter
            fun m => keep m.column.key).map fun m => m.column.key := by
      rw [List.filter_map, List.map_map]
      rfl
    _ = ((columnCollection blocked).collect
            (rows.columns.filter fun row => keep row.key)).map fun m =>
              m.column.key := by
      rw [map_shape_mergeColumns]
      exact congrArg _ ((columnCollection blocked).filter_collect keep rows.columns)
    _ = ((columnRowsOf rows.columns group.schema group.name).map
        ColumnRow.key).eraseDups := by
      rw [hrows]
      exact (columnCollection blocked).keys_collect (fun _ => rfl) _

/-- A row about a table that is shown is about a column of one of the tables. -/
theorem exists_column_buildTables {row : ColumnRow} (hrow : row ∈ rows.columns)
    (hshown : isInternal row.table = false) :
    ∃ table ∈ SchemaModel.buildTables blocked rows,
      ∃ column ∈ table.columns, column.key = row.key := by
  obtain ⟨m, hm, hkey⟩ := exists_column_of_mem blocked hrow
  have hname : m.column.table = row.table := (ColumnKey.mk.inj hkey).2.1
  obtain ⟨table, htable, _, hmember⟩ :=
    exists_table_of_mem_mergeColumns blocked rows hm (by rw [hname, hshown])
  exact ⟨table, htable, m.column, hmember, hkey⟩

theorem owned_buildTables {table : Table}
    (htable : table ∈ SchemaModel.buildTables blocked rows) {column : Column}
    (hcolumn : column ∈ table.columns) :
    column.schema = table.schema ∧ column.table = table.name := by
  obtain ⟨group, hgroup, _, rfl⟩ :=
    exists_group_of_mem_buildTables blocked rows htable
  change column ∈ group.columns at hcolumn
  rw [columns_of_mem_groupColumns hgroup] at hcolumn
  obtain ⟨m, hm, rfl⟩ := List.mem_map.mp hcolumn
  have hkey : m.tableKey = group.key := by simpa using (List.mem_filter.mp hm).2
  exact Prod.mk.inj hkey

/-- No column is listed twice. -/
theorem nodup_keys_columns_buildTables :
    (((SchemaModel.buildTables blocked rows).flatMap Table.columns).map
      Column.key).Nodup := by
  rw [List.map_flatMap, List.nodup_flatMap]
  constructor
  · intro table htable
    rw [keys_columns_buildTables blocked rows htable]
    exact nodup_eraseDups _
  · apply (SchemaModel.pairwise_buildTables blocked rows).imp_of_mem
    intro a b ha hb hbefore key hkey hkey'
    obtain ⟨column, hcolumn, rfl⟩ := List.mem_map.mp hkey
    obtain ⟨column', hcolumn', hsame⟩ := List.mem_map.mp hkey'
    obtain ⟨hschema, htable⟩ := owned_buildTables blocked rows ha hcolumn
    obtain ⟨hschema', htable'⟩ := owned_buildTables blocked rows hb hcolumn'
    obtain ⟨hsameSchema, hsameTable, _⟩ := ColumnKey.mk.inj hsame
    have hkeys : b.key = a.key := Prod.ext
      (hschema'.symm.trans (hsameSchema.trans hschema))
      (htable'.symm.trans (hsameTable.trans htable))
    rw [hkeys] at hbefore
    exact hbefore.asymm hbefore

theorem mem_keys_columns_buildTables {key : ColumnKey} :
    key ∈ ((SchemaModel.buildTables blocked rows).flatMap Table.columns).map
      Column.key ↔
      key ∈ (shownRows rows.columns).map ColumnRow.key := by
  constructor
  · intro hkey
    obtain ⟨column, hcolumn, rfl⟩ := List.mem_map.mp hkey
    obtain ⟨table, htable, hcolumn⟩ := List.mem_flatMap.mp hcolumn
    obtain ⟨group, _, hshown, rfl⟩ :=
      exists_group_of_mem_buildTables blocked rows htable
    have hreported := List.mem_map_of_mem (f := Column.key) hcolumn
    rw [keys_columns_buildTables blocked rows htable,
      List.mem_eraseDups] at hreported
    obtain ⟨row, hrow, hsame⟩ := List.mem_map.mp hreported
    obtain ⟨hrow, _, hname⟩ := mem_columnRowsOf.mp hrow
    refine List.mem_map.mpr ⟨row, List.mem_filter.mpr ⟨hrow, ?_⟩, hsame⟩
    rw [hname]
    exact congrArg not hshown
  · intro hkey
    obtain ⟨row, hrow, rfl⟩ := List.mem_map.mp hkey
    obtain ⟨hrow, hshown⟩ := List.mem_filter.mp hrow
    obtain ⟨table, htable, column, hcolumn, hsame⟩ :=
      exists_column_buildTables blocked rows hrow (by simpa using hshown)
    exact List.mem_map.mpr
      ⟨column, List.mem_flatMap.mpr ⟨table, htable, hcolumn⟩, hsame⟩

theorem listed_buildTables :
    Listed rows (SchemaModel.buildTables blocked rows) where
  ascending := SchemaModel.pairwise_buildTables blocked rows
  shown table htable := by
    obtain ⟨group, _, hshown, rfl⟩ :=
      exists_group_of_mem_buildTables blocked rows htable
    exact hshown
  nonempty table htable := by
    obtain ⟨group, hgroup, _, rfl⟩ :=
      exists_group_of_mem_buildTables blocked rows htable
    exact columns_ne_nil_of_mem_groupColumns hgroup
  owned table htable column hcolumn := owned_buildTables blocked rows htable hcolumn
  names table htable := nodup_names_columns blocked rows htable
  firstSeen table htable := keys_columns_buildTables blocked rows htable
  columns := by
    rw [List.perm_ext_iff_of_nodup (nodup_keys_columns_buildTables blocked rows)
      (nodup_eraseDups _)]
    intro key
    rw [mem_keys_columns_buildTables, List.mem_eraseDups]
  indexes table htable := by
    obtain ⟨group, _, _, rfl⟩ := exists_group_of_mem_buildTables blocked rows htable
    exact hold_tableIndexes rows.indexes group.schema group.name

end Built

namespace Listed

variable {rows : Rows} {tables : List Table}

theorem nodup_keys (h : Listed rows tables) : (tables.map Table.key).Nodup := by
  refine List.pairwise_map.mpr (h.ascending.imp fun {a b} hbefore hsame => ?_)
  rw [hsame] at hbefore
  exact hbefore.asymm hbefore

theorem hasColumn_iff (h : Listed rows tables) {schema name columnName : String} :
    (∃ table ∈ tables, ∃ column ∈ table.columns,
      column.key = ⟨schema, name, columnName⟩) ↔
      rows.HasColumn schema name columnName := by
  have hlisted : (⟨schema, name, columnName⟩ : ColumnKey) ∈
      (tables.flatMap Table.columns).map Column.key ↔
        ⟨schema, name, columnName⟩ ∈ (shownRows rows.columns).map
          ColumnRow.key := by
    rw [h.columns.mem_iff, List.mem_eraseDups]
  constructor
  · rintro ⟨table, htable, column, hcolumn, hkey⟩
    have hmember :=
      List.mem_map.mpr ⟨column, List.mem_flatMap.mpr ⟨table, htable, hcolumn⟩, hkey⟩
    obtain ⟨row, hrow, hsame⟩ := List.mem_map.mp (hlisted.mp hmember)
    obtain ⟨hrow, hshown⟩ := List.mem_filter.mp hrow
    have hname : row.table = name := (ColumnKey.mk.inj hsame).2.1
    exact ⟨by simpa [hname] using hshown, row, hrow, hsame⟩
  · rintro ⟨hshown, row, hrow, hkey⟩
    have hname : row.table = name := (ColumnKey.mk.inj hkey).2.1
    have hkept : row ∈ shownRows rows.columns :=
      List.mem_filter.mpr ⟨hrow, by rw [hname, hshown]; rfl⟩
    obtain ⟨column, hcolumn, hsame⟩ :=
      List.mem_map.mp (hlisted.mpr (List.mem_map.mpr ⟨row, hkept, hkey⟩))
    obtain ⟨table, htable, hcolumn⟩ := List.mem_flatMap.mp hcolumn
    exact ⟨table, htable, column, hcolumn, hsame⟩

/-- A column that is listed is listed in its table. -/
theorem key_eq (h : Listed rows tables) {table : Table} (htable : table ∈ tables)
    {column : Column} (hcolumn : column ∈ table.columns)
    {schema name columnName : String}
    (hkey : column.key = ⟨schema, name, columnName⟩) :
    table.schema = schema ∧ table.name = name := by
  obtain ⟨hschema, hname⟩ := h.owned table htable column hcolumn
  obtain ⟨hschema', hname', _⟩ := ColumnKey.mk.inj hkey
  exact ⟨hschema.symm.trans hschema', hname.symm.trans hname'⟩

theorem hasTable_iff (h : Listed rows tables) {schema name : String} :
    (∃ table ∈ tables, table.schema = schema ∧ table.name = name) ↔
    rows.HasTable schema name := by
  constructor
  · rintro ⟨table, htable, rfl, rfl⟩
    obtain ⟨column, hcolumn⟩ :=
      List.exists_mem_of_ne_nil _ (h.nonempty table htable)
    obtain ⟨hschema, hname⟩ := h.owned table htable column hcolumn
    have hkey : column.key = ⟨table.schema, table.name, column.name⟩ := by
      rw [← hschema, ← hname]
      rfl
    obtain ⟨hshown, row, hrow, hsame⟩ :=
      h.hasColumn_iff.mp ⟨table, htable, column, hcolumn, hkey⟩
    obtain ⟨hrowSchema, hrowTable, _⟩ := ColumnKey.mk.inj hsame
    exact ⟨hshown, row, hrow, hrowSchema, hrowTable⟩
  · rintro ⟨hshown, row, hrow, rfl, rfl⟩
    obtain ⟨table, htable, column, hcolumn, hkey⟩ :=
      h.hasColumn_iff.mpr ⟨hshown, row, hrow, rfl⟩
    exact ⟨table, htable, h.key_eq htable hcolumn hkey⟩

end Listed

/-- The first table of a name in ascending order is the one of the smallest
schema. -/
theorem find?_name_eq_some_iff {tables : List Table}
    (hascending : tables.Pairwise fun a b => KeyBefore a.key b.key) {name : String}
    {table : Table} :
    tables.find? (fun table => table.name = name) = some table ↔
      table ∈ tables ∧ table.name = name ∧
        ∀ other ∈ tables, other.name = name → table.schema ≤ other.schema := by
  induction tables with
  | nil => simp
  | cons head rest ih =>
      obtain ⟨hhead, hrest⟩ := List.pairwise_cons.mp hascending
      have hle : ∀ other ∈ rest, other.name = head.name →
          head.schema < other.schema := by
        intro other hother hname
        rcases hhead other hother with hschema | ⟨_, hless⟩
        · exact hschema
        · have hsame : other.key.2 = head.key.2 := hname
          rw [hsame] at hless
          exact absurd hless (String.lt_irrefl _)
      by_cases hname : head.name = name
      · rw [List.find?_cons_of_pos (by simpa using hname), Option.some.injEq]
        constructor
        · rintro rfl
          refine ⟨List.mem_cons_self, hname, fun other hother hsame => ?_⟩
          rcases List.mem_cons.mp hother with rfl | hother
          · exact String.le_refl _
          · exact Std.le_of_lt (hle other hother (hsame.trans hname.symm))
        · rintro ⟨hmem, hsame, hleast⟩
          rcases List.mem_cons.mp hmem with rfl | hmem
          · rfl
          · have hbefore := hle table hmem (hsame.trans hname.symm)
            exact absurd hbefore (String.not_lt.mpr
              (hleast head List.mem_cons_self hname))
      · rw [List.find?_cons_of_neg (by simpa using hname), ih hrest]
        constructor
        · rintro ⟨hmem, hsame, hleast⟩
          refine ⟨List.mem_cons_of_mem head hmem, hsame,
            fun other hother hother' => ?_⟩
          rcases List.mem_cons.mp hother with rfl | hother
          · exact absurd hother' hname
          · exact hleast other hother hother'
        · rintro ⟨hmem, hsame, hleast⟩
          rcases List.mem_cons.mp hmem with rfl | hmem
          · exact absurd hsame hname
          · exact ⟨hmem, hsame, fun other hother =>
              hleast other (List.mem_cons_of_mem head hother)⟩

namespace SchemaModel

/-- What is looked up in a model is what rows report. Of the tables of one name,
that of the current schema goes first, and among the others the one of the smallest
schema. -/
structure Answers (model : SchemaModel) (rows : Rows) : Prop where
  table_iff : ∀ schema name table, model.table schema name = .ok table ↔
    table ∈ model.tables ∧ table.schema = schema ∧ table.name = name
  table_ok_iff : ∀ schema name,
    (∃ table, model.table schema name = .ok table) ↔ rows.HasTable schema name
  table_error_iff : ∀ schema name e, model.table schema name = .error e ↔
    e = .tableNotFound schema name ∧ ¬ rows.HasTable schema name
  column_iff : ∀ schema table name column,
    model.column schema table name = .ok column ↔
    ∃ found ∈ model.tables, column ∈ found.columns ∧
      column.key = ⟨schema, table, name⟩
  column_ok_iff : ∀ schema table name,
    (∃ column, model.column schema table name = .ok column) ↔
    rows.HasColumn schema table name
  column_error_iff : ∀ schema table name e,
    model.column schema table name = .error e ↔
    e = .tableNotFound schema table ∧ ¬ rows.HasTable schema table ∨
      e = .columnNotFound schema table name ∧ rows.HasTable schema table ∧
        ¬ rows.HasColumn schema table name
  findTable_iff : ∀ name table, model.findTable? name = some table ↔
    table ∈ model.tables ∧ table.name = name ∧
      (table.schema = model.schema ∨
        ¬ rows.HasTable model.schema name ∧
          ∀ other ∈ model.tables, other.name = name → table.schema ≤ other.schema)
  findTable_isSome_iff : ∀ name,
    (model.findTable? name).isSome ↔ ∃ schema, rows.HasTable schema name

section Lookups

variable {rows : Rows} {model : SchemaModel} (h : Listed rows model.tables)
include h

theorem table?_eq_some_iff {schema name : String} {table : Table} :
    model.table? schema name = some table ↔
      table ∈ model.tables ∧ table.schema = schema ∧ table.name = name := by
  constructor
  · intro hfound
    have hkey := List.find?_some hfound
    rw [Bool.and_eq_true, decide_eq_true_eq, decide_eq_true_eq] at hkey
    exact ⟨List.mem_of_find?_eq_some hfound, hkey⟩
  · rintro ⟨htable, rfl, rfl⟩
    exact model.table?_of_mem h.nodup_keys htable

theorem table?_eq_none_iff {schema name : String} :
    model.table? schema name = none ↔ ¬ rows.HasTable schema name := by
  rw [← h.hasTable_iff]
  constructor
  · rintro hnone ⟨table, htable⟩
    rw [(table?_eq_some_iff h).mpr htable] at hnone
    cases hnone
  · intro hmissing
    cases hfound : model.table? schema name with
    | none => rfl
    | some table => exact absurd ⟨table, (table?_eq_some_iff h).mp hfound⟩ hmissing

theorem column?_eq_some_iff {table : Table} (htable : table ∈ model.tables)
    {name : String} {column : Column} :
    table.column? name = some column ↔
      column ∈ table.columns ∧ column.key = ⟨table.schema, table.name, name⟩ := by
  constructor
  · intro hfound
    have hname : column.name = name := by simpa using List.find?_some hfound
    have hmem := List.mem_of_find?_eq_some hfound
    obtain ⟨hschema, htableName⟩ := h.owned table htable column hmem
    exact ⟨hmem, by rw [← hschema, ← htableName, ← hname]; rfl⟩
  · rintro ⟨hmem, hkey⟩
    have hname : column.name = name := (ColumnKey.mk.inj hkey).2.2
    rw [← hname]
    exact find?_key_of_mem (h.names table htable) hmem

theorem table_eq_ok_iff {schema name : String} {table : Table} :
    model.table schema name = .ok table ↔
      table ∈ model.tables ∧ table.schema = schema ∧ table.name = name := by
  rw [← table?_eq_some_iff h, SchemaModel.table]
  cases model.table? schema name <;> simp

theorem table_ok_iff {schema name : String} :
    (∃ table, model.table schema name = .ok table) ↔ rows.HasTable schema name := by
  simp only [table_eq_ok_iff h, h.hasTable_iff]

theorem table_eq_error_iff {schema name : String} {e : Error} :
    model.table schema name = .error e ↔
      e = .tableNotFound schema name ∧ ¬ rows.HasTable schema name := by
  rw [← table?_eq_none_iff h, SchemaModel.table]
  cases model.table? schema name <;> simp [eq_comm]

theorem column_eq_ok_iff {schema table name : String} {column : Column} :
    model.column schema table name = .ok column ↔
      ∃ found ∈ model.tables, column ∈ found.columns ∧
        column.key = ⟨schema, table, name⟩ := by
  constructor
  · intro hcolumn
    rw [SchemaModel.column] at hcolumn
    cases hfound : model.table schema table with
    | error e => simp [hfound, bind, Except.bind] at hcolumn
    | ok found =>
        obtain ⟨hmem, rfl, rfl⟩ := (table_eq_ok_iff h).mp hfound
        cases hlook : found.column? name with
        | none => simp [hfound, hlook, bind, Except.bind] at hcolumn
        | some other =>
            simp only [hfound, hlook, bind, Except.bind, Except.ok.injEq] at hcolumn
            exact ⟨found, hmem, (column?_eq_some_iff h hmem).mp (hcolumn ▸ hlook)⟩
  · rintro ⟨found, hmem, hcolumn, hkey⟩
    obtain ⟨rfl, rfl⟩ := h.key_eq hmem hcolumn hkey
    have hfound := (table_eq_ok_iff h).mpr ⟨hmem, rfl, rfl⟩
    have hlook := (column?_eq_some_iff h hmem).mpr ⟨hcolumn, hkey⟩
    rw [SchemaModel.column, hfound]
    simp only [bind, Except.bind, hlook]

theorem column_ok_iff {schema table name : String} :
    (∃ column, model.column schema table name = .ok column) ↔
      rows.HasColumn schema table name := by
  rw [← h.hasColumn_iff]
  simp only [column_eq_ok_iff h]
  exact exists_comm.trans (by simp only [exists_and_left])

/-- A lookup of a column fails at its table, or else at the column itself. -/
theorem column_eq_error_iff {schema table name : String} {e : Error} :
    model.column schema table name = .error e ↔
      e = .tableNotFound schema table ∧ ¬ rows.HasTable schema table ∨
        e = .columnNotFound schema table name ∧ rows.HasTable schema table ∧
          ¬ rows.HasColumn schema table name := by
  cases hfound : model.table schema table with
  | error e' =>
      obtain ⟨rfl, hmissing⟩ := (table_eq_error_iff h).mp hfound
      simp [SchemaModel.column, hfound, bind, Except.bind, hmissing, eq_comm]
  | ok found =>
      have hthere := (table_ok_iff h).mp ⟨found, hfound⟩
      have hcolumn : (∃ column, model.column schema table name = .ok column) ↔
          rows.HasColumn schema table name := column_ok_iff h
      cases hlook : found.column? name with
      | none =>
          have hmissing : ¬ rows.HasColumn schema table name := by
            rw [← hcolumn]
            simp [SchemaModel.column, hfound, hlook, bind, Except.bind]
          simp [SchemaModel.column, hfound, hlook, bind, Except.bind, hthere,
            hmissing, eq_comm]
      | some column =>
          have hknown : rows.HasColumn schema table name := by
            rw [← hcolumn]
            simp [SchemaModel.column, hfound, hlook, bind, Except.bind]
          simp [SchemaModel.column, hfound, hlook, bind, Except.bind,
            hthere, hknown]

theorem findTable?_eq_some_iff {name : String} {table : Table} :
    model.findTable? name = some table ↔
      table ∈ model.tables ∧ table.name = name ∧
        (table.schema = model.schema ∨
          ¬ rows.HasTable model.schema name ∧
            ∀ other ∈ model.tables, other.name = name →
              table.schema ≤ other.schema) := by
  cases hcurrent : model.table? model.schema name with
  | some current =>
      have hthere : rows.HasTable model.schema name := by
        by_contra hmissing
        rw [(table?_eq_none_iff h).mpr hmissing] at hcurrent
        cases hcurrent
      have hfind : model.findTable? name = model.table? model.schema name := by
        rw [findTable?, hcurrent]
        rfl
      rw [hfind, table?_eq_some_iff h]
      simp only [hthere, not_true_eq_false, false_and, or_false]
      exact and_congr_right fun _ => and_comm
  | none =>
      have hmissing := (table?_eq_none_iff h).mp hcurrent
      have hfind : model.findTable? name = model.tables.find? fun table =>
          table.name = name := by
        rw [findTable?, hcurrent]
        rfl
      rw [hfind, find?_name_eq_some_iff h.ascending]
      refine and_congr_right fun hmem => and_congr_right fun hname => ?_
      have hother : table.schema ≠ model.schema := fun hschema =>
        hmissing (h.hasTable_iff.mp ⟨table, hmem, hschema, hname⟩)
      simp only [hother, false_or, hmissing, not_false_eq_true, true_and]

theorem findTable?_isSome_iff {name : String} :
    (model.findTable? name).isSome ↔ ∃ schema, rows.HasTable schema name := by
  simp only [← h.hasTable_iff]
  constructor
  · intro hfound
    obtain ⟨table, htable⟩ := Option.isSome_iff_exists.mp hfound
    obtain ⟨hmem, hname, _⟩ := (findTable?_eq_some_iff h).mp htable
    exact ⟨table.schema, table, hmem, rfl, hname⟩
  · rintro ⟨schema, table, hmem, _, hname⟩
    rw [findTable?]
    cases model.table? model.schema name with
    | some current => rfl
    | none =>
        have hany : (model.tables.find? fun table => table.name = name).isSome :=
          List.find?_isSome.mpr ⟨table, hmem, by simpa using hname⟩
        exact hany

/-- What is looked up in a model whose tables are what rows report. -/
theorem answers_of_listed : model.Answers rows where
  table_iff _ _ _ := table_eq_ok_iff h
  table_ok_iff _ _ := table_ok_iff h
  table_error_iff _ _ _ := table_eq_error_iff h
  column_iff _ _ _ _ := column_eq_ok_iff h
  column_ok_iff _ _ _ := column_ok_iff h
  column_error_iff _ _ _ _ := column_eq_error_iff h
  findTable_iff _ _ := findTable?_eq_some_iff h
  findTable_isSome_iff _ := findTable?_isSome_iff h

end Lookups

/-- A model represents rows: its tables are what they report, so is what is looked
up in it, and the positions it stores are in bounds. -/
structure Represents (model : SchemaModel) (rows : Rows) : Prop where
  listed : Listed rows model.tables
  answers : model.Answers rows
  positioned : model.Positioned

/-- A model represents the rows it is built from. -/
theorem represents_build (kind : DatabaseKind) (blocked : String → Bool)
    (rows : Rows) : (build kind blocked rows).Represents rows := by
  have hlisted : Listed rows (build kind blocked rows).tables :=
    listed_buildTables blocked rows
  exact
    { listed := hlisted
      answers := answers_of_listed hlisted
      positioned := positioned_of_nodup hlisted.nodup_keys hlisted.names }

end SchemaModel

end QueryGate.Catalog
