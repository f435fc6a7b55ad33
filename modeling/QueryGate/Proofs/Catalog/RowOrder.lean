import QueryGate.Proofs.Catalog.Columnwise
import QueryGate.Proofs.Catalog.Lookups
import QueryGate.Proofs.Catalog.SameStructure

/-!
Rows in another order.

What a column, a function or a table is made of are the rows of its own key. So a
discovery that reports the rows of other keys earlier or later, and the rows of
indexes in any order, finds the same structure. There is one thing that a table
learns from several columns, namely its kind: the first column that tells it counts,
and for the order not to matter they have to tell the same.
-/

namespace QueryGate.Catalog

namespace ColumnRow

/-- The table that a row belongs to. -/
def tableKey (row : ColumnRow) : String × String :=
  (row.schema, row.table)

/-- What rows say of the kind of a table is one kind, as far as they say
anything. -/
def OneKind (rows : List ColumnRow) : Prop :=
  ∀ row ∈ rows, ∀ other ∈ rows, row.tableKey = other.tableKey →
    row.tableKind ≠ "" → other.tableKind ≠ "" →
      TableKind.ofCatalog row.tableKind = TableKind.ofCatalog other.tableKind

theorem OneKind.filter {rows : List ColumnRow} (h : OneKind rows)
    (keep : ColumnRow → Bool) : OneKind (rows.filter keep) :=
  fun row hrow other hother =>
    h row (List.mem_filter.mp hrow).1 other (List.mem_filter.mp hother).1

end ColumnRow

/-- The kind that the columns of a table report. -/
def reportedKind (merged : List MergedColumn) (key : String × String) : String :=
  filled ((merged.filter fun m => m.tableKey = key).map MergedColumn.tableKind)

/-- The numbers of columns are of no account for it. -/
theorem reportedKind_map_shape (merged : List MergedColumn) :
    reportedKind (merged.map MergedColumn.shape) = reportedKind merged := by
  funext key
  rw [reportedKind, reportedKind, List.filter_map, List.map_map]
  rfl

section Kinds

variable {blocked : String → Bool} {rows rows' : List ColumnRow}
  {key : String × String}

theorem tableKind_of_mem_mergeColumns {m : MergedColumn}
    (hm : m ∈ mergeColumns blocked rows) :
    m.tableKind =
      filled ((rows.filter fun row => row.key = m.column.key).map
        ColumnRow.tableKind) := by
  have hshape :=
    congrArg MergedColumn.tableKind (shape_of_mem_mergeColumns blocked hm)
  rwa [MergedColumn.ofRows_eq] at hshape

/-- A kind that is reported comes from a row about the table. -/
theorem exists_row_of_reportedKind
    (h : reportedKind (mergeColumns blocked rows) key ≠ "") :
    ∃ row ∈ rows, row.tableKey = key ∧
      row.tableKind = reportedKind (mergeColumns blocked rows) key := by
  obtain ⟨m, hm, hkind⟩ := List.mem_map.mp (filled_mem h)
  obtain ⟨hm, htable⟩ := List.mem_filter.mp hm
  have hrow := tableKind_of_mem_mergeColumns hm
  have hne := h
  rw [reportedKind, ← hkind, hrow] at hne
  obtain ⟨row, hmem, hsame⟩ := List.mem_map.mp (filled_mem hne)
  obtain ⟨hmem, hkey⟩ := List.mem_filter.mp hmem
  have hkey : row.key = m.column.key := by simpa using hkey
  obtain ⟨hschema, hname, _⟩ := ColumnKey.mk.inj hkey
  have htable : m.tableKey = key := by simpa using htable
  refine ⟨row, hmem, ?_, ?_⟩
  · exact (Prod.ext hschema hname).trans htable
  · rw [hsame, ← hrow, hkind]
    rfl

/-- No kind is reported where no row about the table tells one. -/
theorem reportedKind_eq_empty_iff :
    reportedKind (mergeColumns blocked rows) key = "" ↔
      ∀ row ∈ rows, row.tableKey = key → row.tableKind = "" := by
  constructor
  · intro hempty row hrow htable
    obtain ⟨m, hm, hkey⟩ := exists_column_of_mem blocked hrow
    obtain ⟨hschema, hname, _⟩ := ColumnKey.mk.inj hkey
    have hmember : m ∈ (mergeColumns blocked rows).filter fun m =>
        m.tableKey = key := by
      refine List.mem_filter.mpr ⟨hm, ?_⟩
      simpa using (Prod.ext hschema hname : m.tableKey = row.tableKey).trans htable
    have hkind := filled_eq_empty_iff.mp hempty _ (List.mem_map_of_mem hmember)
    rw [tableKind_of_mem_mergeColumns hm, filled_eq_empty_iff] at hkind
    apply hkind
    exact List.mem_map_of_mem (List.mem_filter.mpr ⟨hrow, by simpa using hkey.symm⟩)
  · intro hrows
    by_contra hne
    obtain ⟨row, hrow, htable, hsame⟩ := exists_row_of_reportedKind hne
    rw [← hsame] at hne
    exact hne (hrows row hrow htable)

/-- Rows that tell of one kind report it in any order. -/
theorem ofCatalog_reportedKind_eq (hperm : rows.Perm rows')
    (hkind : ColumnRow.OneKind rows) :
    TableKind.ofCatalog (reportedKind (mergeColumns blocked rows) key) =
      TableKind.ofCatalog (reportedKind (mergeColumns blocked rows') key) := by
  have hiff : reportedKind (mergeColumns blocked rows) key = "" ↔
      reportedKind (mergeColumns blocked rows') key = "" := by
    simp only [reportedKind_eq_empty_iff, hperm.mem_iff]
  by_cases hempty : reportedKind (mergeColumns blocked rows) key = ""
  · rw [hempty, hiff.mp hempty]
  · have hempty' := mt hiff.mpr hempty
    obtain ⟨row, hrow, htable, hsame⟩ := exists_row_of_reportedKind hempty
    obtain ⟨row', hrow', htable', hsame'⟩ := exists_row_of_reportedKind hempty'
    rw [← hsame] at hempty ⊢
    rw [← hsame'] at hempty' ⊢
    exact hkind row hrow row' (hperm.mem_iff.mpr hrow') (htable.trans htable'.symm)
      hempty hempty'

end Kinds

section Tables

variable {blocked : String → Bool} {rows rows' : Rows}

/-- The rows of indexes may come in any order. -/
theorem shape_toTable_eq {indexes indexes' : List IndexRow}
    (hperm : indexes.Perm indexes') (group : TableGroup) :
    (group.toTable blocked indexes).shape =
      (group.toTable blocked indexes').shape := by
  have hentry : IndexEntry.ofRow indexes = IndexEntry.ofRow indexes' := by
    funext row
    rw [IndexEntry.ofRow, IndexEntry.ofRow, hperm.countP_eq]
  have hentries : (tableIndexes indexes group.schema group.name).entries.Perm
      (tableIndexes indexes' group.schema group.name).entries := by
    rw [tableIndexes, tableIndexes, hentry]
    exact (hperm.filter _).map _
  simp only [Table.shape, TableGroup.toTable, Multiset.coe_eq_coe.mpr hentries]

/-- Columns that look the same, and report the same kinds, are grouped into tables
that look the same. -/
theorem perm_shape_groupColumns (blocked : String → Bool)
    {merged merged' : List MergedColumn}
    (hcolumns : (merged.map MergedColumn.shape).Perm
      (merged'.map MergedColumn.shape))
    (hkinds : ∀ key, TableKind.ofCatalog (reportedKind merged key) =
      TableKind.ofCatalog (reportedKind merged' key))
    (indexes : List IndexRow) :
    ((groupColumns merged).map fun group =>
      (group.toTable blocked indexes).shape).Perm
      ((groupColumns merged').map fun group =>
        (group.toTable blocked indexes).shape) := by
  apply perm_map_of_find?_key (nodup_keys_groupColumns _)
    (nodup_keys_groupColumns _)
  intro key
  have hmembers := perm_map_filter (p := fun m => m.tableKey = key)
    (q := fun m => m.tableKey = key) (fun _ => rfl) hcolumns
  have hlength := hmembers.length_eq
  rw [List.length_map, List.length_map] at hlength
  have hshapes := Multiset.coe_eq_coe.mpr (hmembers.map MergedColumn.column)
  rw [List.map_map, List.map_map] at hshapes
  rw [find?_groupColumns, find?_groupColumns]
  simp only [← List.length_eq_zero_iff, hlength]
  split
  · rfl
  · rw [Option.map_some, Option.map_some, Option.some.injEq, Table.shape,
      Table.shape, TableShape.mk.injEq]
    refine ⟨rfl, rfl, hkinds key, ?_, rfl, rfl⟩
    simp only [TableGroup.toTable, Multiset.map_coe, List.map_map]
    exact hshapes

/-- The rows of internal tables are of no account. -/
theorem perm_shape_buildTables (blocked : String → Bool) (rows : Rows) :
    ((SchemaModel.buildTables blocked rows).map Table.shape).Perm
      ((groupColumns (mergeColumns blocked (shownRows rows.columns))).map
        fun group =>
        (group.toTable blocked rows.indexes).shape) := by
  have hperm := (SchemaModel.perm_buildTables blocked rows).map Table.shape
  rw [List.map_map] at hperm
  have hgroups : (groupColumns (mergeColumns blocked rows.columns)).filter
        (fun group => !isInternal group.name) =
      groupColumns ((mergeColumns blocked rows.columns).filter fun m =>
        !isInternal m.column.table) :=
    filter_groupColumns (fun key => !isInternal key.2) _
  have hshown := map_shape_filter_mergeColumns blocked rows.columns
  -- The columns are the same but for their numbers, which no kind depends on.
  have hkinds := congrArg reportedKind hshown
  rw [reportedKind_map_shape, reportedKind_map_shape] at hkinds
  rw [hgroups] at hperm
  apply hperm.trans
  apply perm_shape_groupColumns
  · rw [hshown]
  · intro key
    rw [hkinds]

/-- Columns that look the same, and report the same kinds, make tables that look the
same. -/
theorem shape_buildTables_eq
    (hcolumns : ((mergeColumns blocked (shownRows rows.columns)).map
      MergedColumn.shape).Perm ((mergeColumns blocked (shownRows rows'.columns)).map
        MergedColumn.shape))
    (hkinds : ∀ key,
      TableKind.ofCatalog (reportedKind
        (mergeColumns blocked (shownRows rows.columns)) key) =
        TableKind.ofCatalog (reportedKind
          (mergeColumns blocked (shownRows rows'.columns)) key))
    (hindexes : rows.indexes.Perm rows'.indexes) :
    ((SchemaModel.buildTables blocked rows).map Table.shape).Perm
      ((SchemaModel.buildTables blocked rows').map Table.shape) := by
  have hgroups := perm_shape_groupColumns blocked hcolumns hkinds rows.indexes
  have hindexed : (fun group : TableGroup =>
    (group.toTable blocked rows.indexes).shape) =
      fun group => (group.toTable blocked rows'.indexes).shape :=
    funext (shape_toTable_eq hindexes)
  have htables := (perm_shape_buildTables blocked rows).trans hgroups
  rw [hindexed] at htables
  exact htables.trans (perm_shape_buildTables blocked rows').symm

end Tables

/-- The rows of another discovery are the same ones. The rows of one column, and
those of one function, come in the same order, and the rows of indexes in any
order. -/
structure Rows.Rearranged (rows rows' : Rows) : Prop where
  info : rows.info = rows'.info
  columns : Catalog.Rearranged ColumnRow.key rows.columns rows'.columns
  functions : Catalog.Rearranged FunctionRow.id rows.functions rows'.functions
  indexes : rows.indexes.Perm rows'.indexes

section Models

variable {blocked : String → Bool} {rows rows' : Rows}

theorem perm_groupFunctions {rows rows' : List FunctionRow}
    (h : Rearranged FunctionRow.id rows rows') :
    (groupFunctions blocked rows).Perm (groupFunctions blocked rows') := by
  rw [groupFunctions_eq_map_collect, groupFunctions_eq_map_collect]
  exact (Rearranged.perm_collect (c := functionCollection blocked) h).map _

theorem perm_shape_mergeColumns {rows rows' : List ColumnRow}
    (h : Rearranged ColumnRow.key rows rows') :
    ((mergeColumns blocked rows).map MergedColumn.shape).Perm
      ((mergeColumns blocked rows').map MergedColumn.shape) := by
  rw [map_shape_mergeColumns, map_shape_mergeColumns]
  exact Rearranged.perm_collect (c := columnCollection blocked) h

namespace SchemaModel

/-- Models whose tables look the same, and which have the same functions, have one
shape. -/
theorem shape_build_eq (kind : DatabaseKind) (hinfo : rows.info = rows'.info)
    (htables : ((buildTables blocked rows).map Table.shape).Perm
      ((buildTables blocked rows').map Table.shape))
    (hfunctions : (groupFunctions blocked rows.functions).Perm
      (groupFunctions blocked rows'.functions)) :
    (build kind blocked rows).shape = (build kind blocked rows').shape := by
  have hcounted :
    ((buildTables blocked rows).map Table.shape : Multiset TableShape) =
      (buildTables blocked rows').map Table.shape :=
    Multiset.coe_eq_coe.mpr htables
  simp only [shape, build, hinfo, Multiset.map_coe, hcounted,
    Multiset.coe_eq_coe.mpr hfunctions]

theorem shape_buildTables_of_rearranged (blocked : String → Bool)
    (h : Rearranged ColumnRow.key rows.columns rows'.columns)
    (hkind : ColumnRow.OneKind rows.columns)
    (hindexes : rows.indexes.Perm rows'.indexes) :
    ((buildTables blocked rows).map Table.shape).Perm
      ((buildTables blocked rows').map Table.shape) := by
  have hshown := h.filter fun row => !isInternal row.table
  apply shape_buildTables_eq
  · exact perm_shape_mergeColumns hshown
  · intro key
    exact ofCatalog_reportedKind_eq hshown.perm (hkind.filter _)
  · exact hindexes

/-- The shape of a model does not depend on the order in which its rows are
reported. -/
theorem shape_build_of_rearranged (kind : DatabaseKind) (blocked : String → Bool)
    (h : rows.Rearranged rows') (hkind : ColumnRow.OneKind rows.columns) :
    (build kind blocked rows).shape = (build kind blocked rows').shape := by
  apply shape_build_eq kind h.info
  · exact shape_buildTables_of_rearranged blocked h.columns hkind h.indexes
  · exact perm_groupFunctions h.functions

end SchemaModel

end Models

namespace SchemaModel

/-- A discovery that reports its rows in another order finds the same structure: the
same tables, listed in the same order, and the same functions. Whatever the hasher,
its digest is the same. -/
theorem build_rearranged (kind : DatabaseKind) (blocked : String → Bool)
    {rows rows' : Rows} (h : rows.Rearranged rows')
    (hkind : ColumnRow.OneKind rows.columns) :
    let model := build kind blocked rows
    let other := build kind blocked rows'
    (∀ hash : Hasher, model.digest hash = other.digest hash) ∧
      model.sameStructure other = true ∧
      model.shape = other.shape ∧
      model.tables.map Table.shape = other.tables.map Table.shape ∧
      model.functions.Perm other.functions := by
  have hshape := shape_build_of_rearranged kind blocked h hkind
  have htables := shape_buildTables_of_rearranged blocked h.columns hkind h.indexes
  refine ⟨?_, ?_, hshape, ?_, ?_⟩
  · intro hash
    exact digest_eq_of_shape_eq hash hshape
  · exact (sameStructure_build_iff kind kind blocked blocked rows rows').mpr hshape
  · exact map_shape_buildTables_eq (Multiset.coe_eq_coe.mpr htables)
  · exact perm_groupFunctions h.functions

namespace ViewFirst

/-- The identifiers of a table and of a view, each with what the catalog calls its
kind. -/
def column (table kind : String) : ColumnRow :=
  ⟨"public", table, "id", "int", kind, ⟨true, true, false, false, false⟩,
    ⟨"", "", ""⟩⟩

def parameter (function : String) : FunctionRow :=
  ⟨function, function, some 1, some "by", "int"⟩

def member (name : String) : IndexRow :=
  ⟨"public", "orders_key", "orders", "UNIQUE", name⟩

def rows : Rows where
  info := ⟨14, "public", "app"⟩
  columns := [column "orders" "r", column "totals" "v"]
  functions := [parameter "grow", parameter "shrink"]
  indexes := [member "id", member "day"]

def swapped : Rows where
  info := ⟨14, "public", "app"⟩
  columns := [column "totals" "v", column "orders" "r"]
  functions := [parameter "shrink", parameter "grow"]
  indexes := [member "day", member "id"]

theorem rearranged_rows : rows.Rearranged swapped where
  info := rfl
  columns := Rearranged.swap (by decide) [] []
  functions := Rearranged.swap (by decide) [] []
  indexes := List.Perm.swap _ _ _

theorem oneKind_rows : ColumnRow.OneKind rows.columns := by
  unfold ColumnRow.OneKind
  decide +kernel

/-- All rows change places, and the structure stays the same. -/
theorem build_rearranged_swapped :
    rows.Rearranged swapped ∧ ColumnRow.OneKind rows.columns ∧
      (build .postgres (fun _ => false) rows).digest standardHash =
        (build .postgres (fun _ => false) swapped).digest standardHash := by
  obtain ⟨hdigest, _⟩ :=
    build_rearranged .postgres (fun _ => false) rearranged_rows oneKind_rows
  exact ⟨rearranged_rows, oneKind_rows, hdigest standardHash⟩

end ViewFirst

end SchemaModel

end QueryGate.Catalog
