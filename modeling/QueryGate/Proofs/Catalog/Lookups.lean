import QueryGate.Proofs.Catalog.TableOrder

/-!
What is looked up in a model.

A built model has one table for a schema and a name, and a table has one column for
a name, so it does not matter in which order they are searched. Models of one shape
therefore answer alike wherever a name decides. They need not where the first of
several counts: of the columns that may be the primary one, and of the functions
that share a name.
-/

namespace QueryGate.Catalog

/-- Where all things look the same, so do the first ones. -/
theorem head?_map_eq_of_perm {α β : Type} {xs ys : List α} {f : α → β}
    (hperm : (xs.map f).Perm (ys.map f)) (hone : ∀ x ∈ xs, ∀ y ∈ xs, f x = f y) :
    xs.head?.map f = ys.head?.map f := by
  cases xs with
  | nil =>
      have hnil : ys = [] := by simpa using hperm.nil_eq.symm
      rw [hnil]
  | cons x xs =>
      cases ys with
      | nil => simp at hperm
      | cons y ys =>
          have hmem : f y ∈ (x :: xs).map f := hperm.mem_iff.mpr (by simp)
          obtain ⟨x', hx', hsame⟩ := List.mem_map.mp hmem
          rw [List.head?_cons, List.head?_cons, Option.map_some, Option.map_some,
            ← hsame, hone x List.mem_cons_self x' hx']

namespace Table

/-- The columns that may be the primary one. -/
def identifyingColumns (table : Table) : List Column :=
  table.columns.filter isIdentifying

/-- The primary column is the first of those that may be. -/
theorem primaryColumn?_eq_head? (table : Table) :
    table.primaryColumn? = table.identifyingColumns.head? := by
  rw [identifyingColumns, List.head?_filter]
  rfl

/-- Two tables answer alike. Columns are compared without their numbers. The same
columns may be the primary one, which is the same where there is at most one of
them. -/
structure AnswersLike (table other : Table) : Prop where
  shape : table.shape = other.shape
  column : ∀ name,
    (table.column? name).map Column.shape = (other.column? name).map Column.shape
  fullText : (table.fullTextColumns.map Column.shape).Perm
    (other.fullTextColumns.map Column.shape)
  ofColumn : ∀ name, (table.indexes.ofColumn name).Perm
    (other.indexes.ofColumn name)
  ofConstraint : ∀ name, (table.indexes.ofConstraint name).Perm
    (other.indexes.ofConstraint name)
  identifying :
    (table.identifyingColumns.map Column.shape).Perm
      (other.identifyingColumns.map Column.shape)
  primary_isSome : table.primaryColumn?.isSome = other.primaryColumn?.isSome
  primary : table.identifyingColumns.length ≤ 1 →
    table.primaryColumn?.map Column.shape = other.primaryColumn?.map Column.shape

theorem perm_columns_of_shape_eq {table other : Table}
    (h : table.shape = other.shape) :
    (table.columns.map Column.shape).Perm (other.columns.map Column.shape) :=
  Multiset.coe_eq_coe.mp (TableShape.mk.inj h).2.2.2.1

theorem perm_entries_of_shape_eq {table other : Table}
    (h : table.shape = other.shape) :
    table.indexes.entries.Perm other.indexes.entries :=
  Multiset.coe_eq_coe.mp (TableShape.mk.inj h).2.2.2.2.1

theorem map_shape_column? (table : Table) (name : String) :
    (table.column? name).map Column.shape =
      (table.columns.map Column.shape).find? fun column => column.name = name := by
  rw [List.find?_map]
  rfl

/-- Tables of one shape answer alike where no two columns have one name. -/
theorem answersLike_of_shape_eq {table other : Table}
    (h : table.shape = other.shape)
    (hnames : (table.columns.map Column.name).Nodup) : table.AnswersLike other := by
  have hcolumns := perm_columns_of_shape_eq h
  have hentries := perm_entries_of_shape_eq h
  have hidentifying : (table.identifyingColumns.map Column.shape).Perm
      (other.identifyingColumns.map Column.shape) :=
    perm_map_filter (q := isIdentifying) (fun _ => rfl) hcolumns
  constructor
  case shape => exact h
  case column =>
    intro name
    have hshapes : ((table.columns.map Column.shape).map Column.name).Nodup := by
      rw [List.map_map]
      exact hnames
    rw [map_shape_column?, map_shape_column?, find?_key_of_perm hcolumns hshapes]
  case fullText =>
    exact perm_map_filter (q := (·.flags.fullText)) (fun _ => rfl) hcolumns
  case ofColumn => exact fun name => hentries.filter _
  case ofConstraint => exact fun name => hentries.filter _
  case identifying => exact hidentifying
  case primary_isSome =>
    have hlength := hidentifying.length_eq
    rw [List.length_map, List.length_map] at hlength
    rw [primaryColumn?_eq_head?, primaryColumn?_eq_head?, Bool.eq_iff_iff,
      List.isSome_head?, List.isSome_head?, ← List.length_pos_iff,
      ← List.length_pos_iff, hlength]
  case primary =>
    intro hone
    rw [primaryColumn?_eq_head?, primaryColumn?_eq_head?]
    apply head?_map_eq_of_perm hidentifying
    match table.identifyingColumns, hone with
    | [], _ => simp
    | [_], _ => simp

end Table

section Built

variable (blocked : String → Bool) (rows : Rows)

/-- The group that a table is made of. -/
theorem exists_group_of_mem_buildTables {table : Table}
    (htable : table ∈ SchemaModel.buildTables blocked rows) :
    ∃ group ∈ groupColumns (mergeColumns blocked rows.columns),
      isInternal group.name = false ∧
      group.toTable blocked rows.indexes = table := by
  have hmem := (SchemaModel.perm_buildTables blocked rows).mem_iff.mp htable
  obtain ⟨group, hgroup, hmade⟩ := List.mem_map.mp hmem
  obtain ⟨hgroup, hshown⟩ := List.mem_filter.mp hgroup
  exact ⟨group, hgroup, by simpa using hshown, hmade⟩

/-- The columns of a table are those that belong to it. -/
theorem columns_of_mem_groupColumns {merged : List MergedColumn}
    {group : TableGroup} (hgroup : group ∈ groupColumns merged) :
    group.columns =
      (merged.filter fun m => m.tableKey = group.key).map MergedColumn.column := by
  have hfound := find?_key_of_mem (nodup_keys_groupColumns merged) hgroup
  rw [find?_groupColumns] at hfound
  split at hfound
  · cases hfound
  · exact (congrArg TableGroup.columns (Option.some.inj hfound)).symm

/-- A column belongs to a table. -/
theorem exists_group_of_mem {merged : List MergedColumn} {m : MergedColumn}
    (hm : m ∈ merged) :
    ∃ group ∈ groupColumns merged, group.key = m.tableKey ∧
      m.column ∈ group.columns := by
  have hmember : m ∈ merged.filter fun other => other.tableKey = m.tableKey :=
    List.mem_filter.mpr ⟨hm, by simp⟩
  have hfound := find?_groupColumns merged m.tableKey
  rw [if_neg (List.ne_nil_of_mem hmember)] at hfound
  exact ⟨_, List.mem_of_find?_eq_some hfound, rfl, List.mem_map_of_mem hmember⟩

/-- A column belongs to one of the tables unless its own one is internal. -/
theorem exists_table_of_mem_mergeColumns {m : MergedColumn}
    (hm : m ∈ mergeColumns blocked rows.columns)
    (hshown : isInternal m.column.table = false) :
    ∃ table ∈ SchemaModel.buildTables blocked rows,
      table.key = m.tableKey ∧ m.column ∈ table.columns := by
  obtain ⟨group, hgroup, hkey, hmember⟩ := exists_group_of_mem hm
  have hname : group.name = m.column.table := (Prod.mk.inj hkey).2
  refine ⟨group.toTable blocked rows.indexes, ?_, hkey, hmember⟩
  refine (SchemaModel.perm_buildTables blocked rows).mem_iff.mpr
    (List.mem_map_of_mem ?_)
  exact List.mem_filter.mpr ⟨hgroup, by rw [hname, hshown]; rfl⟩

/-- No two columns of a table have one name. -/
theorem nodup_names_columns {table : Table}
    (htable : table ∈ SchemaModel.buildTables blocked rows) :
    (table.columns.map Column.name).Nodup := by
  obtain ⟨group, hgroup, _, rfl⟩ :=
    exists_group_of_mem_buildTables blocked rows htable
  show (group.columns.map Column.name).Nodup
  rw [columns_of_mem_groupColumns hgroup, List.map_map]
  have hkeys :=
    (List.pairwise_map.mp (nodup_keys_mergeColumns blocked rows.columns)).filter
    fun m => decide (m.tableKey = group.key)
  refine List.pairwise_map.mpr (hkeys.imp_of_mem
    fun {m m'} hm hm' hne hname => hne ?_)
  have hkey : m.tableKey = group.key := by simpa using (List.mem_filter.mp hm).2
  have hkey' : m'.tableKey = group.key := by simpa using (List.mem_filter.mp hm').2
  obtain ⟨hschema, htable⟩ := Prod.mk.inj (hkey.trans hkey'.symm)
  simp only [Column.key, ColumnKey.mk.injEq]
  exact ⟨hschema, htable, hname⟩

end Built

namespace SchemaModel

/-- Built models of one shape list tables of one shape in one order. -/
theorem map_shape_buildTables_eq {blocked blocked' : String → Bool}
    {rows rows' : Rows}
    (h : ((buildTables blocked rows).map Table.shape : Multiset TableShape) =
      (buildTables blocked' rows').map Table.shape) :
    (buildTables blocked rows).map Table.shape =
      (buildTables blocked' rows').map Table.shape := by
  have hsorted : ∀ {blocked : String → Bool} {rows : Rows},
      ((buildTables blocked rows).map Table.shape).Pairwise fun a b =>
        KeyBefore (a.schema, a.name) (b.schema, b.name) :=
    fun {blocked rows} => List.pairwise_map.mpr (pairwise_buildTables blocked rows)
  exact (Multiset.coe_eq_coe.mp h).eq_of_pairwise
    (fun _ _ _ _ hab hba => absurd hba hab.asymm)
    hsorted hsorted

/-- The functions of a name. The first of them is what is found by it. -/
def functionsNamed (model : SchemaModel) (name : String) : List Function :=
  model.functions.filter (·.name = name)

theorem function?_eq_head? (model : SchemaModel) (name : String) :
    model.function? name = (model.functionsNamed name).head? := by
  rw [functionsNamed, List.head?_filter]
  rfl

/-- Two models answer alike. Columns are compared without their numbers. A table is
found in both models, or is missing in both. The same functions share a name, and
where a name has but one meaning, the same function is found, and the same
parameters of it. -/
structure AnswersLike (a b : SchemaModel) : Prop where
  table : ∀ schema name,
    (∃ table other, a.table schema name = .ok table ∧
      b.table schema name = .ok other ∧
      table.AnswersLike other) ∨
    ∃ e, a.table schema name = .error e ∧ b.table schema name = .error e
  column : ∀ schema table name,
    (a.column schema table name).map Column.shape =
      (b.column schema table name).map Column.shape
  findTable : ∀ name, Option.Rel Table.AnswersLike (a.findTable? name)
    (b.findTable? name)
  named : ∀ name, (a.functionsNamed name).Perm (b.functionsNamed name)
  function_isSome : ∀ name, (a.function? name).isSome = (b.function? name).isSome
  function : ∀ name, (∀ f ∈ a.functionsNamed name,
    ∀ g ∈ a.functionsNamed name, f = g) →
    a.function? name = b.function? name
  param : ∀ name,
    (∀ f ∈ a.functionsNamed name, ∀ g ∈ a.functionsNamed name, f = g) →
    ∀ paramName, (a.function? name).bind (·.param? paramName) =
      (b.function? name).bind (·.param? paramName)

section OneShape

variable {a b : SchemaModel}

/-- A search that asks only for the shape of a table finds tables that answer
alike. -/
theorem rel_find?_tables
    (htables : a.tables.map Table.shape = b.tables.map Table.shape)
    (hnames : ∀ table ∈ a.tables, (table.columns.map Column.name).Nodup)
    (p : TableShape → Bool) :
    Option.Rel Table.AnswersLike (a.tables.find? fun table => p table.shape)
      (b.tables.find? fun table => p table.shape) := by
  have hmap : ∀ tables : List Table,
      (tables.find? fun table => p table.shape).map Table.shape =
        (tables.map Table.shape).find? p := by
    intro tables
    rw [List.find?_map]
    rfl
  have hfound := (hmap a.tables).trans
    ((congrArg (List.find? p) htables).trans (hmap b.tables).symm)
  cases ha : a.tables.find? fun table => p table.shape with
  | none =>
      rw [ha, Option.map_none, eq_comm, Option.map_eq_none_iff] at hfound
      rw [hfound]
      exact .none
  | some table =>
      rw [ha, Option.map_some, eq_comm, Option.map_eq_some_iff] at hfound
      obtain ⟨other, hb, hshape⟩ := hfound
      rw [hb]
      exact .some (Table.answersLike_of_shape_eq hshape.symm
        (hnames table (List.mem_of_find?_eq_some ha)))

theorem rel_table? (htables : a.tables.map Table.shape = b.tables.map Table.shape)
    (hnames : ∀ table ∈ a.tables, (table.columns.map Column.name).Nodup)
    (schema name : String) :
    Option.Rel Table.AnswersLike (a.table? schema name) (b.table? schema name) :=
  rel_find?_tables htables hnames fun shape =>
    shape.schema = schema && shape.name = name

theorem table_cases (htables : a.tables.map Table.shape = b.tables.map Table.shape)
    (hnames : ∀ table ∈ a.tables, (table.columns.map Column.name).Nodup)
    (schema name : String) :
    (∃ table other, a.table schema name = .ok table ∧
      b.table schema name = .ok other ∧
      table.AnswersLike other) ∨
    ∃ e, a.table schema name = .error e ∧ b.table schema name = .error e := by
  have hrel := rel_table? htables hnames schema name
  unfold SchemaModel.table
  generalize a.table? schema name = found at hrel ⊢
  generalize b.table? schema name = found' at hrel ⊢
  cases hrel with
  | none => exact Or.inr ⟨_, rfl, rfl⟩
  | some h => exact Or.inl ⟨_, _, rfl, rfl, h⟩

/-- Models that list tables of one shape, and the same functions in some order,
answer alike. -/
theorem answersLike_of_tables (hschema : a.schema = b.schema)
    (htables : a.tables.map Table.shape = b.tables.map Table.shape)
    (hnames : ∀ table ∈ a.tables, (table.columns.map Column.name).Nodup)
    (hfunctions : a.functions.Perm b.functions) : a.AnswersLike b := by
  have hnamed : ∀ name, (a.functionsNamed name).Perm (b.functionsNamed name) :=
    fun name => hfunctions.filter _
  have hfunction : ∀ name,
      (∀ f ∈ a.functionsNamed name, ∀ g ∈ a.functionsNamed name, f = g) →
        a.function? name = b.function? name := by
    intro name hone
    have hhead := head?_map_eq_of_perm (f := id) ((hnamed name).map id) hone
    rw [function?_eq_head?, function?_eq_head?]
    simpa using hhead
  constructor
  case table => exact table_cases htables hnames
  case column =>
    intro schema table name
    unfold SchemaModel.column
    rcases table_cases htables hnames schema table
      with ⟨found, found', ha, hb, hlike⟩ | ⟨e, ha, hb⟩
    · have hcolumn := hlike.column name
      rw [ha, hb]
      cases hfound : found.column? name with
      | none =>
          rw [hfound, Option.map_none, eq_comm, Option.map_eq_none_iff] at hcolumn
          simp [bind, Except.bind, hfound, hcolumn]
      | some column =>
          rw [hfound, Option.map_some, eq_comm, Option.map_eq_some_iff] at hcolumn
          obtain ⟨column', hfound', hshape⟩ := hcolumn
          simp [bind, Except.bind, Except.map, hfound, hfound', hshape]
    · rw [ha, hb]
  case findTable =>
    intro name
    -- The current schema goes first, and the other schemas only count where it has
    -- no such table.
    have hcurrent := rel_table? htables hnames a.schema name
    have hany := rel_find?_tables htables hnames fun shape => shape.name = name
    unfold SchemaModel.findTable?
    rw [← hschema]
    generalize a.table? a.schema name = found at hcurrent ⊢
    generalize b.table? a.schema name = found' at hcurrent ⊢
    cases hcurrent with
    | none => exact hany
    | some h => exact .some h
  case named => exact hnamed
  case function_isSome =>
    intro name
    have hlength := (hnamed name).length_eq
    rw [function?_eq_head?, function?_eq_head?, Bool.eq_iff_iff, List.isSome_head?,
      List.isSome_head?, ← List.length_pos_iff, ← List.length_pos_iff, hlength]
  case function => exact hfunction
  case param =>
    intro name hone paramName
    rw [hfunction name hone]

end OneShape

/-- A table is found by its schema and name. -/
theorem table?_of_mem (model : SchemaModel)
    (hkeys : (model.tables.map Table.key).Nodup) {table : Table}
    (htable : table ∈ model.tables) :
    model.table? table.schema table.name = some table := by
  have hfound := find?_key_of_mem hkeys htable
  simp only [Table.key, Prod.mk.injEq, Bool.decide_and] at hfound
  exact hfound

/-- What is found of a column is what its rows come to, unless its table is
internal. -/
theorem map_shape_column_build (kind : DatabaseKind) (blocked : String → Bool)
    {rows : Rows} {row : ColumnRow} (hrow : row ∈ rows.columns)
    (hshown : isInternal row.table = false) :
    ((build kind blocked rows).column row.schema row.table row.name).map
    Column.shape =
      .ok (MergedColumn.ofRows blocked row.key
        (rows.columns.filter fun other => other.key = row.key)).column := by
  obtain ⟨m, hm, hkey⟩ := exists_column_of_mem blocked hrow
  have hshape := shape_of_mem_mergeColumns blocked hm
  rw [hkey] at hshape
  obtain ⟨hschema, htable, hname⟩ := ColumnKey.mk.inj hkey
  obtain ⟨found, hmade, hfoundKey, hmember⟩ :=
    exists_table_of_mem_mergeColumns blocked rows hm (by rw [htable, hshown])
  obtain ⟨hfoundSchema, hfoundName⟩ := Prod.mk.inj hfoundKey
  have hfound : (build kind blocked rows).table? row.schema row.table =
      some found := by
    rw [← hschema, ← htable, ← hfoundSchema, ← hfoundName]
    exact table?_of_mem (build kind blocked rows)
      (nodup_keys_buildTables blocked rows) hmade
  have hcolumn : found.column? m.column.name = some m.column :=
    find?_key_of_mem (nodup_names_columns blocked rows hmade) hmember
  rw [← hname, column, table, hfound]
  simp only [bind, Except.bind, hcolumn, Except.map, ← hshape]
  rfl

/-- Built models of one shape answer alike. -/
theorem answersLike_of_shape_build_eq {kind kind' : DatabaseKind}
    {blocked blocked' : String → Bool} {rows rows' : Rows}
    (h : (build kind blocked rows).shape = (build kind' blocked' rows').shape) :
    (build kind blocked rows).AnswersLike (build kind' blocked' rows') := by
  obtain ⟨_, _, hschema, _, htables, hfunctions⟩ := SchemaShape.mk.inj h
  apply answersLike_of_tables hschema
  · exact map_shape_buildTables_eq htables
  · exact fun table htable => nodup_names_columns blocked rows htable
  · exact Multiset.coe_eq_coe.mp hfunctions

end SchemaModel

end QueryGate.Catalog
