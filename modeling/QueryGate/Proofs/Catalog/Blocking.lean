import Mathlib.Data.List.Forall2
import Mathlib.Data.List.Induction
import QueryGate.Proofs.Catalog.Columnwise
import QueryGate.Proofs.Pattern.Entries

/-!
What blocking does to a model.

Blocked tables and columns stay where they are and are marked. Blocked functions are
left out, as a whole, where all rows of a function tell its name. So the model under
a policy is the model under no policy with other marks and fewer functions, and a
stricter policy adds marks and removes functions.
-/

namespace QueryGate

namespace Catalog

/-- A column that is marked by a policy, whether or not it was before. -/
def Column.blockedBy (blocked : String → Bool) (column : Column) : Column :=
  { column with blocked := blocked column.name }

def Table.blockedBy (blocked : String → Bool) (table : Table) : Table :=
  { table with
    columns := table.columns.map (Column.blockedBy blocked)
    blocked := blocked table.name }

/-- A model whose tables and columns are marked, and which lacks the functions of
blocked names. -/
def SchemaModel.blockedBy (blocked : String → Bool) (model : SchemaModel) :
    SchemaModel :=
  { model with
    tables := model.tables.map (Table.blockedBy blocked)
    functions := model.functions.filter fun function => !blocked function.name }

theorem Table.key_blockedBy (blocked : String → Bool) (table : Table) :
    (table.blockedBy blocked).key = table.key :=
  rfl

section Marks

variable {blocked : String → Bool}

theorem keepsTable_blockedBy : KeepsTable (Column.blockedBy blocked) :=
  fun _ => ⟨rfl, rfl⟩

theorem addRow_blockedBy (other : String → Bool) (row : ColumnRow) (id : Nat)
    (merged : List MergedColumn) :
    addRow blocked row id (merged.map
      (MergedColumn.mapColumn (Column.blockedBy blocked))) =
      (addRow other row id merged).map
        (MergedColumn.mapColumn (Column.blockedBy blocked)) := by
  induction merged with
  | nil => rfl
  | cons m rest ih =>
      have hkey : (m.mapColumn (Column.blockedBy blocked)).column.key =
        m.column.key := rfl
      rw [List.map_cons, addRow, addRow, hkey]
      by_cases hsame : m.column.key = row.key
      · rw [if_pos hsame, if_pos hsame]
        rfl
      · rw [if_neg hsame, if_neg hsame, ih, List.map_cons]

/-- Columns are merged in the same way under every policy. -/
theorem mergeColumns_blockedBy (blocked other : String → Bool)
    (rows : List ColumnRow) :
    mergeColumns blocked rows =
      (mergeColumns other rows).map
        (MergedColumn.mapColumn (Column.blockedBy blocked)) := by
  have hfold : ∀ merged : List MergedColumn,
      rows.foldl (fun merged row => addRow blocked row merged.length merged)
          (merged.map (MergedColumn.mapColumn (Column.blockedBy blocked))) =
        (rows.foldl (fun merged row => addRow other row merged.length merged)
          merged).map (MergedColumn.mapColumn (Column.blockedBy blocked)) := by
    induction rows with
    | nil => exact fun _ => rfl
    | cons row rest ih =>
        intro merged
        rw [List.foldl_cons, List.foldl_cons, List.length_map,
          addRow_blockedBy other, ih]
  exact hfold []

/-- A policy marks the tables of columns, and does nothing else to them. -/
theorem tablesOf_blockedBy (other : String → Bool) (indexes : List IndexRow)
    (merged : List MergedColumn) :
    tablesOf blocked indexes (merged.map
      (MergedColumn.mapColumn (Column.blockedBy blocked))) =
      (tablesOf other indexes merged).map (Table.blockedBy blocked) := by
  have hmarked : Table.mapColumns (Column.blockedBy blocked) ∘ TableGroup.toTable
    blocked indexes =
      Table.blockedBy blocked ∘ TableGroup.toTable other indexes := rfl
  rw [tablesOf_mapColumn keepsTable_blockedBy, tablesOf, tablesOf,
    map_mergeSort_before (Table.key_mapColumns _),
    map_mergeSort_before (Table.key_blockedBy blocked), List.map_map, List.map_map,
    hmarked]

theorem buildTables_blockedBy (blocked other : String → Bool) (rows : Rows) :
    SchemaModel.buildTables blocked rows =
      (SchemaModel.buildTables other rows).map (Table.blockedBy blocked) := by
  rw [buildTables_eq_tablesOf, buildTables_eq_tablesOf,
    mergeColumns_blockedBy blocked other, tablesOf_blockedBy other]

end Marks

/-- All rows of a function tell its name. -/
def FunctionRow.OneName (rows : List FunctionRow) : Prop :=
  ∀ row ∈ rows, ∀ other ∈ rows, row.id = other.id → row.name = other.name

theorem FunctionRow.OneName.of_subset {rows rows' : List FunctionRow}
    (h : OneName rows) (hsubset : rows' ⊆ rows) : OneName rows' :=
  fun row hrow other hother => h row (hsubset hrow) other (hsubset hother)

/-- The functions that rows are about while they are collected. -/
def functionGroups (blocked : String → Bool) (rows : List FunctionRow) :
    List FunctionGroup :=
  rows.foldl (fun groups row => addFunctionRow blocked row groups) []

section Functions

variable {blocked : String → Bool} {row : FunctionRow} {groups : List FunctionGroup}

theorem functionGroups_concat (blocked : String → Bool) (rows : List FunctionRow)
    (row : FunctionRow) :
    functionGroups blocked (rows ++ [row]) =
      addFunctionRow blocked row (functionGroups blocked rows) :=
  List.foldl_concat _ _ _ _

/-- A row of a blocked name is passed over while there is no group that it belongs
to. -/
theorem addFunctionRow_of_blocked (hblocked : blocked row.name = true)
    (hnew : ∀ group ∈ groups, group.id ≠ row.id) :
    addFunctionRow blocked row groups = groups := by
  induction groups with
  | nil => rw [addFunctionRow, if_pos hblocked]
  | cons group rest ih =>
      have hrest := ih fun other hother =>
        hnew other (List.mem_cons_of_mem group hother)
      rw [addFunctionRow, if_neg (hnew group List.mem_cons_self), hrest]

/-- A group was there before a row was added, or has identifier and name of the
row. -/
theorem of_mem_addFunctionRow {group : FunctionGroup}
    (hgroup : group ∈ addFunctionRow blocked row groups) :
    (∃ old ∈ groups, old.id = group.id ∧ old.name = group.name) ∨
      row.id = group.id ∧ row.name = group.name := by
  induction groups with
  | nil =>
      by_cases hblocked : blocked row.name = true
      · simp [addFunctionRow, hblocked] at hgroup
      · simp only [addFunctionRow, hblocked, Bool.false_eq_true, if_false,
          List.mem_singleton] at hgroup
        rw [hgroup]
        exact Or.inr ⟨rfl, rfl⟩
  | cons head rest ih =>
      rw [addFunctionRow] at hgroup
      by_cases hsame : head.id = row.id
      · rw [if_pos hsame] at hgroup
        rcases List.mem_cons.mp hgroup with rfl | hmem
        · exact Or.inl ⟨head, List.mem_cons_self, rfl, rfl⟩
        · exact Or.inl ⟨group, List.mem_cons_of_mem head hmem, rfl, rfl⟩
      · rw [if_neg hsame] at hgroup
        rcases List.mem_cons.mp hgroup with rfl | hmem
        · exact Or.inl ⟨group, List.mem_cons_self, rfl, rfl⟩
        · rcases ih hmem with ⟨old, hold, heq⟩ | hnew
          · exact Or.inl ⟨old, List.mem_cons_of_mem head hold, heq⟩
          · exact Or.inr hnew

/-- A group has identifier and name of one of its rows. -/
theorem exists_row_of_mem_functionGroups {rows : List FunctionRow}
    {group : FunctionGroup} (hgroup : group ∈ functionGroups blocked rows) :
    ∃ row ∈ rows, row.id = group.id ∧ row.name = group.name := by
  induction rows using List.reverseRecOn generalizing group with
  | nil => cases hgroup
  | append_singleton rows row ih =>
      rw [functionGroups_concat] at hgroup
      rcases of_mem_addFunctionRow hgroup with ⟨old, hold, hid, hname⟩
        | ⟨hid, hname⟩
      · obtain ⟨found, hfound, hid', hname'⟩ := ih hold
        exact ⟨found, List.mem_append_left _ hfound, hid'.trans hid,
          hname'.trans hname⟩
      · exact ⟨row, List.mem_append_right rows (List.mem_singleton.mpr rfl),
          hid, hname⟩

/-- A row is added or passed over as its group is kept or left out. -/
theorem addFunctionRow_filter
    (hname : ∀ group ∈ groups, group.id = row.id → group.name = row.name) :
    addFunctionRow blocked row (groups.filter fun group => !blocked group.name) =
      (addFunctionRow (fun _ => false) row groups).filter fun group =>
        !blocked group.name := by
  induction groups with
  | nil =>
      by_cases hblocked : blocked row.name = true <;>
        simp [addFunctionRow, hblocked]
  | cons group rest ih =>
      have hrest : ∀ other ∈ rest, other.id = row.id → other.name = row.name :=
        fun other hother => hname other (List.mem_cons_of_mem group hother)
      by_cases hsame : group.id = row.id
      · have hgroup := hname group List.mem_cons_self hsame
        by_cases hblocked : blocked group.name = true
        · -- The group is left out, and so is every other one that the row might
          -- belong to.
          have hnew : ∀ other ∈ rest.filter (fun other => !blocked other.name),
              other.id ≠ row.id := by
            intro other hother hid
            obtain ⟨hmem, hkept⟩ := List.mem_filter.mp hother
            rw [hrest other hmem hid, ← hgroup, hblocked] at hkept
            cases hkept
          simp [addFunctionRow, hsame, hblocked,
            addFunctionRow_of_blocked (hgroup ▸ hblocked) hnew]
        · simp [addFunctionRow, hsame, hblocked]
      · by_cases hblocked : blocked group.name = true <;>
          simp [addFunctionRow, hsame, hblocked, ih hrest]

/-- To leave out rows of blocked names is to leave out the functions of these
names. -/
theorem functionGroups_blocked (blocked : String → Bool) {rows : List FunctionRow}
    (hone : FunctionRow.OneName rows) :
    functionGroups blocked rows =
      (functionGroups (fun _ => false) rows).filter fun group =>
        !blocked group.name := by
  induction rows using List.reverseRecOn with
  | nil => rfl
  | append_singleton rows row ih =>
      have hearlier := hone.of_subset (List.subset_append_left rows [row])
      have hname : ∀ group ∈ functionGroups (fun _ => false) rows,
          group.id = row.id → group.name = row.name := by
        intro group hgroup hid
        obtain ⟨known, hknown, hid', hname'⟩ :=
          exists_row_of_mem_functionGroups hgroup
        rw [← hname']
        exact hone known (List.mem_append_left _ hknown) row
          (List.mem_append_right rows (List.mem_singleton.mpr rfl)) (hid'.trans hid)
      rw [functionGroups_concat, functionGroups_concat, ih hearlier,
        addFunctionRow_filter hname]

theorem groupFunctions_blocked (blocked : String → Bool) {rows : List FunctionRow}
    (hone : FunctionRow.OneName rows) :
    groupFunctions blocked rows =
      (groupFunctions (fun _ => false) rows).filter fun function =>
        !blocked function.name := by
  have hgroups : ∀ blocked : String → Bool, groupFunctions blocked rows =
      (functionGroups blocked rows).map fun group =>
        ⟨group.name, orderParams group.params⟩ :=
    fun _ => rfl
  rw [hgroups, hgroups, functionGroups_blocked blocked hone, List.filter_map]
  rfl

end Functions

/-- A table under a policy, compared with the table under no policy. -/
structure Table.MarkedFrom (blocked : String → Bool)
    (plain table : Table) : Prop where
  marked : table = plain.blockedBy blocked
  primary : table.primary? = plain.primary?
  fullText : table.fullText = plain.fullText
  column : ∀ name, table.column? name =
    (plain.column? name).map (Column.blockedBy blocked)
  primaryColumn : table.primaryColumn? =
    plain.primaryColumn?.map (Column.blockedBy blocked)
  fullTextColumns : table.fullTextColumns =
    plain.fullTextColumns.map (Column.blockedBy blocked)

/-- A model under a policy, compared with the model under no policy. A function is
found unless its name is blocked. -/
structure SchemaModel.MarkedFrom (blocked : String → Bool)
    (plain model : SchemaModel) : Prop where
  marked : model = plain.blockedBy blocked
  tables : List.Forall₂ (Table.MarkedFrom blocked) plain.tables model.tables
  table : ∀ schema name,
    model.table schema name = (plain.table schema name).map
      (Table.blockedBy blocked)
  column : ∀ schema table name,
    model.column schema table name =
      (plain.column schema table name).map (Column.blockedBy blocked)
  findTable : ∀ name,
    model.findTable? name = (plain.findTable? name).map (Table.blockedBy blocked)
  function : ∀ name,
    model.function? name = if blocked name then none else plain.function? name

/-- A column that is marked if the other one is, and is the same apart from that. -/
structure Column.Tightened (column tighter : Column) : Prop where
  blocked : column.blocked = true → tighter.blocked = true
  same : { tighter with blocked := column.blocked } = column

/-- A table that is marked where the other one is, and is the same apart from
that. -/
structure Table.Tightened (table tighter : Table) : Prop where
  blocked : table.blocked = true → tighter.blocked = true
  columns : List.Forall₂ Column.Tightened table.columns tighter.columns
  same : { tighter with columns := table.columns, blocked := table.blocked } = table

/-- A model in which more is marked and functions are missing, and nothing else is
different. -/
structure SchemaModel.Tightened (model tighter : SchemaModel) : Prop where
  tables : List.Forall₂ Table.Tightened model.tables tighter.tables
  functions : tighter.functions.Sublist model.functions
  same :
    { tighter with tables := model.tables, functions := model.functions } = model

theorem keepsRole_blockedBy (blocked : String → Bool) :
    KeepsRole (Column.blockedBy blocked) :=
  fun _ => ⟨rfl, rfl⟩

theorem Table.markedFrom_blockedBy (blocked : String → Bool) (plain : Table) :
    plain.MarkedFrom blocked (plain.blockedBy blocked) where
  marked := rfl
  primary := primary?_mapColumns (keepsRole_blockedBy blocked) plain
  fullText := fullText_mapColumns (keepsRole_blockedBy blocked) plain
  column := column?_mapColumns (keepsRole_blockedBy blocked) plain
  primaryColumn := primaryColumn?_mapColumns (keepsRole_blockedBy blocked) plain
  fullTextColumns := fullTextColumns_mapColumns (keepsRole_blockedBy blocked) plain

namespace SchemaModel

theorem function?_blockedBy (blocked : String → Bool) (plain : SchemaModel)
    (name : String) :
    (plain.blockedBy blocked).function? name =
      if blocked name then none else plain.function? name := by
  rw [function?, function?, blockedBy, List.find?_filter]
  by_cases hblocked : blocked name = true
  · rw [if_pos hblocked, List.find?_eq_none]
    intro function _ hfound
    simp only [decide_eq_true_eq] at hfound
    obtain ⟨hkept, hname⟩ := hfound
    rw [hname, hblocked] at hkept
    cases hkept
  · rw [if_neg hblocked]
    congr 1
    funext function
    by_cases hname : function.name = name <;> simp [hname, hblocked]

theorem markedFrom_blockedBy (blocked : String → Bool) (plain : SchemaModel) :
    plain.MarkedFrom blocked (plain.blockedBy blocked) where
  marked := rfl
  tables := by
    rw [blockedBy, List.forall₂_map_right_iff, List.forall₂_same]
    exact fun table _ => table.markedFrom_blockedBy blocked
  table := table_mapTables (Table.key_blockedBy blocked) plain
  column := column_mapTables (Table.key_blockedBy blocked) plain fun table =>
    (table.markedFrom_blockedBy blocked).column
  findTable := findTable?_mapTables (Table.key_blockedBy blocked) plain
  function := plain.function?_blockedBy blocked

/-- A model under a policy is the model under no policy with marks and without
functions. -/
theorem build_eq_blockedBy (kind : DatabaseKind) (blocked : String → Bool)
    {rows : Rows} (hone : FunctionRow.OneName rows.functions) :
    build kind blocked rows = (build kind Blocklist.none.blocks rows).blockedBy
      blocked := by
  simp only [build, blockedBy, SchemaModel.mk.injEq, true_and]
  exact ⟨buildTables_blockedBy blocked _ rows, groupFunctions_blocked blocked hone⟩

end SchemaModel

section Stricter

variable {blocked stricter : String → Bool}

theorem Column.tightened_blockedBy
    (hmore : ∀ name, blocked name = true → stricter name = true)
    (plain : Column) :
    (plain.blockedBy blocked).Tightened (plain.blockedBy stricter) where
  blocked := hmore plain.name
  same := rfl

theorem Table.tightened_blockedBy
    (hmore : ∀ name, blocked name = true → stricter name = true)
    (plain : Table) :
    (plain.blockedBy blocked).Tightened (plain.blockedBy stricter) where
  blocked := hmore plain.name
  columns := by
    rw [blockedBy, blockedBy, List.forall₂_map_left_iff, List.forall₂_map_right_iff,
      List.forall₂_same]
    exact fun column _ => column.tightened_blockedBy hmore
  same := rfl

/-- A stricter policy marks more and leaves fewer functions. -/
theorem SchemaModel.tightened_blockedBy
    (hmore : ∀ name, blocked name = true → stricter name = true)
    (plain : SchemaModel) :
    (plain.blockedBy blocked).Tightened (plain.blockedBy stricter) where
  tables := by
    rw [blockedBy, blockedBy, List.forall₂_map_left_iff, List.forall₂_map_right_iff,
      List.forall₂_same]
    exact fun table _ => table.tightened_blockedBy hmore
  functions := by
    apply List.monotone_filter_right
    intro function hkept
    rw [Bool.not_eq_true'] at hkept ⊢
    exact Bool.eq_false_iff.mpr fun hblocked => by
      rw [hmore _ hblocked] at hkept
      cases hkept
  same := rfl

end Stricter

namespace SchemaModel

/-- A blocklist marks tables and columns and removes functions, each by its own
name, and changes nothing else; a longer blocklist marks and removes more. -/
theorem build_blocked (kind : DatabaseKind) {rows : Rows}
    (hone : FunctionRow.OneName rows.functions) :
    (∀ list : Blocklist,
      (build kind Blocklist.none.blocks rows).MarkedFrom list.blocks
        (build kind list.blocks rows)) ∧
    ∀ (patterns more : List String) (list larger : Blocklist),
      Blocklist.ofPatterns patterns = .ok list →
      Blocklist.ofPatterns more = .ok larger →
        patterns ⊆ more →
          (build kind list.blocks rows).Tightened
            (build kind larger.blocks rows) := by
  constructor
  · intro list
    rw [build_eq_blockedBy kind list.blocks hone]
    exact markedFrom_blockedBy list.blocks _
  · intro patterns more list larger hlist hlarger hsubset
    have hmore : ∀ name, list.blocks name = true → larger.blocks name = true :=
      fun name => Blocklist.blocks_of_subset hlist hlarger hsubset
    rw [build_eq_blockedBy kind list.blocks hone,
      build_eq_blockedBy kind larger.blocks hone]
    exact tightened_blockedBy hmore _

namespace Purging

/-- A table, and a function of the same name, whose two rows another function comes
between. -/
def rows : Rows where
  info := ⟨14, "public", "app"⟩
  columns := [⟨"public", "purge", "day", "date", "r", .none, ⟨"", "", ""⟩⟩]
  functions :=
    [⟨"1", "purge", some 1, some "since", "date"⟩,
      ⟨"2", "search", some 1, some "term", "text"⟩,
      ⟨"1", "purge", some 2, some "until", "date"⟩]
  indexes := []

theorem oneName_functions : FunctionRow.OneName rows.functions := by
  unfold FunctionRow.OneName
  decide +kernel

/-- The one name `purge`. -/
def list : Blocklist :=
  ⟨[⟨"purge", .sequence
    ([.look .textStart] ++ ("purge".toList.map fun c => .one (.char c)) ++
      [.look .textEnd])⟩]⟩

/-- The table as it is without a policy. -/
def table : Table :=
  ⟨"public", "purge", .table,
    [⟨0, "public", "purge", "day", "date", .none, none, false⟩], ⟨[]⟩, false⟩

theorem table_build :
    (build .postgres Blocklist.none.blocks rows).table "public" "purge" =
      .ok table := by
  have htables : (build .postgres Blocklist.none.blocks rows).tables = [table] := by
    show buildTables _ _ = _
    rw [buildTables_of_one_group rfl (by decide +kernel)]
    decide +kernel
  rw [SchemaModel.table, table?, htables]
  rfl

/-- The table is marked, and the function is gone. -/
theorem build_blocked_purge :
    FunctionRow.OneName rows.functions ∧
      (build .postgres list.blocks rows).table "public" "purge" =
        .ok { table with blocked := true } ∧
      (build .postgres list.blocks rows).function? "purge" = none ∧
      (build .postgres list.blocks rows).function? "search" =
        (build .postgres Blocklist.none.blocks rows).function? "search" := by
  have hpurge : list.blocks "purge" = true := by decide +kernel
  have hsearch : list.blocks "search" = false := by decide +kernel
  have hday : list.blocks "day" = false := by decide +kernel
  have hmarked := (build_blocked .postgres oneName_functions).1 list
  refine ⟨oneName_functions, ?_, ?_, ?_⟩
  · rw [hmarked.table, table_build]
    simp [Except.map, table, Table.blockedBy, Column.blockedBy, hpurge, hday]
  · rw [hmarked.function, if_pos hpurge]
  · rw [hmarked.function, if_neg (by rw [hsearch]; decide)]

end Purging

end SchemaModel

end Catalog

end QueryGate
