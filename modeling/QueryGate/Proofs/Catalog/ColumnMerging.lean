import QueryGate.Proofs.Catalog.ForeignKeyOrder
import QueryGate.Proofs.Catalog.Positions

/-!
What columns come to, one part at a time.

Rows are merged in one pass that keeps the position of each column. A first row
begins a column, and a later one is merged into it where it stands. Main statement:
the columns are those of the distinct keys in their order of first appearance, and
each part of a column is read off the rows of its key by itself, so that a row that
was heard before adds nothing.
-/

namespace QueryGate.Catalog

/-- The first text that is not empty. -/
def firstText (texts : List String) : String :=
  (texts.find? (· ≠ "")).getD ""

namespace ColumnRow

/-- A row names a foreign key. -/
def namesTarget (row : ColumnRow) : Bool :=
  row.target.table ≠ "" && row.target.column ≠ ""

end ColumnRow

namespace MergedColumn

/-- A column whose rows are given, each part of it by itself. -/
def read (blocked : String → Bool) (id : Nat) (key : ColumnKey)
    (rows : List ColumnRow) : MergedColumn where
  column :=
    { id
      schema := key.schema
      table := key.table
      name := key.name
      type := firstText (rows.map ColumnRow.type)
      flags :=
        { notNull := rows.any (·.flags.notNull)
          primaryKey := rows.any (·.flags.primaryKey)
          uniqueKey := rows.any fun row =>
            row.flags.uniqueKey || row.flags.primaryKey
          array := rows.any (·.flags.array)
          fullText := rows.any (·.flags.fullText) }
      foreignKey := (rows.find? ColumnRow.namesTarget).map ColumnRow.target
      blocked := blocked key.name }
  tableKind := firstText (rows.map ColumnRow.tableKind)

end MergedColumn

/-- The columns of the distinct keys, in their order of first appearance. -/
def columnsOf (blocked : String → Bool) (rows : List ColumnRow) :
    List MergedColumn :=
  (rows.map ColumnRow.key).eraseDups.zipIdx.map fun (key, id) =>
    .read blocked id key (rowsOf key rows)

theorem firstText_eq_filled (texts : List String) :
    firstText texts = filled texts := by
  induction texts with
  | nil => rfl
  | cons text rest ih =>
      rw [filled_cons, ← ih, firstText, List.find?_cons]
      by_cases hempty : text = "" <;> simp [hempty, firstText]

theorem setFlagsOf_eq_any (rows : List ColumnRow) :
    setFlagsOf rows =
      { notNull := rows.any (·.flags.notNull)
        primaryKey := rows.any (·.flags.primaryKey)
        uniqueKey := rows.any fun row => row.flags.uniqueKey || row.flags.primaryKey
        array := rows.any (·.flags.array)
        fullText := rows.any (·.flags.fullText) } := by
  induction rows with
  | nil => rfl
  | cons row rest ih =>
      have hcons : setFlagsOf (row :: rest) =
        row.setFlags.union (setFlagsOf rest) := rfl
      rw [hcons, ih]
      rfl

theorem firstForeignKey?_eq_find? (rows : List ColumnRow) :
    firstForeignKey? rows = (rows.find? ColumnRow.namesTarget).map
      ColumnRow.target := by
  induction rows with
  | nil => rfl
  | cons row rest ih =>
      rw [firstForeignKey?, List.findSome?_cons, List.find?_cons,
        ← firstForeignKey?, ih]
      by_cases htable : row.target.table = "" <;> by_cases hcolumn :
        row.target.column = "" <;>
        simp [ColumnRow.foreignKey, ColumnRow.namesTarget, htable, hcolumn]

/-- Rows come to what is read off them. -/
theorem MergedColumn.ofRows_eq_read (blocked : String → Bool) (key : ColumnKey)
    (rows : List ColumnRow) :
    ofRows blocked key rows = read blocked 0 key rows := by
  rw [ofRows_eq, setFlagsOf_eq_any, firstForeignKey?_eq_find?,
    ← firstText_eq_filled, ← firstText_eq_filled]
  rfl

section Columns

variable (blocked : String → Bool)

theorem mergeColumns_concat (rows : List ColumnRow) (row : ColumnRow) :
    mergeColumns blocked (rows ++ [row]) =
      addRow blocked row (mergeColumns blocked rows).length
        (mergeColumns blocked rows) :=
  List.foldl_concat _ _ _ _

/-- A row adds its key unless there is a column with it. -/
theorem keys_addRow (row : ColumnRow) (id : Nat) (merged : List MergedColumn) :
    (addRow blocked row id merged).map (·.column.key) =
      if row.key ∈ merged.map (·.column.key) then merged.map (·.column.key)
      else merged.map (·.column.key) ++ [row.key] := by
  have hkeys := (columnCollection blocked).keys_put_eq (fun _ => rfl) row
    (merged.map MergedColumn.shape)
  rw [← map_shape_addRow blocked row id, List.map_map, List.map_map] at hkeys
  exact hkeys

/-- A row numbers no column but a new one. -/
theorem ids_addRow (row : ColumnRow) (id : Nat) (merged : List MergedColumn) :
    (addRow blocked row id merged).map (·.column.id) =
      if row.key ∈ merged.map (·.column.key) then merged.map (·.column.id)
      else merged.map (·.column.id) ++ [id] := by
  induction merged with
  | nil => rfl
  | cons m rest ih =>
      by_cases hsame : m.column.key = row.key
      · simp [addRow, hsame, MergedColumn.absorb]
      · rw [addRow, if_neg hsame, List.map_cons, ih]
        by_cases hmem : row.key ∈ rest.map (·.column.key) <;>
          simp [hmem, Ne.symm hsame]

/-- Columns are numbered from first to last. -/
theorem ids_mergeColumns (rows : List ColumnRow) :
    (mergeColumns blocked rows).map (·.column.id) =
      List.range (mergeColumns blocked rows).length := by
  induction rows using List.reverseRecOn with
  | nil => rfl
  | append_singleton rows row ih =>
      have hlength := congrArg List.length
        (ids_addRow blocked row (mergeColumns blocked rows).length
          (mergeColumns blocked rows))
      rw [mergeColumns_concat, ids_addRow, ih]
      rw [List.length_map, ih] at hlength
      split at hlength
      · rw [if_pos ‹_›, hlength, List.length_range]
      · rw [if_neg ‹_›, hlength, List.length_append, List.length_range,
          List.length_singleton, List.range_succ]

theorem id_getElem_mergeColumns {rows : List ColumnRow} {i : Nat}
    (hi : i < (mergeColumns blocked rows).length) :
    (mergeColumns blocked rows)[i].column.id = i := by
  have hids :=
    List.getElem_of_eq (ids_mergeColumns blocked rows) (i := i) (by simpa)
  simpa using hids

/-- The keys of the columns, in their order of first appearance. -/
theorem keys_mergeColumns (rows : List ColumnRow) :
    (mergeColumns blocked rows).map (·.column.key) =
      (rows.map ColumnRow.key).eraseDups := by
  have hkeys := (columnCollection blocked).keys_collect (fun _ => rfl) rows
  rw [← map_shape_mergeColumns, List.map_map] at hkeys
  exact hkeys

theorem length_mergeColumns_le (rows : List ColumnRow) :
    (mergeColumns blocked rows).length ≤ rows.length := by
  have hsubset : (mergeColumns blocked rows).map (·.column.key) ⊆
      rows.map ColumnRow.key := by
    rw [keys_mergeColumns]
    exact fun key hkey => List.mem_eraseDups.mp hkey
  have hlength := ((nodup_keys_mergeColumns blocked rows).subperm hsubset).length_le
  rwa [List.length_map, List.length_map] at hlength

/-- A column is what is read off the rows of its key. -/
theorem eq_read_of_mem {rows : List ColumnRow} {m : MergedColumn}
    (hm : m ∈ mergeColumns blocked rows) :
    m = .read blocked m.column.id m.column.key (rowsOf m.column.key rows) := by
  have hshape := shape_of_mem_mergeColumns blocked hm
  rw [MergedColumn.ofRows_eq_read] at hshape
  exact congrArg (fun s : MergedColumn =>
    { s with column := { s.column with id := m.column.id } })
    hshape

theorem mergeColumns_eq_columnsOf (rows : List ColumnRow) :
    mergeColumns blocked rows = columnsOf blocked rows := by
  rw [columnsOf, ← keys_mergeColumns blocked rows, List.zipIdx_map, List.map_map]
  refine List.ext_getElem (by simp) fun i hi _ => ?_
  have hread := eq_read_of_mem blocked (List.getElem_mem hi)
  rw [id_getElem_mergeColumns] at hread
  simpa using hread

end Columns

section Repeats

variable {α : Type} {x : α} {earlier : List α} (hx : x ∈ earlier) (later : List α)
include hx

theorem any_repeat (p : α → Bool) :
    (earlier ++ x :: later).any p = (earlier ++ later).any p := by
  rw [List.any_append, List.any_append, List.any_cons, ← Bool.or_assoc]
  cases hp : p x with
  | false => rw [Bool.or_false]
  | true => rw [List.any_eq_true.mpr ⟨x, hx, hp⟩, Bool.true_or]

theorem find?_repeat (p : α → Bool) :
    (earlier ++ x :: later).find? p = (earlier ++ later).find? p := by
  rw [List.find?_append, List.find?_append, List.find?_cons]
  cases hp : p x with
  | false => rfl
  | true =>
      obtain ⟨y, hy⟩ :=
        Option.isSome_iff_exists.mp (List.find?_isSome.mpr ⟨x, hx, hp⟩)
      rw [hy, Option.some_or, Option.some_or]

theorem eraseDups_repeat {κ : Type} [DecidableEq κ] (key : α → κ) :
    ((earlier ++ x :: later).map key).eraseDups =
      ((earlier ++ later).map key).eraseDups := by
  have hknown : key x ∈ earlier.map key := List.mem_map_of_mem hx
  have hremoved : (key x :: later.map key).removeAll (earlier.map key) =
      (later.map key).removeAll (earlier.map key) := by
    rw [List.removeAll, List.filter_cons_of_neg (by simpa using hknown)]
    rfl
  rw [List.map_append, List.map_append, List.map_cons, List.eraseDups_append,
    List.eraseDups_append, hremoved]

end Repeats

section RepeatedRow

variable (blocked : String → Bool) {row : ColumnRow} {earlier : List ColumnRow}
  (hrow : row ∈ earlier) (later : List ColumnRow)
include hrow

theorem MergedColumn.read_repeat (id : Nat) (key : ColumnKey) :
    read blocked id key (earlier ++ row :: later) =
      read blocked id key (earlier ++ later) := by
  simp only [read, firstText, List.find?_map, any_repeat hrow, find?_repeat hrow]

/-- A row that was heard before adds nothing. -/
theorem columnsOf_repeat :
    columnsOf blocked (earlier ++ row :: later) =
      columnsOf blocked (earlier ++ later) := by
  rw [columnsOf, columnsOf, eraseDups_repeat hrow]
  refine List.map_congr_left fun (key, id) _ => ?_
  show MergedColumn.read blocked id key _ = .read blocked id key _
  have hrows : rowsOf key (earlier ++ row :: later) =
      rowsOf key earlier ++ rowsOf key (row :: later) := List.filter_append _ _
  have hrows' : rowsOf key (earlier ++ later) = rowsOf key earlier ++
      rowsOf key later :=
    List.filter_append _ _
  by_cases hkey : row.key = key
  · have hcons : rowsOf key (row :: later) = row :: rowsOf key later := by
      simp [rowsOf, hkey]
    have hmem : row ∈ rowsOf key earlier := mem_rowsOf.mpr ⟨hrow, hkey⟩
    rw [hrows, hrows', hcons, MergedColumn.read_repeat blocked hmem]
  · have hcons : rowsOf key (row :: later) = rowsOf key later := by
      simp [rowsOf, hkey]
    rw [hrows, hrows', hcons]

end RepeatedRow

instance : Hashable ColumnKey :=
  ⟨fun key => hash (key.schema, key.table, key.name)⟩

/-- Positions by what identifies a column. -/
def byKey : PositionMap (Std.HashMap ColumnKey Nat) ColumnKey where
  empty := ∅
  put positions key i := positions.insert key i
  get? positions key := positions[key]?
  get?_empty _ := Std.HashMap.getElem?_empty
  get?_put positions key i other := by
    rw [Std.HashMap.getElem?_insert]; simp only [beq_iff_eq]

namespace MergedColumn

/-- The column that a first row begins. -/
def ofFirst (blocked : String → Bool) (id : Nat) (row : ColumnRow) : MergedColumn :=
  ⟨⟨id, row.schema, row.table, row.name, row.type, row.setFlags, row.foreignKey,
    blocked row.name⟩, row.tableKind⟩

/-- Merges a later row into a column, which keeps what is known of it. -/
def mergeLater (m : MergedColumn) (row : ColumnRow) : MergedColumn :=
  { column :=
      { m.column with
        type := if m.column.type.isEmpty && !row.type.isEmpty then row.type
          else m.column.type
        flags := m.column.flags.union row.setFlags
        foreignKey := if m.column.foreignKey.isNone then row.foreignKey
          else m.column.foreignKey }
    tableKind :=
      if m.tableKind.isEmpty && !row.tableKind.isEmpty then row.tableKind
      else m.tableKind }

theorem ofFirst_eq (blocked : String → Bool) (id : Nat) (row : ColumnRow) :
    ofFirst blocked id row =
      (unknown id row.key (blocked row.name)).absorb row := by
  simp [ofFirst, absorb, unknown, firstFilled, ColumnFlags.none_union,
    ColumnRow.key]

theorem mergeLater_eq (m : MergedColumn) (row : ColumnRow) :
    m.mergeLater row = m.absorb row := by
  have hfirst : ∀ a b : String, (if a.isEmpty && !b.isEmpty then b else a) =
      firstFilled a b := by
    intro a b
    by_cases ha : a = "" <;> by_cases hb : b = "" <;> simp [firstFilled, ha, hb]
  rw [mergeLater, absorb, hfirst, hfirst]
  cases m.column.foreignKey <;> rfl

end MergedColumn

/-- Columns, and the position of each by its key. -/
structure IndexedColumns where
  merged : List MergedColumn
  positions : Std.HashMap ColumnKey Nat

namespace IndexedColumns

/-- Takes the next row: it is merged into its column where that stands, or begins
one. -/
def take (blocked : String → Bool) (columns : IndexedColumns) (row : ColumnRow) :
    IndexedColumns :=
  match columns.positions[row.key]? with
  | some i => { columns with merged := columns.merged.modify i (·.mergeLater row) }
  | none =>
      { merged := columns.merged ++ [.ofFirst blocked columns.merged.length row]
        positions := columns.positions.insert row.key columns.merged.length }

/-- Takes rows from first to last. -/
def pass (blocked : String → Bool) (rows : List ColumnRow) : IndexedColumns :=
  rows.foldl (take blocked) ⟨[], ∅⟩

end IndexedColumns

section Pass

variable (blocked : String → Bool) {row : ColumnRow} {merged : List MergedColumn}

theorem addRow_of_notMem (hnew : row.key ∉ merged.map (·.column.key)) (id : Nat) :
    addRow blocked row id merged = merged ++ [.ofFirst blocked id row] := by
  induction merged with
  | nil => rw [addRow, ← MergedColumn.ofFirst_eq]; rfl
  | cons m rest ih =>
      rw [List.map_cons, List.mem_cons, not_or] at hnew
      rw [addRow, if_neg (Ne.symm hnew.1), ih hnew.2, List.cons_append]

/-- Where there is one column of each key, a row is merged into the one of its
key. -/
theorem addRow_of_getElem (hnodup : (merged.map (·.column.key)).Nodup) {i : Nat}
    (hi : i < merged.length) (hkey : merged[i].column.key = row.key) (id : Nat) :
    addRow blocked row id merged = merged.modify i (·.mergeLater row) := by
  induction merged generalizing i with
  | nil => cases hi
  | cons m rest ih =>
      rw [List.map_cons, List.nodup_cons] at hnodup
      cases i with
      | zero =>
          have hsame : m.column.key = row.key := hkey
          rw [addRow, if_pos hsame, List.modify_zero_cons,
            MergedColumn.mergeLater_eq]
      | succ i =>
          have hi : i < rest.length := Nat.lt_of_succ_lt_succ hi
          have hkey : rest[i].column.key = row.key := hkey
          have hother : m.column.key ≠ row.key := fun hsame => hnodup.1 (by
            rw [hsame, ← hkey]
            exact List.mem_map_of_mem (List.getElem_mem _))
          rw [addRow, if_neg hother, List.modify_succ_cons, ih hnodup.2 _ hkey]

namespace IndexedColumns

/-- Columns with their positions. -/
def of (merged : List MergedColumn) : IndexedColumns :=
  ⟨merged, byKey.record (·.column.key) merged⟩

theorem take_of_some {i : Nat} {columns : IndexedColumns}
    (hposition : columns.positions[row.key]? = some i) :
    columns.take blocked row =
      ⟨columns.merged.modify i (·.mergeLater row), columns.positions⟩ := by
  rw [take, hposition]

theorem take_of_none {columns : IndexedColumns}
    (hposition : columns.positions[row.key]? = none) :
    columns.take blocked row =
      ⟨columns.merged ++ [.ofFirst blocked columns.merged.length row],
        columns.positions.insert row.key columns.merged.length⟩ := by
  rw [take, hposition]

/-- The next row is added to the columns, and the index stays that of the
columns. -/
theorem take_of (hnodup : (merged.map (·.column.key)).Nodup) (row : ColumnRow) :
    (of merged).take blocked row =
      of (addRow blocked row merged.length merged) := by
  cases hposition : (of merged).positions[row.key]? with
  | some i =>
      obtain ⟨hi, hkey⟩ := byKey.getElem_of_get?_record _ hposition
      have hmem : row.key ∈ merged.map (·.column.key) :=
        List.mem_map.mpr ⟨_, List.getElem_mem hi, hkey⟩
      -- A merged row changes no key, and the index is made of nothing but the keys.
      have hkeys := keys_addRow blocked row merged.length merged
      rw [if_pos hmem, addRow_of_getElem blocked hnodup hi hkey] at hkeys
      rw [take_of_some blocked hposition, addRow_of_getElem blocked hnodup hi hkey]
      exact congrArg _ (byKey.record_congr _ hkeys.symm)
  | none =>
      have hnew : row.key ∉ merged.map (·.column.key) := fun hmem => by
        have hknown := (byKey.isSome_get?_record _).mpr hmem
        exact Option.isSome_iff_ne_none.mp hknown hposition
      rw [take_of_none blocked hposition, addRow_of_notMem blocked hnew]
      have hrecord :=
        byKey.record_concat (fun m : MergedColumn => m.column.key) merged
        (.ofFirst blocked merged.length row)
      exact congrArg _ hrecord.symm

/-- The pass keeps the columns that rows are merged into. -/
theorem pass_eq (rows : List ColumnRow) :
    pass blocked rows = of (mergeColumns blocked rows) := by
  induction rows using List.reverseRecOn with
  | nil => rfl
  | append_singleton rows row ih =>
      have hpass : pass blocked (rows ++ [row]) =
          (pass blocked rows).take blocked row :=
        List.foldl_concat _ _ _ _
      rw [hpass, ih, take_of blocked (nodup_keys_mergeColumns blocked rows),
        mergeColumns_concat]

end IndexedColumns

/-- The pass over rows, and the merging of rows, come to what is read off them part
by part: one column for each key, in order of first appearance and numbered by its
position. A row that repeats an earlier one changes nothing. -/
theorem mergeColumns_read (rows : List ColumnRow) :
    (IndexedColumns.pass blocked rows).merged = columnsOf blocked rows ∧
      mergeColumns blocked rows = columnsOf blocked rows ∧
      (∀ m ∈ mergeColumns blocked rows, m.column.id < rows.length) ∧
      ∀ row middle after,
        mergeColumns blocked (rows ++ row :: (middle ++ row :: after)) =
          mergeColumns blocked (rows ++ row :: (middle ++ after)) := by
  refine ⟨?_, mergeColumns_eq_columnsOf blocked rows, fun m hm => ?_,
    fun row middle after => ?_⟩
  · rw [IndexedColumns.pass_eq]
    exact mergeColumns_eq_columnsOf blocked rows
  · obtain ⟨i, hi, rfl⟩ := List.getElem_of_mem hm
    rw [id_getElem_mergeColumns]
    exact hi.trans_le (length_mergeColumns_le blocked rows)
  · have hmem : row ∈ rows ++ row :: middle := by simp
    rw [mergeColumns_eq_columnsOf, mergeColumns_eq_columnsOf]
    simpa using columnsOf_repeat blocked hmem after

end Pass

end QueryGate.Catalog
