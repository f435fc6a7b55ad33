import Mathlib.Data.List.Induction
import QueryGate.Proofs.Catalog.TableOrder

/-!
Positions that are stored.

A model keeps where each of its tables stands, and a table keeps where its columns,
its primary column and its full-text columns stand. The positions are put down once,
when the lists are complete. They never lead out of a list, and to go to a position
that is kept for a name comes to the same as to search for the name.
-/

namespace QueryGate.Catalog

/-- How positions are kept by key. A later position takes the place of an earlier
one. -/
structure PositionMap (μ κ : Type) [DecidableEq κ] where
  empty : μ
  put : μ → κ → Nat → μ
  get? : μ → κ → Option Nat
  get?_empty : ∀ k, get? empty k = none
  get?_put : ∀ m key i k, get? (put m key i) k = if key = k
    then some i else get? m k

namespace PositionMap

variable {α μ κ : Type} [DecidableEq κ] (p : PositionMap μ κ) (key : α → κ)
  {xs : List α} {k : κ}

/-- The positions of things by their keys, put down from first to last. -/
def record (xs : List α) : μ :=
  xs.zipIdx.foldl (fun m (x, i) => p.put m (key x) i) p.empty

theorem record_concat (xs : List α) (x : α) :
    p.record key (xs ++ [x]) = p.put (p.record key xs) (key x) xs.length := by
  rw [record, List.zipIdx_append, List.foldl_append, Nat.zero_add]
  rfl

/-- The keys alone tell the positions. -/
theorem record_congr {ys : List α} (hkeys : xs.map key = ys.map key) :
    p.record key xs = p.record key ys := by
  have hrecord : ∀ zs : List α, p.record key zs = p.record id (zs.map key) :=
    fun zs => by
    rw [record, record, List.zipIdx_map, List.foldl_map]
    rfl
  rw [hrecord, hkeys, ← hrecord]

/-- A position is in bounds, and something with the key stands there. -/
theorem getElem_of_get?_record {i : Nat} (h : p.get? (p.record key xs) k = some i) :
    ∃ hbound : i < xs.length, key xs[i] = k := by
  induction xs using List.reverseRecOn with
  | nil =>
      rw [record, List.zipIdx_nil, List.foldl_nil, p.get?_empty] at h
      cases h
  | append_singleton xs x ih =>
      rw [record_concat, p.get?_put] at h
      by_cases hkey : key x = k
      · rw [if_pos hkey] at h
        cases h
        exact ⟨by simp, by simpa using hkey⟩
      · rw [if_neg hkey] at h
        obtain ⟨hbound, hfound⟩ := ih h
        exact ⟨by simp; omega, by rwa [List.getElem_append_left hbound]⟩

theorem isSome_get?_record : (p.get? (p.record key xs) k).isSome ↔
    k ∈ xs.map key := by
  induction xs using List.reverseRecOn with
  | nil => simp [record, p.get?_empty]
  | append_singleton xs x ih =>
      rw [record_concat, p.get?_put]
      by_cases hkey : key x = k
      · simp [hkey]
      · simp [hkey, ih, Ne.symm hkey]

/-- Where no two things have one key, to go to the position of a key is to search
for the key. -/
theorem bind_get?_record (hnodup : (xs.map key).Nodup) (k : κ) :
    (p.get? (p.record key xs) k).bind (fun i => xs[i]?) = xs.find? fun x =>
      key x = k := by
  cases hposition : p.get? (p.record key xs) k with
  | none =>
      have hmissing : k ∉ xs.map key := by
        rw [← p.isSome_get?_record key, hposition]
        exact Bool.false_ne_true
      rw [← find?_key_isSome, Bool.not_eq_true, Option.isSome_eq_false_iff,
        Option.isNone_iff_eq_none] at hmissing
      rw [hmissing]
      rfl
  | some i =>
      obtain ⟨hbound, hkey⟩ := p.getElem_of_get?_record key hposition
      rw [Option.bind_some, List.getElem?_eq_getElem hbound, ← hkey]
      exact (find?_key_of_mem hnodup (List.getElem_mem hbound)).symm

end PositionMap

/-- Positions by name. -/
def byName : PositionMap (Std.HashMap String Nat) String where
  empty := ∅
  put positions name i := positions.insert name i
  get? positions name := positions[name]?
  get?_empty _ := Std.HashMap.getElem?_empty
  get?_put positions name i other := by
    rw [Std.HashMap.getElem?_insert]; simp only [beq_iff_eq]

/-- Positions by schema and name, with a map of its own for each schema. -/
def bySchema : PositionMap (Std.HashMap String (Std.HashMap String Nat))
    (String × String) where
  empty := ∅
  put positions key i :=
    positions.insert key.1 ((positions.getD key.1 ∅).insert key.2 i)
  get? positions key := positions[key.1]?.bind fun names => names[key.2]?
  get?_empty key := by rw [Std.HashMap.getElem?_empty, Option.bind_none]
  get?_put positions key i other := by
    rw [Std.HashMap.getElem?_insert]
    by_cases hschema : key.1 = other.1
    · rw [if_pos (beq_iff_eq.mpr hschema), Option.bind_some,
        Std.HashMap.getElem?_insert]
      by_cases hname : key.2 = other.2
      · rw [if_pos (beq_iff_eq.mpr hname), if_pos (Prod.ext hschema hname)]
      · have hne : key ≠ other := fun hsame => hname (congrArg Prod.snd hsame)
        rw [if_neg (mt beq_iff_eq.mp hname), if_neg hne,
          Std.HashMap.getD_eq_getD_getElem?, hschema]
        cases positions[other.1]? with
        | none => exact Std.HashMap.getElem?_empty
        | some names => rfl
    · have hne : key ≠ other := fun hsame => hschema (congrArg Prod.fst hsame)
      rw [if_neg (mt beq_iff_eq.mp hschema), if_neg hne]

namespace Table

/-- The position of each column by its name. -/
def columnPositions (table : Table) : Std.HashMap String Nat :=
  byName.record Column.name table.columns

/-- The positions of a table are in bounds, and what is meant stands there. -/
structure Positioned (table : Table) : Prop where
  column : ∀ name i, table.columnPositions[name]? = some i →
    ∃ hbound : i < table.columns.length, table.columns[i].name = name
  primary : ∀ i, table.primary? = some i →
    ∃ hbound : i < table.columns.length, isIdentifying table.columns[i] = true
  fullText : ∀ i ∈ table.fullText,
    ∃ hbound : i < table.columns.length, table.columns[i].flags.fullText = true
  column_eq : ∀ name,
    (table.columnPositions[name]?).bind (fun i => table.columns[i]?) =
      table.column? name
  primary_eq : (table.primary?.bind fun i => table.columns[i]?) =
    table.primaryColumn?
  fullText_eq : (table.fullText.filterMap fun i => table.columns[i]?) =
    table.fullTextColumns

theorem mem_fullText {table : Table} {i : Nat} :
    i ∈ table.fullText ↔
      ∃ column, table.columns[i]? = some column ∧ column.flags.fullText = true := by
  simp only [fullText, List.mem_map, List.mem_filter, Prod.exists,
    List.mem_zipIdx_iff_getElem?]
  constructor
  · rintro ⟨column, j, ⟨hcolumn, hflag⟩, rfl⟩
    exact ⟨column, hcolumn, hflag⟩
  · rintro ⟨column, hcolumn, hflag⟩
    exact ⟨column, i, ⟨hcolumn, hflag⟩, rfl⟩

theorem filterMap_fullText (table : Table) :
    (table.fullText.filterMap fun i => table.columns[i]?) =
      table.fullTextColumns := by
  have hplace : ∀ place ∈ table.columns.zipIdx.filter fun place =>
    place.1.flags.fullText,
      table.columns[place.2]? = some place.1 := fun place hplace =>
    List.mem_zipIdx_iff_getElem?.mp (List.mem_filter.mp hplace).1
  calc
    (table.fullText.filterMap fun i => table.columns[i]?)
        = (table.columns.zipIdx.filter fun place =>
            place.1.flags.fullText).filterMap
            fun place => table.columns[place.2]? := List.filterMap_map
    _ = (table.columns.zipIdx.filter fun place => place.1.flags.fullText).map
      Prod.fst := by
      rw [List.filterMap_congr hplace]
      exact congrFun List.filterMap_eq_map _
    _ = table.fullTextColumns := by
      have hfilter :=
        List.filter_map (p := fun column : Column => column.flags.fullText)
        (f := Prod.fst) (l := table.columns.zipIdx)
      rw [List.zipIdx_map_fst] at hfilter
      exact hfilter.symm

/-- The positions of a table where no two columns have one name. -/
theorem positioned_of_nodup {table : Table}
    (hnames : (table.columns.map Column.name).Nodup) : table.Positioned where
  column name i h := byName.getElem_of_get?_record Column.name h
  primary i h := by
    obtain ⟨hbound, hcolumn, _⟩ := List.findIdx?_eq_some_iff_getElem.mp h
    exact ⟨hbound, hcolumn⟩
  fullText i hi := by
    obtain ⟨column, hcolumn, hflag⟩ := mem_fullText.mp hi
    obtain ⟨hbound, rfl⟩ := List.getElem?_eq_some_iff.mp hcolumn
    exact ⟨hbound, hflag⟩
  column_eq := byName.bind_get?_record Column.name hnames
  primary_eq := List.find?_eq_bind_findIdx?_getElem?.symm
  fullText_eq := table.filterMap_fullText

end Table

namespace SchemaModel

/-- The position of each table by its schema and name. -/
def tablePositions (model : SchemaModel) :
    Std.HashMap String (Std.HashMap String Nat) :=
  bySchema.record Table.key model.tables

/-- The position of the table of a schema and name. -/
def tablePosition? (model : SchemaModel) (schema name : String) : Option Nat :=
  model.tablePositions[schema]?.bind fun names => names[name]?

/-- The positions of a model are in bounds, and what is meant stands there. -/
structure Positioned (model : SchemaModel) : Prop where
  table : ∀ schema name i, model.tablePosition? schema name = some i →
    ∃ hbound : i < model.tables.length, model.tables[i].key = (schema, name)
  table_eq : ∀ schema name,
    ((model.tablePosition? schema name).bind fun i => model.tables[i]?) =
      model.table? schema name
  tables : ∀ table ∈ model.tables, table.Positioned

theorem table?_eq_find?_key (model : SchemaModel) (schema name : String) :
    model.table? schema name = model.tables.find? fun table =>
      table.key = (schema, name) := by
  simp only [table?, Table.key, Prod.mk.injEq, Bool.decide_and]

/-- The positions of a model where no two tables have one key. -/
theorem positioned_of_nodup {model : SchemaModel}
    (hkeys : (model.tables.map Table.key).Nodup)
    (hnames : ∀ table ∈ model.tables, (table.columns.map Column.name).Nodup) :
    model.Positioned where
  table schema name i h := bySchema.getElem_of_get?_record Table.key h
  table_eq schema name := by
    rw [table?_eq_find?_key]
    exact bySchema.bind_get?_record Table.key hkeys (schema, name)
  tables table htable := Table.positioned_of_nodup (hnames table htable)

end SchemaModel

end QueryGate.Catalog
