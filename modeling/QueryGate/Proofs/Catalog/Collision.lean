import Mathlib.Data.List.Nodup
import QueryGate.Proofs.Catalog.Shape

/-!
What a digest tells when nothing collides.

A hasher is asked for the digests of finitely many things when two models are
compared. If it gives no two of them one word, and if no two of the collections of
words that come up, taken without their order, have one digest, then models of one
digest have one shape.
-/

namespace QueryGate.Catalog

theorem DatabaseKind.name_injective : Function.Injective DatabaseKind.name := by
  intro kind other h
  cases kind <;> cases other <;> first | rfl | (exact absurd h (by decide))

theorem TableKind.identifier_injective :
    Function.Injective TableKind.identifier := by
  intro kind other h
  cases kind <;> cases other <;> first | rfl | (exact absurd h (by decide))

theorem ForeignKey.datum_injective : Function.Injective ForeignKey.datum := by
  intro key other h
  obtain ⟨schema, table, column⟩ := key
  obtain ⟨schema', table', column'⟩ := other
  simpa [datum] using h

theorem ForeignKey.eq_of_toList_datum_eq {key? other? : Option ForeignKey}
    (h : (key?.map datum).toList = (other?.map datum).toList) : key? = other? := by
  cases key? with
  | none =>
      cases other? with
      | none => rfl
      | some other => simp at h
  | some key =>
      cases other? with
      | none => simp at h
      | some other =>
          simp only [Option.map_some, Option.toList_some, List.cons.injEq,
            and_true] at h
          rw [datum_injective h]

theorem IndexEntry.datum_injective : Function.Injective IndexEntry.datum := by
  intro entry other h
  obtain ⟨schema, constraint, table, type, column, composite⟩ := entry
  obtain ⟨schema', constraint', table', type', column', composite'⟩ := other
  simpa [datum] using h

theorem Param.datum_injective : Function.Injective Param.datum := by
  intro param other h
  obtain ⟨position, name, type⟩ := param
  obtain ⟨position', name', type'⟩ := other
  simpa [datum] using h

theorem Function.datum_injective : Function.Injective Function.datum := by
  intro function other h
  obtain ⟨name, params⟩ := function
  obtain ⟨name', params'⟩ := other
  simp only [datum, Datum.list.injEq, List.cons.injEq, Datum.text.injEq,
    and_true] at h
  obtain ⟨hname, hparams⟩ := h
  rw [hname, Param.datum_injective.list_map hparams]

theorem Column.shape_eq_of_datum_eq {column other : Column}
    (h : column.datum = other.datum) : column.shape = other.shape := by
  obtain ⟨id, schema, table, name, type, flags, foreignKey, blocked⟩ := column
  obtain ⟨id', schema', table', name', type', flags', foreignKey', blocked'⟩ :=
    other
  obtain ⟨notNull, primaryKey, uniqueKey, array, fullText⟩ := flags
  obtain ⟨notNull', primaryKey', uniqueKey', array', fullText'⟩ := flags'
  simp only [datum, Datum.list.injEq, List.cons.injEq, Datum.text.injEq,
    Datum.flag.injEq, and_true] at h
  obtain ⟨rfl, rfl, rfl, rfl, rfl, rfl, rfl, rfl, rfl, hkey, rfl⟩ := h
  rw [ForeignKey.eq_of_toList_datum_eq hkey]
  rfl

/-- What is digested for the columns and index entries of a table. -/
def Table.fed (table : Table) : List Datum :=
  table.columns.map Column.datum ++ table.indexes.entries.map IndexEntry.datum

/-- The collections that are digested for a table. -/
def Table.fedSets (table : Table) : List (List Datum) :=
  [table.columns.map Column.datum, table.indexes.entries.map IndexEntry.datum]

namespace SchemaModel

/-- All that is digested for a model. -/
def fed (hash : Hasher) (model : SchemaModel) : List Datum :=
  model.datum hash :: model.tables.map (Table.datum hash) ++
    model.functions.map Function.datum ++
    model.tables.flatMap Table.fed

/-- The collections that are digested for a model. -/
def fedSets (hash : Hasher) (model : SchemaModel) : List (List Datum) :=
  model.tables.map (Table.datum hash) :: model.functions.map Function.datum ::
    model.tables.flatMap Table.fedSets

end SchemaModel

theorem SchemaModel.mem_fed_of_table {hash : Hasher} {model : SchemaModel}
    {table : Table} (htable : table ∈ model.tables) {x : Datum}
    (hx : x ∈ table.fed) : x ∈ model.fed hash :=
  List.mem_append_right _ (List.mem_flatMap.mpr ⟨table, htable, hx⟩)

theorem SchemaModel.mem_fedSets_of_table {hash : Hasher} {model : SchemaModel}
    {table : Table} (htable : table ∈ model.tables) {xs : List Datum}
    (hxs : xs ∈ table.fedSets) : xs ∈ model.fedSets hash :=
  List.mem_cons_of_mem _ (List.mem_cons_of_mem _ (List.mem_flatMap.mpr ⟨table,
    htable, hxs⟩))

/-- What is digested for one model and what is digested for another one have
different digests where they differ, and so do the collections that are digested,
unless their digests are the same but for their order. -/
structure Hasher.KeepsApart (hash : Hasher) (a b : SchemaModel) : Prop where
  data : ∀ x ∈ a.fed hash, ∀ y ∈ b.fed hash, hash x = hash y → x = y
  sets : ∀ xs ∈ a.fedSets hash, ∀ ys ∈ b.fedSets hash,
    hash.ofSet xs = hash.ofSet ys → (xs.map hash).Perm (ys.map hash)

namespace Hasher.KeepsApart

variable {hash : Hasher} {a b : SchemaModel}

/-- Collections of one digest are the same but for their order. -/
theorem coe_eq_of_ofSet_eq (h : hash.KeepsApart a b) {xs ys : List Datum}
    (hxs : xs ∈ a.fedSets hash) (hys : ys ∈ b.fedSets hash)
    (hfedX : ∀ x ∈ xs, x ∈ a.fed hash) (hfedY : ∀ y ∈ ys, y ∈ b.fed hash)
    (hset : hash.ofSet xs = hash.ofSet ys) : (xs : Multiset Datum) = ys := by
  have hwords : (xs : Multiset Datum).map hash = (ys : Multiset Datum).map hash :=
    Multiset.coe_eq_coe.mpr (h.sets xs hxs ys hys hset)
  have hsame := map_eq_map_of_map_eq_map (g := id) hwords fun x hx y hy hword =>
    h.data x (hfedX x hx) y (hfedY y hy) hword
  rwa [Multiset.map_id, Multiset.map_id] at hsame

theorem table_shape_eq (h : hash.KeepsApart a b) {table other : Table}
    (htable : table ∈ a.tables) (hother : other ∈ b.tables)
    (hdatum : table.datum hash = other.datum hash) : table.shape = other.shape := by
  simp only [Table.datum, Datum.list.injEq, List.cons.injEq, Datum.text.injEq,
    Datum.word.injEq, Datum.flag.injEq, and_true] at hdatum
  obtain ⟨hschema, hname, hkind, hcolumns, hindexes, hblocked⟩ := hdatum
  have hcolumn : (table.columns : Multiset Column).map Column.datum =
      (other.columns : Multiset Column).map Column.datum := by
    refine h.coe_eq_of_ofSet_eq
      (SchemaModel.mem_fedSets_of_table htable List.mem_cons_self)
      (SchemaModel.mem_fedSets_of_table hother List.mem_cons_self) ?_ ?_ hcolumns
    · intro x hx
      exact SchemaModel.mem_fed_of_table htable (List.mem_append_left _ hx)
    · intro y hy
      exact SchemaModel.mem_fed_of_table hother (List.mem_append_left _ hy)
  have hindex : (table.indexes.entries : Multiset IndexEntry).map IndexEntry.datum =
      (other.indexes.entries : Multiset IndexEntry).map IndexEntry.datum := by
    have hsecond : ∀ t : Table,
      t.indexes.entries.map IndexEntry.datum ∈ t.fedSets := fun t =>
      List.mem_cons_of_mem _ List.mem_cons_self
    refine h.coe_eq_of_ofSet_eq
      (SchemaModel.mem_fedSets_of_table htable (hsecond table))
      (SchemaModel.mem_fedSets_of_table hother (hsecond other)) ?_ ?_ hindexes
    · intro x hx
      exact SchemaModel.mem_fed_of_table htable (List.mem_append_right _ hx)
    · intro y hy
      exact SchemaModel.mem_fed_of_table hother (List.mem_append_right _ hy)
  rw [Table.shape, Table.shape, hschema, hname,
    TableKind.identifier_injective hkind, hblocked, map_eq_map_of_map_eq_map hcolumn
      fun _ _ _ _ => Column.shape_eq_of_datum_eq,
    Multiset.map_injective IndexEntry.datum_injective hindex]

/-- Models of one digest have one shape, when nothing collides. -/
theorem shape_eq_of_digest_eq (h : hash.KeepsApart a b)
    (hdigest : a.digest hash = b.digest hash) : a.shape = b.shape := by
  have hdatum : a.datum hash = b.datum hash :=
    h.data _ (by simp [SchemaModel.fed]) _ (by simp [SchemaModel.fed]) hdigest
  simp only [SchemaModel.datum, Datum.list.injEq, List.cons.injEq, Datum.text.injEq,
    Datum.int.injEq, Datum.word.injEq, and_true] at hdatum
  obtain ⟨hkind, hversion, hschema, hname, htables, hfunctions⟩ := hdatum
  have htable : (a.tables : Multiset Table).map (Table.datum hash) =
      (b.tables : Multiset Table).map (Table.datum hash) := by
    refine h.coe_eq_of_ofSet_eq List.mem_cons_self List.mem_cons_self ?_ ?_ htables
    · intro x hx
      simp [SchemaModel.fed, List.mem_map.mp hx]
    · intro y hy
      simp [SchemaModel.fed, List.mem_map.mp hy]
  have hfunction : (a.functions : Multiset Function).map Function.datum =
      (b.functions : Multiset Function).map Function.datum := by
    refine h.coe_eq_of_ofSet_eq (List.mem_cons_of_mem _ List.mem_cons_self)
      (List.mem_cons_of_mem _ List.mem_cons_self) ?_ ?_ hfunctions
    · intro x hx
      simp [SchemaModel.fed, List.mem_map.mp hx]
    · intro y hy
      simp [SchemaModel.fed, List.mem_map.mp hy]
  rw [SchemaModel.shape, SchemaModel.shape, DatabaseKind.name_injective hkind,
    hversion, hschema, hname,
    Multiset.map_injective Function.datum_injective hfunction,
    map_eq_map_of_map_eq_map htable fun _ hmem _ hmem' =>
      h.table_shape_eq hmem hmem']

end Hasher.KeepsApart

end QueryGate.Catalog
