import Mathlib.Data.Multiset.MapFold
import QueryGate.Catalog.Digest

/-!
The shape of a model, which is what its digest tells.

The order in which a database reports its rows is no part of the shape: columns,
index entries, tables and functions are counted, and columns have no number. Models
of one shape have one digest, whatever the hasher. The other way round nothing can
be said of all hashers, as there are fewer words than models; it holds of a hasher
that digests no two of the things that it is given here to one word.
-/

namespace QueryGate.Catalog

/-- What follows from one description of things that are counted follows from
another one that tells as much. -/
theorem map_eq_map_of_map_eq_map {α β γ : Type} {xs ys : Multiset α} {f : α → β}
    {g : α → γ} (h : xs.map f = ys.map f)
    (hfg : ∀ x ∈ xs, ∀ y ∈ ys, f x = f y → g x = g y) : xs.map g = ys.map g := by
  rw [← Multiset.rel_eq, Multiset.rel_map] at h ⊢
  exact h.mono hfg

/-- A column without its number. -/
def Column.shape (column : Column) : Column :=
  { column with id := 0 }

/-- A table without the order of its columns and index entries. -/
structure TableShape where
  schema : String
  name : String
  kind : TableKind
  columns : Multiset Column
  indexes : Multiset IndexEntry
  blocked : Bool

def Table.shape (table : Table) : TableShape :=
  { schema := table.schema
    name := table.name
    kind := table.kind
    columns := (table.columns : Multiset Column).map Column.shape
    indexes := table.indexes.entries
    blocked := table.blocked }

/-- A model without the order of its tables and functions. -/
structure SchemaShape where
  kind : DatabaseKind
  version : Int
  schema : String
  name : String
  tables : Multiset TableShape
  functions : Multiset Function

def SchemaModel.shape (model : SchemaModel) : SchemaShape :=
  { kind := model.kind
    version := model.version
    schema := model.schema
    name := model.name
    tables := (model.tables : Multiset Table).map Table.shape
    functions := model.functions }

namespace Hasher

variable (hash : Hasher)

/-- Neither the count of words nor their sum nor the exclusive or of their rotations
depends on their order. -/
theorem ofWords_perm {xs ys : List UInt64} (h : xs.Perm ys) :
    hash.ofWords xs = hash.ofWords ys := by
  have hsum : xs.foldl (· + ·) 0 = ys.foldl (· + ·) 0 := by
    refine h.foldl_eq' (fun x _ y _ z => ?_) 0
    rw [UInt64.add_assoc, UInt64.add_comm x y, ← UInt64.add_assoc]
  have hxor : xs.foldl (fun acc word => acc ^^^ rotate word) 0 =
      ys.foldl (fun acc word => acc ^^^ rotate word) 0 := by
    refine h.foldl_eq' (fun x _ y _ z => ?_) 0
    rw [UInt64.xor_assoc, UInt64.xor_comm (rotate x), ← UInt64.xor_assoc]
  rw [ofWords, ofWords, h.length_eq, hsum, hxor]

theorem ofSet_eq_of_coe_eq {xs ys : List Datum} (h : (xs : Multiset Datum) = ys) :
    hash.ofSet xs = hash.ofSet ys :=
  hash.ofWords_perm ((Multiset.coe_eq_coe.mp h).map hash)

end Hasher

theorem Column.datum_shape (column : Column) : column.shape.datum = column.datum :=
  rfl

theorem Table.datum_eq_of_shape_eq (hash : Hasher) {table other : Table}
    (h : table.shape = other.shape) : table.datum hash = other.datum hash := by
  obtain ⟨hschema, hname, hkind, hcolumns, hindexes, hblocked⟩ :=
    TableShape.mk.inj h
  have hcolumn : hash.ofSet (table.columns.map Column.datum) =
      hash.ofSet (other.columns.map Column.datum) := by
    apply hash.ofSet_eq_of_coe_eq
    refine map_eq_map_of_map_eq_map hcolumns fun column _ column' _ hshape => ?_
    rw [← column.datum_shape, hshape, column'.datum_shape]
  have hindex : hash.ofSet (table.indexes.entries.map IndexEntry.datum) =
      hash.ofSet (other.indexes.entries.map IndexEntry.datum) := by
    apply hash.ofSet_eq_of_coe_eq
    exact congrArg (Multiset.map IndexEntry.datum) hindexes
  rw [datum, datum, hschema, hname, hkind, hcolumn, hindex, hblocked]

namespace SchemaModel

/-- What a model is digested as. -/
def datum (hash : Hasher) (model : SchemaModel) : Datum :=
  .list [.text model.kind.name, .int model.version, .text model.schema,
    .text model.name, .word (hash.ofSet (model.tables.map (Table.datum hash))),
    .word (hash.ofSet (model.functions.map Function.datum))]

theorem digest_eq (hash : Hasher) (model : SchemaModel) :
    model.digest hash = hash (model.datum hash) :=
  rfl

/-- Models of one shape have one digest, whatever the hasher. -/
theorem digest_eq_of_shape_eq (hash : Hasher) {a b : SchemaModel}
    (h : a.shape = b.shape) : a.digest hash = b.digest hash := by
  obtain ⟨hkind, hversion, hschema, hname, htables, hfunctions⟩ :=
    SchemaShape.mk.inj h
  have htable : hash.ofSet (a.tables.map (Table.datum hash)) =
      hash.ofSet (b.tables.map (Table.datum hash)) := by
    apply hash.ofSet_eq_of_coe_eq
    exact map_eq_map_of_map_eq_map htables fun _ _ _ _ hshape =>
      Table.datum_eq_of_shape_eq hash hshape
  have hfunction : hash.ofSet (a.functions.map Function.datum) =
      hash.ofSet (b.functions.map Function.datum) := by
    apply hash.ofSet_eq_of_coe_eq
    exact congrArg (Multiset.map Function.datum) hfunctions
  rw [digest_eq, digest_eq, datum, datum, hkind, hversion, hschema, hname, htable,
    hfunction]

end SchemaModel

end QueryGate.Catalog
