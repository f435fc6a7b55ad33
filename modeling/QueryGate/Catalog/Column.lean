import QueryGate.Catalog.Row

/-!
Columns merged from their rows.

Rows with the same schema, table and name are about one column. Flags are joined,
the first type that is not empty counts, and so does the first foreign key. Columns
keep the order in which they were first seen, and the position in that order is
their number.
-/

namespace QueryGate.Catalog

/-- A column of a table. Its number is the position in the order of first
appearance, and no part of the structure. -/
structure Column where
  id : Nat
  schema : String
  table : String
  name : String
  type : String
  flags : ColumnFlags
  foreignKey : Option ForeignKey
  blocked : Bool
deriving DecidableEq, Repr

def Column.key (column : Column) : ColumnKey :=
  ⟨column.schema, column.table, column.name⟩

/-- A column and what its rows say about the kind of its table. -/
structure MergedColumn where
  column : Column
  tableKind : String
deriving DecidableEq, Repr

/-- The first text unless it is empty, and else the second. -/
def firstFilled (a b : String) : String :=
  if a.isEmpty then b else a

namespace MergedColumn

/-- A column of which nothing but its name is known. -/
def unknown (id : Nat) (key : ColumnKey) (blocked : Bool) : MergedColumn :=
  ⟨⟨id, key.schema, key.table, key.name, "", .none, none, blocked⟩, ""⟩

/-- Adds what a row says about the column. -/
def absorb (m : MergedColumn) (row : ColumnRow) : MergedColumn :=
  { column :=
      { m.column with
        type := firstFilled m.column.type row.type
        flags := m.column.flags.union row.setFlags
        foreignKey := m.column.foreignKey <|> row.foreignKey }
    tableKind := firstFilled m.tableKind row.tableKind }

end MergedColumn

/-- Adds a row to the column it is about, which is a new one when no row was about
it before. `id` is the number that a new column gets. -/
def addRow (blocked : String → Bool) (row : ColumnRow) (id : Nat) :
    List MergedColumn → List MergedColumn
  | [] => [(MergedColumn.unknown id row.key (blocked row.name)).absorb row]
  | m :: rest =>
      if m.column.key = row.key then m.absorb row :: rest
      else m :: addRow blocked row id rest

/-- The columns that rows are about, in order of first appearance. -/
def mergeColumns (blocked : String → Bool) (rows : List ColumnRow) :
    List MergedColumn :=
  rows.foldl (fun merged row => addRow blocked row merged.length merged) []

end QueryGate.Catalog
