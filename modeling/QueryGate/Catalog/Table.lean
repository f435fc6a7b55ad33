import QueryGate.Catalog.Column
import QueryGate.Catalog.Index

/-!
Tables and what follows from their columns.
-/

namespace QueryGate.Catalog

open QueryGate.Text

inductive TableKind where
  | table
  | view
  | materializedView
deriving DecidableEq, Repr

namespace TableKind

/-- The kind in words. -/
def display : TableKind → String
  | .table => "table"
  | .view => "view"
  | .materializedView => "materialized view"

/-- The kind as one word. -/
def identifier : TableKind → String
  | .table => "table"
  | .view => "view"
  | .materializedView => "materialized_view"

/-- The kind that a database reports. What it says of other relations makes them
tables. -/
def ofCatalog (text : String) : TableKind :=
  let lower := lowerAscii text
  if lower = "v" || lower = "view" || lower = "system view" then .view
  else if lower = "m" || lower = "materialized view" || lower =
    "materialized_view" then
    .materializedView
  else .table

end TableKind

/-- A table, view or materialized view. -/
structure Table where
  schema : String
  name : String
  kind : TableKind
  columns : List Column
  indexes : TableIndexes
  blocked : Bool
deriving DecidableEq, Repr

namespace Table

/-- The column of a name. -/
def column? (table : Table) (name : String) : Option Column :=
  table.columns.find? (·.name = name)

/-- A column is searched as text or identifies the row, and the first counts where
both are set. -/
def isIdentifying (column : Column) : Bool :=
  column.flags.primaryKey && !column.flags.fullText

/-- The position of the primary column: the first identifying one. -/
def primary? (table : Table) : Option Nat :=
  table.columns.findIdx? isIdentifying

/-- The primary column. -/
def primaryColumn? (table : Table) : Option Column :=
  table.columns.find? isIdentifying

/-- The positions of the columns that can be searched as text, in ascending
order. -/
def fullText (table : Table) : List Nat :=
  (table.columns.zipIdx.filter fun (column, _) =>
    column.flags.fullText).map Prod.snd

/-- The columns that can be searched as text. -/
def fullTextColumns (table : Table) : List Column :=
  table.columns.filter (·.flags.fullText)

end Table

end QueryGate.Catalog
