import QueryGate.Catalog.Row
import QueryGate.Text.Order

/-!
The indexes of a table.

Each index row is one entry: the membership of a column in an index or constraint.
The entries of a table are kept in the order of their rows, and are looked up by
column or by constraint.
-/

namespace QueryGate.Catalog

/-- The membership of a column in an index or constraint. It is composite where the
constraint spans more than one column. -/
structure IndexEntry where
  schema : String
  constraint : String
  table : String
  type : String
  column : String
  composite : Bool
deriving DecidableEq, Repr

/-- The index entries of one table, in the order of their rows. -/
structure TableIndexes where
  entries : List IndexEntry
deriving DecidableEq, Repr

namespace TableIndexes

def isEmpty (indexes : TableIndexes) : Bool :=
  indexes.entries.isEmpty

/-- The entries about a column. -/
def ofColumn (indexes : TableIndexes) (name : String) : List IndexEntry :=
  indexes.entries.filter (·.column = name)

/-- The entries of a constraint. -/
def ofConstraint (indexes : TableIndexes) (name : String) : List IndexEntry :=
  indexes.entries.filter (·.constraint = name)

/-- The entries by column, columns in ascending order. -/
def byColumn (indexes : TableIndexes) : List (String × List IndexEntry) :=
  (Text.sortedDistinct (indexes.entries.map IndexEntry.column)).map fun name =>
    (name, indexes.ofColumn name)

/-- The entries by constraint, constraints in ascending order. -/
def byConstraint (indexes : TableIndexes) : List (String × List IndexEntry) :=
  (Text.sortedDistinct (indexes.entries.map IndexEntry.constraint)).map fun name =>
    (name, indexes.ofConstraint name)

end TableIndexes

/-- Whether two rows are about the same constraint of the same table. -/
def IndexRow.sameConstraint (a b : IndexRow) : Bool :=
  a.schema = b.schema && a.table = b.table && a.constraint = b.constraint

/-- The entry of a row. Its constraint is composite when more than one row is about
it. -/
def IndexEntry.ofRow (rows : List IndexRow) (row : IndexRow) : IndexEntry :=
  ⟨row.schema, row.constraint, row.table, row.type, row.column,
    decide (1 < rows.countP row.sameConstraint)⟩

/-- The indexes of a table. -/
def tableIndexes (rows : List IndexRow) (schema table : String) : TableIndexes :=
  ⟨(rows.filter fun row => row.schema = schema && row.table = table).map
    (IndexEntry.ofRow rows)⟩

end QueryGate.Catalog
