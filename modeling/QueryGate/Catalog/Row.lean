import QueryGate.Error
import QueryGate.Text.Word

/-!
The rows from which the structure of a database is learnt.
-/

namespace QueryGate.Catalog

open QueryGate.Text

inductive DatabaseKind where
  | postgres
  | mysql
deriving DecidableEq, Repr

namespace DatabaseKind

def name : DatabaseKind → String
  | .postgres => "postgres"
  | .mysql => "mysql"

/-- The kind that a name stands for. The case of ASCII letters does not matter. -/
def ofName (text : String) : Except Error DatabaseKind :=
  let lower := lowerAscii text
  if lower = "postgres" || lower = "postgresql" then .ok .postgres
  else if lower = "mysql" || lower = "mariadb" then .ok .mysql
  else .error (.config (.unsupportedDatabase lower))

end DatabaseKind

/-- The identity of a database server. -/
structure ServerInfo where
  version : Int
  schema : String
  name : String
deriving DecidableEq, Repr

/-- The target of a foreign key. -/
structure ForeignKey where
  schema : String
  table : String
  column : String
deriving DecidableEq, Repr

/-- What is either true or false of a column. -/
structure ColumnFlags where
  notNull : Bool
  primaryKey : Bool
  uniqueKey : Bool
  array : Bool
  fullText : Bool
deriving DecidableEq, Repr

namespace ColumnFlags

def none : ColumnFlags :=
  ⟨false, false, false, false, false⟩

/-- The flags that hold on either side. -/
def union (a b : ColumnFlags) : ColumnFlags :=
  ⟨a.notNull || b.notNull, a.primaryKey || b.primaryKey, a.uniqueKey || b.uniqueKey,
    a.array || b.array, a.fullText || b.fullText⟩

end ColumnFlags

/-- What identifies a column. -/
structure ColumnKey where
  schema : String
  table : String
  name : String
deriving DecidableEq, Repr

/-- A row about a column. A column with several constraints has one row for each of
them. The target of a foreign key is empty where the row is about none. -/
structure ColumnRow where
  schema : String
  table : String
  name : String
  type : String
  tableKind : String
  flags : ColumnFlags
  target : ForeignKey
deriving DecidableEq, Repr

namespace ColumnRow

def key (row : ColumnRow) : ColumnKey :=
  ⟨row.schema, row.table, row.name⟩

/-- The flags that a row sets. A primary key is always unique. -/
def setFlags (row : ColumnRow) : ColumnFlags :=
  { row.flags with uniqueKey := row.flags.uniqueKey || row.flags.primaryKey }

/-- The foreign key of a row: there is one when both table and column are named. -/
def foreignKey (row : ColumnRow) : Option ForeignKey :=
  if row.target.table.isEmpty || row.target.column.isEmpty then .none
  else some row.target

end ColumnRow

/-- A row about a function: one for each of its parameters, or one without a
position. Functions of one name are told apart by their identifiers. -/
structure FunctionRow where
  id : String
  name : String
  position : Option Int
  paramName : Option String
  paramType : String
deriving DecidableEq, Repr

/-- A row about a column that belongs to an index or constraint. -/
structure IndexRow where
  schema : String
  constraint : String
  table : String
  type : String
  column : String
deriving DecidableEq, Repr

end QueryGate.Catalog
