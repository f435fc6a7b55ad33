import QueryGate.Catalog.Function
import QueryGate.Catalog.Table

/-!
The structure of a database.

`SchemaModel.build` puts the model together from the rows of a discovery. Tables
whose name begins with the internal prefix are left out; tables and columns with a
blocked name are only marked. The tables are in ascending order of schema and name.
-/

namespace QueryGate.Catalog

/-- Tables whose name begins with this belong to the engine itself. -/
def internalPrefix : String := "_qy_"

def isInternal (table : String) : Bool :=
  internalPrefix.toList.isPrefixOf table.toList

/-- The structure of a database, with the name of its current schema. -/
structure SchemaModel where
  kind : DatabaseKind
  version : Int
  schema : String
  name : String
  tables : List Table
  functions : List Function
deriving DecidableEq, Repr

/-- The columns of one table while they are collected. The kind is the first one
that is not empty. -/
structure TableGroup where
  schema : String
  name : String
  tableKind : String
  columns : List Column
deriving DecidableEq, Repr

/-- Adds a column to its table, which is a new one when no column belonged to it
before. -/
def addColumn (m : MergedColumn) : List TableGroup → List TableGroup
  | [] => [⟨m.column.schema, m.column.table, m.tableKind, [m.column]⟩]
  | g :: rest =>
      if g.schema = m.column.schema ∧ g.name = m.column.table then
        { g with
          tableKind := firstFilled g.tableKind m.tableKind
          columns := g.columns ++ [m.column] } :: rest
      else g :: addColumn m rest

/-- Columns by table, both in order of first appearance. -/
def groupColumns (merged : List MergedColumn) : List TableGroup :=
  merged.foldl (fun groups m => addColumn m groups) []

/-- The table of a group. -/
def TableGroup.toTable (blocked : String → Bool) (indexRows : List IndexRow)
    (g : TableGroup) : Table :=
  { schema := g.schema
    name := g.name
    kind := .ofCatalog g.tableKind
    columns := g.columns
    indexes := tableIndexes indexRows g.schema g.name
    blocked := blocked g.name }

/-- The order of tables: by schema, and within a schema by name. -/
def Table.before (a b : Table) : Bool :=
  decide (a.schema < b.schema) || (a.schema = b.schema && decide (a.name ≤ b.name))

/-- What a discovery reads. -/
structure Rows where
  info : ServerInfo
  columns : List ColumnRow
  functions : List FunctionRow
  indexes : List IndexRow
deriving DecidableEq, Repr

namespace SchemaModel

/-- The tables that column and index rows are about. -/
def buildTables (blocked : String → Bool) (rows : Rows) : List Table :=
  let groups := groupColumns (mergeColumns blocked rows.columns)
  ((groups.filter fun g => !isInternal g.name).map
    (TableGroup.toTable blocked rows.indexes)).mergeSort Table.before

/-- The model of a database from the rows of a discovery. `blocked` tells the names
excluded by policy. -/
def build (kind : DatabaseKind) (blocked : String → Bool) (rows : Rows) :
    SchemaModel :=
  { kind
    version := rows.info.version
    schema := rows.info.schema
    name := rows.info.name
    tables := buildTables blocked rows
    functions := groupFunctions blocked rows.functions }

/-- The table of a schema and a name. -/
def table? (model : SchemaModel) (schema name : String) : Option Table :=
  model.tables.find? fun table => table.schema = schema && table.name = name

def table (model : SchemaModel) (schema name : String) : Except Error Table :=
  match model.table? schema name with
  | some table => .ok table
  | none => .error (.tableNotFound schema name)

/-- The column of a schema, a table and a name. -/
def column (model : SchemaModel) (schema table name : String) :
    Except Error Column := do
  let found ← model.table schema table
  match found.column? name with
  | some column => .ok column
  | none => .error (.columnNotFound schema table name)

/-- A table of a name: the current schema's one, or else the first one. -/
def findTable? (model : SchemaModel) (name : String) : Option Table :=
  model.table? model.schema name <|> model.tables.find? (·.name = name)

/-- The first function of a name. -/
def function? (model : SchemaModel) (name : String) : Option Function :=
  model.functions.find? (·.name = name)

end SchemaModel

end QueryGate.Catalog
