import QueryGate.Catalog.Model

/-!
When two models have the same structure.

The order in which a database reports its rows is no part of its structure: columns,
index entries and functions are compared with repetitions counted and their order
left out, and the numbers of columns do not count. The parameters of a function are
in order. A fingerprint is the normal form under this comparison: what has no order
is sorted.
-/

namespace QueryGate.Catalog

/-- The facts about something, as texts in a fixed order. -/
abbrev Facts : Type := List String

/-- Whether facts are those of the other list or come before them, compared one by
one. -/
def Facts.precede : Facts → Facts → Bool
  | [], _ => true
  | _ :: _, [] => false
  | a :: rest, b :: others =>
      decide (a < b) || (a == b && Facts.precede rest others)

/-- Facts in ascending order. -/
def sortFacts (facts : List Facts) : List Facts :=
  facts.mergeSort Facts.precede

def ForeignKey.facts (key : ForeignKey) : Facts :=
  [key.schema, key.table, key.column]

def ColumnFlags.facts (flags : ColumnFlags) : Facts :=
  [flags.notNull, flags.primaryKey, flags.uniqueKey, flags.array,
    flags.fullText].map toString

/-- Everything about a column except its number. -/
def Column.facts (column : Column) : Facts :=
  [column.schema, column.table, column.name, column.type,
    toString column.blocked] ++
    column.flags.facts ++ (column.foreignKey.map ForeignKey.facts).getD []

def IndexEntry.facts (entry : IndexEntry) : Facts :=
  [entry.schema, entry.constraint, entry.table, entry.type, entry.column,
    toString entry.composite]

def Param.facts (param : Param) : Facts :=
  [toString param.position, param.name, param.type]

def Function.facts (function : Function) : Facts :=
  function.name :: function.params.flatMap Param.facts

/-- The structure of a table. -/
structure TableFingerprint where
  schema : String
  name : String
  kind : TableKind
  columns : List Facts
  indexes : List Facts
  blocked : Bool
deriving DecidableEq, Repr

def Table.fingerprint (table : Table) : TableFingerprint :=
  { schema := table.schema
    name := table.name
    kind := table.kind
    columns := sortFacts (table.columns.map Column.facts)
    indexes := sortFacts (table.indexes.entries.map IndexEntry.facts)
    blocked := table.blocked }

/-- The structure of a database. Its tables need no sorting, as a model has them in
a fixed order. -/
structure Fingerprint where
  kind : DatabaseKind
  version : Int
  schema : String
  name : String
  tables : List TableFingerprint
  functions : List Facts
deriving DecidableEq, Repr

namespace SchemaModel

def fingerprint (model : SchemaModel) : Fingerprint :=
  { kind := model.kind
    version := model.version
    schema := model.schema
    name := model.name
    tables := model.tables.map Table.fingerprint
    functions := sortFacts (model.functions.map Function.facts) }

/-- Whether two models have the same structure. -/
def sameStructure (a b : SchemaModel) : Bool :=
  a.fingerprint == b.fingerprint

end SchemaModel

end QueryGate.Catalog
