import QueryGate.Catalog.Model

/-!
What the database clients read.

A catalog query answers rows of cells, each of which may be empty. A client turns
every row into one of the model's rows, or fails: there is no part of a discovery.
The two clients differ in how they read flags, in which cells may be empty, and in
the width of parameter positions.
-/

namespace QueryGate.Catalog

/-- The cells of a row about the server. -/
structure InfoCells where
  version : Option Int
  schema : Option String
  name : Option String
deriving DecidableEq, Repr

/-- The cells of a row about a column. Databases have flags of different types. -/
structure ColumnCells (Flag : Type) where
  schema : Option String
  table : Option String
  name : Option String
  type : Option String
  tableKind : Option String
  notNull : Option Flag
  primaryKey : Option Flag
  uniqueKey : Option Flag
  array : Option Flag
  fullText : Option Flag
  targetSchema : Option String
  targetTable : Option String
  targetColumn : Option String
deriving DecidableEq, Repr

/-- The cells of a row about a function. -/
structure FunctionCells where
  id : Option String
  name : Option String
  position : Option Int
  paramName : Option String
  paramType : Option String
deriving DecidableEq, Repr

/-- The cells of a row about an index. -/
structure IndexCells where
  schema : Option String
  constraint : Option String
  table : Option String
  type : Option String
  column : Option String
deriving DecidableEq, Repr

/-- What a query answers: rows, or the reason why there are none. -/
abbrev Answer (α : Type) : Type :=
  Except String (List α)

/-- What the catalog queries of a database answer. -/
structure Content (Flag : Type) where
  info : Answer InfoCells
  columns : Answer (ColumnCells Flag)
  functions : Answer FunctionCells
  indexes : Answer IndexCells

/-- How the cells of a database are read. -/
structure Client (Flag : Type) where
  kind : DatabaseKind
  flag : Option Flag → Option Bool
  info : InfoCells → Option ServerInfo
  position : Int → Int

namespace Client

/-- No cell about the server and no flag may be empty. -/
def postgres : Client Bool where
  kind := .postgres
  flag := id
  info cells := do
    return ⟨← cells.version, ← cells.schema, ← cells.name⟩
  position := id

/-- Flags are numbers. An empty one is not set, and neither is zero. Empty cells
about the server read as zero or as empty texts. Of positions the low 32 bits
count. -/
def mysql : Client Int where
  kind := .mysql
  flag cell := some (cell.getD 0 != 0)
  info cells :=
    some ⟨cells.version.getD 0, cells.schema.getD "", cells.name.getD ""⟩
  position n := n.bmod (Nat.pow 2 32)

variable {Flag : Type} (client : Client Flag)

def column? (cells : ColumnCells Flag) : Option ColumnRow := do
  return {
    schema := ← cells.schema
    table := ← cells.table
    name := ← cells.name
    type := ← cells.type
    tableKind := ← cells.tableKind
    flags := ⟨← client.flag cells.notNull, ← client.flag cells.primaryKey,
      ← client.flag cells.uniqueKey, ← client.flag cells.array,
      ← client.flag cells.fullText⟩
    target := ⟨← cells.targetSchema, ← cells.targetTable, ← cells.targetColumn⟩ }

/-- Only the position and the name of a parameter may be empty. -/
def function? (cells : FunctionCells) : Option FunctionRow := do
  return {
    id := ← cells.id
    name := ← cells.name
    position := cells.position.map client.position
    paramName := cells.paramName
    paramType := ← cells.paramType }

def index? (cells : IndexCells) : Option IndexRow := do
  return {
    schema := ← cells.schema
    constraint := ← cells.constraint
    table := ← cells.table
    type := ← cells.type
    column := ← cells.column }

/-- The rows of an answer, each of which can be read. -/
def readRows {Cells Row : Type} (read : Cells → Option Row)
    (answer : Answer Cells) : Except Error (List Row) :=
  match answer with
  | .error reason => .error (.discoveryFailed reason)
  | .ok rows =>
      match rows.mapM read with
      | some read => .ok read
      | none =>
          .error (.discoveryFailed "unexpected null; try decoding as an Option")

/-- The first row about the server. There has to be one. -/
def readInfo (answer : Answer InfoCells) : Except Error ServerInfo :=
  match answer with
  | .error reason => .error (.discoveryFailed reason)
  | .ok [] =>
      .error (.discoveryFailed
        "no rows returned by a query that expected to return at least one row")
  | .ok (first :: _) =>
      match client.info first with
      | some info => .ok info
      | none =>
          .error (.discoveryFailed "unexpected null; try decoding as an Option")

/-- The rows of a database. -/
def rows (content : Content Flag) : Except Error Rows := do
  let info ← client.readInfo content.info
  let columns ← readRows client.column? content.columns
  let functions ← readRows client.function? content.functions
  let indexes ← readRows index? content.indexes
  return ⟨info, columns, functions, indexes⟩

/-- The model of a database. -/
def discover (blocked : String → Bool) (content : Content Flag) :
    Except Error SchemaModel :=
  (client.rows content).map fun rows => .build client.kind blocked rows

end Client

end QueryGate.Catalog
