import QueryGate.AllowList
import QueryGate.Access.RoleTable
import QueryGate.Catalog.Digest
import QueryGate.Tool.Outline

/-!
What there is to say about a database and the queries registered for it.

`Findings.summary` is for readers, and `Findings.outline` holds every detail.
-/

namespace QueryGate

open Tool

namespace Catalog

def ForeignKey.outline (key : ForeignKey) : Outline :=
  .record [("schema", .text key.schema), ("table", .text key.table),
    ("column", .text key.column)]

def Column.outline (column : Column) : Outline :=
  .record [("id", .number column.id), ("schema", .text column.schema),
    ("table", .text column.table), ("name", .text column.name),
    ("type", .text column.type), ("array", .flag column.flags.array),
    ("not_null", .flag column.flags.notNull),
    ("primary_key", .flag column.flags.primaryKey),
    ("unique_key", .flag column.flags.uniqueKey),
    ("full_text", .flag column.flags.fullText),
    ("foreign_key", .maybe ForeignKey.outline column.foreignKey),
    ("blocked", .flag column.blocked)]

def IndexEntry.outline (entry : IndexEntry) : Outline :=
  .record [("schema", .text entry.schema), ("constraint", .text entry.constraint),
    ("table", .text entry.table), ("type", .text entry.type),
    ("column", .text entry.column), ("composite", .flag entry.composite)]

/-- Index entries by the columns or constraints they belong to. -/
def outlineGroups (groups : List (String × List IndexEntry)) : Outline :=
  .record (groups.map fun group =>
    (group.1, .list (group.2.map IndexEntry.outline)))

def TableIndexes.outline (indexes : TableIndexes) : Outline :=
  .record [("by_column", outlineGroups indexes.byColumn),
    ("by_constraint", outlineGroups indexes.byConstraint)]

def Table.outline (table : Table) : Outline :=
  .record [("schema", .text table.schema), ("name", .text table.name),
    ("kind", .text table.kind.identifier),
    ("columns", .list (table.columns.map Column.outline)),
    ("primary", .maybe (fun n : Nat => .number n) table.primary?),
    ("full_text", .list (table.fullText.map fun n : Nat => .number n)),
    ("indexes", table.indexes.outline), ("blocked", .flag table.blocked)]

def Param.outline (param : Param) : Outline :=
  .record [("position", .number param.position), ("name", .text param.name),
    ("type", .text param.type)]

def Function.outline (function : Function) : Outline :=
  .record [("name", .text function.name),
    ("params", .list (function.params.map Param.outline))]

/-- The facts about a model. -/
def SchemaModel.facts (model : SchemaModel) : List (String × Outline) :=
  [("kind", .text model.kind.name), ("version", .number model.version),
    ("schema", .text model.schema), ("name", .text model.name),
    ("tables", .list (model.tables.map Table.outline)),
    ("functions", .list (model.functions.map Function.outline))]

/-- The facts about a model and the number of its structure. -/
def SchemaModel.outline [Hashing] (model : SchemaModel) : Outline :=
  .record (("hash", .number (model.digest Hashing.hasher).toNat) :: model.facts)

/-- One line about a table. -/
def Table.summary (table : Table) : String :=
  s!"  {table.schema}.{table.name} " ++
    s!"({table.kind.display}, {table.columns.length} columns)" ++
    if table.blocked then " [blocked]" else ""

/-- One line about a function. -/
def Function.summary (function : Function) : String :=
  let params := function.params.map fun param => s!"{param.name} {param.type}"
  let list := String.intercalate ", " params
  s!"  {function.name}({list})"

end Catalog

namespace Document

def Fragment.outline (fragment : Fragment) : Outline :=
  .record [("name", .text fragment.name), ("value", .text fragment.value)]

def Order.outline (order : Order) : Outline :=
  .record [("var", .text order.var), ("values", .texts order.values)]

def Item.outline (item : Item) : Outline :=
  .record [("comment", .text item.comment), ("vars", .text item.vars),
    ("query", .text item.query),
    ("fragments", .list (item.fragments.map Fragment.outline)),
    ("name", .text item.name),
    ("operation", .maybe (fun operation => .text operation.keyword) item.operation),
    ("order", .maybe Order.outline item.order)]

end Document

def AllowEntry.outline (entry : AllowEntry) : Outline :=
  .record [("name", .text entry.name), ("service", .text entry.service),
    ("operation", .text entry.operation.keyword), ("text", .text entry.text),
    ("vars", .text entry.vars), ("item", entry.item.outline)]

/-- One line about a registered query. -/
def AllowEntry.summary (entry : AllowEntry) : String :=
  let line := s!"  {entry.operation.keyword} {entry.name}"
  match entry.item.order with
  | some order =>
      let values := String.intercalate ", " order.values
      s!"{line} (order by ${order.var}: {values})"
  | none => line

namespace Tool

/-- What was found out about a database and its queries. -/
structure Findings where
  schema : Catalog.SchemaModel
  roles : Access.RoleTable
  queries : AllowList

namespace Findings

variable [Catalog.Hashing]

/-- Every detail. -/
def outline (findings : Findings) : Outline :=
  .record [("hash", .text findings.schema.shownDigest),
    ("schema", findings.schema.outline), ("roles", .texts findings.roles.names),
    ("queries", .list (findings.queries.entries.map AllowEntry.outline))]

/-- The lines for readers. -/
def summaryLines (findings : Findings) : List String :=
  let model := findings.schema
  let roles := String.intercalate ", " findings.roles.names
  [s!"{model.kind.name} database {model.name}.{model.schema} " ++
      s!"(version {model.version})",
    s!"schema hash {model.shownDigest}", "", "tables:"] ++
    model.tables.map Catalog.Table.summary ++ ["", "functions:"] ++
    model.functions.map Catalog.Function.summary ++
    ["", s!"roles: {roles}", "", "allow-listed queries:"] ++
    findings.queries.entries.map AllowEntry.summary

/-- The text for readers. -/
def summary (findings : Findings) : String :=
  String.join (findings.summaryLines.map (· ++ "\n"))

end Findings

end Tool

end QueryGate
