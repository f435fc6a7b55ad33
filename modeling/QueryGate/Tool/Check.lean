import QueryGate.Engine.Snapshot
import QueryGate.Storage.Configuration
import QueryGate.Tool.Failure
import QueryGate.Tool.Report

/-!
Looking at a database and its configuration once.

The settings are read before the database is connected to, and the queries after the
structure of the database is known. The first thing that goes wrong ends the look.
-/

namespace QueryGate.Tool

open Access Catalog Engine Storage

/-- A database that is connected to. -/
structure Database where
  kind : DatabaseKind
  rows : Except Error Rows

/-- What commands find around them: what is at the place of the configuration, and
how to connect to the database of a connection string. -/
structure Surroundings where
  place : Except IoFault Node
  connect : DatabaseKind → String → Except Error (Except Error Rows)

/-- Connects to a database. -/
def Surroundings.database (around : Surroundings) (endpoint : String) :
    Except Failure Database := do
  let kind ← endpointKind endpoint
  match around.connect kind endpoint with
  | .ok rows => return ⟨kind, rows⟩
  | .error cause => .error (.engine cause)

/-- The world that a configuration and a database make up. -/
def worldOf (place : Except IoFault Node) (database : Database) : World where
  kind := database.kind
  rows := database.rows
  settings := readSettings place
  records := readRecords place

/-- What a look came to: the findings, or the notices on the way and what went
wrong. -/
structure CheckOutcome where
  notices : List Notice
  findings : Except Failure Findings

/-- Gives up. -/
def CheckOutcome.failed (notices : List Notice) (failure : Failure) :
    CheckOutcome :=
  ⟨notices, .error failure⟩

/-- Looks at the roles and the queries of a database whose structure is known. -/
def checkQueries (world : World) (settings : Settings) (schema : SchemaModel) :
    CheckOutcome :=
  let notices := RoleTable.notices settings.roles schema
  match RoleTable.build settings.roles settings.defaultBlock with
  | .error cause => .failed notices (.engine cause)
  | .ok roles =>
      match world.registered settings with
      | .error cause => .failed notices (.engine cause)
      | .ok records =>
          ⟨notices ++ AllowList.notices records ++
              [.discovered schema.tables.length schema.functions.length],
            .ok ⟨schema, roles, .ofRecords records⟩⟩

/-- Looks at a database and its configuration. -/
def check (around : Surroundings) (endpoint : String) : CheckOutcome :=
  let policy := do
    let settings ← readSettings around.place
    let blocklist ← settings.blockedNames
    return (settings, blocklist)
  match policy with
  | .error cause => .failed [] (.engine cause)
  | .ok (settings, blocklist) =>
      match around.database endpoint with
      | .error failure => .failed [] failure
      | .ok database =>
          let world := worldOf around.place database
          match world.discover blocklist with
          | .error cause => .failed [] (.engine cause)
          | .ok schema => checkQueries world settings schema

end QueryGate.Tool
