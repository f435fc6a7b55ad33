import QueryGate.Access.RoleTable
import QueryGate.Engine.Cache
import QueryGate.Settings

/-!
The engine at one moment.

A snapshot is put together from readings of the outside world: the settings, the
structure of the database and the registered queries. It never changes; what the
world is like afterwards shows in a later snapshot.
-/

namespace QueryGate.Engine

open Access Catalog

/-- What the outside world answers when it is asked for the rows of the database,
for the settings and for the queries to register. -/
structure World where
  kind : DatabaseKind
  rows : Except Error Rows
  settings : Except Error Settings
  records : Except Error (List AllowRecord)

namespace World

/-- The structure of the database. -/
def discover (world : World) (blocklist : Blocklist) : Except Error SchemaModel :=
  world.rows.map (SchemaModel.build world.kind blocklist.blocks)

/-- The settings and the names they block. -/
def policy (world : World) : Except Error (Settings × Blocklist) := do
  let settings ← world.settings
  let blocklist ← settings.blockedNames
  return (settings, blocklist)

/-- The queries that the settings let be registered. Where the allow-list is
disabled, nobody asks for it. -/
def registered (world : World) (settings : Settings) :
    Except Error (List AllowRecord) :=
  if settings.disableAllowList then .ok [] else world.records

end World

/-- All that a snapshot is made of. -/
structure Readings where
  settings : Settings
  blocklist : Blocklist
  schema : SchemaModel
  records : List AllowRecord

/-- Reads all that a snapshot is made of, and stops at what cannot be read. -/
def World.read (world : World) : Except Error Readings := do
  let (settings, blocklist) ← world.policy
  let schema ← world.discover blocklist
  let records ← world.registered settings
  return ⟨settings, blocklist, schema, records⟩

/-- The engine at one moment. There are registrations unless the allow-list is
disabled, and the generation counts the snapshots before. -/
structure Snapshot where
  settings : Settings
  blocklist : Blocklist
  schema : SchemaModel
  roles : RoleTable
  cache : Option QueryCache
  generation : Nat

namespace Readings

/-- The registrations for roles. -/
def cache (readings : Readings) (roles : RoleTable) : Option QueryCache :=
  if readings.settings.disableAllowList then none
  else some (.ofAllowList (.ofRecords readings.records) roles.names)

/-- Puts a snapshot together. A role that is configured twice is the only
obstacle. -/
def snapshot (readings : Readings) (generation : Nat) : Except Error Snapshot := do
  let roles ← RoleTable.build readings.settings.roles readings.settings.defaultBlock
  return {
    settings := readings.settings
    blocklist := readings.blocklist
    schema := readings.schema
    roles := roles
    cache := readings.cache roles
    generation := generation }

/-- The notices of registering queries. -/
def cacheNotices (readings : Readings) (roles : RoleTable) : List Notice :=
  if readings.settings.disableAllowList then []
  else QueryCache.notices (.ofRecords readings.records) roles.names

/-- The notices of putting a snapshot together. -/
def notices (readings : Readings) : List Notice :=
  AllowList.notices readings.records ++
    RoleTable.notices readings.settings.roles readings.schema ++
    match RoleTable.build readings.settings.roles
      readings.settings.defaultBlock with
    | .ok roles => readings.cacheNotices roles
    | .error _ => []

end Readings

namespace World

/-- The snapshot of a world. -/
def snapshot (world : World) (generation : Nat) : Except Error Snapshot := do
  (← world.read).snapshot generation

/-- The notices of making the snapshot of a world. -/
def notices (world : World) : List Notice :=
  match world.read with
  | .ok readings => readings.notices
  | .error _ => []

/-- How often making the snapshot of a world looks at the database. -/
def looks (world : World) : Nat :=
  match world.policy with
  | .ok _ => 1
  | .error _ => 0

end World

namespace Snapshot

/-- Whether only registered queries may be compiled. -/
def restricted (snapshot : Snapshot) : Bool :=
  snapshot.settings.production && snapshot.cache.isSome

/-- The registrations that requests have to comply with. -/
def gate? (snapshot : Snapshot) : Option QueryCache :=
  if snapshot.settings.production then snapshot.cache else none

/-- How many registered names there are. -/
def queryCount (snapshot : Snapshot) : Nat :=
  (snapshot.cache.map fun cache => cache.names.length).getD 0

theorem gate?_isSome (snapshot : Snapshot) :
    snapshot.gate?.isSome = snapshot.restricted := by
  unfold gate? restricted
  cases snapshot.settings.production <;> simp

end Snapshot

end QueryGate.Engine
