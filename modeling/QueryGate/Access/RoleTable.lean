import QueryGate.Access.Role
import QueryGate.Catalog.Model
import QueryGate.Notice

/-!
The roles that an engine knows.

The roles `user` and `anon` are always there. A role configured twice is an error. A
policy for a table that the model lacks is kept, with a notice.
-/

namespace QueryGate.Access

open QueryGate.Catalog

/-- The roles that are there without being configured. -/
def defaultRoles : List String :=
  ["user", "anon"]

/-- The role of those about whom nothing is known. -/
def anonymous : String := "anon"

/-- Roles with distinct names. -/
structure RoleTable where
  roles : List Role
deriving DecidableEq, Repr

namespace RoleTable

/-- The role of a name. -/
def role? (table : RoleTable) (name : String) : Option Role :=
  table.roles.find? (·.name = name)

def role (table : RoleTable) (name : String) : Except Error Role :=
  match table.role? name with
  | some role => .ok role
  | none => .error (.roleNotDefined name)

def contains (table : RoleTable) (name : String) : Bool :=
  (table.role? name).isSome

/-- The names of the roles in ascending order. -/
def names (table : RoleTable) : List String :=
  Text.sorted (table.roles.map Role.name)

end RoleTable

/-- The schema that a table of a role is in. -/
def RoleTableConfig.schemaIn (table : RoleTableConfig)
    (model : SchemaModel) : String :=
  if table.schema.isEmpty then model.schema else table.schema

/-- A notice for each table of a role that the model lacks. -/
def RoleConfig.notices (model : SchemaModel) (config : RoleConfig) : List Notice :=
  config.tables.filterMap fun table =>
    let schema := table.schemaIn model
    if (model.table? schema table.name).isSome then none
    else some (.roleTableMissing config.name schema table.name)

/-- The first name that repeats an earlier one. -/
def firstRepeated? (before : List String) : List String → Option String
  | [] => none
  | name :: rest =>
      if before.contains name then some name
      else firstRepeated? (name :: before) rest

/-- The configurations up to the first one whose name repeats an earlier one, itself
included. -/
def uptoRepeated (before : List String) : List RoleConfig → List RoleConfig
  | [] => []
  | config :: rest =>
      if before.contains config.name then [config]
      else config :: uptoRepeated (config.name :: before) rest

/-- The default roles that are not among the given ones. -/
def missingDefaults (roles : List Role) : List Role :=
  (defaultRoles.filter fun name => !(roles.map Role.name).contains name).map
    Role.open_

/-- Blocks what the anonymous role does not name. -/
def blockAnonymous (role : Role) : Role :=
  if role.name = anonymous then { role with defaultBlock := true } else role

/-- The roles that configurations describe, when no name is configured twice.
Blocking by default applies to the anonymous role alone, and only where roles are
configured at all. -/
def RoleTable.ofConfigs (configs : List RoleConfig)
    (defaultBlock : Bool) : RoleTable :=
  let configured := configs.map Role.ofConfig
  let roles := configured ++ missingDefaults configured
  ⟨if defaultBlock && !configs.isEmpty then roles.map blockAnonymous else roles⟩

/-- The notices of building a role table. A repeated name ends the building, but
only after the tables of its role were looked up. -/
def RoleTable.notices (configs : List RoleConfig) (model : SchemaModel) :
    List Notice :=
  (uptoRepeated [] configs).flatMap (RoleConfig.notices model)

/-- Builds the role table, unless a role is configured twice. -/
def RoleTable.build (configs : List RoleConfig) (defaultBlock : Bool) :
    Except Error RoleTable :=
  match firstRepeated? [] (configs.map RoleConfig.name) with
  | some name => .error (.duplicateRole name)
  | none => .ok (.ofConfigs configs defaultBlock)

end QueryGate.Access
