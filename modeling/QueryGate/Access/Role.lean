import QueryGate.Text.Order

/-!
Roles and what they may do with tables.

A role has a policy for each table it names; what it does not name is open unless
the role blocks by default. Policies go by the name of a table alone, and of several
for one name the last counts.
-/

namespace QueryGate.Access

/-- What a role says about a table. -/
structure Policy where
  readOnly : Bool
  blocked : Bool
deriving DecidableEq, Repr

/-- A table as the configuration of a role names it. An empty schema is the current
one. -/
structure RoleTableConfig where
  schema : String
  name : String
  readOnly : Bool
  blocked : Bool
deriving DecidableEq, Repr

def RoleTableConfig.policy (config : RoleTableConfig) : Policy :=
  ⟨config.readOnly, config.blocked⟩

/-- The configuration of a role. A user is given the role under the condition of its
filter. -/
structure RoleConfig where
  name : String
  filter : String
  tables : List RoleTableConfig
deriving DecidableEq, Repr

/-- A role. Its policies are in the order in which they were given, and tables
without one are blocked by default or not. -/
structure Role where
  name : String
  filter : String
  policies : List (String × Policy)
  defaultBlock : Bool
deriving DecidableEq, Repr

namespace Role

/-- A role without policies. -/
def open_ (name : String) : Role :=
  ⟨name, "", [], false⟩

def ofConfig (config : RoleConfig) : Role :=
  ⟨config.name, config.filter, config.tables.map fun t => (t.name, t.policy), false⟩

/-- The policy for a table: the last one given for its name. -/
def policy? (role : Role) (table : String) : Option Policy :=
  role.policies.reverse.lookup table

def canRead (role : Role) (table : String) : Bool :=
  match role.policy? table with
  | some policy => !policy.blocked
  | none => !role.defaultBlock

def canWrite (role : Role) (table : String) : Bool :=
  match role.policy? table with
  | some policy => !policy.blocked && !policy.readOnly
  | none => !role.defaultBlock

/-- The tables with a policy, in ascending order of their names. -/
def tableNames (role : Role) : List String :=
  Text.sortedDistinct (role.policies.map Prod.fst)

end Role

end QueryGate.Access
