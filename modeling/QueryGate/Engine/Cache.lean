import QueryGate.AllowList
import QueryGate.Engine.Request

/-!
What the registered queries are compiled for.

Every registered query is registered for every role. A later registration of a name
replaces the earlier one, with a notice. A query without an order variable has one
target for each role; a query with one has a target for each value that it declares,
and the variables of a request select the target.
-/

namespace QueryGate.Engine

open Document

/-- What a statement is compiled for. The order variable and its value are there
where the query declares one. -/
structure Target where
  entry : AllowEntry
  role : String
  order : Option (String × String)
deriving DecidableEq, Repr

/-- What tells the targets of a cache apart. The value is that of the order
variable. -/
structure TargetKey where
  name : String
  role : String
  value : Option String
deriving DecidableEq, Repr

def Target.key (target : Target) : TargetKey :=
  ⟨target.entry.name, target.role, target.order.map Prod.snd⟩

/-- A query that is registered for a role. -/
structure Registration where
  entry : AllowEntry
  role : String
deriving DecidableEq, Repr

namespace Registration

def name (r : Registration) : String :=
  r.entry.name

def isFor (r : Registration) (name role : String) : Bool :=
  r.name = name && r.role = role

/-- The order variable, where the query declares one. -/
def orderVariable? (r : Registration) : Option String :=
  r.entry.item.order.map Order.var

/-- The values of the order variable, each once, in the order in which they are
declared. -/
def orderValues (r : Registration) : List String :=
  ((r.entry.item.order.map Order.values).getD []).eraseDups

/-- The target of a query without an order variable. -/
def plainTarget (r : Registration) : Target :=
  ⟨r.entry, r.role, none⟩

/-- The target for a value of an order variable. -/
def variant (r : Registration) (var value : String) : Target :=
  ⟨r.entry, r.role, some (var, value)⟩

/-- Everything that statements are compiled for. -/
def targets (r : Registration) : List Target :=
  match r.orderVariable? with
  | some var => r.orderValues.map (r.variant var)
  | none => [r.plainTarget]

/-- The target that the value of the order variable selects. -/
def select (r : Registration) (var : String) : Option Json → Except Error Target
  | some (.text value) =>
      if value.isEmpty then .error (.invalidVariableValue var .missing)
      else if r.orderValues.contains value then .ok (r.variant var value)
      else .error (.invalidVariableValue var (.unknown value))
  | _ => .error (.invalidVariableValue var .missing)

/-- The target that variables select. -/
def resolve (r : Registration) (vars : Variables) : Except Error Target :=
  match r.orderVariable? with
  | some var => r.select var (vars.get? var)
  | none => .ok r.plainTarget

/-- The notice about a registration that takes the place of another one. -/
def replaces (r previous : Registration) : Notice :=
  .registrationReplaced r.name r.role r.entry.service previous.entry.service

end Registration

/-- Registrations, at most one for each name and role. -/
structure QueryCache where
  registrations : List Registration
deriving DecidableEq, Repr

namespace QueryCache

/-- The cache of nothing. -/
def empty : QueryCache :=
  ⟨[]⟩

/-- The registration of a name for a role. -/
def find? (cache : QueryCache) (name role : String) : Option Registration :=
  cache.registrations.find? (·.isFor name role)

/-- Puts a registration in the place of the one for the same name and role, or else
at the end. -/
def put (r : Registration) : List Registration → List Registration
  | [] => [r]
  | known :: rest =>
      if known.isFor r.name r.role then r :: rest else known :: put r rest

def register (cache : QueryCache) (r : Registration) : QueryCache :=
  ⟨put r cache.registrations⟩

/-- The names of the registered queries, each once. -/
def names (cache : QueryCache) : List String :=
  (cache.registrations.map Registration.name).eraseDups

end QueryCache

/-- A registration of every query for every role, in the order in which they are
made. -/
def registrationsOf (list : AllowList) (roles : List String) : List Registration :=
  list.entries.flatMap fun entry => roles.map fun role => ⟨entry, role⟩

/-- The notices of making registrations one after the other. -/
def replacements (cache : QueryCache) : List Registration → List Notice
  | [] => []
  | r :: rest =>
      ((cache.find? r.name r.role).map r.replaces).toList ++
        replacements (cache.register r) rest

namespace QueryCache

/-- Registers queries for roles. -/
def ofAllowList (list : AllowList) (roles : List String) : QueryCache :=
  (registrationsOf list roles).foldl register empty

/-- The notices of registering queries for roles. -/
def notices (list : AllowList) (roles : List String) : List Notice :=
  replacements empty (registrationsOf list roles)

end QueryCache

end QueryGate.Engine
