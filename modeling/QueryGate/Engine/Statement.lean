import QueryGate.Access.Role
import QueryGate.Catalog.Model
import QueryGate.Engine.Request

/-!
Statements, and the backend that makes them.

The language of queries and the statements they become are no concern of an engine:
a backend compiles a document to a plan and writes a statement for the plan. A
backend has a state of its own, so that nothing is assumed about one call being like
another.
-/

namespace QueryGate.Engine

open Access Catalog

/-- A parameter of a statement. -/
structure Placeholder where
  name : String
  type : String
deriving DecidableEq, Repr

/-- What is written for a plan. -/
structure Generated where
  sql : String
  params : List Placeholder
deriving DecidableEq, Repr

/-- A compiler of documents and a writer of statements. Either may fail, with a
reason. -/
structure Backend (State Plan : Type) where
  compile : String → Variables → Role → SchemaModel → State →
    Except String Plan × State
  generate : Plan → SchemaModel → State → Except String Generated × State

/-- A statement, and the role that it was compiled for. Its number tells it from all
others that were ever made. -/
structure Statement (Plan : Type) where
  number : Nat
  role : Role
  plan : Plan
  params : List Placeholder
  sql : String
deriving DecidableEq, Repr

namespace Statement

variable {Plan : Type}

/-- The names of the parameters, each once, in the order in which they first
appear. -/
def required (statement : Statement Plan) : List String :=
  (statement.params.map Placeholder.name).eraseDups

/-- Fails with the first required name that has no value. -/
def validate (statement : Statement Plan) (vars : Variables) : Except Error Unit :=
  match statement.required.find? fun name => !vars.contains name with
  | some name => .error (.missingVariable name)
  | none => .ok ()

end Statement

/-- The answer to a request: a statement, and the variables of the request. -/
structure Compiled (Plan : Type) where
  statement : Statement Plan
  vars : Variables

/-- Whether the variables of the request are enough to run the statement. -/
def Compiled.validate {Plan : Type} (compiled : Compiled Plan) :
    Except Error Unit :=
  compiled.statement.validate compiled.vars

end QueryGate.Engine
