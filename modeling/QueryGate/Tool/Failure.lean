import QueryGate.Catalog.Row
import QueryGate.Text.Split

/-!
Why a command fails, and which database a connection string names.
-/

namespace QueryGate.Tool

open Catalog

/-- Why a command fails. -/
inductive Failure where
  | unsupported (endpoint : String)
  | logFilter
  | engine (cause : Error)
deriving DecidableEq, Repr

def Failure.message : Failure → String
  | .unsupported endpoint =>
      s!"The database connection string '{endpoint}' is not supported"
  | .logFilter => "The logging filter is invalid: not a list of directives"
  | .engine cause => cause.message

/-- The kind of database that a connection string names before its first `://`. -/
def endpointKind (endpoint : String) : Except Failure DatabaseKind :=
  match Text.splitOnce "://".toList endpoint.toList with
  | some (scheme, _) =>
      match DatabaseKind.ofName (String.ofList scheme) with
      | .ok kind => .ok kind
      | .error _ => .error (.unsupported endpoint)
  | none => .error (.unsupported endpoint)

end QueryGate.Tool
