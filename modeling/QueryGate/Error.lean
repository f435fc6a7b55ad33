/-!
What can go wrong, and how it is worded.

An error names its cause; `Error.message` holds all the wording. `Error.ofRequest`
tells the errors that answer a single request from those that make building or
rebuilding an engine fail.
-/

namespace QueryGate

/-- Why an order variable selects no statement: it is absent, empty or no text, or
no statement was declared for its value. -/
inductive OrderFault where
  | missing
  | unknown (value : String)
deriving DecidableEq, Repr

def OrderFault.reason : OrderFault → String
  | .missing => "required variable not set"
  | .unknown value => s!"no statement for the value '{value}'"

/-- Why request variables are unusable. -/
inductive VariablesFault where
  | malformed
  | notAnObject
deriving DecidableEq, Repr

def VariablesFault.reason : VariablesFault → String
  | .malformed => "malformed JSON"
  | .notAnObject => "expected an object"

/-- Why a configuration is unusable. A reported fault is in the words of whoever
keeps the configuration. -/
inductive ConfigFault where
  | unsupportedDatabase (name : String)
  | unwatchable (root : String)
  | reported (message : String)
deriving DecidableEq, Repr

def ConfigFault.reason : ConfigFault → String
  | .unsupportedDatabase name => s!"unsupported database type '{name}'"
  | .unwatchable root => s!"unable to watch {root}"
  | .reported message => message

/-- Why a file or directory cannot be read. Data are invalid that are no UTF-8. -/
inductive IoFault where
  | notFound
  | notADirectory
  | isADirectory
  | invalidData
deriving DecidableEq, Repr

def IoFault.reason : IoFault → String
  | .notFound => "No such file or directory (os error 2)"
  | .notADirectory => "Not a directory (os error 20)"
  | .isADirectory => "Is a directory (os error 21)"
  | .invalidData => "stream did not contain valid UTF-8"

/-- A query is not found when it is unknown, or differs from what was registered
under its name. A blocklist is invalid for an entry that is no regular expression,
or too large a one. A configuration file is malformed too when it holds what does
not belong there. -/
inductive Error where
  | roleNotDefined (role : String)
  | notFound
  | invalidVariableValue (name : String) (fault : OrderFault)
  | invalidVariables (fault : VariablesFault)
  | missingVariable (name : String)
  | discoveryFailed (reason : String)
  | compileFailed (reason : String)
  | tableNotFound (schema table : String)
  | columnNotFound (schema table column : String)
  | invalidBlocklist (pattern : String)
  | duplicateRole (role : String)
  | config (fault : ConfigFault)
  | io (fault : IoFault)
  | malformedConfig
deriving DecidableEq, Repr

namespace Error

def message : Error → String
  | .roleNotDefined role => s!"The role '{role}' is not defined"
  | .notFound => "The requested query was not found"
  | .invalidVariableValue name fault =>
      s!"Invalid value for variable '{name}': {fault.reason}"
  | .invalidVariables fault =>
      s!"The request variables are not a valid JSON object: {fault.reason}"
  | .missingVariable name => s!"Required variable not set: {name}"
  | .discoveryFailed reason => s!"Schema discovery failed: {reason}"
  | .compileFailed reason => s!"Failed to compile the query: {reason}"
  | .tableNotFound schema table => s!"The table '{schema}.{table}' was not found"
  | .columnNotFound schema table column =>
      s!"The column '{schema}.{table}.{column}' was not found"
  | .invalidBlocklist pattern =>
      s!"The blocklist entry '{pattern}' is invalid: " ++
        "not a usable regular expression"
  | .duplicateRole role => s!"The role '{role}' is defined more than once"
  | .config fault => s!"Invalid configuration: {fault.reason}"
  | .io fault => s!"I/O error: {fault.reason}"
  | .malformedConfig =>
      "Unable to parse the configuration file: not a valid configuration document"

/-- Whether the error answers a single request. -/
def ofRequest : Error → Bool
  | .roleNotDefined _ => true
  | .notFound => true
  | .invalidVariableValue _ _ => true
  | .invalidVariables _ => true
  | .missingVariable _ => true
  | .compileFailed _ => true
  | _ => false

end Error

end QueryGate
