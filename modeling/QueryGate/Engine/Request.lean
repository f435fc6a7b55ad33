import QueryGate.Error
import QueryGate.Json.Reader
import QueryGate.Text.Blank

/-!
What a caller asks for.

The variables of a request are the text of a JSON object. A blank text, or `null`,
stands for no variables.
-/

namespace QueryGate.Engine

/-- The variables of a request, by name. -/
abbrev Variables : Type := Json.Fields

/-- The variables that a text spells. -/
def readVariables (text : String) : Except Error Variables :=
  if Text.isBlankText text then .ok []
  else
    match Json.ofText? (Text.trim text.toList) with
    | some (.object fields) => .ok fields
    | some .null => .ok []
    | some _ => .error (.invalidVariables .notAnObject)
    | none => .error (.invalidVariables .malformed)

/-- A request to compile a query. It bears the name that the query was registered
under, or none for the name in its document, the document, and the text of the
variables where there are any. An order variable and its value are for engines that
accept any query. -/
structure Request where
  name : String
  query : String
  vars : Option String
  role : String
  order : Option (String × String)
deriving DecidableEq, Repr

namespace Request

/-- The variables of a request. There are none where it brings no text. -/
def readVars (request : Request) : Except Error Variables :=
  match request.vars with
  | some text => readVariables text
  | none => .ok []

end Request

end QueryGate.Engine
