import QueryGate.Text.Blank
import QueryGate.Text.Split

/-!
The order directive of a document.

A comment line of the form `@order variable: value, value` declares a variable whose
value chooses between statements that are compiled apart, and the values it may
take.
-/

namespace QueryGate.Document

open QueryGate.Text

/-- An order variable and its values. -/
structure Order where
  var : String
  values : List String
deriving DecidableEq, Repr

/-- Reads the directive from one line of a comment. Dollar signs before the
variable, double quotes around a value and empty values are dropped. -/
def Order.ofLine (line : List Char) : Option Order := do
  let mark := "@order".toList
  let line := trim line
  if mark.isPrefixOf line then
    let (var, values) ← splitOnce [':'] (line.drop mark.length)
    let var := (trim var).dropWhile (· == '$')
    if var.isEmpty then none
    else
      let values := (fields ',' values).map fun value =>
        dropAround (· == '"') (trim value)
      some ⟨String.ofList var, (values.filter (!·.isEmpty)).map String.ofList⟩
  else none

/-- The directive of the first line that holds one. -/
def Order.ofComment (comment : List Char) : Option Order :=
  (fields '\n' comment).findSome? Order.ofLine

end QueryGate.Document
