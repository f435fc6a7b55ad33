import QueryGate.Text.Blank
import QueryGate.Text.Word

/-!
The kinds of operation and the names that follow a keyword.
-/

namespace QueryGate.Document

open QueryGate.Text

inductive Operation where
  | query
  | mutation
  | subscription
deriving DecidableEq, Repr

/-- The keyword that introduces an operation of this kind. -/
def Operation.keyword : Operation → String
  | .query => "query"
  | .mutation => "mutation"
  | .subscription => "subscription"

def Operation.ofKeyword? (word : List Char) : Option Operation :=
  if word = "query".toList then some .query
  else if word = "mutation".toList then some .mutation
  else if word = "subscription".toList then some .subscription
  else none

/-- The operation a query text begins with. A text that begins with a selection set
is a query. -/
def Operation.detect (text : List Char) : Option Operation :=
  match trimStart text with
  | '{' :: _ => some .query
  | start => Operation.ofKeyword? (leadingWord start)

/-- The word after the first word of a text: the name of an operation or a
fragment. -/
def definedName (text : List Char) : List Char :=
  let start := trimStart text
  if (leadingWord start).isEmpty then []
  else leadingWord (trimStart (afterLeadingWord start))

theorem Operation.ofKeyword?_keyword (operation : Operation) :
    Operation.ofKeyword? operation.keyword.toList = some operation := by
  cases operation <;> decide

end QueryGate.Document
