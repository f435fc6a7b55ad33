import QueryGate.Document.Order
import QueryGate.Document.Section

/-!
A query document split into its parts.

`Item.ofText` never fails: what belongs to no section is left out. Of several blocks
of variables, or several operations, the last one counts, and every fragment
definition is kept.
-/

namespace QueryGate.Document

open QueryGate.Text

/-- A fragment definition: its name and its whole text. -/
structure Fragment where
  name : String
  value : String
deriving DecidableEq, Repr

def Fragment.ofText (text : List Char) : Fragment :=
  ⟨String.ofList (definedName text), String.ofList text⟩

/-- A query document split into its parts. -/
structure Item where
  comment : String
  vars : String
  query : String
  fragments : List Fragment
  name : String
  operation : Option Operation
  order : Option Order
deriving DecidableEq, Repr

/-- The text of the last section of a kind, empty when there is none. -/
def lastText (kind : SectionKind) (sections : List Section) : List Char :=
  ((sections.filter (·.kind = kind)).getLast?.map Section.text).getD []

/-- Puts an item together from the comments and the sections of a document. -/
def Item.ofSections (comments : List (List Char))
    (sections : List Section) : Item :=
  let comment := join ['\n'] comments
  let query := lastText .operation sections
  { comment := String.ofList comment
    vars := String.ofList (lastText .vars sections)
    query := String.ofList query
    fragments := (sections.filter (·.kind = .fragment)).map fun s =>
      Fragment.ofText s.text
    name := String.ofList (definedName query)
    operation := Operation.detect query
    order := Order.ofComment comment }

/-- Splits a document into its parts. -/
def Item.ofText (text : String) : Item :=
  Item.ofSections (topComments text.toList) (sections text.toList)

/-- Whether two texts have the same ASCII letters and digits in the same order. -/
def sameText (a b : String) : Bool :=
  alphanumericBytes a == alphanumericBytes b

/-- What counts of a fragment when two documents are compared: its exact name, and
the ASCII letters and digits of its text. -/
def Fragment.key (f : Fragment) : String × List Char :=
  (f.name, alphanumerics f.value.toList)

/-- The order of keys: by name, and under a name by the letters and digits. -/
def compareKeys (k l : String × List Char) : Ordering :=
  lexOrd.compare k l

/-- The keys of fragments in ascending order. -/
def sortedKeys (fragments : List Fragment) : List (String × List Char) :=
  (fragments.map Fragment.key).mergeSort fun k l => (compareKeys k l).isLE

/-- Whether two items define the same fragments, in any order and counting
repetitions. -/
def Item.sameFragments (a b : Item) : Bool :=
  a.fragments.length == b.fragments.length && sortedKeys a.fragments ==
    sortedKeys b.fragments

end QueryGate.Document
