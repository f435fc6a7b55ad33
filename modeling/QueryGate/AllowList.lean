import QueryGate.Document.Item
import QueryGate.Notice

/-!
The queries that are registered.

A record with a blank document is left out, and one without an operation is left out
with a notice. Variables and name of a record count before those of its document.
-/

namespace QueryGate

open Text Document

/-- A query as whoever keeps the configuration has it. -/
structure AllowRecord where
  name : String
  service : String
  query : String
  vars : String
deriving DecidableEq, Repr

/-- A registered query, with its document as it was registered. -/
structure AllowEntry where
  name : String
  service : String
  operation : Operation
  text : String
  vars : String
  item : Item
deriving DecidableEq, Repr

/-- The entry of a record, unless its document is blank or has no operation. -/
def AllowRecord.entry? (record : AllowRecord) : Option AllowEntry :=
  if isBlankText record.query then none
  else
    let item := Item.ofText record.query
    item.operation.map fun operation =>
      { name := if record.name.isEmpty then item.name else record.name
        service := record.service
        operation := operation
        text := record.query
        vars := if isBlankText record.vars then item.vars else record.vars
        item := item }

/-- The notice about a record, if it deserves one. -/
def AllowRecord.notice? (record : AllowRecord) : Option Notice :=
  if !isBlankText record.query && (Item.ofText record.query).operation.isNone then
    some (.recordSkipped record.name)
  else none

/-- Registered queries, in the order of their registration. -/
structure AllowList where
  entries : List AllowEntry
deriving DecidableEq, Repr

namespace AllowList

/-- The list of nothing. -/
def empty : AllowList :=
  ⟨[]⟩

def ofRecords (records : List AllowRecord) : AllowList :=
  ⟨records.filterMap AllowRecord.entry?⟩

/-- What there is to say about records. -/
def notices (records : List AllowRecord) : List Notice :=
  records.filterMap AllowRecord.notice?

end AllowList

end QueryGate
