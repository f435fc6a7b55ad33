import QueryGate.Engine.Snapshot

/-!
Which requests a restricted engine admits.

A request is admitted when its role is known, when a query is registered for the
role under the name that the request goes by, when the document has the same letters
and digits and the same fragments as the registered one, and when its variables
select a target. A request whose document differs is answered as if nothing were
registered. Nothing here depends on earlier requests.
-/

namespace QueryGate.Engine

open Access Document

namespace Request

/-- The document, split into its parts. -/
def item (request : Request) : Item :=
  Item.ofText request.query

/-- The name that a request goes by: its own, or else the one in its document. -/
def lookupName (request : Request) : String :=
  if request.name.isEmpty then request.item.name else request.name

/-- Whether the document of a request is the registered one, apart from its form. -/
def complies (request : Request) (registered : Item) : Bool :=
  sameText request.item.query registered.query &&
    request.item.sameFragments registered

end Request

/-- The registration that a request complies with. -/
def QueryCache.match? (cache : QueryCache) (request : Request) :
    Option Registration :=
  (cache.find? request.lookupName request.role).filter fun r =>
    request.complies r.entry.item

/-- The target of a request. -/
def QueryCache.admit (cache : QueryCache) (roles : RoleTable) (request : Request)
    (vars : Variables) : Except Error Target :=
  if roles.contains request.role then
    match cache.match? request with
    | some r => r.resolve vars
    | none => .error .notFound
  else .error (.roleNotDefined request.role)

end QueryGate.Engine
