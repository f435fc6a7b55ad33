import QueryGate.Catalog.Digest
import QueryGate.Catalog.Fingerprint
import QueryGate.Engine.Compile

/-!
An engine that is kept fresh.

A service answers requests with its active snapshot. A reload makes a whole new
snapshot and puts it in the place of the active one; when anything goes wrong the
active one stays. Snapshots that were active before remain usable by those who still
hold them. A look at the schema reloads when the structure of the database is
another one.
-/

namespace QueryGate.Reload

open Catalog Engine

/-- A snapshot in use. -/
structure Live (Plan : Type) where
  snapshot : Snapshot
  cells : Cells Plan

/-- A snapshot that nothing was compiled with. -/
def Live.fresh {Plan : Type} (snapshot : Snapshot) : Live Plan :=
  ⟨snapshot, .empty⟩

/-- An engine that is kept fresh. The snapshots that were active before are kept,
latest first, and so is how often the database was looked at, and what there was to
report, in order. -/
structure Service (State Plan : Type) where
  active : Live Plan
  retired : List (Live Plan)
  workshop : Workshop State
  looks : Nat
  journal : List Notice

variable {State Plan : Type} [Hashing]

namespace Service

def generation (service : Service State Plan) : Nat :=
  service.active.snapshot.generation

def report (service : Service State Plan) (notices : List Notice) :
    Service State Plan :=
  { service with journal := service.journal ++ notices }

def look (service : Service State Plan) (times : Nat) : Service State Plan :=
  { service with looks := service.looks + times }

/-- Puts a snapshot in the place of the active one. -/
def publish (service : Service State Plan) (snapshot : Snapshot) :
    Service State Plan :=
  { service with
    active := .fresh snapshot
    retired := service.active :: service.retired }

/-- The first snapshot of a service that finds a world. -/
def start (world : World) (backend : State) :
    Except Error (Service State Plan) := do
  let snapshot ← world.snapshot 0
  return {
    active := .fresh snapshot
    retired := []
    workshop := ⟨backend, 0⟩
    looks := world.looks
    journal := world.notices ++
      [.started snapshot.schema.tables.length snapshot.queryCount] }

/-- Makes a new snapshot and publishes it. -/
def reload (service : Service State Plan) (world : World) :
    Except Error Unit × Service State Plan :=
  let service := (service.look world.looks).report world.notices
  match world.snapshot (service.generation + 1) with
  | .ok snapshot =>
      (.ok (), (service.publish snapshot).report
        [.published snapshot.generation snapshot.schema.shownDigest])
  | .error e => (.error e, service)

/-- Looks at the structure of the database, and reloads when it is not the one of
the active snapshot. Tells whether it is another one. The structures themselves are
compared, and not their digests, which are the same for the same structure, and for
another one only where the hasher does not keep the two apart. -/
def checkSchema (service : Service State Plan) (world : World) :
    Except Error Bool × Service State Plan :=
  let current := service.active.snapshot
  let service := service.look 1
  match world.discover current.blocklist with
  | .ok found =>
      if found.sameStructure current.schema then (.ok false, service)
      else
        let service :=
          service.report [.schemaChanged current.schema.shownDigest
            found.shownDigest]
        let (outcome, service) := service.reload world
        (outcome.map fun _ => true, service)
  | .error e => (.error e, service)

/-- Every snapshot in use, latest first. -/
def lives (service : Service State Plan) : List (Live Plan) :=
  service.active :: service.retired

/-- The snapshot of a generation. -/
def live? (service : Service State Plan) (generation : Nat) : Option (Live Plan) :=
  service.lives.find? (·.snapshot.generation = generation)

/-- Keeps what compiling with the snapshot of a generation has changed. -/
def keepCells (generation : Nat) (cells : Cells Plan)
    (live : Live Plan) : Live Plan :=
  if live.snapshot.generation = generation then { live with cells := cells }
  else live

/-- Answers a request with a snapshot in use. -/
def compileWith (backend : Backend State Plan) (service : Service State Plan)
    (live : Live Plan) (request : Request) :
    Except Error (Compiled Plan) × Service State Plan :=
  let (answer, bench) :=
    compile backend live.snapshot request ⟨service.workshop, live.cells⟩
  let keep := keepCells live.snapshot.generation bench.cells
  (answer, { service with
    active := keep service.active
    retired := service.retired.map keep
    workshop := bench.workshop })

/-- Answers a request with the active snapshot. -/
def compile (backend : Backend State Plan) (service : Service State Plan)
    (request : Request) : Except Error (Compiled Plan) × Service State Plan :=
  service.compileWith backend service.active request

end Service

end QueryGate.Reload
