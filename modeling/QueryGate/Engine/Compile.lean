import QueryGate.Engine.Cell
import QueryGate.Engine.Gate

/-!
Compiling requests.

An engine that accepts any query compiles every request afresh. A restricted engine
keeps the variables of an admitted request in the cell of its target, and compiles
the registered document when the cell has no statement yet. What fails to compile is
not kept, so that a later request tries again.
-/

namespace QueryGate.Engine

open Access

/-- What the making of statements changes: the state of the backend, and how many
statements were made. -/
structure Workshop (State : Type) where
  backend : State
  made : Nat

/-- What compiling requests changes. -/
structure Bench (State Plan : Type) where
  workshop : Workshop State
  cells : Cells Plan

variable {State Plan : Type}

/-- The variables that a document is compiled with. -/
def withOrder (vars : Variables) : Option (String × String) → Variables
  | some (var, value) => vars.insert var (.text value)
  | none => vars

theorem withOrder_eq_elim (vars : Variables) (order : Option (String × String)) :
    withOrder vars order =
      order.elim vars fun (var, value) => vars.insert var (.text value) := by
  cases order <;> rfl

/-- Makes a statement for a known role. -/
def makeFor (backend : Backend State Plan) (snapshot : Snapshot) (role : Role)
    (text : String) (vars : Variables) (workshop : Workshop State) :
    Except Error (Statement Plan) × Workshop State :=
  match backend.compile text vars role snapshot.schema workshop.backend with
  | (.error reason, state) =>
      (.error (.compileFailed reason), { workshop with backend := state })
  | (.ok plan, state) =>
      match backend.generate plan snapshot.schema state with
      | (.error reason, state) =>
          (.error (.compileFailed reason), { workshop with backend := state })
      | (.ok written, state) =>
          (.ok ⟨workshop.made, role, plan, written.params, written.sql⟩,
            ⟨state, workshop.made + 1⟩)

/-- Makes a statement for the role of a name. -/
def make (backend : Backend State Plan) (snapshot : Snapshot) (role text : String)
    (vars : Variables) (workshop : Workshop State) :
    Except Error (Statement Plan) × Workshop State :=
  match snapshot.roles.role role with
  | .ok role => makeFor backend snapshot role text vars workshop
  | .error e => (.error e, workshop)

/-- Makes the statement of a target, to be run with variables like the given
ones. -/
def makeTarget (backend : Backend State Plan) (snapshot : Snapshot)
    (target : Target) (vars : Variables) (workshop : Workshop State) :
    Except Error (Statement Plan) × Workshop State :=
  make backend snapshot target.role target.entry.text
    (withOrder vars target.order) workshop

/-- The statement of a target, which is made when there is none. -/
def fill (backend : Backend State Plan) (snapshot : Snapshot) (target : Target)
    (vars : Variables) (bench : Bench State Plan) :
    Except Error (Statement Plan) × Bench State Plan :=
  match (bench.cells.get target.key).statement with
  | some statement => (.ok statement, bench)
  | none =>
      match makeTarget backend snapshot target vars bench.workshop with
      | (.ok statement, workshop) =>
          (.ok statement, ⟨workshop,
            bench.cells.storeStatement target.key statement⟩)
      | (.error e, workshop) => (.error e, { bench with workshop := workshop })

/-- Answers a request with the statement of its target. -/
def serve (backend : Backend State Plan) (snapshot : Snapshot) (target : Target)
    (vars : Variables) (bench : Bench State Plan) :
    Except Error (Statement Plan) × Bench State Plan :=
  fill backend snapshot target vars
    { bench with cells := bench.cells.storeVars target.key vars }

/-- Answers a request with a statement of its own. -/
def compileFresh (backend : Backend State Plan) (snapshot : Snapshot)
    (request : Request) (vars : Variables) (bench : Bench State Plan) :
    Except Error (Statement Plan) × Bench State Plan :=
  let (answer, workshop) :=
    make backend snapshot request.role request.query (withOrder vars request.order)
      bench.workshop
  (answer, { bench with workshop := workshop })

/-- Answers a request whose variables were read. -/
def compileWith (backend : Backend State Plan) (snapshot : Snapshot)
    (request : Request) (vars : Variables) (bench : Bench State Plan) :
    Except Error (Statement Plan) × Bench State Plan :=
  match snapshot.gate? with
  | some cache =>
      match cache.admit snapshot.roles request vars with
      | .ok target => serve backend snapshot target vars bench
      | .error e => (.error e, bench)
  | none => compileFresh backend snapshot request vars bench

/-- Answers a request. -/
def compile (backend : Backend State Plan) (snapshot : Snapshot) (request : Request)
    (bench : Bench State Plan) : Except Error (Compiled Plan) × Bench State Plan :=
  match request.readVars with
  | .ok vars =>
      let (answer, bench) := compileWith backend snapshot request vars bench
      (answer.map fun statement => ⟨statement, vars⟩, bench)
  | .error e => (.error e, bench)

end QueryGate.Engine
