import QueryGate.Proofs.Engine.Serving

/-!
A backend that keeps account of its calls.

`Backend.traced` lists every document that a backend is asked to compile and marks
every plan with the call that it comes from. Nothing else about the answers changes:
`compile_traced` and `benchAfter_traced` say that what is answered with the traced
backend is what is answered with the backend itself, once the marks are erased.
-/

namespace QueryGate.Engine

open Access Catalog

variable {State Plan : Type}

/-- What a backend is asked to compile. -/
structure Call where
  text : String
  vars : Variables
  role : Role
  schema : SchemaModel

/-- A plan, marked with the call that it comes from. -/
structure Traced (Plan : Type) where
  plan : Plan
  origin : Call

/-- The call that a statement comes from. -/
def Statement.origin (statement : Statement (Traced Plan)) : Call :=
  statement.plan.origin

/-- The backend that lists its calls, in order, and marks its plans. -/
def Backend.traced (backend : Backend State Plan) :
    Backend (State × List Call) (Traced Plan) where
  compile text vars role schema state :=
    let call : Call := ⟨text, vars, role, schema⟩
    let (plan, next) := backend.compile text vars role schema state.1
    (plan.map (⟨·, call⟩), (next, state.2 ++ [call]))
  generate traced schema state :=
    let (written, next) := backend.generate traced.plan schema state.1
    (written, (next, state.2))

/-- The calls that were made so far. -/
def Workshop.calls (workshop : Workshop (State × List Call)) : List Call :=
  workshop.backend.2

def Statement.erase (statement : Statement (Traced Plan)) : Statement Plan :=
  ⟨statement.number, statement.role, statement.plan.plan, statement.params,
    statement.sql⟩

def Compiled.erase (compiled : Compiled (Traced Plan)) : Compiled Plan :=
  ⟨compiled.statement.erase, compiled.vars⟩

def Cell.erase (cell : Cell (Traced Plan)) : Cell Plan :=
  ⟨cell.statement.map Statement.erase, cell.lastVars⟩

def Cells.erase (cells : Cells (Traced Plan)) : Cells Plan :=
  ⟨cells.written.map fun entry => (entry.1, entry.2.erase)⟩

def Workshop.erase (workshop : Workshop (State × List Call)) : Workshop State :=
  ⟨workshop.backend.1, workshop.made⟩

def Bench.erase (bench : Bench (State × List Call) (Traced Plan)) :
    Bench State Plan :=
  ⟨bench.workshop.erase, bench.cells.erase⟩

namespace Cells

theorem get_erase (cells : Cells (Traced Plan)) (key : TargetKey) :
    cells.erase.get key = (cells.get key).erase := by
  obtain ⟨written⟩ := cells
  simp only [get, erase]
  induction written with
  | nil => rfl
  | cons entry rest ih =>
      obtain ⟨k, cell⟩ := entry
      by_cases hkey : key = k
      · subst hkey
        simp
      · have hbeq : (key == k) = false := by simpa using hkey
        simpa [List.lookup_cons, hbeq] using ih

theorem erase_set (cells : Cells (Traced Plan)) (key : TargetKey)
    (cell : Cell (Traced Plan)) :
    (cells.set key cell).erase = cells.erase.set key cell.erase := by
  simp [erase, set, List.filter_map, Function.comp_def]

theorem erase_storeVars (cells : Cells (Traced Plan)) (key : TargetKey)
    (vars : Variables) :
    (cells.storeVars key vars).erase = cells.erase.storeVars key vars := by
  rw [storeVars, erase_set, storeVars, get_erase]
  rfl

theorem erase_storeStatement (cells : Cells (Traced Plan)) (key : TargetKey)
    (statement : Statement (Traced Plan)) :
    (cells.storeStatement key statement).erase =
      cells.erase.storeStatement key statement.erase := by
  rw [storeStatement, erase_set, storeStatement, get_erase]
  rfl

end Cells

section Making

variable {backend : Backend State Plan} {snapshot : Snapshot} {role : Role}
  {text : String} {vars : Variables} {workshop : Workshop (State × List Call)}

theorem traced_compile {answer : Except String Plan} {after : State}
    (h : backend.compile text vars role snapshot.schema workshop.backend.1 =
      (answer, after)) :
    backend.traced.compile text vars role snapshot.schema workshop.backend =
      (answer.map (⟨·, ⟨text, vars, role, snapshot.schema⟩⟩),
        (after, workshop.calls ++ [⟨text, vars, role, snapshot.schema⟩])) := by
  simp [Backend.traced, Workshop.calls, h]

theorem traced_generate {traced : Traced Plan} {calls : List Call}
    {middle after : State} {answer : Except String Generated}
    (h : backend.generate traced.plan snapshot.schema middle = (answer, after)) :
    backend.traced.generate traced snapshot.schema (middle, calls) =
      (answer, (after, calls)) := by
  simp [Backend.traced, h]

/-- Making a statement calls the backend once, for the role, the text and the
variables; the statement is marked with that call. Apart from the account of the
calls it is made as by the backend itself. -/
theorem makeFor_traced (backend : Backend State Plan) (snapshot : Snapshot)
    (role : Role) (text : String) (vars : Variables)
    (workshop : Workshop (State × List Call)) :
    ∃ answer after,
      makeFor backend.traced snapshot role text vars workshop = (answer, after) ∧
        makeFor backend snapshot role text vars workshop.erase =
          (answer.map Statement.erase, after.erase) ∧
        after.calls = workshop.calls ++ [⟨text, vars, role, snapshot.schema⟩] ∧
        ∀ statement, answer = .ok statement →
          statement.origin = ⟨text, vars, role, snapshot.schema⟩ ∧
          statement.role = role := by
  rcases makeFor_cases backend snapshot role text vars workshop.erase with
    ⟨reason, after, hcompile⟩ | ⟨plan, middle, hcompile, hgenerate⟩
  · refine ⟨_, _, makeFor_of_refused (traced_compile hcompile), ?_, rfl, ?_⟩
    · exact makeFor_of_refused hcompile
    · intro statement h
      cases h
  · rcases hgenerate with ⟨reason, after, hgenerate⟩ | ⟨written, after, hgenerate⟩
    · refine ⟨_, _, makeFor_of_unwritten (traced_compile hcompile)
        (traced_generate hgenerate), ?_, rfl, ?_⟩
      · exact makeFor_of_unwritten hcompile hgenerate
      · intro statement h
        cases h
    · refine ⟨_, _, makeFor_of_written (traced_compile hcompile)
        (traced_generate hgenerate), ?_, rfl, ?_⟩
      · exact makeFor_of_written hcompile hgenerate
      · intro statement h
        cases h
        exact ⟨rfl, rfl⟩

end Making

theorem make_traced (backend : Backend State Plan) (snapshot : Snapshot)
    (name text : String) (vars : Variables)
    (workshop : Workshop (State × List Call)) :
    make backend snapshot name text vars workshop.erase =
      ((make backend.traced snapshot name text vars workshop).1.map Statement.erase,
        (make backend.traced snapshot name text vars workshop).2.erase) := by
  cases hrole : snapshot.roles.role? name with
  | none =>
      rw [make_of_no_role hrole, make_of_no_role hrole]
      rfl
  | some role =>
      obtain ⟨answer, after, htraced, hplain, _⟩ :=
        makeFor_traced backend snapshot role text vars workshop
      rw [make_of_role hrole, make_of_role hrole, htraced, hplain]

theorem serve_traced (backend : Backend State Plan) (snapshot : Snapshot)
    (target : Target) (vars : Variables)
    (bench : Bench (State × List Call) (Traced Plan)) :
    serve backend snapshot target vars bench.erase =
      ((serve backend.traced snapshot target vars bench).1.map Statement.erase,
        (serve backend.traced snapshot target vars bench).2.erase) := by
  have hcell : (bench.erase.cells.get target.key).statement =
      ((bench.cells.get target.key).statement).map Statement.erase := by
    rw [Bench.erase, Cells.get_erase]
    rfl
  cases hfilled : (bench.cells.get target.key).statement with
  | some statement =>
      rw [hfilled] at hcell
      rw [serve_of_filled hfilled, serve_of_filled hcell]
      simp only [Except.map, Bench.erase, Cells.erase_storeVars]
  | none =>
      rw [hfilled] at hcell
      have hmake := make_traced backend snapshot target.role target.entry.text
        (withOrder vars target.order) bench.workshop
      rcases hanswer : makeTarget backend.traced snapshot target vars
        bench.workshop with
        ⟨e | statement, workshop⟩
      · rw [makeTarget] at hanswer
        rw [hanswer] at hmake
        rw [serve_of_failed hfilled hanswer, serve_of_failed hcell hmake]
        simp only [Except.map, Bench.erase, Cells.erase_storeVars]
      · rw [makeTarget] at hanswer
        rw [hanswer] at hmake
        rw [serve_of_made hfilled hanswer, serve_of_made hcell hmake]
        simp only [Except.map, Bench.erase, Cells.erase_storeVars,
          Cells.erase_storeStatement]

theorem compileFresh_traced (backend : Backend State Plan) (snapshot : Snapshot)
    (request : Request) (vars : Variables)
    (bench : Bench (State × List Call) (Traced Plan)) :
    compileFresh backend snapshot request vars bench.erase =
      ((compileFresh backend.traced snapshot request vars bench).1.map
        Statement.erase,
        (compileFresh backend.traced snapshot request vars bench).2.erase) := by
  have hmake := make_traced backend snapshot request.role request.query
    (withOrder vars request.order) bench.workshop
  simp only [compileFresh, Bench.erase, hmake]

theorem compileWith_traced (backend : Backend State Plan) (snapshot : Snapshot)
    (request : Request) (vars : Variables)
    (bench : Bench (State × List Call) (Traced Plan)) :
    compileWith backend snapshot request vars bench.erase =
      ((compileWith backend.traced snapshot request vars bench).1.map
        Statement.erase,
        (compileWith backend.traced snapshot request vars bench).2.erase) := by
  unfold compileWith
  cases snapshot.gate? with
  | none => exact compileFresh_traced backend snapshot request vars bench
  | some cache =>
      dsimp only
      cases cache.admit snapshot.roles request vars with
      | error e => rfl
      | ok target => exact serve_traced backend snapshot target vars bench

/-- A request is answered by the traced backend as by the backend itself. -/
theorem compile_traced (backend : Backend State Plan) (snapshot : Snapshot)
    (request : Request) (bench : Bench (State × List Call) (Traced Plan)) :
    compile backend snapshot request bench.erase =
      ((compile backend.traced snapshot request bench).1.map Compiled.erase,
        (compile backend.traced snapshot request bench).2.erase) := by
  unfold compile
  cases request.readVars with
  | error e => rfl
  | ok vars =>
      simp only [compileWith_traced]
      cases (compileWith backend.traced snapshot request vars bench).1 with
      | error e => rfl
      | ok statement => rfl

theorem benchAfter_traced (backend : Backend State Plan) (snapshot : Snapshot)
    (requests : List Request) (bench : Bench (State × List Call) (Traced Plan)) :
    benchAfter backend snapshot requests bench.erase =
      (benchAfter backend.traced snapshot requests bench).erase := by
  induction requests generalizing bench with
  | nil => rfl
  | cons request rest ih =>
      simp only [benchAfter, List.foldl_cons, compile_traced]
      exact ih (compile backend.traced snapshot request bench).2

end QueryGate.Engine
