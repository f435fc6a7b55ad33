import QueryGate.Proofs.Engine.Registered
import QueryGate.Engine.Compile

/-!
What answering a request does.

Every function on the way from a request to its answer has one lemma that says all
that it can do, so that what is kept by answering requests is shown without looking
at the functions again.
-/

namespace QueryGate.Engine

open Access Catalog

variable {State Plan : Type}

/-- A backend whose plans and statements are the documents themselves. -/
def Backend.echo : Backend Unit String where
  compile text _ _ _ state := (.ok text, state)
  generate plan _ state := (.ok ⟨plan, []⟩, state)

/-- A bench on which no request was answered. -/
def Bench.fresh (state : State) : Bench State Plan :=
  ⟨⟨state, 0⟩, .empty⟩

/-- The bench after requests were answered one after the other. -/
def benchAfter (backend : Backend State Plan) (snapshot : Snapshot)
    (requests : List Request) (bench : Bench State Plan) : Bench State Plan :=
  requests.foldl
    (fun bench request => (compile backend snapshot request bench).2) bench

theorem benchAfter_concat (backend : Backend State Plan) (snapshot : Snapshot)
    (requests : List Request) (request : Request) (bench : Bench State Plan) :
    benchAfter backend snapshot (requests ++ [request]) bench =
      (compile backend snapshot request
        (benchAfter backend snapshot requests bench)).2 := by
  rw [benchAfter, List.foldl_append]
  rfl

/-- What holds of a bench and is kept by every answer holds after any requests. -/
theorem benchAfter_induction {backend : Backend State Plan} {snapshot : Snapshot}
    {P : Bench State Plan → Prop}
    (hstep : ∀ request bench,
      P bench → P (compile backend snapshot request bench).2)
    (requests : List Request) {bench : Bench State Plan} (hbench : P bench) :
    P (benchAfter backend snapshot requests bench) := by
  induction requests generalizing bench with
  | nil => exact hbench
  | cons request rest ih => exact ih (hstep request bench hbench)

namespace Cells

theorem get_set (cells : Cells Plan) (key other : TargetKey) (cell : Cell Plan) :
    (cells.set key cell).get other = if other = key then cell
      else cells.get other := by
  by_cases h : other = key
  · subst h
    simp
  · rw [if_neg h, get_set_of_ne cells cell h]

theorem get_storeVars (cells : Cells Plan) (key other : TargetKey)
    (vars : Variables) :
    (cells.storeVars key vars).get other =
      if other = key then ⟨(cells.get key).statement, some vars⟩
      else cells.get other := by
  rw [storeVars, get_set]

theorem get_storeStatement (cells : Cells Plan) (key other : TargetKey)
    (statement : Statement Plan) :
    (cells.storeStatement key statement).get other =
      if other = key then ⟨some statement, (cells.get key).lastVars⟩
      else cells.get other := by
  rw [storeStatement, get_set]

@[simp] theorem statement_storeVars (cells : Cells Plan) (key other : TargetKey)
    (vars : Variables) :
    ((cells.storeVars key vars).get other).statement =
      (cells.get other).statement := by
  rw [get_storeVars]
  by_cases h : other = key
  · rw [if_pos h, h]
  · rw [if_neg h]

theorem statement_storeStatement (cells : Cells Plan) (key other : TargetKey)
    (statement : Statement Plan) :
    ((cells.storeStatement key statement).get other).statement =
      if other = key then some statement else (cells.get other).statement := by
  rw [get_storeStatement]
  by_cases h : other = key
  · rw [if_pos h, if_pos h]
  · rw [if_neg h, if_neg h]

end Cells

section Making

variable {backend : Backend State Plan} {snapshot : Snapshot} {role : Role}
  {text : String} {vars : Variables} {workshop : Workshop State}

/-- A document that is not compiled has no statement. -/
theorem makeFor_of_refused {reason : String} {after : State}
    (hcompile : backend.compile text vars role snapshot.schema workshop.backend =
      (.error reason, after)) :
    makeFor backend snapshot role text vars workshop =
      (.error (.compileFailed reason), { workshop with backend := after }) := by
  simp [makeFor, hcompile]

/-- A plan for which nothing is written has no statement. -/
theorem makeFor_of_unwritten {plan : Plan} {reason : String} {middle after : State}
    (hcompile : backend.compile text vars role snapshot.schema workshop.backend =
      (.ok plan, middle))
    (hgenerate : backend.generate plan snapshot.schema middle =
      (.error reason, after)) :
    makeFor backend snapshot role text vars workshop =
      (.error (.compileFailed reason), { workshop with backend := after }) := by
  simp [makeFor, hcompile, hgenerate]

theorem makeFor_of_written {plan : Plan} {written : Generated}
    {middle after : State}
    (hcompile : backend.compile text vars role snapshot.schema workshop.backend =
      (.ok plan, middle))
    (hgenerate : backend.generate plan snapshot.schema middle =
      (.ok written, after)) :
    makeFor backend snapshot role text vars workshop =
      (.ok ⟨workshop.made, role, plan, written.params, written.sql⟩,
        ⟨after, workshop.made + 1⟩) := by
  simp [makeFor, hcompile, hgenerate]

/-- All that making a statement for a role can come to. -/
theorem makeFor_cases (backend : Backend State Plan) (snapshot : Snapshot)
    (role : Role) (text : String) (vars : Variables) (workshop : Workshop State) :
    (∃ reason after,
      backend.compile text vars role snapshot.schema workshop.backend =
        (.error reason, after)) ∨
    (∃ plan middle,
      backend.compile text vars role snapshot.schema workshop.backend =
        (.ok plan, middle) ∧
        ((∃ reason after,
          backend.generate plan snapshot.schema middle = (.error reason, after)) ∨
        (∃ written after,
          backend.generate plan snapshot.schema middle =
            (.ok written, after)))) := by
  rcases hcompile : backend.compile text vars role snapshot.schema
    workshop.backend with
    ⟨reason | plan, middle⟩
  · exact Or.inl ⟨reason, middle, rfl⟩
  · refine Or.inr ⟨plan, middle, rfl, ?_⟩
    rcases backend.generate plan snapshot.schema middle
      with ⟨reason | written, after⟩
    · exact Or.inl ⟨reason, after, rfl⟩
    · exact Or.inr ⟨written, after, rfl⟩

end Making

theorem make_of_role {backend : Backend State Plan} {snapshot : Snapshot}
    {name text : String} {role : Role}
    (hrole : snapshot.roles.role? name = some role) (vars : Variables)
    (workshop : Workshop State) :
    make backend snapshot name text vars workshop =
      makeFor backend snapshot role text vars workshop := by
  simp [make, RoleTable.role, hrole]

theorem make_of_no_role {backend : Backend State Plan} {snapshot : Snapshot}
    {name text : String} (hrole : snapshot.roles.role? name = none)
    (vars : Variables) (workshop : Workshop State) :
    make backend snapshot name text vars workshop =
      (.error (.roleNotDefined name), workshop) := by
  simp [make, RoleTable.role, hrole]

/-- A target whose cell is filled is answered from it; the variables are kept
before. -/
theorem serve_of_filled {backend : Backend State Plan} {snapshot : Snapshot}
    {target : Target} {vars : Variables} {bench : Bench State Plan}
    {statement : Statement Plan}
    (h : (bench.cells.get target.key).statement = some statement) :
    serve backend snapshot target vars bench =
      (.ok statement, { bench with
        cells := bench.cells.storeVars target.key vars }) := by
  simp [serve, fill, h]

/-- A target whose cell is empty has its statement made, which is kept. -/
theorem serve_of_made {backend : Backend State Plan} {snapshot : Snapshot}
    {target : Target} {vars : Variables} {bench : Bench State Plan}
    {statement : Statement Plan} {workshop : Workshop State}
    (hempty : (bench.cells.get target.key).statement = none)
    (hmake : makeTarget backend snapshot target vars bench.workshop =
      (.ok statement, workshop)) :
    serve backend snapshot target vars bench =
      (.ok statement,
        ⟨workshop, (bench.cells.storeVars target.key vars).storeStatement target.key
          statement⟩) := by
  simp [serve, fill, hempty, hmake]

/-- What fails to be made is not kept. -/
theorem serve_of_failed {backend : Backend State Plan} {snapshot : Snapshot}
    {target : Target} {vars : Variables} {bench : Bench State Plan} {e : Error}
    {workshop : Workshop State}
    (hempty : (bench.cells.get target.key).statement = none)
    (hmake : makeTarget backend snapshot target vars bench.workshop =
      (.error e, workshop)) :
    serve backend snapshot target vars bench =
      (.error e, ⟨workshop, bench.cells.storeVars target.key vars⟩) := by
  simp [serve, fill, hempty, hmake]

/-- A target whose cell is empty is answered as the making of its statement goes. -/
theorem serve_of_empty {backend : Backend State Plan} {snapshot : Snapshot}
    {target : Target} {vars : Variables} {bench : Bench State Plan}
    (hempty : (bench.cells.get target.key).statement = none) :
    (serve backend snapshot target vars bench).1 =
      (makeTarget backend snapshot target vars bench.workshop).1 := by
  rcases hmade : makeTarget backend snapshot target vars bench.workshop with
    ⟨e | statement, workshop⟩
  · rw [serve_of_failed hempty hmade]
  · rw [serve_of_made hempty hmade]

/-- To serve a target keeps the variables in its cell, and the statement that is
answered where there was none. All other cells stay as they are. -/
theorem get_serve {backend : Backend State Plan} {snapshot : Snapshot}
    (target : Target) (vars : Variables) (bench : Bench State Plan)
    (key : TargetKey) :
    (serve backend snapshot target vars bench).2.cells.get key =
      if key = target.key then
        ⟨(bench.cells.get target.key).statement.or
          (serve backend snapshot target vars bench).1.toOption, some vars⟩
      else bench.cells.get key := by
  cases hcell : (bench.cells.get target.key).statement with
  | some kept =>
      rw [serve_of_filled hcell, Cells.get_storeVars, hcell, Option.some_or]
  | none =>
      rcases hmade : makeTarget backend snapshot target vars bench.workshop with
        ⟨e | statement, workshop⟩
      · rw [serve_of_failed hcell hmade, Cells.get_storeVars, hcell]
        rfl
      · rw [serve_of_made hcell hmade, Cells.get_storeStatement,
          Cells.get_storeVars, Cells.get_storeVars]
        by_cases hkey : key = target.key
        · rw [if_pos hkey, if_pos hkey, if_pos rfl]
          rfl
        · rw [if_neg hkey, if_neg hkey, if_neg hkey]

theorem get_serve_of_ne {backend : Backend State Plan} {snapshot : Snapshot}
    {target : Target} {key : TargetKey} (hne : key ≠ target.key) (vars : Variables)
    (bench : Bench State Plan) :
    (serve backend snapshot target vars bench).2.cells.get key =
      bench.cells.get key := by
  rw [get_serve, if_neg hne]

/-- All that a restricted engine does with a request: it turns it away and changes
nothing, or it serves the target that the gate admits. -/
theorem compile_restricted_cases (backend : Backend State Plan)
    {snapshot : Snapshot} {cache : QueryCache} (hgate : snapshot.gate? = some cache)
    (request : Request) (bench : Bench State Plan) :
    (∃ e, compile backend snapshot request bench = (.error e, bench)) ∨
      ∃ vars target, request.readVars = .ok vars ∧
        cache.admit snapshot.roles request vars = .ok target ∧
        compile backend snapshot request bench =
          ((serve backend snapshot target vars bench).1.map fun statement =>
            ⟨statement, vars⟩,
            (serve backend snapshot target vars bench).2) := by
  unfold compile
  cases hvars : request.readVars with
  | error e => exact Or.inl ⟨e, rfl⟩
  | ok vars =>
      cases hadmitted : cache.admit snapshot.roles request vars with
      | error e =>
          refine Or.inl ⟨e, ?_⟩
          simp [compileWith, hgate, hadmitted, Except.map]
      | ok target =>
          refine Or.inr ⟨vars, target, rfl, hadmitted, ?_⟩
          simp [compileWith, hgate, hadmitted]

end QueryGate.Engine
