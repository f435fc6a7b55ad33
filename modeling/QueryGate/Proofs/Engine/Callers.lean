import QueryGate.Proofs.Engine.Serving

/-!
Callers that use a snapshot at the same time.

A caller goes through phases: it is let in, it keeps its variables, it waits at the
cell of its target, and it fills the cell when the cell is empty and nobody else
fills it. Between two phases of one caller, others may do anything. Of a cell
nothing is assumed but that it lets one caller fill it at a time, that it keeps a
statement, and that it keeps nothing of a failure. A caller that is alone does what
`compile` does (`run_alone`).
-/

namespace QueryGate.Engine

open Access

variable {State Plan : Type}

/-- A statement that is to be made, for the target whose cell is filled or for its
request alone. The document is compiled with the variables that are fed to it, which
are those of the request or others. -/
structure Job where
  target : Option Target
  role : String
  text : String
  fed : Variables
  vars : Variables

namespace Job

/-- The filling of the cell of a target. -/
def ofTarget (target : Target) (vars : Variables) : Job :=
  ⟨some target, target.role, target.entry.text, withOrder vars target.order, vars⟩

/-- A statement for a request alone. -/
def ofRequest (request : Request) (vars : Variables) : Job :=
  ⟨none, request.role, request.query, withOrder vars request.order, vars⟩

/-- The cell that is filled. -/
def key? (job : Job) : Option TargetKey :=
  job.target.map Target.key

end Job

/-- How far a caller has come. One who is admitted was let in by the gate, and its
variables are not kept yet. One who waits is at the cell of its target. Then it is
about to ask the backend for a plan, and to have the statement of the plan written.
One who settles knows what came of its job; the cell does not know yet. -/
inductive Phase (Plan : Type) where
  | arrived
  | admitted (target : Target) (vars : Variables)
  | waiting (target : Target) (vars : Variables)
  | asking (job : Job)
  | writing (job : Job) (role : Role) (plan : Plan)
  | settling (job : Job) (outcome : Except Error (Statement Plan))
  | answered (answer : Except Error (Compiled Plan))

namespace Phase

/-- The job that a caller is doing. -/
def job? : Phase Plan → Option Job
  | .asking job => some job
  | .writing job _ _ => some job
  | .settling job _ => some job
  | _ => none

/-- The cell that a caller is filling. -/
def fills (phase : Phase Plan) : Option TargetKey :=
  phase.job?.bind Job.key?

end Phase

/-- What callers share, and the caller that fills a cell. -/
structure Floor (State Plan : Type) where
  bench : Bench State Plan
  filling : TargetKey → Option Nat

namespace Floor

/-- The statement that a cell keeps. -/
def kept (floor : Floor State Plan) (key : TargetKey) : Option (Statement Plan) :=
  (floor.bench.cells.get key).statement

def storeVars (floor : Floor State Plan) (key : TargetKey) (vars : Variables) :
    Floor State Plan :=
  { floor with bench.cells := floor.bench.cells.storeVars key vars }

/-- Lets a caller fill a cell, or nobody. -/
def setFilling (floor : Floor State Plan) (key : TargetKey) (caller : Option Nat) :
    Floor State Plan :=
  { floor with filling := fun other => if other = key then caller
    else floor.filling other }

def setWorkshop (floor : Floor State Plan) (workshop : Workshop State) :
    Floor State Plan :=
  { floor with bench.workshop := workshop }

/-- Keeps a statement, if there is one, and lets others fill the cell again. -/
def settle (floor : Floor State Plan) (key : TargetKey)
    (outcome : Except Error (Statement Plan)) : Floor State Plan :=
  match outcome with
  | .ok statement =>
      { floor.setFilling key none with
        bench.cells := floor.bench.cells.storeStatement key statement }
  | .error _ => floor.setFilling key none

/-- What is left when a job is done. A job without a target leaves the cells
alone. -/
def finish (floor : Floor State Plan) (job : Job)
    (outcome : Except Error (Statement Plan)) : Floor State Plan :=
  match job.key? with
  | some key => floor.settle key outcome
  | none => floor

@[simp] theorem kept_storeVars (floor : Floor State Plan) (key other : TargetKey)
    (vars : Variables) : (floor.storeVars key vars).kept other = floor.kept other :=
  Cells.statement_storeVars floor.bench.cells key other vars

@[simp] theorem kept_setFilling (floor : Floor State Plan) (key other : TargetKey)
    (caller : Option Nat) :
    (floor.setFilling key caller).kept other = floor.kept other :=
  rfl

@[simp] theorem kept_settle_error (floor : Floor State Plan) (key other : TargetKey)
    (e : Error) : (floor.settle key (.error e)).kept other = floor.kept other :=
  rfl

theorem kept_settle_ok (floor : Floor State Plan) (key other : TargetKey)
    (statement : Statement Plan) :
    (floor.settle key (.ok statement)).kept other =
      if other = key then some statement else floor.kept other :=
  Cells.statement_storeStatement floor.bench.cells key other statement

theorem filling_setFilling (floor : Floor State Plan) (key other : TargetKey)
    (caller : Option Nat) :
    (floor.setFilling key caller).filling other =
      if other = key then caller else floor.filling other :=
  rfl

theorem filling_settle (floor : Floor State Plan) (key other : TargetKey)
    (outcome : Except Error (Statement Plan)) :
    (floor.settle key outcome).filling other =
      if other = key then none else floor.filling other := by
  cases outcome <;> rfl

end Floor

/-- What a caller does about a cell. The backend is asked to compile the document,
and writes the statement. -/
inductive Deed (Plan : Type) where
  | begins
  | asks
  | writes
  | keeps (statement : Statement Plan)
  | drops (e : Error)

namespace Deed

def ofOutcome : Except Error (Statement Plan) → Deed Plan
  | .ok statement => .keeps statement
  | .error e => .drops e

/-- A compilation succeeds with this deed. -/
def isKeep : Deed Plan → Bool
  | .keeps _ => true
  | _ => false

end Deed

/-- A move of a caller: where it is afterwards, and what it did about a cell. -/
structure Move (State Plan : Type) where
  phase : Phase Plan
  floor : Floor State Plan
  deed : Option (TargetKey × Deed Plan)

/-- Where a request gets to when it arrives. -/
def arrive (snapshot : Snapshot) (request : Request) : Phase Plan :=
  match request.readVars with
  | .error e => .answered (.error e)
  | .ok vars =>
      match snapshot.gate? with
      | none => .asking (.ofRequest request vars)
      | some cache =>
          match cache.admit snapshot.roles request vars with
          | .ok target => .admitted target vars
          | .error e => .answered (.error e)

/-- All that can become of a request that arrives. -/
theorem arrive_cases (Plan : Type) (snapshot : Snapshot) (request : Request) :
    (∃ e, (arrive snapshot request : Phase Plan) = .answered (.error e)) ∨
    (∃ vars, snapshot.gate? = none ∧
      (arrive snapshot request : Phase Plan) = .asking (.ofRequest request vars)) ∨
    (∃ target vars, snapshot.Admits request target vars ∧
      (arrive snapshot request : Phase Plan) = .admitted target vars) := by
  unfold arrive
  cases hvars : request.readVars with
  | error e => exact Or.inl ⟨e, rfl⟩
  | ok vars =>
      cases hgate : snapshot.gate? with
      | none => exact Or.inr (Or.inl ⟨vars, rfl, rfl⟩)
      | some cache =>
          cases hadmitted : cache.admit snapshot.roles request vars with
          | error e => exact Or.inl ⟨e, by simp only [hadmitted]⟩
          | ok target =>
              refine Or.inr (Or.inr
                ⟨target, vars, ⟨hvars, cache, hgate, hadmitted⟩, ?_⟩)
              simp only [hadmitted]

/-- Asks the backend for a plan. -/
def ask (backend : Backend State Plan) (snapshot : Snapshot) (job : Job)
    (workshop : Workshop State) : Phase Plan × Workshop State :=
  match snapshot.roles.role job.role with
  | .error e => (.settling job (.error e), workshop)
  | .ok role =>
      match backend.compile job.text job.fed role snapshot.schema
        workshop.backend with
      | (.error reason, state) =>
          (.settling job (.error (.compileFailed reason)),
            { workshop with backend := state })
      | (.ok plan, state) =>
          (.writing job role plan, { workshop with backend := state })

/-- Has the statement of a plan written. -/
def write (backend : Backend State Plan) (snapshot : Snapshot) (role : Role)
    (plan : Plan) (workshop : Workshop State) :
    Except Error (Statement Plan) × Workshop State :=
  match backend.generate plan snapshot.schema workshop.backend with
  | (.error reason, state) =>
      (.error (.compileFailed reason), { workshop with backend := state })
  | (.ok written, state) =>
      (.ok ⟨workshop.made, role, plan, written.params, written.sql⟩,
        ⟨state, workshop.made + 1⟩)

/-- Asking for a plan and having its statement written is making the statement. -/
theorem ask_cases (backend : Backend State Plan) (snapshot : Snapshot) (job : Job)
    (workshop : Workshop State) :
    (∃ e after, ask backend snapshot job workshop =
      (.settling job (.error e), after) ∧
      make backend snapshot job.role job.text job.fed workshop =
        (.error e, after)) ∨
    (∃ role plan middle, ask backend snapshot job workshop =
      (.writing job role plan, middle) ∧
      make backend snapshot job.role job.text job.fed workshop =
        write backend snapshot role plan middle) := by
  cases hrole : snapshot.roles.role? job.role with
  | none =>
      refine Or.inl ⟨.roleNotDefined job.role, workshop, ?_,
        make_of_no_role hrole _ _⟩
      simp [ask, RoleTable.role, hrole]
  | some role =>
      rw [make_of_role hrole]
      rcases makeFor_cases backend snapshot role job.text job.fed workshop with
        ⟨reason, after, hrefused⟩ | ⟨plan, middle, hplanned, hrest⟩
      · refine Or.inl ⟨.compileFailed reason, _, ?_, makeFor_of_refused hrefused⟩
        simp [ask, RoleTable.role, hrole, hrefused]
      · refine Or.inr ⟨role, plan, { workshop with backend := middle }, ?_, ?_⟩
        · simp [ask, RoleTable.role, hrole, hplanned]
        · rcases hrest with ⟨reason, after, hunwritten⟩ | ⟨written, after, hwritten⟩
          · rw [makeFor_of_unwritten hplanned hunwritten]
            simp [write, hunwritten]
          · rw [makeFor_of_written hplanned hwritten]
            simp [write, hwritten]

/-- The next move of a caller. There is none once it is answered, and none while it
waits at an empty cell that somebody else fills. -/
def advance (backend : Backend State Plan) (snapshot : Snapshot) (request : Request)
    (caller : Nat) (floor : Floor State Plan) :
    Phase Plan → Option (Move State Plan)
  | .arrived => some ⟨arrive snapshot request, floor, none⟩
  | .admitted target vars =>
      some ⟨.waiting target vars, floor.storeVars target.key vars, none⟩
  | .waiting target vars =>
      match floor.kept target.key, floor.filling target.key with
      | some statement, _ => some ⟨.answered (.ok ⟨statement, vars⟩), floor, none⟩
      | none, none =>
          some ⟨.asking (.ofTarget target vars),
            floor.setFilling target.key (some caller), some (target.key, .begins)⟩
      | none, some _ => none
  | .asking job =>
      let (phase, workshop) := ask backend snapshot job floor.bench.workshop
      some ⟨phase, floor.setWorkshop workshop, job.key?.map (·, .asks)⟩
  | .writing job role plan =>
      let (outcome, workshop) :=
        write backend snapshot role plan floor.bench.workshop
      some ⟨.settling job outcome, floor.setWorkshop workshop,
        job.key?.map (·, .writes)⟩
  | .settling job outcome =>
      some ⟨.answered (outcome.map fun statement => ⟨statement, job.vars⟩),
        floor.finish job outcome, job.key?.map (·, .ofOutcome outcome)⟩
  | .answered _ => none

section Waiting

variable {backend : Backend State Plan} {snapshot : Snapshot} {request : Request}
  {caller : Nat} {floor : Floor State Plan} {target : Target} {vars : Variables}

theorem advance_of_kept {statement : Statement Plan}
    (hkept : floor.kept target.key = some statement) :
    advance backend snapshot request caller floor (.waiting target vars) =
      some ⟨.answered (.ok ⟨statement, vars⟩), floor, none⟩ := by
  simp only [advance, hkept]

theorem advance_of_free (hkept : floor.kept target.key = none)
    (hfree : floor.filling target.key = none) :
    advance backend snapshot request caller floor (.waiting target vars) =
      some ⟨.asking (.ofTarget target vars),
        floor.setFilling target.key (some caller), some (target.key, .begins)⟩ := by
  simp only [advance, hkept, hfree]

theorem advance_of_taken {holder : Nat} (hkept : floor.kept target.key = none)
    (htaken : floor.filling target.key = some holder) :
    advance backend snapshot request caller floor
      (.waiting target vars) = none := by
  simp only [advance, hkept, htaken]

end Waiting

/-- Callers, what they share, and what was done about the cells so far, in order. -/
structure Crowd (State Plan : Type) where
  floor : Floor State Plan
  phase : Nat → Phase Plan
  log : List (TargetKey × Deed Plan)

namespace Crowd

/-- Nobody has done anything yet. -/
def start (state : State) : Crowd State Plan :=
  ⟨⟨.fresh state, fun _ => none⟩, fun _ => .arrived, []⟩

def apply (crowd : Crowd State Plan) (caller : Nat) (move : Move State Plan) :
    Crowd State Plan :=
  ⟨move.floor, fun other => if other = caller then move.phase
    else crowd.phase other,
    crowd.log ++ move.deed.toList⟩

variable (backend : Backend State Plan) (snapshot : Snapshot)
  (requests : Nat → Request)

/-- The crowd after a move of a caller, if the caller can move. -/
def step? (crowd : Crowd State Plan) (caller : Nat) : Option (Crowd State Plan) :=
  (advance backend snapshot (requests caller) caller crowd.floor
    (crowd.phase caller)).map (crowd.apply caller)

/-- A caller moves, if it can. -/
def step (crowd : Crowd State Plan) (caller : Nat) : Crowd State Plan :=
  (crowd.step? backend snapshot requests caller).getD crowd

/-- Callers move in some order. -/
def run (crowd : Crowd State Plan) (schedule : List Nat) : Crowd State Plan :=
  schedule.foldl (step backend snapshot requests) crowd

variable {backend snapshot requests}

theorem run_cons (crowd : Crowd State Plan) (caller : Nat) (rest : List Nat) :
    crowd.run backend snapshot requests (caller :: rest) =
      (crowd.step backend snapshot requests caller).run backend snapshot
        requests rest :=
  rfl

@[simp] theorem phase_apply_self (crowd : Crowd State Plan) (caller : Nat)
    (move : Move State Plan) :
    (crowd.apply caller move).phase caller = move.phase := by
  simp [apply]

theorem phase_apply_of_ne (crowd : Crowd State Plan) {caller other : Nat}
    (move : Move State Plan) (h : other ≠ caller) :
    (crowd.apply caller move).phase other = crowd.phase other := by
  simp [apply, h]

@[simp] theorem floor_apply (crowd : Crowd State Plan) (caller : Nat)
    (move : Move State Plan) : (crowd.apply caller move).floor = move.floor :=
  rfl

@[simp] theorem log_apply (crowd : Crowd State Plan) (caller : Nat)
    (move : Move State Plan) :
    (crowd.apply caller move).log = crowd.log ++ move.deed.toList :=
  rfl

theorem step_of_advance {crowd : Crowd State Plan} {caller : Nat}
    {move : Move State Plan}
    (h : advance backend snapshot (requests caller) caller crowd.floor
      (crowd.phase caller) =
      some move) :
    crowd.step backend snapshot requests caller = crowd.apply caller move := by
  simp [step, step?, h]

theorem step_of_stuck {crowd : Crowd State Plan} {caller : Nat}
    (h : advance backend snapshot (requests caller) caller crowd.floor
      (crowd.phase caller) =
      none) :
    crowd.step backend snapshot requests caller = crowd := by
  simp [step, step?, h]

/-- What holds of a crowd and is kept by every move of every caller holds after any
run. -/
theorem run_induction {P : Crowd State Plan → Prop}
    (hstep : ∀ crowd caller move, P crowd →
      advance backend snapshot (requests caller) caller crowd.floor
      (crowd.phase caller) =
        some move → P (crowd.apply caller move))
    (schedule : List Nat) {crowd : Crowd State Plan} (hcrowd : P crowd) :
    P (crowd.run backend snapshot requests schedule) := by
  induction schedule generalizing crowd with
  | nil => exact hcrowd
  | cons caller rest ih =>
      apply ih
      cases hmove : advance backend snapshot (requests caller) caller crowd.floor
          (crowd.phase caller) with
      | none =>
          rw [step_of_stuck hmove]
          exact hcrowd
      | some move =>
          rw [step_of_advance hmove]
          exact hstep crowd caller move hcrowd hmove

/-- A caller is in a phase, and this is what callers share. -/
def At (crowd : Crowd State Plan) (caller : Nat) (phase : Phase Plan)
    (floor : Floor State Plan) : Prop :=
  crowd.phase caller = phase ∧ crowd.floor = floor

namespace At

variable {crowd : Crowd State Plan} {caller : Nat} {phase : Phase Plan}
  {floor : Floor State Plan}

theorem step (h : crowd.At caller phase floor) {move : Move State Plan}
    (hmove : advance backend snapshot (requests caller) caller floor
      phase = some move) :
    (crowd.step backend snapshot requests caller).At caller move.phase
      move.floor := by
  obtain ⟨rfl, rfl⟩ := h
  rw [step_of_advance hmove]
  exact ⟨phase_apply_self crowd caller move, rfl⟩

/-- A caller that is answered does nothing more. -/
theorem run_answered {answer : Except Error (Compiled Plan)}
    (h : crowd.At caller (.answered answer) floor) (n : Nat) :
    (crowd.run backend snapshot requests (List.replicate n caller)).At caller
      (.answered answer)
      floor := by
  induction n with
  | zero => exact h
  | succ n ih =>
      have hstuck : advance backend snapshot (requests caller) caller crowd.floor
          (crowd.phase caller) = none := by
        rw [h.1]
        rfl
      rw [List.replicate_succ, run_cons, step_of_stuck hstuck]
      exact ih

/-- Three moves do a job: its statement is made as `make` makes it. -/
theorem run_job {job : Job} (h : crowd.At caller (.asking job) floor)
    {outcome : Except Error (Statement Plan)} {workshop : Workshop State}
    (hmake : make backend snapshot job.role job.text job.fed floor.bench.workshop =
      (outcome, workshop)) (n : Nat) :
    (crowd.run backend snapshot requests (List.replicate (n + 3) caller)).At caller
      (.answered (outcome.map fun statement => ⟨statement, job.vars⟩))
      ((floor.setWorkshop workshop).finish job outcome) := by
  simp only [List.replicate_succ, run_cons]
  rcases ask_cases backend snapshot job floor.bench.workshop with
    ⟨e, after, hask, hfailed⟩ | ⟨role, plan, middle, hask, hwrite⟩
  · have hmove : advance backend snapshot (requests caller) caller floor
      (.asking job) =
        some ⟨.settling job (.error e), floor.setWorkshop after,
          job.key?.map (·, .asks)⟩ := by
      simp [advance, hask]
    obtain ⟨rfl, rfl⟩ := Prod.mk.inj (hfailed.symm.trans hmake)
    exact ((h.step hmove).step rfl).run_answered (n + 1)
  · have hmove : advance backend snapshot (requests caller) caller floor
      (.asking job) =
        some ⟨.writing job role plan, floor.setWorkshop middle,
          job.key?.map (·, .asks)⟩ := by
      simp [advance, hask]
    have hwrote : advance backend snapshot (requests caller) caller
      (floor.setWorkshop middle)
        (.writing job role plan) =
          some ⟨.settling job outcome, floor.setWorkshop workshop,
            job.key?.map (·, .writes)⟩ := by
      have hsame : write backend snapshot role plan
        (floor.setWorkshop middle).bench.workshop =
          (outcome, workshop) := hwrite.symm.trans hmake
      simp only [advance, hsame]
      rfl
    exact (((h.step hmove).step hwrote).step rfl).run_answered n

/-- At a cell that nobody fills, a caller that is alone is served as `serve` serves
it. -/
theorem run_admitted {target : Target} {vars : Variables}
    (h : crowd.At caller (.admitted target vars) floor)
    (hidle : ∀ key, floor.filling key = none) :
    ∃ after : Floor State Plan,
      (crowd.run backend snapshot requests (List.replicate 5 caller)).At caller
        (.answered ((serve backend snapshot target vars floor.bench).1.map
          fun statement => ⟨statement, vars⟩)) after ∧
      after.bench = (serve backend snapshot target vars floor.bench).2 ∧
      ∀ key, after.filling key = none := by
  have hwaiting : (crowd.step backend snapshot requests caller).At caller
    (.waiting target vars)
      (floor.storeVars target.key vars) := h.step rfl
  have hsame := Floor.kept_storeVars floor target.key target.key vars
  rw [List.replicate_succ, run_cons, List.replicate_succ, run_cons]
  cases hkept : floor.kept target.key with
  | some statement =>
      have hmove : advance backend snapshot (requests caller) caller
          (floor.storeVars target.key vars) (.waiting target vars) = some _ :=
        advance_of_kept (hsame.trans hkept)
      rw [serve_of_filled hkept]
      exact ⟨_, (hwaiting.step hmove).run_answered 3, rfl, hidle⟩
  | none =>
      have hmove : advance backend snapshot (requests caller) caller
          (floor.storeVars target.key vars) (.waiting target vars) = some _ :=
        advance_of_free (hsame.trans hkept) (hidle target.key)
      have hfree : ∀ key, (if key = target.key then none else
          if key = target.key then some caller else floor.filling key) = none := by
        intro key
        by_cases hkey : key = target.key
        · rw [if_pos hkey]
        · rw [if_neg hkey, if_neg hkey]
          exact hidle key
      rcases hmake : makeTarget backend snapshot target vars
        floor.bench.workshop with
        ⟨e | statement, workshop⟩
      · rw [serve_of_failed hkept hmake]
        exact ⟨_, (hwaiting.step hmove).run_job hmake 0, rfl, hfree⟩
      · rw [serve_of_made hkept hmake]
        exact ⟨_, (hwaiting.step hmove).run_job hmake 0, rfl, hfree⟩

/-- A caller that is alone is answered as `compile` answers it, and leaves what
`compile` leaves. -/
theorem run_alone (h : crowd.At caller .arrived floor)
    (hidle : ∀ key, floor.filling key = none) :
    ∃ after : Floor State Plan,
      (crowd.run backend snapshot requests (List.replicate 6 caller)).At caller
        (.answered (compile backend snapshot (requests caller) floor.bench).1)
        after ∧
      after.bench = (compile backend snapshot (requests caller) floor.bench).2 ∧
      ∀ key, after.filling key = none := by
  have hmove : advance backend snapshot (requests caller) caller floor .arrived =
      some ⟨arrive snapshot (requests caller), floor, none⟩ := rfl
  have harrived := h.step hmove
  rw [List.replicate_succ, run_cons]
  unfold compile
  unfold arrive at harrived
  cases hvars : (requests caller).readVars with
  | error e =>
      simp only [hvars] at harrived
      exact ⟨floor, harrived.run_answered 5, rfl, hidle⟩
  | ok vars =>
      cases hgate : snapshot.gate? with
      | none =>
          simp only [hvars, hgate] at harrived
          simp only [compileWith, hgate, compileFresh]
          exact ⟨_, harrived.run_job rfl 2, rfl, hidle⟩
      | some cache =>
          simp only [compileWith, hgate]
          cases hadmitted : cache.admit snapshot.roles (requests caller) vars with
          | error e =>
              simp only [hvars, hgate, hadmitted] at harrived
              exact ⟨floor, harrived.run_answered 5, rfl, hidle⟩
          | ok target =>
              simp only [hvars, hgate, hadmitted] at harrived
              exact harrived.run_admitted hidle

end At

end Crowd

end QueryGate.Engine
