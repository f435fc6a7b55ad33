import QueryGate.Proofs.Engine.Callers
import QueryGate.Proofs.Reload.Rebuilding

/-!
Callers of a service that is rebuilt meanwhile.

A caller enters with the snapshot that is active, and holds on to it until it is
answered. It holds the snapshot by its place among the published ones: what others
do with what stands there, it will see. Callers that hold the same snapshot share
its cells, and all callers share the backend. Between two moves of a caller,
rebuilders, readers and other callers may do anything. A caller that is alone does
what `compile` does (`call_alone`).
-/

namespace QueryGate.Reload

open Engine

variable {State Plan : Type}

/-- What is kept for the targets of a published snapshot, and which callers fill its
cells. -/
structure Room (Plan : Type) where
  cells : Cells Plan
  filling : TargetKey → Option Nat

/-- Where a caller is. Inside, it holds the snapshot that was published at a place,
and has come so far with it. -/
inductive Visit (Plan : Type) where
  | outside
  | inside (place : Nat) (phase : Phase Plan)

/-- A service, its rebuilders, its readers and its callers. There is a room for the
snapshot that was published at each place. -/
structure House (State Plan : Type) where
  site : Site
  workshop : Workshop State
  room : Nat → Room Plan
  visit : Nat → Visit Plan

/-- Whose turn it is. A rebuilder or a reader acts, or a caller moves. -/
inductive Turn where
  | act (act : Act)
  | call (caller : Nat)

/-- Who comes to a service, and what they find there: what every rebuilder was
called to do, what every caller asks for, the snapshot that was published first, and
the first state of the backend. -/
structure Setup (State Plan : Type) where
  backend : Backend State Plan
  errands : Nat → Errand
  requests : Nat → Request
  first : Snapshot
  state : State

namespace House

/-- The snapshot that was published at a place. -/
def held? (house : House State Plan) (place : Nat) : Option Snapshot :=
  house.site.published[place]?.map Publication.snapshot

/-- The place of the snapshot that was published last. -/
def latest (house : House State Plan) : Nat :=
  house.site.published.length - 1

/-- What the callers share that hold the snapshot at a place. -/
def floor (house : House State Plan) (place : Nat) : Floor State Plan :=
  ⟨⟨house.workshop, (house.room place).cells⟩, (house.room place).filling⟩

def setVisit (house : House State Plan) (caller : Nat) (visit : Visit Plan) :
    House State Plan :=
  { house with visit := fun other => if other = caller then visit
    else house.visit other }

def setFloor (house : House State Plan) (place : Nat) (floor : Floor State Plan) :
    House State Plan :=
  { house with
    workshop := floor.bench.workshop
    room := fun other =>
      if other = place then ⟨floor.bench.cells, floor.filling⟩
      else house.room other }

/-- A caller takes the snapshot that was published last. -/
def enter (house : House State Plan) (caller : Nat) : House State Plan :=
  house.setVisit caller (.inside house.latest .arrived)

def apply (house : House State Plan) (caller place : Nat) (move : Move State Plan) :
    House State Plan :=
  (house.setFloor place move.floor).setVisit caller (.inside place move.phase)

/-- The next move of a caller with the snapshot at a place, if there is one. -/
def move? (house : House State Plan) (backend : Backend State Plan)
    (request : Request) (caller place : Nat) (phase : Phase Plan) :
    Option (Move State Plan) :=
  (house.held? place).bind fun snapshot =>
    advance backend snapshot request caller (house.floor place) phase

/-- A caller moves, if it can. -/
def call (house : House State Plan) (backend : Backend State Plan)
    (request : Request) (caller : Nat) : House State Plan :=
  match house.visit caller with
  | .outside => house.enter caller
  | .inside place phase =>
      match house.move? backend request caller place phase with
      | some move => house.apply caller place move
      | none => house

@[simp] theorem visit_setVisit (house : House State Plan) (caller other : Nat)
    (visit : Visit Plan) :
    (house.setVisit caller visit).visit other =
      if other = caller then visit else house.visit other :=
  rfl

@[simp] theorem visit_apply (house : House State Plan) (caller place other : Nat)
    (move : Move State Plan) :
    (house.apply caller place move).visit other =
      if other = caller then .inside place move.phase else house.visit other :=
  rfl

theorem kept_apply (house : House State Plan) (caller place other : Nat)
    (move : Move State Plan) (key : TargetKey) :
    ((house.apply caller place move).floor other).kept key =
      if other = place then move.floor.kept key
      else (house.floor other).kept key := by
  unfold Floor.kept floor apply setVisit setFloor
  by_cases h : other = place <;> simp [h]

theorem floor_apply_self (house : House State Plan) (caller place : Nat)
    (move : Move State Plan) :
    (house.apply caller place move).floor place = move.floor := by
  simp [floor, apply, setVisit, setFloor]

end House

namespace Setup

variable (setup : Setup State Plan)

/-- The first snapshot was published, and nobody has done anything yet. -/
def start : House State Plan :=
  ⟨.start setup.first, ⟨setup.state, 0⟩, fun _ => ⟨.empty, fun _ => none⟩,
    fun _ => .outside⟩

def step (house : House State Plan) : Turn → House State Plan
  | .act act => { house with site := house.site.step setup.errands act }
  | .call caller => house.call setup.backend (setup.requests caller) caller

def run (house : House State Plan) (turns : List Turn) : House State Plan :=
  turns.foldl setup.step house

/-- The house after some turns. -/
def house (turns : List Turn) : House State Plan :=
  setup.run setup.start turns

theorem house_concat (turns : List Turn) (turn : Turn) :
    setup.house (turns ++ [turn]) = setup.step (setup.house turns) turn := by
  rw [house, run, List.foldl_append]
  rfl

theorem house_append (turns more : List Turn) :
    setup.house (turns ++ more) = setup.run (setup.house turns) more := by
  rw [house, run, List.foldl_append]
  rfl

variable {setup}

theorem step_of_outside {house : House State Plan} {caller : Nat}
    (hvisit : house.visit caller = .outside) :
    setup.step house (.call caller) = house.enter caller := by
  simp [step, House.call, hvisit]

/-- A caller that can move with the snapshot it holds does. -/
theorem step_of_move {house : House State Plan} {caller place : Nat}
    {phase : Phase Plan} {snapshot : Snapshot} {move : Move State Plan}
    (hvisit : house.visit caller = .inside place phase)
    (hheld : house.held? place = some snapshot)
    (hmove : advance setup.backend snapshot (setup.requests caller) caller
      (house.floor place) phase = some move) :
    setup.step house (.call caller) = house.apply caller place move := by
  simp [step, House.call, hvisit, House.move?, hheld, hmove]

theorem step_of_stuck {house : House State Plan} {caller place : Nat}
    {phase : Phase Plan} {snapshot : Snapshot}
    (hvisit : house.visit caller = .inside place phase)
    (hheld : house.held? place = some snapshot)
    (hmove : advance setup.backend snapshot (setup.requests caller) caller
      (house.floor place) phase = none) :
    setup.step house (.call caller) = house := by
  simp [step, House.call, hvisit, House.move?, hheld, hmove]

/-- All that a caller can do: nothing, or enter, or move with the snapshot it
holds. -/
theorem call_cases (setup : Setup State Plan) (house : House State Plan)
    (caller : Nat) :
    setup.step house (.call caller) = house ∨
    (house.visit caller = .outside ∧ setup.step house (.call caller) =
      house.enter caller) ∨
    (∃ place phase snapshot move, house.visit caller = .inside place phase ∧
      house.held? place = some snapshot ∧
      advance setup.backend snapshot (setup.requests caller) caller
      (house.floor place) phase =
        some move ∧
      setup.step house (.call caller) = house.apply caller place move) := by
  cases hvisit : house.visit caller with
  | outside => exact Or.inr (Or.inl ⟨rfl, step_of_outside hvisit⟩)
  | inside place phase =>
      cases hheld : house.held? place with
      | none =>
          refine Or.inl ?_
          simp [step, House.call, hvisit, House.move?, hheld]
      | some snapshot =>
          cases hmove : advance setup.backend snapshot
            (setup.requests caller) caller
              (house.floor place) phase with
          | none => exact Or.inl (step_of_stuck hvisit hheld hmove)
          | some move =>
              exact Or.inr (Or.inr ⟨place, phase, snapshot, move, rfl, hheld, hmove,
                step_of_move hvisit hheld hmove⟩)

section Alone

variable {place caller : Nat} {snapshot : Snapshot} {crowd : Crowd State Plan}
  {house : House State Plan}

/-- A caller in the house is where the same caller of a crowd is that uses the same
snapshot. -/
structure Follows (house : House State Plan) (place caller : Nat)
    (snapshot : Snapshot) (crowd : Crowd State Plan) : Prop where
  held : house.held? place = some snapshot
  floor : house.floor place = crowd.floor
  visit : house.visit caller = .inside place (crowd.phase caller)

theorem Follows.step (h : Follows house place caller snapshot crowd) :
    Follows (setup.step house (.call caller)) place caller snapshot
      (crowd.step setup.backend snapshot setup.requests caller) := by
  cases hmove : advance setup.backend snapshot (setup.requests caller) caller
    crowd.floor
      (crowd.phase caller) with
  | none =>
      rw [Crowd.step_of_stuck hmove, step_of_stuck h.visit h.held (h.floor ▸ hmove)]
      exact h
  | some move =>
      rw [Crowd.step_of_advance hmove,
        step_of_move h.visit h.held (h.floor ▸ hmove)]
      refine ⟨h.held, house.floor_apply_self caller place move, ?_⟩
      rw [House.visit_apply, if_pos rfl, Crowd.phase_apply_self]

theorem Follows.run (h : Follows house place caller snapshot crowd) (n : Nat) :
    Follows (setup.run house (List.replicate n (.call caller))) place caller
      snapshot (crowd.run setup.backend snapshot setup.requests
        (List.replicate n caller)) := by
  induction n generalizing house crowd with
  | zero => exact h
  | succ n ih => exact ih h.step

/-- A caller that is alone is answered as `compile` answers it with the active
snapshot, and leaves what `compile` leaves. -/
theorem call_alone (houtside : house.visit caller = .outside)
    (hactive : house.held? house.latest = some snapshot)
    (hidle : ∀ key, (house.room house.latest).filling key = none) :
    let bench : Bench State Plan :=
      ⟨house.workshop, (house.room house.latest).cells⟩
    let after := setup.run house (List.replicate 7 (.call caller))
    after.visit caller = .inside house.latest
        (.answered (compile setup.backend snapshot (setup.requests caller)
          bench).1) ∧
      after.floor house.latest =
        ⟨(compile setup.backend snapshot (setup.requests caller) bench).2,
          fun _ => none⟩ := by
  intro bench after
  let crowd : Crowd State Plan := ⟨house.floor house.latest, fun _ => .arrived, []⟩
  have hfollows : Follows (house.enter caller) house.latest caller snapshot crowd :=
    ⟨hactive, rfl, if_pos rfl⟩
  have hat : crowd.At caller .arrived (house.floor house.latest) := ⟨rfl, rfl⟩
  obtain ⟨floor, ⟨hphase, hfloor⟩, hbench, hfree⟩ :=
    @Crowd.At.run_alone _ _ setup.backend snapshot setup.requests crowd
      caller _ hat hidle
  have hend : Follows after house.latest caller snapshot
      (crowd.run setup.backend snapshot setup.requests
        (List.replicate 6 caller)) := by
    have hafter : after = setup.run (setup.step house (.call caller))
        (List.replicate 6 (.call caller)) := rfl
    rw [hafter, step_of_outside houtside]
    exact hfollows.run 6
  refine ⟨?_, ?_⟩
  · rw [hend.visit, hphase]
    rfl
  · rw [hend.floor, hfloor]
    obtain ⟨⟨workshop, cells⟩, filling⟩ := floor
    have hfilling : filling = fun _ => none := funext hfree
    rw [hfilling]
    exact congrArg (Floor.mk · _) hbench

end Alone

end Setup

end QueryGate.Reload
