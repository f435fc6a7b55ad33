import QueryGate.Proofs.Reload.Runs

/-!
Rebuilders that work at the same time.

A rebuilder was called to reload, or to look at the schema and reload when it is
another one. It goes through stages: it looks at the database, waits for the lock,
reads the active generation, builds a snapshot, publishes it and gives the lock
back. Between two stages of one rebuilder, others may do anything, and the outside
world may be another one each time it is asked. Of the lock nothing is assumed but
that one rebuilder has it at a time. A rebuilder that is alone does what
`Service.reload` and `Service.checkSchemaThen` do (`reload_alone`,
`checkSchema_alone`).
-/

namespace QueryGate.Reload

open Catalog Engine

/-- What a rebuilder was called to do. -/
inductive Errand where
  | reload
  | checkSchema
deriving DecidableEq, Repr

/-- How far a rebuilder has come. One who is discovering has loaded the active
snapshot, and is about to look at the database. One who waits wants the lock. One
who is building has read the active generation, and its build has begun. One who has
returned has given the lock back, where it had it, and tells whether there is a new
snapshot. -/
inductive Stage where
  | called
  | discovering (current : Snapshot)
  | waiting
  | locked
  | building (began generation : Nat)
  | built (began : Nat) (snapshot : Snapshot)
  | failed (e : Error)
  | published
  | returned (outcome : Except Error Bool)

namespace Stage

/-- A rebuilder has the lock. -/
def locks : Stage → Bool
  | .locked => true
  | .building _ _ => true
  | .built _ _ => true
  | .failed _ => true
  | .published => true
  | _ => false

/-- A rebuilder has published a snapshot. -/
def hasPublished : Stage → Bool
  | .published => true
  | .returned (.ok changed) => changed
  | _ => false

end Stage

/-- What a move of a rebuilder does to what is shared. -/
inductive Effect where
  | nothing
  | acquires
  | publishes (began : Nat) (snapshot : Snapshot)
  | releases

/-- A snapshot that was published, the rebuilder that published it, unless it is the
first one, and when its build began. -/
structure Publication where
  snapshot : Snapshot
  publisher : Option Nat
  began : Nat
  time : Nat

/-- What rebuilders and readers share, where each of them is, and a record of what
happened. The holder has the lock, and the clock counts what has happened. The
snapshots that were published and the generations that a reader has seen are in
order. -/
structure Site where
  active : Snapshot
  holder : Option Nat
  stage : Nat → Stage
  clock : Nat
  published : List Publication
  seen : Nat → List Nat

/-- Somebody does something. A rebuilder moves; if it asks the outside world, it
finds this one. A reader looks at the active snapshot. -/
inductive Act where
  | rebuild (who : Nat) (world : World)
  | look (reader : Nat)

/-- Where a rebuilder begins. A look at the schema loads the active snapshot. -/
def Errand.first (active : Snapshot) : Errand → Stage
  | .reload => .waiting
  | .checkSchema => .discovering active

/-- What becomes of a look at the schema. -/
def inspect (current : Snapshot) (world : World) : Stage :=
  match world.discover current.blocklist with
  | .ok found =>
      if found.sameStructure current.schema then .returned (.ok false) else .waiting
  | .error e => .returned (.error e)

/-- What becomes of a build. -/
def build (began generation : Nat) (world : World) : Stage :=
  match world.snapshot generation with
  | .ok snapshot => .built began snapshot
  | .error e => .failed e

namespace Site

/-- A first snapshot was published, and nobody has done anything yet. -/
def start (first : Snapshot) : Site :=
  ⟨first, none, fun _ => .called, 1, [⟨first, none, 0, 0⟩], fun _ => []⟩

/-- The next move of a rebuilder. There is none once it has returned, and none while
it waits for a lock that somebody has. -/
def work (site : Site) (errand : Errand) (world : World) :
    Stage → Option (Stage × Effect)
  | .called => some (errand.first site.active, .nothing)
  | .discovering current => some (inspect current world, .nothing)
  | .waiting =>
      match site.holder with
      | none => some (.locked, .acquires)
      | some _ => none
  | .locked => some (.building site.clock (site.active.generation + 1), .nothing)
  | .building began generation => some (build began generation world, .nothing)
  | .built began snapshot => some (.published, .publishes began snapshot)
  | .failed e => some (.returned (.error e), .releases)
  | .published => some (.returned (.ok true), .releases)
  | .returned _ => none

/-- Puts a snapshot in the place of the active one. -/
def publish (site : Site) (who began : Nat) (snapshot : Snapshot) : Site :=
  { site with
    active := snapshot
    published := site.published ++ [⟨snapshot, some who, began, site.clock⟩] }

def affect (site : Site) (who : Nat) : Effect → Site
  | .nothing => site
  | .acquires => { site with holder := some who }
  | .publishes began snapshot => site.publish who began snapshot
  | .releases => { site with holder := none }

def setStage (site : Site) (who : Nat) (stage : Stage) : Site :=
  { site with stage := fun other => if other = who then stage
    else site.stage other }

def tick (site : Site) : Site :=
  { site with clock := site.clock + 1 }

/-- A rebuilder moves, if it can. -/
def rebuild (site : Site) (errand : Errand) (who : Nat) (world : World) : Site :=
  match site.work errand world (site.stage who) with
  | some (stage, effect) => ((site.affect who effect).setStage who stage).tick
  | none => site

/-- A reader looks at the active snapshot. -/
def look (site : Site) (reader : Nat) : Site :=
  { site with seen := fun other =>
      if other = reader then site.seen reader ++ [site.active.generation]
      else site.seen other }

variable (errands : Nat → Errand)

def step (site : Site) : Act → Site
  | .rebuild who world => site.rebuild (errands who) who world
  | .look reader => site.look reader

def run (site : Site) (acts : List Act) : Site :=
  acts.foldl (step errands) site

section Alone

variable {errands} {State Plan : Type} {site : Site} {who : Nat}
  {service : Service State Plan}

/-- A rebuilder is at a stage, nobody has the lock, and a snapshot is active. -/
structure Idle (site : Site) (who : Nat) (stage : Stage)
    (active : Snapshot) : Prop where
  stage : site.stage who = stage
  holder : site.holder = none
  active : site.active = active

theorem run_cons (act : Act) (acts : List Act) :
    site.run errands (act :: acts) = (site.step errands act).run errands acts :=
  rfl

/-- A move that leaves what is shared alone. -/
theorem Idle.step {stage next : Stage} {active : Snapshot}
    (h : site.Idle who stage active) {world : World}
    (hwork : site.work (errands who) world stage = some (next, .nothing)) :
    (site.step errands (.rebuild who world)).Idle who next active := by
  have hmove : site.step errands (.rebuild who world) =
      (site.setStage who next).tick := by
    rw [Site.step, rebuild, h.stage, hwork]
    rfl
  rw [hmove]
  exact ⟨if_pos rfl, h.holder, h.active⟩

/-- A rebuilder that has returned does nothing more. -/
theorem Idle.run_returned {outcome : Except Error Bool} {active : Snapshot}
    (h : site.Idle who (.returned outcome) active) (world : World) (n : Nat) :
    (site.run errands (List.replicate n (.rebuild who world))).Idle who
      (.returned outcome)
      active := by
  induction n with
  | zero => exact h
  | succ n ih =>
      have hstuck : site.step errands (.rebuild who world) = site := by
        simp [Site.step, rebuild, h.stage, work]
      rw [List.replicate_succ, run_cons, hstuck]
      exact ih

variable [Hashing]

/-- Once it waits for the lock, a rebuilder that is alone does what a reload
does. -/
theorem Idle.reload (h : site.Idle who .waiting service.active.snapshot)
    (world : World) :
    (site.run errands (List.replicate 5 (.rebuild who world))).Idle who
      (.returned ((service.reload world).1.map fun _ => true))
      (service.reload world).2.active.snapshot := by
  obtain ⟨hstage, hfree, hactive⟩ := h
  have hgeneration : site.active.generation = service.generation :=
    congrArg _ hactive
  cases hsnapshot : world.snapshot (service.generation + 1) with
  | error e =>
      rw [Service.reload_of_error hsnapshot]
      constructor
      case active =>
        simpa [run, Site.step, rebuild, work, hstage, hfree, setStage, tick,
          affect, build, hgeneration, hsnapshot, Service.report, Service.look]
            using hactive
      all_goals
        simp [run, Site.step, rebuild, work, hstage, hfree, setStage, tick,
          affect, build, hgeneration, hsnapshot, Except.map]
  | ok snapshot =>
      rw [Service.reload_of_ok hsnapshot]
      constructor
      all_goals
        simp [run, Site.step, rebuild, work, hstage, hfree, setStage, tick,
          affect, build, hgeneration, hsnapshot, Except.map, publish,
          Service.publish, Service.report, Live.fresh]

/-- A rebuilder that is called to reload and is alone does what a reload does. -/
theorem reload_alone (herrand : errands who = .reload)
    (h : site.Idle who .called service.active.snapshot) (world : World) :
    (site.run errands (List.replicate 6 (.rebuild who world))).Idle who
      (.returned ((service.reload world).1.map fun _ => true))
      (service.reload world).2.active.snapshot := by
  have hwork : site.work (errands who) world .called =
      some (.waiting, .nothing) := by
    rw [herrand]
    rfl
  rw [List.replicate_succ, run_cons]
  exact (h.step hwork).reload world

/-- A rebuilder that is called to look at the schema and is alone does what such a
look does. -/
theorem checkSchema_alone (herrand : errands who = .checkSchema)
    (h : site.Idle who .called service.active.snapshot)
    (before seen world : World) :
    (site.run errands (.rebuild who before :: .rebuild who seen ::
      List.replicate 5 (.rebuild who world))).Idle who
        (.returned (service.checkSchemaThen seen world).1)
        (service.checkSchemaThen seen world).2.active.snapshot := by
  have hload : site.work (errands who) before .called =
      some (.discovering service.active.snapshot, .nothing) := by
    rw [herrand, ← h.active]
    rfl
  have hloaded := h.step hload
  have hlook : (site.step errands (.rebuild who before)).work (errands who) seen
      (.discovering service.active.snapshot) =
        some (inspect service.active.snapshot seen, .nothing) := rfl
  have hinspected := hloaded.step hlook
  rw [run_cons, run_cons]
  cases hseen : seen.discover service.active.snapshot.blocklist with
  | error e =>
      rw [Service.checkSchemaThen_of_error hseen]
      rw [inspect, hseen] at hinspected
      exact hinspected.run_returned world 5
  | ok found =>
      rw [inspect, hseen] at hinspected
      cases hsame : found.sameStructure service.active.snapshot.schema with
      | true =>
          rw [Service.checkSchemaThen_of_same hseen hsame]
          simp only [hsame, if_true] at hinspected
          exact hinspected.run_returned world 5
      | false =>
          obtain ⟨looked, ⟨hactive, _⟩, _, hthen⟩ :=
            Service.checkSchemaThen_of_other hseen hsame world
          rw [hthen]
          simp only [hsame, Bool.false_eq_true, if_false] at hinspected
          rw [← hactive] at hinspected
          exact hinspected.reload world

end Alone

end Site

end QueryGate.Reload
