import Mathlib.Data.List.Basic
import QueryGate.Proofs.Reload.Generations
import QueryGate.Proofs.Reload.Loops

/-!
The loops and their rebuilders.

When a loop begins a round, a rebuilder is called that nobody has called before, and
the loop goes on when that one has returned. Rebuilders share the active snapshot
and the lock, and find another world each time they ask, one that may fail them.
What they have to report is written to a journal: a failure is reported once, by the
loop, at the end of the round.
-/

namespace QueryGate

open Access Engine

theorem AllowList.severity_of_mem_notices {records : List AllowRecord}
    {notice : Notice} (h : notice ∈ notices records) : notice.severity = .warn := by
  obtain ⟨record, _, hnotice⟩ := List.mem_filterMap.mp h
  unfold AllowRecord.notice? at hnotice
  split at hnotice
  · cases hnotice
    rfl
  · cases hnotice

namespace Engine

theorem severity_of_mem_replacements {rs : List Registration} {cache : QueryCache}
    {notice : Notice} (h : notice ∈ replacements cache rs) :
    notice.severity = .warn := by
  induction rs generalizing cache with
  | nil => cases h
  | cons r rest ih =>
      rw [replacements, List.mem_append] at h
      rcases h with hnow | hlater
      · rw [Option.mem_toList, Option.map_eq_some_iff] at hnow
        obtain ⟨previous, _, rfl⟩ := hnow
        rfl
      · exact ih hlater

/-- Making a snapshot reports nothing graver than a warning. -/
theorem World.severity_of_mem_notices {world : World} {notice : Notice}
    (h : notice ∈ world.notices) : notice.severity = .warn := by
  unfold World.notices at h
  split at h
  · rw [Readings.notices, List.mem_append, List.mem_append] at h
    rcases h with (hrecords | hroles) | hcache
    · exact AllowList.severity_of_mem_notices hrecords
    · exact RoleTable.severity_of_mem_notices hroles
    · split at hcache
      · rename_i roles _
        unfold Readings.cacheNotices at hcache
        split at hcache
        · cases hcache
        · exact severity_of_mem_replacements hcache
      · cases hcache
  · cases h

end Engine

namespace Reload

namespace Duty

/-- What a loop calls a rebuilder for. -/
def errand : Duty → Errand
  | .checkSchema => .checkSchema
  | .reload => .reload

/-- The rebuilder that a loop calls in a round. -/
def worker : Duty → Nat → Nat
  | .checkSchema, round => 2 * round
  | .reload, round => 2 * round + 1

/-- What a loop reports when it begins. -/
def opening : Duty → List Notice
  | .checkSchema => []
  | .reload => [.configurationChanged]

/-- What a loop reports about a failure. -/
def failure : Duty → Error → Notice
  | .checkSchema, e => .schemaCheckFailed e
  | .reload, e => .reloadFailed e

/-- The failure that a loop reports with a notice. -/
def failure? : Duty → Notice → Option Error
  | .checkSchema, .schemaCheckFailed e => some e
  | .reload, .reloadFailed e => some e
  | _, _ => none

/-- What a loop reports when a rebuilder has returned. -/
def closing (duty : Duty) : Except Error Bool → List Notice
  | .ok _ => []
  | .error e => [duty.failure e]

/-- A rebuilder is called by one loop, in one round. -/
theorem worker_inj {duty other : Duty} {round round' : Nat} :
    duty.worker round = other.worker round' ↔ duty = other ∧ round = round' := by
  cases duty <;> cases other <;> simp [worker] <;> omega

end Duty

/-- What the rebuilders of the loops are called for. -/
def errandOf (who : Nat) : Errand :=
  if who % 2 = 0 then .checkSchema else .reload

theorem errandOf_worker (duty : Duty) (round : Nat) :
    errandOf (duty.worker round) = duty.errand := by
  cases duty
  · simp [errandOf, Duty.worker, Duty.errand]
  · have hodd : (2 * round + 1) % 2 = 1 := by omega
    simp [errandOf, Duty.worker, Duty.errand, hodd]

/-- What a rebuilder reports when it moves on from a stage in a world. -/
def Stage.notices [Catalog.Hashing] (world : World) : Stage → List Notice
  | .discovering current =>
      match world.discover current.blocklist with
      | .ok found =>
          if found.sameStructure current.schema then []
          else [.schemaChanged current.schema.shownDigest found.shownDigest]
      | .error _ => []
  | .building _ _ => world.notices
  | .built _ snapshot =>
      [.published snapshot.generation snapshot.schema.shownDigest]
  | _ => []

/-- What a rebuilder has returned, if it has. -/
def Stage.outcome? : Stage → Option (Except Error Bool)
  | .returned outcome => some outcome
  | _ => none

/-- The failure that a rebuilder has returned, if it has. -/
def Stage.failure? : Stage → Option Error
  | .returned (.error e) => some e
  | _ => none

/-- The loops, the rebuilders that they call, and what was reported. -/
structure Crew where
  loops : Loops
  site : Site
  journal : List Notice

/-- What can happen to a crew. The rebuilder of a loop works on: if it asks the
outside world, it finds this one. -/
inductive Action where
  | beat (beat : Beat)
  | work (duty : Duty) (world : World)

/-- The world that is found when a rebuilder moves. -/
def Action.world? : Action → Option World
  | .beat _ => none
  | .work _ world => some world

namespace Crew

/-- How many rounds of a loop have ended. -/
def rounds (crew : Crew) (duty : Duty) : Nat :=
  Log.times (.ended duty) crew.loops.log

/-- The rebuilder of the round that is under way, or else of the next one. -/
def worker (crew : Crew) (duty : Duty) : Nat :=
  duty.worker (crew.rounds duty)

def stage (crew : Crew) (duty : Duty) : Stage :=
  crew.site.stage (crew.worker duty)

/-- What the loops report at a beat, unless the beat has to wait for a rebuilder. -/
def remarks? (crew : Crew) : Beat → Option (List Notice)
  | .begin duty => some duty.opening
  | .finish duty => (crew.stage duty).outcome?.map duty.closing
  | _ => some []

variable [Catalog.Hashing]

/-- What comes of an action, if it is possible. -/
def step (slack : Nat) (crew : Crew) : Action → Option Crew
  | .beat beat => do
      let remarks ← crew.remarks? beat
      let loops ← crew.loops.step slack beat
      return ⟨loops, crew.site, crew.journal ++ remarks⟩
  | .work duty world =>
      if crew.loops.phase duty = .acting then
        (crew.site.work duty.errand world (crew.stage duty)).map fun _ =>
          ⟨crew.loops, crew.site.rebuild duty.errand (crew.worker duty) world,
            crew.journal ++ (crew.stage duty).notices world⟩
      else none

/-- What comes of actions, if they are possible one after the other. -/
def run? (slack : Nat) (crew : Crew) : List Action → Option Crew
  | [] => some crew
  | action :: rest => (crew.step slack action).bind fun crew => crew.run? slack rest

theorem run?_append (slack : Nat) (crew : Crew) (actions rest : List Action) :
    crew.run? slack (actions ++ rest) =
      (crew.run? slack actions).bind fun crew => crew.run? slack rest := by
  induction actions generalizing crew with
  | nil => rfl
  | cons action actions ih =>
      rw [List.cons_append, run?, run?]
      cases crew.step slack action with
      | none => rfl
      | some next => exact ih next

/-- Some actions lead to a crew with a property, while rebuilders find only some
worlds. -/
def Leads (slack : Nat) (found : World → Prop) (crew : Crew)
    (P : Crew → Prop) : Prop :=
  ∃ actions later, crew.run? slack actions = some later ∧ P later ∧
    ∀ action ∈ actions, ∀ world ∈ action.world?, found world

section Leading

variable {slack : Nat} {found : World → Prop} {crew next : Crew} {P Q : Crew → Prop}

theorem leads_here (h : P crew) : crew.Leads slack found P :=
  ⟨[], crew, rfl, h, List.forall_mem_nil _⟩

theorem leads_step {action : Action} (hfound : ∀ world ∈ action.world?, found world)
    (hstep : crew.step slack action = some next) (h : next.Leads slack found P) :
    crew.Leads slack found P := by
  obtain ⟨actions, later, hrun, hlater, hactions⟩ := h
  refine ⟨action :: actions, later, ?_, hlater,
    List.forall_mem_cons.mpr ⟨hfound, hactions⟩⟩
  rw [run?, hstep]
  exact hrun

theorem leads_beat {beat : Beat} (hstep : crew.step slack (.beat beat) = some next)
    (h : next.Leads slack found P) : crew.Leads slack found P :=
  leads_step (fun _ hworld => by cases hworld) hstep h

theorem leads_work {duty : Duty} {world : World} (hfound : found world)
    (hstep : crew.step slack (.work duty world) = some next)
    (h : next.Leads slack found P) : crew.Leads slack found P :=
  leads_step (fun _ hworld => by cases hworld; exact hfound) hstep h

theorem Leads.trans (h : crew.Leads slack found P)
    (hnext : ∀ later, P later → later.Leads slack found Q) :
    crew.Leads slack found Q := by
  obtain ⟨actions, middle, hrun, hmiddle, hactions⟩ := h
  obtain ⟨rest, later, hrest, hlater, hmore⟩ := hnext middle hmiddle
  refine ⟨actions ++ rest, later, ?_, hlater,
    List.forall_mem_append.mpr ⟨hactions, hmore⟩⟩
  rw [run?_append, hrun]
  exact hrest

end Leading

section Steps

variable {slack : Nat} {crew crew' : Crew} {action : Action}

/-- All that an action can do. -/
inductive Comes (slack : Nat) (crew : Crew) : Action → Crew → Prop
  | began {duty : Duty} {loops : Loops}
      (hstep : crew.loops.step slack (.begin duty) = some loops) :
      Comes slack crew (.beat (.begin duty)) ⟨loops, crew.site,
        crew.journal ++ duty.opening⟩
  | ended {duty : Duty} {loops : Loops} {outcome : Except Error Bool}
      (hstep : crew.loops.step slack (.finish duty) = some loops)
      (hreturned : crew.stage duty = .returned outcome) :
      Comes slack crew (.beat (.finish duty))
        ⟨loops, crew.site, crew.journal ++ duty.closing outcome⟩
  | other {beat : Beat} {loops : Loops}
      (hstep : crew.loops.step slack beat = some loops)
      (hbegin : ∀ duty, beat ≠ .begin duty)
      (hfinish : ∀ duty, beat ≠ .finish duty) :
      Comes slack crew (.beat beat) ⟨loops, crew.site, crew.journal⟩
  | worked {duty : Duty} {world : World} {stage : Stage} {effect : Effect}
      (hacting : crew.loops.phase duty = .acting)
      (hwork : crew.site.work duty.errand world (crew.stage duty) =
        some (stage, effect)) :
      Comes slack crew (.work duty world)
        ⟨crew.loops, crew.site.rebuild duty.errand (crew.worker duty) world,
          crew.journal ++ (crew.stage duty).notices world⟩

theorem comes_of_step (h : crew.step slack action = some crew') :
    crew.Comes slack action crew' := by
  cases action with
  | beat beat =>
      simp only [step, Option.bind_eq_bind, Option.bind_eq_some_iff,
        Option.pure_def, Option.some.injEq] at h
      obtain ⟨remarks, hremarks, loops, hstep, rfl⟩ := h
      cases beat with
      | begin duty =>
          cases hremarks
          exact .began hstep
      | finish duty =>
          rw [remarks?, Option.map_eq_some_iff] at hremarks
          obtain ⟨outcome, houtcome, rfl⟩ := hremarks
          refine .ended hstep ?_
          cases hstage : crew.stage duty with
          | returned other =>
              rw [hstage] at houtcome
              exact congrArg Stage.returned (Option.some.inj houtcome)
          | _ =>
              rw [hstage] at houtcome
              cases houtcome
      | _ =>
          cases hremarks
          rw [List.append_nil]
          exact .other hstep nofun nofun
  | work duty world =>
      simp only [step, Option.ite_none_right_eq_some, Option.map_eq_some_iff] at h
      obtain ⟨hacting, ⟨stage, effect⟩, hwork, rfl⟩ := h
      exact .worked hacting hwork

end Steps

end Crew

namespace Site

/-- The failure of a round. -/
def failure? (site : Site) (duty : Duty) (round : Nat) : Option Error :=
  (site.stage (duty.worker round)).failure?

/-- A rebuilder that moves leaves the others where they are. -/
theorem stage_rebuild_of_ne {site : Site} {errand : Errand} {who other : Nat}
    {world : World} (hother : other ≠ who) :
    (site.rebuild errand who world).stage other = site.stage other := by
  unfold rebuild
  split
  · rename_i stage effect _
    cases effect <;> simp [setStage, tick, affect, publish, hother]
  · rfl

theorem stage_rebuild_self {site : Site} {errand : Errand} {who : Nat}
    {world : World} {stage : Stage} {effect : Effect}
    (hwork : site.work errand world (site.stage who) = some (stage, effect)) :
    (site.rebuild errand who world).stage who = stage := by
  simp [rebuild, hwork, setStage, tick]

end Site

namespace Duty

theorem failure?_of_severity {duty : Duty} {notice : Notice}
    (h : notice.severity ≠ .error) : duty.failure? notice = none := by
  cases duty <;> cases notice <;> first | rfl | exact absurd rfl h

theorem filterMap_failure? {duty : Duty} {notices : List Notice}
    (h : ∀ notice ∈ notices, notice.severity ≠ .error) :
    notices.filterMap duty.failure? = [] :=
  List.filterMap_eq_nil_iff.mpr fun notice hnotice =>
    failure?_of_severity (h notice hnotice)

theorem severity_of_mem_opening {duty : Duty} {notice : Notice}
    (h : notice ∈ duty.opening) : notice.severity ≠ .error := by
  cases duty with
  | checkSchema => cases h
  | reload =>
      rw [List.mem_singleton.mp h]
      exact nofun

/-- A loop reports the failure of its own rounds. -/
theorem filterMap_closing (duty other : Duty) (outcome : Except Error Bool) :
    (duty.closing outcome).filterMap other.failure? =
      if other = duty then (Stage.returned outcome).failure?.toList else [] := by
  cases outcome <;> cases duty <;> cases other <;> rfl

end Duty

theorem Stage.severity_of_mem_notices [Catalog.Hashing] {stage : Stage}
    {world : World} {notice : Notice} (h : notice ∈ stage.notices world) :
    notice.severity ≠ .error := by
  cases stage with
  | discovering current =>
      simp only [notices] at h
      split at h
      · split at h
        · cases h
        · rw [List.mem_singleton.mp h]
          exact nofun
      · cases h
  | building began generation =>
      rw [World.severity_of_mem_notices h]
      exact nofun
  | built began snapshot =>
      rw [List.mem_singleton.mp h]
      exact nofun
  | _ => cases h

namespace Crew

/-- What holds of a crew, whatever was done. Each failure was reported once, and
nothing else as a failure. -/
structure Tended (crew : Crew) : Prop where
  orderly : crew.site.Orderly errandOf
  returned : ∀ duty round, round < crew.rounds duty →
    ∃ outcome, crew.site.stage (duty.worker round) = .returned outcome
  uncalled : ∀ duty round, crew.rounds duty < round →
    crew.site.stage (duty.worker round) = .called
  idle : ∀ duty, crew.loops.phase duty ≠ .acting → crew.stage duty = .called
  told : ∀ duty, crew.journal.filterMap duty.failure? =
    (List.range (crew.rounds duty)).filterMap (crew.site.failure? duty)
  grave : ∀ notice ∈ crew.journal, notice.severity = .error →
    ∃ duty e, notice = Duty.failure duty e

section Tending

variable {slack : Nat} {crew crew' : Crew} {action : Action}

theorem rounds_of_step {loops : Loops} {beat : Beat}
    (hstep : crew.loops.step slack beat = some loops) (site : Site)
    (journal : List Notice) (duty : Duty) : rounds ⟨loops, site, journal⟩ duty =
      crew.rounds duty + if beat = .finish duty then 1 else 0 :=
  Loops.times_ended_of_comes (Loops.comes_of_step hstep)

theorem grave_append {notices more : List Notice}
    (h : ∀ notice ∈ notices,
      notice.severity = .error → ∃ duty e, notice = Duty.failure duty e)
    (hmore : ∀ notice ∈ more, notice.severity ≠ .error) :
    ∀ notice ∈ notices ++ more, notice.severity = .error →
      ∃ duty e, notice = Duty.failure duty e := by
  intro notice hnotice hgrave
  rcases List.mem_append.mp hnotice with hold | hnew
  · exact h notice hold hgrave
  · exact absurd hgrave (hmore notice hnew)

namespace Tended

/-- A beat that ends no round. -/
theorem beat (h : crew.Tended) {beat : Beat} {loops : Loops}
    (hstep : crew.loops.step slack beat = some loops)
    (hfinish : ∀ duty, beat ≠ .finish duty) {remarks : List Notice}
    (hremarks : ∀ notice ∈ remarks, notice.severity ≠ .error) :
    Tended ⟨loops, crew.site, crew.journal ++ remarks⟩ := by
  have hrounds : ∀ duty, rounds ⟨loops, crew.site, crew.journal ++ remarks⟩ duty =
      crew.rounds duty := by
    intro duty
    rw [rounds_of_step hstep, if_neg (hfinish duty), Nat.add_zero]
  constructor
  case orderly => exact h.orderly
  case returned =>
    intro duty round hround
    rw [hrounds] at hround
    exact h.returned duty round hround
  case uncalled =>
    intro duty round hround
    rw [hrounds] at hround
    exact h.uncalled duty round hround
  case idle =>
    intro duty hidle
    have hbefore : crew.loops.phase duty ≠ .acting := fun hacting =>
      hidle ((Loops.acting_of_comes (Loops.comes_of_step hstep)).mpr
        (Or.inr ⟨hacting, hfinish duty⟩))
    rw [stage, worker, hrounds]
    exact h.idle duty hbefore
  case told =>
    intro duty
    rw [hrounds, List.filterMap_append, Duty.filterMap_failure? hremarks,
      List.append_nil]
    exact h.told duty
  case grave => exact grave_append h.grave hremarks

/-- The end of a round. -/
theorem ended (h : crew.Tended) {duty : Duty} {loops : Loops}
    {outcome : Except Error Bool}
    (hstep : crew.loops.step slack (.finish duty) = some loops)
    (hreturned : crew.stage duty = .returned outcome) :
    Tended ⟨loops, crew.site, crew.journal ++ duty.closing outcome⟩ := by
  have hrounds : ∀ other,
    rounds ⟨loops, crew.site, crew.journal ++ duty.closing outcome⟩ other =
      crew.rounds other + if other = duty then 1 else 0 := by
    intro other
    rw [rounds_of_step hstep]
    by_cases hother : other = duty
    · simp [hother]
    · simp [hother, Ne.symm hother]
  constructor
  case orderly => exact h.orderly
  case returned =>
    intro other round hround
    rw [hrounds] at hround
    by_cases hnow : other = duty ∧ round = crew.rounds duty
    · obtain ⟨rfl, rfl⟩ := hnow
      exact ⟨outcome, hreturned⟩
    · refine h.returned other round ?_
      by_cases hother : other = duty
      · subst hother
        rw [if_pos rfl] at hround
        simp only [true_and] at hnow
        omega
      · rwa [if_neg hother, Nat.add_zero] at hround
  case uncalled =>
    intro other round hround
    rw [hrounds] at hround
    exact h.uncalled other round (Nat.lt_of_le_of_lt (Nat.le_add_right _ _) hround)
  case idle =>
    intro other hidle
    rw [stage, worker, hrounds]
    by_cases hother : other = duty
    · rw [if_pos hother]
      exact h.uncalled other _ (Nat.lt_succ_self _)
    · rw [if_neg hother, Nat.add_zero]
      refine h.idle other fun hacting => hidle ?_
      refine (Loops.acting_of_comes (Loops.comes_of_step hstep)).mpr
        (Or.inr ⟨hacting, ?_⟩)
      exact fun hsame => hother (Beat.finish.inj hsame).symm
  case told =>
    intro other
    rw [hrounds, List.filterMap_append, h.told, Duty.filterMap_closing]
    by_cases hother : other = duty
    · subst hother
      rw [if_pos rfl, if_pos rfl, List.range_succ, List.filterMap_append]
      refine congrArg (_ ++ ·) ?_
      rw [← hreturned, List.filterMap_cons]
      show (crew.site.failure? other (crew.rounds other)).toList = _
      cases crew.site.failure? other (crew.rounds other) <;> rfl
    · rw [if_neg hother, if_neg hother, List.append_nil, Nat.add_zero]
  case grave =>
    intro notice hnotice hgrave
    rcases List.mem_append.mp hnotice with hold | hnew
    · exact h.grave notice hold hgrave
    · cases outcome with
      | ok changed => cases hnew
      | error e => exact ⟨duty, e, List.mem_singleton.mp hnew⟩

end Tended

/-- A crew that has just been started. -/
structure Fresh (crew : Crew) : Prop where
  loops : crew.loops.Fresh
  orderly : crew.site.Orderly errandOf
  uncalled : ∀ who, crew.site.stage who = .called
  journal : crew.journal = []

theorem Fresh.tended (h : crew.Fresh) : crew.Tended := by
  have hrounds : ∀ duty, crew.rounds duty = 0 := fun duty => by
    rw [rounds, h.loops.log, Log.times_nil]
  constructor
  case orderly => exact h.orderly
  case returned =>
    intro duty round hround
    rw [hrounds] at hround
    exact absurd hround (Nat.not_lt_zero round)
  case uncalled => exact fun duty round _ => h.uncalled _
  case idle => exact fun duty _ => h.uncalled _
  case told =>
    intro duty
    rw [h.journal, hrounds]
    rfl
  case grave => simp [h.journal]

variable [Catalog.Hashing]

/-- A rebuilder moves. -/
theorem Tended.worked (h : crew.Tended) {duty : Duty} {world : World} {next : Stage}
    {effect : Effect} (hacting : crew.loops.phase duty = .acting)
    (hwork : crew.site.work duty.errand world (crew.stage duty) =
      some (next, effect)) :
    Tended ⟨crew.loops, crew.site.rebuild duty.errand (crew.worker duty) world,
      crew.journal ++ (crew.stage duty).notices world⟩ := by
  have hothers : ∀ other round, (other = duty → round ≠ crew.rounds duty) →
      (crew.site.rebuild duty.errand (crew.worker duty) world).stage
      (other.worker round) =
        crew.site.stage (other.worker round) := by
    intro other round hround
    refine Site.stage_rebuild_of_ne fun hsame => ?_
    obtain ⟨hother, hround'⟩ := Duty.worker_inj.mp hsame
    exact hround hother hround'
  constructor
  case orderly =>
    have hrebuilt := h.orderly.rebuild (crew.worker duty) world
    rwa [worker, errandOf_worker] at hrebuilt
  case returned =>
    intro other round hround
    obtain ⟨outcome, houtcome⟩ := h.returned other round hround
    refine ⟨outcome, ?_⟩
    rw [← houtcome]
    exact hothers other round fun hother => by
      subst hother; exact Nat.ne_of_lt hround
  case uncalled =>
    intro other round hround
    rw [← h.uncalled other round hround]
    exact hothers other round fun hother => by
      subst hother; exact Nat.ne_of_gt hround
  case idle =>
    intro other hidle
    rw [← h.idle other hidle]
    refine hothers other (crew.rounds other) fun hother => ?_
    rw [hother] at hidle
    exact absurd hacting hidle
  case told =>
    intro other
    rw [List.filterMap_append, h.told, Duty.filterMap_failure?
      (fun notice => Stage.severity_of_mem_notices), List.append_nil]
    refine List.filterMap_congr fun round hround => ?_
    rw [Site.failure?, Site.failure?, hothers other round fun hother => ?_]
    subst hother
    exact Nat.ne_of_lt (List.mem_range.mp hround)
  case grave =>
    exact grave_append h.grave fun notice => Stage.severity_of_mem_notices

theorem Tended.comes (h : crew.Tended) (hcomes : crew.Comes slack action crew') :
    crew'.Tended := by
  cases hcomes with
  | began hstep =>
      exact h.beat hstep nofun fun notice => Duty.severity_of_mem_opening
  | ended hstep hreturned => exact h.ended hstep hreturned
  | other hstep _ hfinish =>
      have hafter := h.beat hstep hfinish (List.forall_mem_nil _)
      rwa [List.append_nil] at hafter
  | worked hacting hwork => exact h.worked hacting hwork

theorem Tended.run (h : crew.Tended) {actions : List Action}
    (hrun : crew.run? slack actions = some crew') : crew'.Tended := by
  induction actions generalizing crew with
  | nil =>
      cases hrun
      exact h
  | cons action rest ih =>
      rw [run?, Option.bind_eq_some_iff] at hrun
      obtain ⟨next, hstep, hrest⟩ := hrun
      exact ih (h.comes (comes_of_step hstep)) hrest

end Tending

end Crew

/-- What an action is for the loops. -/
def Action.beat? : Action → Option Beat
  | .beat b => some b
  | .work _ _ => none

namespace Crew

variable [Catalog.Hashing] {slack : Nat} {crew crew' : Crew}

/-- What rebuilders do, and what comes of it, makes no difference to the loops. -/
theorem loops_run? {actions : List Action}
    (hrun : crew.run? slack actions = some crew') :
    crew.loops.run? slack (actions.filterMap Action.beat?) = some crew'.loops := by
  induction actions generalizing crew with
  | nil =>
      cases hrun
      rfl
  | cons action rest ih =>
      rw [run?, Option.bind_eq_some_iff] at hrun
      obtain ⟨next, hstep, hrest⟩ := hrun
      have hlater := ih hrest
      cases comes_of_step hstep with
      | worked _ _ => exact hlater
      | began hbeat | ended hbeat _ | other hbeat _ _ =>
          simp only [List.filterMap_cons, Action.beat?, Loops.run?, hbeat]
          exact hlater

/-- What can be relied on of the loops of a crew. -/
theorem Fresh.regular_run {first : Crew} (h : first.Fresh) {actions : List Action}
    (hrun : first.run? slack actions = some crew) :
    first.loops.Regular slack crew.loops :=
  (h.loops.regular slack).run (loops_run? hrun)

end Crew

end Reload

end QueryGate
