import Mathlib.Data.List.Induction
import QueryGate.Proofs.Engine.AtMostOnce
import QueryGate.Proofs.Reload.Generations
import QueryGate.Proofs.Reload.Visits

/-!
No caller sees a mixture of snapshots.

Publication may fall between any two moves of a caller, the callers of a snapshot
share its cells, and the backend is shared by all. Still every statement that a
caller is answered with was compiled and written with the snapshot that was active
when the caller entered, and with no other: for a role of its table, against its
structure and, if it is restricted, from one of its documents. The moments at which
that happened are found in the history of the house (`When`).
-/

namespace QueryGate

namespace Engine

variable {State Plan : Type}

/-- A job is for the role of a request and, if the snapshot is restricted, for the
document that is registered in it under the name of the request. -/
structure Job.Answers (job : Job) (snapshot : Snapshot)
    (request : Request) : Prop where
  role : job.role = request.role
  unrestricted : snapshot.restricted = false → job.text = request.query
  restricted : snapshot.restricted = true → ∃ cache r, snapshot.cache = some cache ∧
    r ∈ cache.registrations ∧ r.name = request.lookupName ∧ r.role = request.role ∧
    request.complies r.entry.item = true ∧ job.text = r.entry.text

namespace Job

/-- The statement of a target answers every request that is let in for it. -/
theorem answers_ofTarget {snapshot : Snapshot} {request : Request} {target : Target}
    {vars : Variables} (h : snapshot.Admits request target vars)
    (others : Variables) : (ofTarget target others).Answers snapshot request := by
  obtain ⟨_, cache, hgate, hadmit⟩ := h
  obtain ⟨hcache, hrestricted⟩ := Snapshot.cache_of_gate? hgate
  obtain ⟨_, r, hfind, hcomplies, hresolve⟩ := QueryCache.admit_eq_ok_iff.mp hadmit
  obtain ⟨hentry, hrole⟩ := Registration.eq_of_mem_targets
    (Registration.mem_targets_of_resolve hresolve)
  obtain ⟨hname, hfor⟩ := QueryCache.isFor_of_find? hfind
  constructor
  case role => exact hrole.trans hfor
  case unrestricted =>
    intro hopen
    rw [hrestricted] at hopen
    cases hopen
  case restricted =>
    intro _
    exact ⟨cache, r, hcache, List.mem_of_find?_eq_some hfind, hname, hfor,
      hcomplies, congrArg AllowEntry.text hentry⟩

theorem answers_ofRequest {snapshot : Snapshot} (h : snapshot.gate? = none)
    (request : Request) (vars : Variables) :
    (ofRequest request vars).Answers snapshot request := by
  have hopen : snapshot.restricted = false := Snapshot.gate?_eq_none_iff.mp h
  constructor
  case role => rfl
  case unrestricted => exact fun _ => rfl
  case restricted =>
    intro hrestricted
    rw [hopen] at hrestricted
    cases hrestricted

theorem IsFor.answers {snapshot : Snapshot} {request : Request} {job : Job}
    (h : job.IsFor snapshot request) : job.Answers snapshot request := by
  cases h with
  | target hadmits => exact answers_ofTarget hadmits _
  | alone hgate => exact answers_ofRequest hgate request _

end Job

section Moves

variable {backend : Backend State Plan} {snapshot : Snapshot}

/-- What asking the backend for a plan comes to. -/
theorem phase_of_ask (backend : Backend State Plan) (snapshot : Snapshot)
    (job : Job) (workshop : Workshop State) :
    (∃ e, (ask backend snapshot job workshop).1 = .settling job (.error e)) ∨
      ∃ role plan, snapshot.roles.role? job.role = some role ∧
        (backend.compile job.text job.fed role snapshot.schema workshop.backend).1 =
          .ok plan ∧
        (ask backend snapshot job workshop).1 = .writing job role plan := by
  cases hrole : snapshot.roles.role? job.role with
  | none =>
      refine Or.inl ⟨.roleNotDefined job.role, ?_⟩
      simp [ask, Access.RoleTable.role, hrole]
  | some role =>
      rcases hcompile : backend.compile job.text job.fed role snapshot.schema
        workshop.backend with
        ⟨reason | plan, after⟩
      · refine Or.inl ⟨.compileFailed reason, ?_⟩
        simp [ask, Access.RoleTable.role, hrole, hcompile]
      · refine Or.inr ⟨role, plan, rfl, by rw [hcompile], ?_⟩
        simp [ask, Access.RoleTable.role, hrole, hcompile]

/-- A statement is written by the backend, for the role and the plan that it is
written for. -/
theorem write_eq_ok {role : Access.Role} {plan : Plan} {workshop : Workshop State}
    {statement : Statement Plan}
    (h : (write backend snapshot role plan workshop).1 = .ok statement) :
    statement.number = workshop.made ∧ statement.role = role ∧
    statement.plan = plan ∧
      (backend.generate plan snapshot.schema workshop.backend).1 =
        .ok ⟨statement.sql, statement.params⟩ := by
  unfold write at h
  rcases hgenerate : backend.generate plan snapshot.schema workshop.backend with
    ⟨reason | written, after⟩
  · simp [hgenerate] at h
  · simp only [hgenerate, Except.ok.injEq] at h
    cases h
    exact ⟨rfl, rfl, rfl, rfl⟩

/-- What a cell keeps after a move it kept before, unless the caller settles its job
with it. -/
theorem kept_of_advance {request : Request} {caller : Nat}
    {floor : Floor State Plan} {phase : Phase Plan} {move : Move State Plan}
    (hmove : advance backend snapshot request caller floor phase = some move)
    {key : TargetKey} {statement : Statement Plan}
    (hkept : move.floor.kept key = some statement) :
    floor.kept key = some statement ∨
      ∃ job, phase = .settling job (.ok statement) ∧ job.key? = some key := by
  cases phase with
  | arrived =>
      cases hmove
      exact Or.inl hkept
  | admitted target vars =>
      cases hmove
      rw [Floor.kept_storeVars] at hkept
      exact Or.inl hkept
  | waiting target vars =>
      cases hcell : floor.kept target.key with
      | some kept =>
          rw [advance_of_kept hcell] at hmove
          cases hmove
          exact Or.inl hkept
      | none =>
          cases hfilling : floor.filling target.key with
          | none =>
              rw [advance_of_free hcell hfilling] at hmove
              cases hmove
              exact Or.inl hkept
          | some holder =>
              rw [advance_of_taken hcell hfilling] at hmove
              cases hmove
  | asking job =>
      cases hmove
      exact Or.inl hkept
  | writing job role plan =>
      cases hmove
      exact Or.inl hkept
  | settling job outcome =>
      cases hmove
      change (floor.finish job outcome).kept key = some statement at hkept
      cases hkey : job.key? with
      | none =>
          simp only [Floor.finish, hkey] at hkept
          exact Or.inl hkept
      | some touched =>
          simp only [Floor.finish, hkey] at hkept
          cases outcome with
          | error e =>
              rw [Floor.kept_settle_error] at hkept
              exact Or.inl hkept
          | ok made =>
              rw [Floor.kept_settle_ok] at hkept
              by_cases hsame : key = touched
              · rw [if_pos hsame] at hkept
                cases hkept
                exact Or.inr ⟨job, rfl, hkey.trans (congrArg some hsame.symm)⟩
              · rw [if_neg hsame] at hkept
                exact Or.inl hkept
  | answered answer => cases hmove

end Moves

end Engine

namespace Reload

open Engine

variable {State Plan : Type}

namespace Site

/-- The active snapshot is the one that was published last. -/
def Current (site : Site) : Prop :=
  site.published.getLast?.map Publication.snapshot = some site.active

theorem Current.step {site : Site} (h : site.Current) (errands : Nat → Errand)
    (act : Act) : (site.step errands act).Current := by
  cases act with
  | rebuild who world =>
      rw [Site.step, rebuild]
      split
      · next stage effect hwork =>
          cases effect with
          | publishes began snapshot =>
              simp [Current, affect, publish, setStage, tick]
          | _ => exact h
      · exact h
  | look reader => exact h

end Site

namespace House

/-- A caller is about to enter, and to take the active snapshot, which is at a
place. -/
structure Enters (house : House State Plan) (caller place : Nat)
    (snapshot : Snapshot) : Prop where
  visit : house.visit caller = .outside
  place : house.latest = place
  active : house.site.active = snapshot

/-- A caller is about to have a document compiled: the backend gives it a plan for
the role that the snapshot has for the name, and for the structure of the
snapshot. -/
structure Asks (house : House State Plan) (backend : Backend State Plan)
    (caller place : Nat) (snapshot : Snapshot) (job : Job) (role : Access.Role)
    (plan : Plan) : Prop where
  visit : house.visit caller = .inside place (.asking job)
  held : house.held? place = some snapshot
  known : snapshot.roles.role? job.role = some role
  plan :
    (backend.compile job.text job.fed role snapshot.schema
      house.workshop.backend).1 = .ok plan

/-- A caller is about to have a statement written for a plan and for the structure
of the snapshot. -/
structure Writes (house : House State Plan) (backend : Backend State Plan)
    (caller place : Nat) (snapshot : Snapshot) (job : Job)
    (statement : Statement Plan) : Prop where
  visit : house.visit caller = .inside place
    (.writing job statement.role statement.plan)
  held : house.held? place = some snapshot
  number : statement.number = house.workshop.made
  written :
    (backend.generate statement.plan snapshot.schema house.workshop.backend).1 =
    .ok ⟨statement.sql, statement.params⟩

/-- What becomes of a request when it arrives with the snapshot at a place. -/
def decision (house : House State Plan) (place : Nat) (request : Request) :
    Option (Phase Plan) :=
  (house.held? place).map fun snapshot => arrive snapshot request

theorem held?_of_prefix {house later : House State Plan}
    (h : house.site.published <+: later.site.published) {place : Nat}
    {snapshot : Snapshot} (hheld : house.held? place = some snapshot) :
    later.held? place = some snapshot := by
  obtain ⟨more, hmore⟩ := h
  obtain ⟨p, hp, hsnapshot⟩ := Option.map_eq_some_iff.mp hheld
  have hplace := (List.getElem?_eq_some_iff.mp hp).1
  rw [held?, ← hmore, List.getElem?_append_left hplace, hp]
  exact congrArg some hsnapshot

theorem held?_latest {house : House State Plan} (h : house.site.Current) :
    house.held? house.latest = some house.site.active := by
  rw [held?, latest, ← List.getLast?_eq_getElem?]
  exact h

end House

namespace Setup

variable (setup : Setup State Plan)

/-- In these turns, a caller moved when the house was so. -/
def When (turns : List Turn) (caller : Nat) (P : House State Plan → Prop) : Prop :=
  ∃ before after, turns = before ++ .call caller :: after ∧ P (setup.house before)

/-- In these turns, a caller had a statement made with the snapshot at a place. -/
structure Made (turns : List Turn) (caller place : Nat) (snapshot : Snapshot)
    (job : Job) (statement : Statement Plan) : Prop where
  asked : setup.When turns caller
    (·.Asks setup.backend caller place snapshot job statement.role statement.plan)
  wrote : setup.When turns caller
    (·.Writes setup.backend caller place snapshot job statement)

/-- What is true of a caller that holds the snapshot at a place, in a phase. -/
def Phased (turns : List Turn) (caller place : Nat) (snapshot : Snapshot) :
    Phase Plan → Prop
  | .arrived => True
  | .admitted target vars => snapshot.Admits (setup.requests caller) target vars
  | .waiting target vars => snapshot.Admits (setup.requests caller) target vars
  | .asking job => job.IsFor snapshot (setup.requests caller)
  | .writing job role plan => job.IsFor snapshot (setup.requests caller) ∧
      setup.When turns caller (·.Asks setup.backend caller place snapshot job
        role plan)
  | .settling job outcome => job.IsFor snapshot (setup.requests caller) ∧
      ∀ statement, outcome = .ok statement →
        setup.Made turns caller place snapshot job statement
  | .answered answer => ∀ compiled, answer = .ok compiled → ∃ maker job,
      job.Answers snapshot (setup.requests caller) ∧
        setup.Made turns maker place snapshot job compiled.statement

/-- What a cell keeps was made for a target that the snapshot serves under its
key. -/
def Stored (turns : List Turn) (place : Nat) (snapshot : Snapshot) (key : TargetKey)
    (statement : Statement Plan) : Prop :=
  ∃ cache target vars maker, snapshot.gate? = some cache ∧ cache.Serves target ∧
    target.key = key ∧
    setup.Made turns maker place snapshot (.ofTarget target vars) statement

/-- The invariant of a house. -/
structure Sound (turns : List Turn) : Prop where
  current : (setup.house turns).site.Current
  visits : ∀ caller place phase, (setup.house turns).visit caller =
    .inside place phase →
    ∃ snapshot, (setup.house turns).held? place = some snapshot ∧
      setup.When turns caller (·.Enters caller place snapshot) ∧
      setup.Phased turns caller place snapshot phase
  stored : ∀ place key statement,
    ((setup.house turns).floor place).kept key = some statement →
      ∃ snapshot, (setup.house turns).held? place = some snapshot ∧
        setup.Stored turns place snapshot key statement

variable {setup} {turns : List Turn} {caller place : Nat} {snapshot : Snapshot}

section History

variable {P : House State Plan → Prop}

/-- What happened has happened. -/
theorem When.concat (h : setup.When turns caller P) (turn : Turn) :
    setup.When (turns ++ [turn]) caller P := by
  obtain ⟨before, after, hturns, hp⟩ := h
  exact ⟨before, after ++ [turn],
    by rw [hturns, List.append_assoc, List.cons_append], hp⟩

theorem when_now (h : P (setup.house turns)) :
    setup.When (turns ++ [.call caller]) caller P :=
  ⟨turns, [], rfl, h⟩

theorem Made.concat {job : Job} {statement : Statement Plan}
    (h : setup.Made turns caller place snapshot job statement) (turn : Turn) :
    setup.Made (turns ++ [turn]) caller place snapshot job statement :=
  ⟨h.asked.concat turn, h.wrote.concat turn⟩

theorem Phased.concat {phase : Phase Plan}
    (h : setup.Phased turns caller place snapshot phase) (turn : Turn) :
    setup.Phased (turns ++ [turn]) caller place snapshot phase := by
  cases phase with
  | writing job role plan => exact ⟨h.1, h.2.concat turn⟩
  | settling job outcome =>
      exact ⟨h.1, fun statement houtcome => (h.2 statement houtcome).concat turn⟩
  | answered answer =>
      intro compiled hanswer
      obtain ⟨maker, job, hanswers, hmade⟩ := h compiled hanswer
      exact ⟨maker, job, hanswers, hmade.concat turn⟩
  | _ => exact h

theorem Stored.concat {key : TargetKey} {statement : Statement Plan}
    (h : setup.Stored turns place snapshot key statement) (turn : Turn) :
    setup.Stored (turns ++ [turn]) place snapshot key statement := by
  obtain ⟨cache, target, vars, maker, hgate, hserves, hkey, hmade⟩ := h
  exact ⟨cache, target, vars, maker, hgate, hserves, hkey, hmade.concat turn⟩

end History

/-- What is published stays published. -/
theorem published_kept (setup : Setup State Plan) (house : House State Plan)
    (turn : Turn) :
    house.site.published <+: (setup.step house turn).site.published := by
  cases turn with
  | act act => exact house.site.published_step_kept setup.errands act
  | call caller =>
      rcases call_cases setup house caller with
        hsame | ⟨_, henter⟩ | ⟨here, phase, held, move, _, _, _, happly⟩
      · exact hsame.symm ▸ List.prefix_rfl
      · exact henter.symm ▸ List.prefix_rfl
      · exact happly.symm ▸ List.prefix_rfl

theorem published_run_kept (setup : Setup State Plan) (house : House State Plan)
    (more : List Turn) :
    house.site.published <+: (setup.run house more).site.published := by
  induction more generalizing house with
  | nil => exact List.prefix_rfl
  | cons turn rest ih => exact (setup.published_kept house turn).trans (ih _)

/-- The snapshot at a place stays there. -/
theorem held?_concat (h : (setup.house turns).held? place = some snapshot)
    (turn : Turn) :
    (setup.house (turns ++ [turn])).held? place = some snapshot := by
  rw [house_concat]
  exact House.held?_of_prefix (setup.published_kept _ turn) h

/-- What a cell of a snapshot keeps for the target of a request answers the
request. -/
theorem Stored.answered {target : Target} {vars : Variables}
    {statement : Statement Plan}
    (h : setup.Stored turns place snapshot target.key statement)
    (hadmits : snapshot.Admits (setup.requests caller) target vars) :
    setup.Phased turns caller place snapshot
      (.answered (.ok ⟨statement, vars⟩)) := by
  intro compiled hanswer
  cases hanswer
  obtain ⟨cache, owner, others, maker, hgate, hserves, hkey, hmade⟩ := h
  obtain ⟨_, gate, hcache, hadmit⟩ := id hadmits
  obtain rfl : cache = gate := Option.some.inj (hgate.symm.trans hcache)
  obtain rfl := hserves.eq_of_key_eq (QueryCache.serves_of_admit hadmit) hkey
  exact ⟨maker, .ofTarget owner others, Job.answers_ofTarget hadmits others, hmade⟩

/-- What a caller settles its job with may be kept in the cell of its target. -/
theorem stored_of_settling {job : Job} {statement : Statement Plan}
    {key : TargetKey}
    (h : setup.Phased turns caller place snapshot (.settling job (.ok statement)))
    (hkey : job.key? = some key) :
    setup.Stored turns place snapshot key statement := by
  obtain ⟨hfor, hmade⟩ := h
  cases hfor with
  | @target target vars hadmits =>
      obtain ⟨_, cache, hgate, hadmit⟩ := hadmits
      exact ⟨cache, target, vars, caller, hgate, QueryCache.serves_of_admit hadmit,
        Option.some.inj hkey, hmade statement rfl⟩
  | alone hgate => cases hkey

/-- A move takes a caller to a phase of which what has to be true is true. -/
theorem Phased.advance {phase : Phase Plan} {move : Move State Plan}
    (h : setup.Phased turns caller place snapshot phase)
    (hvisit : (setup.house turns).visit caller = .inside place phase)
    (hheld : (setup.house turns).held? place = some snapshot)
    (hstored : ∀ key statement,
      ((setup.house turns).floor place).kept key = some statement →
      setup.Stored turns place snapshot key statement)
    (hmove : Engine.advance setup.backend snapshot (setup.requests caller) caller
      ((setup.house turns).floor place) phase = some move) :
    setup.Phased (turns ++ [.call caller]) caller place snapshot move.phase := by
  cases phase with
  | arrived =>
      cases hmove
      rcases arrive_cases Plan snapshot (setup.requests caller) with
        ⟨e, harrive⟩ | ⟨vars, hgate, harrive⟩ | ⟨target, vars, hadmits, harrive⟩
      · rw [harrive]
        intro compiled hanswer
        cases hanswer
      · rw [harrive]
        exact Job.IsFor.alone hgate
      · rw [harrive]
        exact hadmits
  | admitted target vars =>
      cases hmove
      exact h
  | waiting target vars =>
      cases hkept : ((setup.house turns).floor place).kept target.key with
      | some statement =>
          -- Another caller may have filled the cell, at a time when a snapshot that
          -- came later was active; it held this one all the same.
          rw [advance_of_kept hkept] at hmove
          cases hmove
          exact ((hstored target.key statement hkept).answered h).concat _
      | none =>
          cases hfilling : ((setup.house turns).floor place).filling target.key with
          | none =>
              rw [advance_of_free hkept hfilling] at hmove
              cases hmove
              exact Job.IsFor.target h
          | some holder =>
              rw [advance_of_taken hkept hfilling] at hmove
              cases hmove
  | asking job =>
      cases hmove
      rcases phase_of_ask setup.backend snapshot job
        (setup.house turns).workshop with
        ⟨e, hask⟩ | ⟨role, plan, hrole, hplan, hask⟩
      · have hphase : setup.Phased (turns ++ [.call caller]) caller place snapshot
            (.settling job (.error e)) :=
              ⟨h, fun statement houtcome => by cases houtcome⟩
        rw [← hask] at hphase
        exact hphase
      · have hphase : setup.Phased (turns ++ [.call caller]) caller place snapshot
            (.writing job role plan) := ⟨h, when_now ⟨hvisit, hheld, hrole, hplan⟩⟩
        rw [← hask] at hphase
        exact hphase
  | writing job role plan =>
      cases hmove
      refine ⟨h.1, fun statement houtcome => ?_⟩
      obtain ⟨hnumber, rfl, rfl, hwritten⟩ := write_eq_ok houtcome
      exact ⟨h.2.concat _, when_now ⟨hvisit, hheld, hnumber, hwritten⟩⟩
  | settling job outcome =>
      cases hmove
      intro compiled hanswer
      cases outcome with
      | error e => cases hanswer
      | ok statement =>
          cases hanswer
          exact ⟨caller, job, h.1.answers, (h.2 statement rfl).concat _⟩
  | answered answer => cases hmove

namespace Sound

theorem nil : setup.Sound [] where
  current := rfl
  visits caller place phase hvisit := by cases hvisit
  stored place key statement hkept := by cases hkept

/-- A caller whom a turn leaves where it is keeps what is true of it. -/
theorem visits_concat (h : setup.Sound turns) (turn : Turn) {phase : Phase Plan}
    (hvisit : (setup.house turns).visit caller = .inside place phase) :
    ∃ snapshot, (setup.house (turns ++ [turn])).held? place = some snapshot ∧
      setup.When (turns ++ [turn]) caller (·.Enters caller place snapshot) ∧
      setup.Phased (turns ++ [turn]) caller place snapshot phase := by
  obtain ⟨snapshot, hheld, henters, hphased⟩ := h.visits caller place phase hvisit
  exact ⟨snapshot, held?_concat hheld turn, henters.concat turn,
    hphased.concat turn⟩

/-- What a cell kept before a turn has come from where it came from. -/
theorem stored_concat (h : setup.Sound turns) (turn : Turn) {key : TargetKey}
    {statement : Statement Plan}
    (hkept : ((setup.house turns).floor place).kept key = some statement) :
    ∃ snapshot, (setup.house (turns ++ [turn])).held? place = some snapshot ∧
      setup.Stored (turns ++ [turn]) place snapshot key statement := by
  obtain ⟨snapshot, hheld, hstored⟩ := h.stored place key statement hkept
  exact ⟨snapshot, held?_concat hheld turn, hstored.concat turn⟩

/-- A turn that leaves every visit and every room alone preserves the invariant. -/
theorem quiet (h : setup.Sound turns) (turn : Turn)
    (hcurrent : (setup.house (turns ++ [turn])).site.Current)
    (hvisit : (setup.house (turns ++ [turn])).visit = (setup.house turns).visit)
    (hfloor : ∀ place, (setup.house (turns ++ [turn])).floor place =
      (setup.house turns).floor place) : setup.Sound (turns ++ [turn]) := by
  constructor
  case current => exact hcurrent
  case visits =>
    intro caller place phase hinside
    rw [hvisit] at hinside
    exact h.visits_concat turn hinside
  case stored =>
    intro place key statement hkept
    rw [hfloor] at hkept
    exact h.stored_concat turn hkept

theorem enter (h : setup.Sound turns)
    (houtside : (setup.house turns).visit caller = .outside) :
    setup.Sound (turns ++ [.call caller]) := by
  have hhouse : setup.house (turns ++ [.call caller]) =
      (setup.house turns).enter caller := by
    rw [house_concat, step_of_outside houtside]
  constructor
  case current =>
    rw [hhouse]
    exact h.current
  case visits =>
    intro other place phase hinside
    rw [hhouse, House.enter, House.visit_setVisit] at hinside
    by_cases hother : other = caller
    · rw [if_pos hother] at hinside
      cases hinside
      rw [hother]
      exact ⟨_, held?_concat (House.held?_latest h.current) _,
        when_now ⟨houtside, rfl, rfl⟩, trivial⟩
    · rw [if_neg hother] at hinside
      exact h.visits_concat _ hinside
  case stored =>
    intro place key statement hkept
    rw [hhouse] at hkept
    exact h.stored_concat _ hkept

theorem apply (h : setup.Sound turns) {phase : Phase Plan} {move : Move State Plan}
    (hvisit : (setup.house turns).visit caller = .inside place phase)
    (hheld : (setup.house turns).held? place = some snapshot)
    (hmove : advance setup.backend snapshot (setup.requests caller) caller
      ((setup.house turns).floor place) phase = some move) :
    setup.Sound (turns ++ [.call caller]) := by
  have hhouse : setup.house (turns ++ [.call caller]) =
      (setup.house turns).apply caller place move := by
    rw [house_concat, step_of_move hvisit hheld hmove]
  obtain ⟨held, hsame, henters, hphased⟩ := h.visits caller place phase hvisit
  obtain rfl : held = snapshot := Option.some.inj (hsame.symm.trans hheld)
  have hstored : ∀ key statement,
      ((setup.house turns).floor place).kept key = some statement →
        setup.Stored turns place held key statement := by
    intro key statement hkept
    obtain ⟨other, hother, hstored⟩ := h.stored place key statement hkept
    rw [Option.some.inj (hheld.symm.trans hother)]
    exact hstored
  constructor
  case current =>
    rw [hhouse]
    exact h.current
  case visits =>
    intro other there next hinside
    rw [hhouse, House.visit_apply] at hinside
    by_cases hother : other = caller
    · rw [if_pos hother] at hinside
      cases hinside
      rw [hother]
      exact ⟨held, held?_concat hheld _, henters.concat _,
        hphased.advance hvisit hheld hstored hmove⟩
    · rw [if_neg hother] at hinside
      exact h.visits_concat _ hinside
  case stored =>
    intro there key statement hkept
    rw [hhouse, House.kept_apply] at hkept
    by_cases hthere : there = place
    · rw [if_pos hthere] at hkept
      rw [hthere]
      refine ⟨held, held?_concat hheld _, ?_⟩
      -- Only a caller that settles its job changes what a cell keeps.
      rcases kept_of_advance hmove hkept with hbefore | ⟨job, rfl, hkey⟩
      · exact (hstored key statement hbefore).concat _
      · exact (stored_of_settling hphased hkey).concat _
    · rw [if_neg hthere] at hkept
      exact h.stored_concat _ hkept

theorem concat (h : setup.Sound turns) (turn : Turn) :
    setup.Sound (turns ++ [turn]) := by
  cases turn with
  | act act =>
      refine h.quiet (.act act) ?_ ?_ fun place => ?_
      · rw [house_concat]
        exact h.current.step setup.errands act
      · rw [house_concat]
        rfl
      · rw [house_concat]
        rfl
  | call caller =>
      rcases call_cases setup (setup.house turns) caller with
        hsame | ⟨houtside, _⟩ | ⟨place, phase, snapshot, move, hvisit, hheld,
          hmove, _⟩
      · have hhouse : setup.house (turns ++ [.call caller]) = setup.house turns :=
          (setup.house_concat turns _).trans hsame
        exact h.quiet (.call caller) (hhouse ▸ h.current) (hhouse ▸ rfl)
          fun place => hhouse ▸ rfl
      · exact h.enter houtside
      · exact h.apply hvisit hheld hmove

end Sound

theorem sound (setup : Setup State Plan) (turns : List Turn) :
    setup.Sound turns := by
  -- On the last turn, because the invariant speaks of all that came before it.
  induction turns using List.reverseRecOn with
  | nil => exact Sound.nil
  | append_singleton turns turn ih => exact ih.concat turn

/-- A caller that has entered does not leave. -/
theorem inside_run {house : House State Plan} (h : house.visit caller ≠ .outside)
    (more : List Turn) : (setup.run house more).visit caller ≠ .outside := by
  induction more generalizing house with
  | nil => exact h
  | cons turn rest ih =>
      refine ih ?_
      cases turn with
      | act act => exact h
      | call other =>
          rcases call_cases setup house other with
            hsame | ⟨houtside, henter⟩
              | ⟨place, phase, snapshot, move, hvisit, _, _, happly⟩
          · rw [hsame]
            exact h
          · rw [henter, House.enter, House.visit_setVisit]
            by_cases hother : caller = other
            · simp [hother]
            · rw [if_neg hother]
              exact h
          · rw [happly, House.visit_apply]
            by_cases hother : caller = other
            · simp [hother]
            · rw [if_neg hother]
              exact h

/-- After a caller has entered there is no moment at which it is outside. -/
theorem inside_after {before : List Turn}
    (h : (setup.house before).visit caller = .outside) (more : List Turn) :
    (setup.house (before ++ .call caller :: more)).visit caller ≠ .outside := by
  rw [List.append_cons, house_append, house_concat, step_of_outside h]
  refine inside_run ?_ more
  simp [House.enter]

/-- A caller enters once. -/
theorem enters_once {before after before' after' : List Turn}
    (hturns : before ++ Turn.call caller :: after = before' ++
      Turn.call caller :: after')
    (h : (setup.house before).visit caller = .outside)
    (h' : (setup.house before').visit caller = .outside) : before = before' := by
  -- Of two moments at which the caller enters, neither comes after the other.
  have hnever : ∀ {first later rest rest' : List Turn},
      (setup.house first).visit caller = .outside →
      (setup.house (first ++ later)).visit caller = .outside →
      Turn.call caller :: rest = later ++ Turn.call caller :: rest' →
      later = [] := by
    intro first later rest rest' hfirst hlater hrest
    cases later with
    | nil => rfl
    | cons turn later =>
        obtain ⟨rfl, _⟩ := List.cons.inj hrest
        exact absurd hlater (inside_after hfirst later)
  rcases List.append_eq_append_iff.mp hturns with ⟨later, rfl, hrest⟩
    | ⟨later, rfl, hrest⟩
  · rw [hnever h h' hrest, List.append_nil]
  · rw [hnever h' h hrest, List.append_nil]

/-- What callers can rely on, whatever is published while they are inside. A caller
enters once, and holds the snapshot that was active then. The statement it is
answered with was made with that snapshot and with no other, for its role, and from
the document that the snapshot has for it. Whether it is let in, the snapshot that
it holds decides, as it did before about every request, whatever happened meanwhile.
-/
structure Unmixed (setup : Setup State Plan) (turns : List Turn) : Prop where
  entered : ∀ caller place phase, (setup.house turns).visit caller =
    .inside place phase →
    ∃ snapshot, (setup.house turns).held? place = some snapshot ∧
      setup.When turns caller (·.Enters caller place snapshot)
  once : ∀ caller before after before' after',
    turns = before ++ .call caller :: after →
    turns = before' ++ .call caller :: after' →
    (setup.house before).visit caller = .outside →
    (setup.house before').visit caller = .outside → before = before'
  answered : ∀ caller place compiled,
    (setup.house turns).visit caller = .inside place (.answered (.ok compiled)) →
    ∃ snapshot maker job, (setup.house turns).held? place = some snapshot ∧
      setup.When turns caller (·.Enters caller place snapshot) ∧
      job.Answers snapshot (setup.requests caller) ∧
      setup.Made turns maker place snapshot job compiled.statement
  decided : ∀ caller place, (setup.house turns).visit caller =
    .inside place .arrived →
    ∃ phase, (setup.house turns).decision place
      (setup.requests caller) = some phase ∧
      (setup.step (setup.house turns) (.call caller)).visit caller =
        .inside place phase
  same_decision : ∀ more place request,
    place < (setup.house turns).site.published.length →
    ((setup.house (turns ++ more)).decision place request : Option (Phase Plan)) =
      (setup.house turns).decision place request

/-- Whatever rebuilders publish while callers are inside, and in whatever order they
all move, every statement that a caller is answered with was made with the one
snapshot that was active when the caller entered, and that snapshot lets in whom it
let in before. -/
theorem house_unmixed (setup : Setup State Plan) (turns : List Turn) :
    setup.Unmixed turns := by
  have h := setup.sound turns
  constructor
  case entered =>
    intro caller place phase hvisit
    obtain ⟨snapshot, hheld, henters, _⟩ := h.visits caller place phase hvisit
    exact ⟨snapshot, hheld, henters⟩
  case once =>
    intro caller before after before' after' hbefore hbefore'
    exact enters_once (hbefore.symm.trans hbefore')
  case answered =>
    intro caller place compiled hvisit
    obtain ⟨snapshot, hheld, henters, hphased⟩ := h.visits caller place _ hvisit
    obtain ⟨maker, job, hanswers, hmade⟩ := hphased compiled rfl
    exact ⟨snapshot, maker, job, hheld, henters, hanswers, hmade⟩
  case decided =>
    intro caller place hvisit
    obtain ⟨snapshot, hheld, _⟩ := h.visits caller place _ hvisit
    refine ⟨arrive snapshot (setup.requests caller),
      by rw [House.decision, hheld]; rfl, ?_⟩
    rw [step_of_move hvisit hheld rfl, House.visit_apply, if_pos rfl]
  case same_decision =>
    intro more place request hplace
    have hpublished := setup.published_run_kept (setup.house turns) more
    obtain ⟨snapshot, hheld⟩ : ∃ snapshot, (setup.house turns).held? place =
      some snapshot := by
      rw [House.held?, List.getElem?_eq_getElem hplace]
      exact ⟨_, rfl⟩
    have hlater := House.held?_of_prefix hpublished hheld
    rw [house_append, House.decision, House.decision, hheld, hlater]

end Setup

namespace MidwayReload

/-- A backend whose plans are the versions of the databases they are for. -/
def backend : Backend Unit Int where
  compile _ _ _ schema state := (.ok schema.version, state)
  generate _ _ state := (.ok ⟨"", []⟩, state)

def request : Request :=
  ⟨"", "query users { users { id } }", none, "user", none⟩

def world : World :=
  ⟨.postgres, .ok ⟨⟨14, "public", "app"⟩, [], [], []⟩, .ok .default, .ok []⟩

def setup : Setup Unit Int where
  backend := backend
  errands _ := .reload
  requests _ := request
  first :=
    ⟨.default, .none, ⟨.postgres, 13, "public", "app", [], []⟩, .ofConfigs [] false,
      none, 0⟩
  state := ()

/-- A snapshot is published while one caller is inside, and before another one
enters. -/
def turns : List Turn :=
  [.call 0, .call 0] ++ List.replicate 6 (.act (.rebuild 0 world)) ++
    List.replicate 5 (.call 1) ++ List.replicate 3 (.call 0)

example : ∃ role role',
    (setup.house turns).visit 0 = .inside 0
      (.answered (.ok ⟨⟨1, role, 13, [], ""⟩, []⟩)) ∧
    (setup.house turns).visit 1 = .inside 1
      (.answered (.ok ⟨⟨0, role', 14, [], ""⟩, []⟩)) :=
  ⟨_, _, rfl, rfl⟩

end MidwayReload

end Reload

end QueryGate
