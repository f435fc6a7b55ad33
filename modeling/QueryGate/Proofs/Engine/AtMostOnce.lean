import Mathlib.Logic.Basic
import QueryGate.Proofs.Engine.Holding

/-!
A statement is made at most once for each cell.

Whatever callers do at the same time, a cell is filled by one of them at a time, and
by nobody once it keeps a statement. So all that are answered for a target are
answered with one statement.
-/

namespace QueryGate.Engine

variable {State Plan : Type}

/-- A job is for a request: for its target, or for itself when every request is let
in. -/
inductive Job.IsFor (snapshot : Snapshot) (request : Request) : Job → Prop
  | target {target : Target} {vars : Variables}
      (h : snapshot.Admits request target vars) :
      IsFor snapshot request (.ofTarget target vars)
  | alone {vars : Variables} (h : snapshot.gate? = none) :
      IsFor snapshot request (.ofRequest request vars)

/-- What is true of a caller in a phase. -/
def Phase.IsFor (snapshot : Snapshot) (request : Request)
    (floor : Floor State Plan) :
    Phase Plan → Prop
  | .arrived => True
  | .admitted target vars => snapshot.Admits request target vars
  | .waiting target vars => snapshot.Admits request target vars
  | .asking job => job.IsFor snapshot request
  | .writing job _ _ => job.IsFor snapshot request
  | .settling job _ => job.IsFor snapshot request
  | .answered answer => ∀ compiled target vars, answer = .ok compiled →
      snapshot.Admits request target vars →
      floor.kept target.key = some compiled.statement

namespace Phase.IsFor

variable {snapshot : Snapshot} {request : Request} {floor after : Floor State Plan}

/-- Cells that keep what they keep take no answer back. -/
theorem mono {phase : Phase Plan} (h : phase.IsFor snapshot request floor)
    (hkept : ∀ key statement, floor.kept key = some statement →
      after.kept key = some statement) : phase.IsFor snapshot request after := by
  cases phase with
  | arrived => trivial
  | admitted target vars => exact h
  | waiting target vars => exact h
  | asking job => exact h
  | writing job role plan => exact h
  | settling job outcome => exact h
  | answered answer =>
      intro compiled target vars hanswer hadmits
      exact hkept target.key compiled.statement
        (h compiled target vars hanswer hadmits)

theorem job {phase : Phase Plan} (h : phase.IsFor snapshot request floor)
    {job : Job} (hjob : phase.job? = some job) : job.IsFor snapshot request := by
  cases phase with
  | asking doing =>
      cases hjob
      exact h
  | writing doing role plan =>
      cases hjob
      exact h
  | settling doing outcome =>
      cases hjob
      exact h
  | _ => cases hjob

theorem of_settling {job : Job} {outcome : Except Error (Statement Plan)}
    (h : job.IsFor snapshot request) :
    (Phase.answered (outcome.map fun statement => ⟨statement, job.vars⟩)).IsFor
      snapshot request (floor.finish job outcome) := by
  intro compiled target vars hanswer hadmits
  cases outcome with
  | error e => cases hanswer
  | ok statement =>
      cases hanswer
      cases h with
      | target hjob =>
          obtain rfl := hjob.eq hadmits
          exact (Floor.kept_settle_ok floor _ _ statement).trans (if_pos rfl)
      | alone hgate =>
          obtain ⟨_, cache, hcache, _⟩ := hadmits
          rw [hgate] at hcache
          cases hcache

theorem advance {backend : Backend State Plan} {caller : Nat} {phase : Phase Plan}
    {move : Move State Plan} (h : phase.IsFor snapshot request floor)
    (hmove : Engine.advance backend snapshot request caller floor
      phase = some move) :
    move.phase.IsFor snapshot request move.floor := by
  cases phase with
  | arrived =>
      cases hmove
      show (arrive snapshot request : Phase Plan).IsFor snapshot request floor
      rcases arrive_cases Plan snapshot request with
        ⟨e, harrive⟩ | ⟨vars, hgate, harrive⟩ | ⟨target, vars, hadmits, harrive⟩
      · rw [harrive]
        intro compiled target vars hanswer
        cases hanswer
      · rw [harrive]
        exact Job.IsFor.alone hgate
      · rw [harrive]
        exact hadmits
  | admitted target vars =>
      cases hmove
      exact h
  | waiting target vars =>
      cases hkept : floor.kept target.key with
      | some statement =>
          rw [advance_of_kept hkept] at hmove
          cases hmove
          intro compiled other otherVars hanswer hadmits
          cases hanswer
          obtain rfl := Snapshot.Admits.eq h hadmits
          exact hkept
      | none =>
          cases hfilling : floor.filling target.key with
          | none =>
              rw [advance_of_free hkept hfilling] at hmove
              cases hmove
              exact Job.IsFor.target h
          | some holder =>
              rw [advance_of_taken hkept hfilling] at hmove
              cases hmove
  | asking job =>
      cases hmove
      show (ask backend snapshot job floor.bench.workshop).1.IsFor
        snapshot request _
      rcases ask_cases backend snapshot job floor.bench.workshop with
        ⟨e, middle, hask, _⟩ | ⟨role, plan, middle, hask, _⟩
      · rw [hask]
        exact h
      · rw [hask]
        exact h
  | writing job role plan =>
      cases hmove
      exact h
  | settling job outcome =>
      cases hmove
      exact of_settling h
  | answered answer => cases hmove

end Phase.IsFor

/-- In a restricted engine every job fills a cell. -/
theorem Job.IsFor.exists_key {snapshot : Snapshot} {request : Request} {job : Job}
    (h : job.IsFor snapshot request) {cache : QueryCache}
    (hgate : snapshot.gate? = some cache) : ∃ key, job.key? = some key := by
  cases h with
  | target hadmits => exact ⟨_, rfl⟩
  | alone hnone =>
      rw [hgate] at hnone
      cases hnone

/-- The backend is called by those who do a job, and by nobody else. -/
theorem workshop_of_advance {backend : Backend State Plan} {snapshot : Snapshot}
    {request : Request} {caller : Nat} {floor : Floor State Plan}
    {phase : Phase Plan} {move : Move State Plan}
    (h : advance backend snapshot request caller floor phase = some move) :
    move.floor.bench.workshop = floor.bench.workshop ∨
      ∃ job deed, phase.job? = some job ∧ move.deed = job.key?.map (·, deed) := by
  cases phase with
  | arrived =>
      cases h
      exact Or.inl rfl
  | admitted target vars =>
      cases h
      exact Or.inl rfl
  | waiting target vars =>
      cases hkept : floor.kept target.key with
      | some statement =>
          rw [advance_of_kept hkept] at h
          cases h
          exact Or.inl rfl
      | none =>
          cases hfilling : floor.filling target.key with
          | none =>
              rw [advance_of_free hkept hfilling] at h
              cases h
              exact Or.inl rfl
          | some holder =>
              rw [advance_of_taken hkept hfilling] at h
              cases h
  | asking job =>
      cases h
      exact Or.inr ⟨job, .asks, rfl, rfl⟩
  | writing job role plan =>
      cases h
      exact Or.inr ⟨job, .writes, rfl, rfl⟩
  | settling job outcome =>
      cases h
      exact Or.inr ⟨job, .ofOutcome outcome, rfl, rfl⟩
  | answered answer => cases h

namespace Crowd

/-- The invariant of callers that use a snapshot at the same time. -/
structure Orderly (snapshot : Snapshot) (requests : Nat → Request)
    (crowd : Crowd State Plan) : Prop extends Held crowd where
  isFor : ∀ caller, (crowd.phase caller).IsFor snapshot (requests caller)
    crowd.floor

variable {backend : Backend State Plan} {snapshot : Snapshot}
  {requests : Nat → Request}

theorem orderly_start (state : State) :
    (start state : Crowd State Plan).Orderly snapshot requests where
  filling key caller := by
    constructor
    · intro h
      cases h
    · intro h
      cases h
  empty key caller h := by cases h
  accounts key deed hdeed := by cases hdeed
  isFor caller := trivial

theorem Orderly.apply {crowd : Crowd State Plan} {caller : Nat}
    {move : Move State Plan} (h : crowd.Orderly snapshot requests)
    (hmove : advance backend snapshot (requests caller) caller crowd.floor
      (crowd.phase caller) =
      some move) : (crowd.apply caller move).Orderly snapshot requests := by
  have htouch := touches_of_advance hmove
  refine ⟨h.toHeld.apply htouch, fun other => ?_⟩
  by_cases hother : other = caller
  · rw [hother, phase_apply_self]
    exact (h.isFor caller).advance hmove
  · rw [phase_apply_of_ne crowd move hother]
    exact (h.isFor other).mono fun _ _ hkept => h.toHeld.kept_apply htouch hkept

theorem orderly_run (state : State) (schedule : List Nat) :
    ((start state : Crowd State Plan).run backend snapshot requests
      schedule).Orderly snapshot requests :=
  run_induction (P := fun crowd => crowd.Orderly snapshot requests)
    (fun _ _ _ h hmove => h.apply hmove) schedule (orderly_start state)

/-- A caller can move. -/
def Moves (backend : Backend State Plan) (snapshot : Snapshot)
    (requests : Nat → Request) (crowd : Crowd State Plan) (caller : Nat) : Prop :=
  (crowd.step? backend snapshot requests caller).isSome = true

/-- A caller cannot move once it is answered, and while it waits at an empty cell
that somebody fills. -/
theorem not_moves_iff {crowd : Crowd State Plan} {caller : Nat} :
    ¬ crowd.Moves backend snapshot requests caller ↔
      (∃ answer, crowd.phase caller = .answered answer) ∨
      ∃ target vars holder, crowd.phase caller = .waiting target vars ∧
        crowd.floor.kept target.key = none ∧ crowd.floor.filling target.key =
          some holder := by
  unfold Moves step?
  rw [Option.isSome_map]
  cases hphase : crowd.phase caller with
  | waiting target vars =>
      cases hkept : crowd.floor.kept target.key with
      | some statement =>
          rw [advance_of_kept hkept]
          constructor
          · intro h
            exact absurd rfl h
          · rintro (⟨answer, hanswer⟩ | ⟨other, _, holder, hwait, hempty, _⟩)
            · cases hanswer
            · cases hwait
              rw [hkept] at hempty
              cases hempty
      | none =>
          cases hfilling : crowd.floor.filling target.key with
          | none =>
              rw [advance_of_free hkept hfilling]
              constructor
              · intro h
                exact absurd rfl h
              · rintro (⟨answer, hanswer⟩ | ⟨other, _, holder, hwait, _, hheld⟩)
                · cases hanswer
                · cases hwait
                  rw [hfilling] at hheld
                  cases hheld
          | some holder =>
              rw [advance_of_taken hkept hfilling]
              constructor
              · intro _
                exact Or.inr ⟨target, vars, holder, rfl, hkept, hfilling⟩
              · intro _ h
                cases h
  | answered answer =>
      constructor
      · intro _
        exact Or.inl ⟨answer, rfl⟩
      · intro _ h
        cases h
  | _ => simp [advance]

theorem moves_of_fills {crowd : Crowd State Plan} {caller : Nat} {key : TargetKey}
    (h : (crowd.phase caller).fills = some key) :
    crowd.Moves backend snapshot requests caller := by
  refine not_not.mp fun hstuck => ?_
  rcases not_moves_iff.mp hstuck with ⟨answer, hphase⟩
    | ⟨target, vars, holder, hphase, _⟩
  · rw [hphase] at h
    cases h
  · rw [hphase] at h
    cases h

/-- What callers that use a snapshot at the same time can rely on. A cell is filled
by one caller at a time, and with success at most once. After that nothing is done
about the cell, the backend is not called for it, and nobody fills it. A restricted
engine calls its backend for nothing but cells that are being filled, and what was
done about a cell is a record of all these calls. What callers are answered with is
the one statement that the cell of their target was filled with. A failure leaves
the cell empty, and open to everyone, and a caller at an empty cell that nobody
fills makes the statement anew. Nobody has to wait but for a caller that fills the
cell of its own target, and that caller can move. Filling a cell neither stops nor
starts a caller of another cell. -/
structure AtMostOnce (backend : Backend State Plan) (snapshot : Snapshot)
    (requests : Nat → Request) (crowd : Crowd State Plan) : Prop where
  one_fills : ∀ key first second, (crowd.phase first).fills = some key →
    (crowd.phase second).fills = some key → first = second
  one_keeps : ∀ key, ((crowd.deeds key).filter Deed.isKeep).length ≤ 1
  kept_for_ever : ∀ key statement before after,
    crowd.deeds key = before ++ .keeps statement :: after →
      after = [] ∧ ∀ caller, (crowd.phase caller).fills ≠ some key
  calls_recorded : ∀ cache caller, snapshot.gate? = some cache →
    (crowd.step backend snapshot requests caller).floor.bench.workshop ≠
      crowd.floor.bench.workshop →
      ∃ key deed, (crowd.phase caller).fills = some key ∧
        (crowd.step backend snapshot requests caller).deeds key =
          crowd.deeds key ++ [deed]
  answer_kept : ∀ caller target vars compiled,
    snapshot.Admits (requests caller) target vars →
    crowd.phase caller = .answered (.ok compiled) →
      .keeps compiled.statement ∈ crowd.deeds target.key
  one_answer : ∀ first second target other left right answer answer',
    snapshot.Admits (requests first) target left →
    snapshot.Admits (requests second) other right →
    target.key = other.key → crowd.phase first = .answered (.ok answer) →
    crowd.phase second = .answered (.ok answer') →
    answer.statement = answer'.statement
  failure_leaves_empty : ∀ caller job e key,
    crowd.phase caller = .settling job (.error e) →
    job.key? = some key →
      (crowd.step backend snapshot requests caller).floor.kept key = none ∧
      ∀ other,
        ((crowd.step backend snapshot requests caller).phase other).fills ≠ some key
  empty_refilled : ∀ caller target vars, crowd.phase caller = .waiting target vars →
    crowd.floor.kept target.key = none →
    (∀ other, (crowd.phase other).fills ≠ some target.key) →
      (crowd.step backend snapshot requests caller).phase caller =
        .asking (.ofTarget target vars)
  waits_for_own_cell : ∀ caller, ¬ crowd.Moves backend snapshot requests caller →
    (∃ answer, crowd.phase caller = .answered answer) ∨
    ∃ target vars holder, crowd.phase caller = .waiting target vars ∧
      (crowd.phase holder).fills = some target.key ∧
      crowd.Moves backend snapshot requests holder
  others_unaffected : ∀ holder caller key, (crowd.phase holder).fills = some key →
    holder ≠ caller →
    (∀ target vars, crowd.phase caller = .waiting target vars → target.key ≠ key) →
      ((crowd.step backend snapshot requests holder).Moves
          backend snapshot requests caller ↔
        crowd.Moves backend snapshot requests caller)

namespace Orderly

variable {crowd : Crowd State Plan}

theorem keeps_mem (h : crowd.Orderly snapshot requests) {key : TargetKey}
    {statement : Statement Plan} (hkept : crowd.floor.kept key = some statement) :
    .keeps statement ∈ crowd.deeds key := by
  have haccounts := h.accounts key
  rw [hkept] at haccounts
  obtain ⟨before, hdeeds, _⟩ := haccounts
  rw [hdeeds]
  exact List.mem_append_right before (List.mem_singleton_self _)

theorem length_filter_isKeep_le (h : crowd.Orderly snapshot requests)
    (key : TargetKey) : ((crowd.deeds key).filter Deed.isKeep).length ≤ 1 := by
  have haccounts := h.accounts key
  cases hkept : crowd.floor.kept key with
  | none =>
      rw [hkept] at haccounts
      have hnone : (crowd.deeds key).filter Deed.isKeep = [] :=
        List.filter_eq_nil_iff.mpr fun deed hdeed =>
          Bool.eq_false_iff.mp (haccounts deed hdeed)
      rw [hnone]
      exact Nat.zero_le 1
  | some statement =>
      rw [hkept] at haccounts
      obtain ⟨before, hdeeds, hwork⟩ := haccounts
      have hnone : before.filter Deed.isKeep = [] :=
        List.filter_eq_nil_iff.mpr fun deed hdeed =>
          Bool.eq_false_iff.mp (hwork deed hdeed)
      rw [hdeeds, List.filter_append, hnone]
      exact Nat.le_refl 1

/-- A success is the last that is done about a cell, and what is kept. -/
theorem of_keeps (h : crowd.Orderly snapshot requests) {key : TargetKey}
    {statement : Statement Plan} {before after : List (Deed Plan)}
    (hdeeds : crowd.deeds key = before ++ .keeps statement :: after) :
    after = [] ∧ crowd.floor.kept key = some statement := by
  have haccounts := h.accounts key
  have hmem : Deed.keeps statement ∈ crowd.deeds key := by
    rw [hdeeds]
    exact List.mem_append_right before List.mem_cons_self
  cases hkept : crowd.floor.kept key with
  | none =>
      rw [hkept] at haccounts
      cases haccounts _ hmem
  | some kept =>
      rw [hkept] at haccounts
      obtain ⟨first, hfirst, hwork⟩ := haccounts
      rw [hfirst] at hdeeds
      rcases List.eq_nil_or_concat after with rfl | ⟨rest, last, rfl⟩
      · obtain ⟨_, hlast⟩ := List.append_singleton_inj.mp hdeeds
        cases hlast
        exact ⟨rfl, rfl⟩
      · rw [List.concat_eq_append, ← List.cons_append,
          ← List.append_assoc] at hdeeds
        obtain ⟨rfl, _⟩ := List.append_singleton_inj.mp hdeeds
        cases hwork _ (List.mem_append_right before List.mem_cons_self)

theorem kept_for_ever (h : crowd.Orderly snapshot requests) {key : TargetKey}
    {statement : Statement Plan} {before after : List (Deed Plan)}
    (hdeeds : crowd.deeds key = before ++ .keeps statement :: after) :
    after = [] ∧ ∀ caller, (crowd.phase caller).fills ≠ some key := by
  obtain ⟨hlast, hkept⟩ := h.of_keeps hdeeds
  refine ⟨hlast, fun caller hfills => ?_⟩
  rw [h.empty_of_fills hfills] at hkept
  cases hkept

theorem kept_of_answered (h : crowd.Orderly snapshot requests) {caller : Nat}
    {target : Target} {vars : Variables} {compiled : Compiled Plan}
    (hadmits : snapshot.Admits (requests caller) target vars)
    (hanswer : crowd.phase caller = .answered (.ok compiled)) :
    crowd.floor.kept target.key = some compiled.statement := by
  have hfor := h.isFor caller
  rw [hanswer] at hfor
  exact hfor compiled target vars rfl hadmits

theorem calls_recorded (h : crowd.Orderly snapshot requests) {cache : QueryCache}
    {caller : Nat} (hgate : snapshot.gate? = some cache)
    (hcalled : (crowd.step backend snapshot requests caller).floor.bench.workshop ≠
      crowd.floor.bench.workshop) :
    ∃ key deed, (crowd.phase caller).fills = some key ∧
      (crowd.step backend snapshot requests caller).deeds key =
        crowd.deeds key ++ [deed] := by
  cases hmove : advance backend snapshot (requests caller) caller crowd.floor
      (crowd.phase caller) with
  | none =>
      rw [step_of_stuck hmove] at hcalled
      exact absurd rfl hcalled
  | some move =>
      rw [step_of_advance hmove] at hcalled ⊢
      rcases workshop_of_advance hmove with hsame | ⟨job, deed, hjob, hdeed⟩
      · exact absurd hsame hcalled
      · obtain ⟨key, hkey⟩ := ((h.isFor caller).job hjob).exists_key hgate
        rw [hkey, Option.map_some] at hdeed
        refine ⟨key, deed, ?_, ?_⟩
        · rw [Phase.fills, hjob, Option.bind_some, hkey]
        · rw [deeds_apply_of_some crowd caller hdeed, if_pos rfl]

/-- A failure is forgotten. -/
theorem failure_leaves_empty (h : crowd.Orderly snapshot requests) {caller : Nat}
    {job : Job} {e : Error} {key : TargetKey}
    (hphase : crowd.phase caller = .settling job (.error e))
    (hkey : job.key? = some key) :
    (crowd.step backend snapshot requests caller).floor.kept key = none ∧
      ∀ other, ((crowd.step backend snapshot requests caller).phase other).fills ≠
        some key := by
  have hfills : (crowd.phase caller).fills = some key := by
    rw [hphase]
    exact hkey
  have hmove : advance backend snapshot (requests caller) caller crowd.floor
    (crowd.phase caller) =
      some ⟨.answered (.error e), crowd.floor.settle key (.error e),
        some (key, .drops e)⟩ := by
    rw [hphase]
    simp [advance, Floor.finish, hkey, Except.map, Deed.ofOutcome]
  rw [step_of_advance hmove]
  refine ⟨h.empty_of_fills hfills, fun other => ?_⟩
  rw [fills_apply]
  by_cases hother : other = caller
  · rw [if_pos hother]
    intro hsettled
    cases hsettled
  · rw [if_neg hother]
    exact fun hboth => hother (h.eq_of_fills hboth hfills)

theorem filling_eq_none (h : crowd.Orderly snapshot requests) {key : TargetKey}
    (hnobody : ∀ other, (crowd.phase other).fills ≠ some key) :
    crowd.floor.filling key = none := by
  cases hfilling : crowd.floor.filling key with
  | none => rfl
  | some holder =>
      exact absurd ((h.filling key holder).mp hfilling) (hnobody holder)

theorem waits_for_own_cell (h : crowd.Orderly snapshot requests) {caller : Nat}
    (hstuck : ¬ crowd.Moves backend snapshot requests caller) :
    (∃ answer, crowd.phase caller = .answered answer) ∨
      ∃ target vars holder, crowd.phase caller = .waiting target vars ∧
        (crowd.phase holder).fills = some target.key ∧
        crowd.Moves backend snapshot requests holder := by
  rcases not_moves_iff.mp hstuck with hanswered
    | ⟨target, vars, holder, hwait, _, hheld⟩
  · exact Or.inl hanswered
  · have hfills := (h.filling target.key holder).mp hheld
    exact Or.inr ⟨target, vars, holder, hwait, hfills, moves_of_fills hfills⟩

end Orderly

/-- A caller that fills a cell leaves the other cells alone. -/
theorem others_of_touches {caller : Nat} {floor : Floor State Plan}
    {phase : Phase Plan} {move : Move State Plan}
    (h : move.Touches caller floor phase) {key other : TargetKey}
    (hfills : phase.fills = some key) (hother : other ≠ key) :
    move.floor.kept other = floor.kept other ∧
      move.floor.filling other = floor.filling other := by
  constructor
  · rcases h.kept_cases with hsame | ⟨touched, made, htouched, hafter⟩
    · rw [hsame]
    · obtain rfl := Option.some.inj (htouched.symm.trans hfills)
      rw [hafter, if_neg hother]
  · cases h with
    | nothing hbefore hafter hfilling hkept hdeed => rw [hfilling]
    | begins touched hbefore hafter hempty hfree hfloor hdeed =>
        rw [hbefore] at hfills
        cases hfills
    | works touched deed hbefore hafter hfilling hkept hdeed hwork => rw [hfilling]
    | settles touched outcome hbefore hafter hfloor hdeed =>
        obtain rfl := Option.some.inj (hbefore.symm.trans hfills)
        rw [hfloor, Floor.filling_settle, if_neg hother]

theorem others_unaffected {crowd : Crowd State Plan} {holder caller : Nat}
    {key : TargetKey} (hfills : (crowd.phase holder).fills = some key)
    (hne : holder ≠ caller)
    (hwait : ∀ target vars, crowd.phase caller = .waiting target vars →
      target.key ≠ key) :
    (crowd.step backend snapshot requests holder).Moves
        backend snapshot requests caller ↔
      crowd.Moves backend snapshot requests caller := by
  have hmoves : crowd.Moves backend snapshot requests holder :=
    moves_of_fills hfills
  obtain ⟨move, hmove⟩ : ∃ move,
    advance backend snapshot (requests holder) holder crowd.floor
      (crowd.phase holder) = some move := by
    rw [Moves, step?, Option.isSome_map] at hmoves
    exact Option.isSome_iff_exists.mp hmoves
  have htouch := touches_of_advance hmove
  rw [step_of_advance hmove, ← not_iff_not, not_moves_iff, not_moves_iff,
    phase_apply_of_ne crowd move (Ne.symm hne), floor_apply]
  refine or_congr_right (exists_congr fun target => exists_congr fun vars =>
    exists_congr fun other => and_congr_right fun hphase => ?_)
  obtain ⟨hkept, hfilling⟩ :=
    others_of_touches htouch hfills (hwait target vars hphase)
  rw [hkept, hfilling]

/-- Whatever callers use a snapshot at the same time and in whatever order they
move, a statement is made at most once for each cell, all that are answered for a
cell are answered with it, and no cell holds up another one. -/
theorem run_atMostOnce (backend : Backend State Plan) (snapshot : Snapshot)
    (requests : Nat → Request) (state : State) (schedule : List Nat) :
    ((start state).run backend snapshot requests schedule).AtMostOnce
      backend snapshot requests := by
  have h :
      ((start state).run backend snapshot requests schedule).Orderly
        snapshot requests :=
    orderly_run state schedule
  constructor
  case one_fills =>
    intro key first second hfirst hsecond
    exact h.eq_of_fills hfirst hsecond
  case one_keeps =>
    intro key
    exact h.length_filter_isKeep_le key
  case kept_for_ever =>
    intro key statement before after hdeeds
    exact h.kept_for_ever hdeeds
  case calls_recorded =>
    intro cache caller hgate hcalled
    exact h.calls_recorded hgate hcalled
  case answer_kept =>
    intro caller target vars compiled hadmits hanswer
    exact h.keeps_mem (h.kept_of_answered hadmits hanswer)
  case one_answer =>
    intro first second target other left right answer answer' hfirst hsecond hkey
      hanswer hanswer'
    have hkept := h.kept_of_answered hfirst hanswer
    have hkept' := h.kept_of_answered hsecond hanswer'
    rw [hkey, hkept'] at hkept
    exact (Option.some.inj hkept).symm
  case failure_leaves_empty =>
    intro caller job e key hphase hkey
    exact h.failure_leaves_empty hphase hkey
  case empty_refilled =>
    intro caller target vars hphase hkept hnobody
    have hmove : advance backend snapshot (requests caller)
      caller _ (.waiting target vars) =
        some _ := advance_of_free hkept (h.filling_eq_none hnobody)
    rw [← hphase] at hmove
    rw [step_of_advance hmove, phase_apply_self]
  case waits_for_own_cell =>
    intro caller hstuck
    exact h.waits_for_own_cell hstuck
  case others_unaffected =>
    intro holder caller key hfills hne hwait
    exact others_unaffected hfills hne hwait

end Crowd

end QueryGate.Engine
