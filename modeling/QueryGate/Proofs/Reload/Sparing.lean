import QueryGate.Proofs.Reload.Crew

/-!
A failure changes nothing for what comes after it.

What a crew does from some moment on depends on its loops, the active snapshot, the
lock, and the rebuilders that are at work or still to be called. So it does not
matter how rounds have ended. A round that fails could as well have gone by with its
rebuilder never moving, and it always comes to an end, as the lock is given back.
-/

namespace QueryGate.Reload

open Engine

/-- Two rebuilders are at the same stage, but for when their builds began. -/
inductive Stage.Like : Stage → Stage → Prop
  | same (stage : Stage) : Like stage stage
  | building (began began' generation : Nat) :
      Like (.building began generation) (.building began' generation)
  | built (began began' : Nat) (snapshot : Snapshot) :
      Like (.built began snapshot) (.built began' snapshot)

/-- Two moves have the same effect, but for when the builds began. -/
inductive Effect.Like : Effect → Effect → Prop
  | same (effect : Effect) : Like effect effect
  | publishes (began began' : Nat) (snapshot : Snapshot) :
      Like (.publishes began snapshot) (.publishes began' snapshot)

namespace Stage.Like

variable {stage stage' : Stage}

theorem notices_eq [Catalog.Hashing] (h : stage.Like stage') (world : World) :
    stage.notices world = stage'.notices world := by
  cases h <;> rfl

theorem outcome?_eq (h : stage.Like stage') : stage.outcome? = stage'.outcome? := by
  cases h <;> rfl

theorem build (began began' generation : Nat) (world : World) :
    (Reload.build began generation world).Like
      (Reload.build began' generation world) := by
  unfold Reload.build
  split
  · exact .built began began' _
  · exact .same _

end Stage.Like

namespace Site

variable {site site' : Site} {errand : Errand} {world : World}

/-- Rebuilders at the same stage make the same move, where they find the same
snapshot and are not kept from the lock. -/
theorem work_like {stage stage' next : Stage} {effect : Effect}
    (hlike : stage.Like stage') (hactive : site.active = site'.active)
    (hfree : site.holder = none → site'.holder = none)
    (hwork : site.work errand world stage = some (next, effect)) :
    ∃ next' effect', site'.work errand world stage' = some (next', effect') ∧
      next.Like next' ∧
      effect.Like effect' := by
  cases hlike with
  | building began began' generation =>
      cases hwork
      exact ⟨_, _, rfl, .build began began' generation world, .same _⟩
  | built began began' snapshot =>
      cases hwork
      exact ⟨_, _, rfl, .same _, .publishes began began' snapshot⟩
  | same =>
      cases stage with
      | waiting =>
          cases hholder : site.holder with
          | none =>
              simp only [work, hholder] at hwork
              cases hwork
              exact ⟨.locked, .acquires, by simp [work, hfree hholder], .same _,
                .same _⟩
          | some who =>
              simp only [work, hholder] at hwork
              cases hwork
      | locked =>
          cases hwork
          refine ⟨_, _, rfl, ?_, .same _⟩
          rw [hactive]
          exact .building _ _ _
      | called =>
          cases hwork
          refine ⟨_, _, rfl, ?_, .same _⟩
          rw [hactive]
          exact .same _
      | returned outcome => cases hwork
      | _ =>
          cases hwork
          exact ⟨_, _, rfl, .same _, .same _⟩

/-- Who has the lock after a move. -/
def holderAfter (site : Site) (who : Nat) : Effect → Option Nat
  | .acquires => some who
  | .releases => none
  | _ => site.holder

/-- The active snapshot after a move. -/
def activeAfter (site : Site) : Effect → Snapshot
  | .publishes _ snapshot => snapshot
  | _ => site.active

theorem rebuild_of_work {who : Nat} {next : Stage} {effect : Effect}
    (hwork : site.work errand world (site.stage who) = some (next, effect)) :
    (site.rebuild errand who world).holder = site.holderAfter who effect ∧
      (site.rebuild errand who world).active = site.activeAfter effect := by
  rw [rebuild, hwork]
  cases effect <;> exact ⟨rfl, rfl⟩

end Site

namespace Crew

/-- Two crews are at the same point. The rebuilder of a loop that is spared has not
moved in the second one. -/
structure Like (spared : Option Duty) (crew other : Crew) : Prop where
  loops : crew.loops = other.loops
  active : crew.site.active = other.site.active
  holder : ∀ who, other.site.holder = some who ↔
    crew.site.holder = some who ∧ ∀ duty ∈ spared, who ≠ crew.worker duty
  stage : ∀ duty round, crew.rounds duty ≤ round →
    (spared = some duty → crew.rounds duty < round) →
      (crew.site.stage (duty.worker round)).Like
        (other.site.stage (duty.worker round))

/-- An action is not one of the rebuilder of a loop that is spared, nor does it end
its round. -/
def Spares (spared : Option Duty) : Action → Prop
  | .beat beat => ∀ duty ∈ spared, beat ≠ .finish duty
  | .work duty _ => spared ≠ some duty

variable {slack : Nat} {spared : Option Duty} {crew crew' other : Crew}
  {action : Action}

namespace Like

theorem rounds_eq (h : crew.Like spared other) (duty : Duty) :
    other.rounds duty = crew.rounds duty := by
  rw [rounds, rounds, h.loops]

theorem worker_eq (h : crew.Like spared other) (duty : Duty) :
    other.worker duty = crew.worker duty := by
  rw [worker, worker, h.rounds_eq]

/-- The rebuilders of a loop that is not spared are at the same stage. -/
theorem stage_like (h : crew.Like spared other) {duty : Duty}
    (hspared : spared ≠ some duty) : (crew.stage duty).Like (other.stage duty) := by
  rw [Crew.stage, Crew.stage, h.worker_eq]
  exact h.stage duty _ (Nat.le_refl _) fun hsame => absurd hsame hspared

theorem beat (h : crew.Like spared other) {beat : Beat} {loops : Loops}
    (hstep : crew.loops.step slack beat = some loops)
    (hspares : ∀ duty ∈ spared, beat ≠ .finish duty)
    (journal journal' : List Notice) :
    Like spared ⟨loops, crew.site, journal⟩ ⟨loops, other.site, journal'⟩ := by
  have hrounds := rounds_of_step hstep crew.site journal
  constructor
  case loops => rfl
  case active => exact h.active
  case holder =>
    intro who
    rw [h.holder who]
    refine and_congr_right fun _ => forall₂_congr fun duty hduty => ?_
    rw [worker, worker, hrounds, if_neg (hspares duty hduty), Nat.add_zero]
  case stage =>
    intro duty round hround hlater
    rw [hrounds] at hround hlater
    exact h.stage duty round (Nat.le_of_add_right_le hround) fun hspared =>
      Nat.lt_of_le_of_lt (Nat.le_add_right _ _) (hlater hspared)

theorem worked (h : crew.Like spared other) {duty : Duty} {world : World}
    {next next' : Stage} {effect effect' : Effect} (hspared : spared ≠ some duty)
    (hwork : crew.site.work duty.errand world (crew.stage duty) =
      some (next, effect))
    (hwork' : other.site.work duty.errand world (other.stage duty) =
      some (next', effect'))
    (hnext : next.Like next') (heffect : effect.Like effect')
    (journal journal' : List Notice) :
    Like spared ⟨crew.loops, crew.site.rebuild duty.errand (crew.worker duty) world,
      journal⟩ ⟨other.loops,
      other.site.rebuild duty.errand (other.worker duty) world, journal'⟩ := by
  obtain ⟨hholder, hactive⟩ := Site.rebuild_of_work hwork
  obtain ⟨hholder', hactive'⟩ := Site.rebuild_of_work hwork'
  constructor
  case loops => exact h.loops
  case active =>
    show Site.active _ = Site.active _
    rw [hactive, hactive']
    cases heffect with
    | publishes began began' snapshot => rfl
    | same => cases effect <;> first | exact h.active | rfl
  case holder =>
    intro who
    show Site.holder _ = some who ↔ Site.holder _ = some who ∧ _
    rw [hholder, hholder', h.worker_eq]
    cases heffect with
    | publishes began began' snapshot => exact h.holder who
    | same =>
        cases effect with
        | acquires =>
            refine ⟨fun hwho => ⟨hwho, fun d hd hsame => ?_⟩, And.left⟩
            rw [← Option.some.inj hwho] at hsame
            rw [(Duty.worker_inj.mp hsame).1] at hspared
            exact hspared hd
        | releases => simp [Site.holderAfter]
        | _ => exact h.holder who
  case stage =>
    intro d round hround hlater
    by_cases hsame : d.worker round = crew.worker duty
    · have hself := Site.stage_rebuild_self hwork
      have hself' := Site.stage_rebuild_self hwork'
      simp only [hsame]
      rw [hself, ← h.worker_eq, hself']
      exact hnext
    · simp only [Site.stage_rebuild_of_ne hsame]
      rw [h.worker_eq, Site.stage_rebuild_of_ne hsame]
      exact h.stage d round hround hlater

variable [Catalog.Hashing]

theorem comes (h : crew.Like spared other) (hspares : Spares spared action)
    (hcomes : crew.Comes slack action crew') :
    ∃ other' more, other.step slack action = some other' ∧
      crew'.Like spared other' ∧
      crew'.journal = crew.journal ++ more ∧
      other'.journal = other.journal ++ more := by
  cases hcomes with
  | @began duty loops hstep =>
      refine ⟨⟨loops, other.site, other.journal ++ duty.opening⟩, duty.opening, ?_,
        h.beat hstep hspares _ _, rfl, rfl⟩
      simp [step, remarks?, ← h.loops, hstep]
  | @ended duty loops outcome hstep hreturned =>
      have hspared : spared ≠ some duty := fun hsame => hspares duty hsame rfl
      have houtcome : (other.stage duty).outcome? = some outcome := by
        rw [← (h.stage_like hspared).outcome?_eq, hreturned]
        rfl
      refine ⟨⟨loops, other.site, other.journal ++ duty.closing outcome⟩,
        duty.closing outcome, ?_, h.beat hstep hspares _ _, rfl, rfl⟩
      simp [step, remarks?, houtcome, ← h.loops, hstep]
  | @other beat loops hstep hbegin hfinish =>
      refine ⟨⟨loops, other.site, other.journal⟩, [], ?_, h.beat hstep hspares _ _,
        by simp, by simp⟩
      cases beat with
      | begin duty => exact absurd rfl (hbegin duty)
      | finish duty => exact absurd rfl (hfinish duty)
      | _ => simp [step, remarks?, ← h.loops, hstep]
  | @worked duty world next effect hacting hwork =>
      have hfree : crew.site.holder = none → other.site.holder = none := by
        intro hnone
        cases hholder : other.site.holder with
        | none => rfl
        | some who =>
            rw [((h.holder who).mp hholder).1] at hnone
            cases hnone
      obtain ⟨next', effect', hwork', hnext, heffect⟩ :=
        Site.work_like (h.stage_like hspares) h.active hfree hwork
      refine ⟨_, (crew.stage duty).notices world, ?_,
        h.worked hspares hwork hwork' hnext heffect _ _, rfl, rfl⟩
      simp [step, ← h.loops, hacting, hwork', (h.stage_like hspares).notices_eq]

theorem run (h : crew.Like spared other) {actions : List Action}
    (hspares : ∀ action ∈ actions, Spares spared action)
    (hrun : crew.run? slack actions = some crew') :
    ∃ other' more, other.run? slack actions = some other' ∧
      crew'.Like spared other' ∧
      crew'.journal = crew.journal ++ more ∧
      other'.journal = other.journal ++ more := by
  induction actions generalizing crew other with
  | nil =>
      cases hrun
      exact ⟨other, [], rfl, h, by simp, by simp⟩
  | cons action rest ih =>
      rw [run?, Option.bind_eq_some_iff] at hrun
      obtain ⟨next, hstep, hrest⟩ := hrun
      obtain ⟨hnow, hlater⟩ := List.forall_mem_cons.mp hspares
      obtain ⟨next', first, hstep', hlike, hjournal, hjournal'⟩ :=
        h.comes hnow (comes_of_step hstep)
      obtain ⟨other', more, hrun', hlike', hmore, hmore'⟩ := ih hlike hlater hrest
      refine ⟨other', first ++ more, ?_, hlike', ?_, ?_⟩
      · rw [run?, hstep']
        exact hrun'
      · rw [hmore, hjournal, List.append_assoc]
      · rw [hmore', hjournal', List.append_assoc]

end Like

/-- An action is not one of the rebuilder of a loop. -/
def keeps (duty : Duty) : Action → Bool
  | .beat _ => true
  | .work other _ => other != duty

/-- A round goes by without anything being done or reported at its end. -/
def spare (slack : Nat) (crew : Crew) (duty : Duty) : Option Crew :=
  (crew.loops.step slack (.finish duty)).map fun loops =>
    { crew with loops := loops }

/-- A move that publishes nothing makes no difference to a crew in which the
rebuilder has not moved. -/
theorem Like.spared_work {duty : Duty} {world : World} {next : Stage}
    {effect : Effect} (h : crew.Like (some duty) other) (htended : crew.Tended)
    (hwork : crew.site.work duty.errand world (crew.stage duty) =
      some (next, effect))
    (hunpublished : next.hasPublished = false) (journal : List Notice) :
    Like (some duty) ⟨crew.loops,
      crew.site.rebuild duty.errand (crew.worker duty) world, journal⟩
      other := by
  obtain ⟨hholder, hactive⟩ := Site.rebuild_of_work hwork
  have herrand : errandOf (crew.worker duty) = duty.errand := errandOf_worker duty _
  have hmoves : crew.site.Moves duty.errand (crew.stage duty) next effect := by
    rw [← herrand] at hwork ⊢
    exact Site.moves_of_work htended.orderly hwork
  have hlock := htended.orderly.lock (crew.worker duty)
  constructor
  case loops => exact h.loops
  case active =>
    rw [← h.active, hactive]
    cases hmoves with
    | publishes _ => cases hunpublished
    | _ => rfl
  case holder =>
    intro who
    rw [h.holder who, hholder]
    cases hmoves with
    | keeps _ _ _ => exact Iff.rfl
    | publishes _ => cases hunpublished
    | acquires _ hfree =>
        -- The lock was free, and is taken by the one who has not moved in the other
        -- crew.
        simp only [hfree, Site.holderAfter, Option.mem_some_iff, forall_eq']
        constructor
        · rintro ⟨hnone, _⟩
          cases hnone
        · rintro ⟨hself, hother⟩
          exact absurd (Option.some.inj hself).symm hother
    | releases hlocks _ _ =>
        simp only [hlock.mpr hlocks, Site.holderAfter, Option.mem_some_iff,
          forall_eq']
        constructor
        · rintro ⟨hself, hother⟩
          exact absurd (Option.some.inj hself).symm hother
        · rintro ⟨hnone, _⟩
          cases hnone
  case stage =>
    intro d round hround hlater
    refine (?_ : (Site.stage _ (d.worker round)).Like _)
    rw [Site.stage_rebuild_of_ne]
    · exact h.stage d round hround hlater
    · intro hsame
      obtain ⟨rfl, rfl⟩ := Duty.worker_inj.mp hsame
      exact absurd (hlater rfl) (Nat.lt_irrefl _)

section Hashed

variable [Catalog.Hashing]

/-- A rebuilder that has published has done so until its round ends. -/
theorem hasPublished_of_comes {duty : Duty} (hcomes : crew.Comes slack action crew')
    (hfinish : action ≠ .beat (.finish duty))
    (h : (crew.stage duty).hasPublished = true) :
    (crew'.stage duty).hasPublished = true := by
  have hkept : ∀ {beat : Beat} {loops : Loops},
    crew.loops.step slack beat = some loops →
      beat ≠ .finish duty →
      ∀ journal, stage ⟨loops, crew.site, journal⟩ duty = crew.stage duty := by
    intro beat loops hstep hbeat journal
    rw [stage, stage, worker, worker, rounds_of_step hstep, if_neg hbeat,
      Nat.add_zero]
  cases hcomes with
  | @began other loops hstep =>
      have hbegin : Beat.begin other ≠ .finish duty := by simp
      rwa [hkept hstep hbegin]
  | @ended other loops outcome hstep _ =>
      rwa [hkept hstep fun hsame => hfinish (congrArg Action.beat hsame)]
  | other hstep _ hother => rwa [hkept hstep (hother duty)]
  | @worked other world next effect _ hwork =>
      by_cases hsame : other = duty
      · subst hsame
        have hnext := Site.stage_rebuild_self hwork
        show (Site.stage _ (crew.worker other)).hasPublished = true
        rw [hnext]
        cases hstage : crew.stage other with
        | published =>
            rw [hstage] at hwork
            cases hwork
            rfl
        | returned outcome =>
            rw [hstage] at hwork
            cases hwork
        | _ =>
            rw [hstage] at h
            cases h
      · have hother : crew.worker duty ≠ crew.worker other := fun hworker =>
          hsame (Duty.worker_inj.mp hworker).1.symm
        show (Site.stage _ (crew.worker duty)).hasPublished = true
        rwa [Site.stage_rebuild_of_ne hother]

theorem hasPublished_of_run {duty : Duty} {actions : List Action}
    (hrun : crew.run? slack actions = some crew')
    (hfinish : .beat (.finish duty) ∉ actions)
    (h : (crew.stage duty).hasPublished = true) :
    (crew'.stage duty).hasPublished = true := by
  induction actions generalizing crew with
  | nil =>
      cases hrun
      exact h
  | cons action rest ih =>
      rw [run?, Option.bind_eq_some_iff] at hrun
      obtain ⟨next, hstep, hrest⟩ := hrun
      rw [List.mem_cons, not_or] at hfinish
      exact ih hrest hfinish.2 (hasPublished_of_comes (comes_of_step hstep)
        (Ne.symm hfinish.1) h)

/-- What others do while a round fails, they could have done without it. -/
theorem Like.run_spared {duty : Duty} {actions : List Action} {e : Error}
    (h : crew.Like (some duty) other) (htended : crew.Tended)
    (hrun : crew.run? slack actions = some crew')
    (hfinish : .beat (.finish duty) ∉ actions)
    (hfailed : crew'.stage duty = .returned (.error e)) :
    ∃ other', other.run? slack (actions.filter (keeps duty)) = some other' ∧
      crew'.Like (some duty) other' := by
  induction actions generalizing crew other with
  | nil =>
      cases hrun
      exact ⟨other, rfl, h⟩
  | cons action rest ih =>
      have hwhole := hrun
      rw [run?, Option.bind_eq_some_iff] at hrun
      obtain ⟨next, hstep, hrest⟩ := hrun
      rw [List.mem_cons, not_or] at hfinish
      have hcomes := comes_of_step hstep
      have htended' := htended.comes hcomes
      by_cases hkeeps : keeps duty action = true
      · have hspares : Spares (some duty) action := by
          cases action with
          | beat beat =>
              intro d hd hsame
              rw [Option.mem_some_iff.mp hd, ← hsame] at hfinish
              exact hfinish.1 rfl
          | work d world =>
              intro hsame
              simp [keeps, Option.some.inj hsame] at hkeeps
        obtain ⟨next', _, hstep', hlike, _⟩ := h.comes hspares hcomes
        obtain ⟨other', hrun', hlater⟩ := ih hlike htended' hrest hfinish.2
        refine ⟨other', ?_, hlater⟩
        rw [List.filter_cons_of_pos hkeeps, run?, hstep']
        exact hrun'
      · rw [List.filter_cons_of_neg hkeeps]
        refine ih ?_ htended' hrest hfinish.2
        cases hcomes with
        | @worked d world stage effect hacting hwork =>
            obtain rfl : d = duty := by simpa [keeps] using hkeeps
            refine h.spared_work htended hwork ?_ _
            -- Had it published, it would not have failed in the end.
            cases hpublished : stage.hasPublished with
            | false => rfl
            | true =>
                have hlater := hasPublished_of_run hrest hfinish.2
                  ((congrArg Stage.hasPublished
                    (Site.stage_rebuild_self hwork)).trans hpublished)
                rw [hfailed] at hlater
                cases hlater
        | _ => exact absurd rfl hkeeps

/-- Once a round has failed, the crew does what it would do had the round gone by
with its rebuilder never moving. -/
theorem Tended.round_spared {duty : Duty} {actions : List Action}
    {failed ended : Crew} {e : Error} (h : crew.Tended)
    (hcalled : crew.stage duty = .called)
    (hrun : crew.run? slack actions = some failed)
    (hfinish : .beat (.finish duty) ∉ actions)
    (hfailed : failed.stage duty = .returned (.error e))
    (hended : failed.step slack (.beat (.finish duty)) = some ended) :
    ∃ other freed, crew.run? slack (actions.filter (keeps duty)) = some other ∧
      other.spare slack duty = some freed ∧ ended.Like none freed := by
  have hself : crew.Like (some duty) crew := by
    refine ⟨rfl, rfl, fun who => ?_, fun d round _ _ => .same _⟩
    refine ⟨fun hwho => ⟨hwho, fun d hd hsame => ?_⟩, And.left⟩
    have hlocks := (h.orderly.lock who).mp hwho
    rw [hsame, ← Option.mem_some_iff.mp hd] at hlocks
    rw [stage] at hcalled
    rw [hcalled] at hlocks
    cases hlocks
  obtain ⟨other, hrun', hlike⟩ := hself.run_spared h hrun hfinish hfailed
  have htended := h.run hrun
  cases comes_of_step hended with
  | @ended _ loops outcome hstep _ =>
      refine ⟨other, ⟨loops, other.site, other.journal⟩, hrun', ?_, ?_⟩
      · rw [spare, ← hlike.loops, hstep]
        rfl
      · have hrounds := rounds_of_step hstep failed.site failed.journal
        constructor
        case loops => rfl
        case active => exact hlike.active
        case holder =>
          intro who
          rw [hlike.holder who]
          refine and_congr_right fun hwho =>
            iff_of_true (fun d hd hsame => ?_) (by simp)
          -- The rebuilder has returned, so it has given the lock back.
          have hlocks := (htended.orderly.lock who).mp hwho
          rw [hsame, ← Option.mem_some_iff.mp hd] at hlocks
          rw [stage] at hfailed
          rw [hfailed] at hlocks
          cases hlocks
        case stage =>
          intro d round hround _
          have hround : failed.rounds d +
              (if Beat.finish duty = .finish d then 1 else 0) ≤ round :=
            Nat.le_trans (Nat.le_of_eq (hrounds d).symm) hround
          refine hlike.stage d round (Nat.le_of_add_right_le hround) fun hsame => ?_
          rw [Option.some.inj hsame, if_pos rfl] at hround
          exact hround
  | other _ _ hfinish => exact absurd rfl (hfinish duty)

end Hashed

theorem exists_worker (who : Nat) : ∃ duty round, who = Duty.worker duty round := by
  rcases Nat.mod_two_eq_zero_or_one who with heven | hodd
  · exact ⟨.checkSchema, who / 2, by simp only [Duty.worker]; omega⟩
  · exact ⟨.reload, who / 2, by simp only [Duty.worker]; omega⟩

/-- Only the rebuilder of a round that is under way has the lock. -/
theorem Tended.acting_of_holder (h : crew.Tended) {who : Nat}
    (hholder : crew.site.holder = some who) :
    ∃ duty, crew.loops.phase duty = .acting ∧ who = crew.worker duty := by
  obtain ⟨duty, round, rfl⟩ := exists_worker who
  have hlocks := (h.orderly.lock _).mp hholder
  rcases Nat.lt_trichotomy round (crew.rounds duty) with hbefore | hnow | hafter
  · obtain ⟨outcome, houtcome⟩ := h.returned duty round hbefore
    rw [houtcome] at hlocks
    cases hlocks
  · subst hnow
    refine ⟨duty, ?_, rfl⟩
    by_contra hidle
    have hcalled := h.idle duty hidle
    rw [stage, worker] at hcalled
    rw [hcalled] at hlocks
    cases hlocks
  · rw [h.uncalled duty round hafter] at hlocks
    cases hlocks

/-- The lock is given back however rounds end. -/
theorem Tended.released (h : crew.Tended)
    (hidle : ∀ duty, crew.loops.phase duty ≠ .acting) :
    crew.site.holder = none := by
  cases hholder : crew.site.holder with
  | none => rfl
  | some who =>
      obtain ⟨duty, hacting, _⟩ := h.acting_of_holder hholder
      exact absurd hacting (hidle duty)

end Crew

/-- How many moves a rebuilder has left at most. -/
def Stage.left : Stage → Nat
  | .called => 7
  | .discovering _ => 6
  | .waiting => 5
  | .locked => 4
  | .building _ _ => 3
  | .built _ _ => 2
  | .failed _ => 1
  | .published => 1
  | .returned _ => 0

/-- A rebuilder that has not returned moves on, unless it waits for a lock that
somebody has. -/
theorem Site.exists_work {site : Site} {stage : Stage} (errand : Errand)
    (world : World) (hleft : 0 < stage.left)
    (hfree : stage = .waiting → site.holder = none) :
    ∃ next effect, site.work errand world stage = some (next, effect) ∧
      next.left < stage.left := by
  cases stage with
  | called => cases errand <;> exact ⟨_, _, rfl, by simp [Errand.first, Stage.left]⟩
  | discovering current =>
      refine ⟨_, _, rfl, ?_⟩
      unfold inspect
      split
      · split <;> simp [Stage.left]
      · simp [Stage.left]
  | waiting =>
      exact ⟨.locked, .acquires, by simp [work, hfree rfl], by simp [Stage.left]⟩
  | building began generation =>
      refine ⟨_, _, rfl, ?_⟩
      unfold build
      split <;> simp [Stage.left]
  | returned outcome => exact absurd hleft (Nat.lt_irrefl 0)
  | locked | built _ _ | failed _ | published =>
      exact ⟨_, _, rfl, by simp [Stage.left]⟩

namespace Crew

variable [Catalog.Hashing] {slack : Nat} {crew : Crew}

/-- A rebuilder that is not kept from the lock returns, whatever world it finds. -/
theorem Tended.returns (h : crew.Tended) {duty : Duty}
    (hacting : crew.loops.phase duty = .acting)
    (hfree : ∀ who, crew.site.holder = some who → who = crew.worker duty)
    (world : World) :
    crew.Leads slack (· = world) fun later =>
      later.Tended ∧ later.loops = crew.loops ∧
      later.site.holder = none ∧ ∃ outcome, later.stage duty =
        .returned outcome := by
  induction hleft : (crew.stage duty).left
    using Nat.strongRecOn generalizing crew with
  | _ left ih =>
      have hunheld : (crew.stage duty).locks = false → crew.site.holder = none := by
        intro hlocks
        cases hholder : crew.site.holder with
        | none => rfl
        | some who =>
            have hheld := (h.orderly.lock who).mp hholder
            rw [hfree who hholder] at hheld
            rw [stage, hheld] at hlocks
            cases hlocks
      rcases Nat.eq_zero_or_pos left with hdone | hpos
      · cases hstage : crew.stage duty with
        | returned outcome =>
            exact leads_here ⟨h, rfl, hunheld (by rw [hstage]; rfl),
              outcome, hstage⟩
        | _ =>
            rw [hstage, hdone] at hleft
            cases hleft
      · obtain ⟨next, effect, hwork, hless⟩ :=
          crew.site.exists_work duty.errand world
          (Nat.lt_of_lt_of_eq hpos hleft.symm) fun hwaiting =>
            hunheld (by rw [hwaiting]; rfl)
        let moved : Crew :=
          ⟨crew.loops, crew.site.rebuild duty.errand (crew.worker duty) world,
          crew.journal ++ (crew.stage duty).notices world⟩
        have hstep : crew.step slack (.work duty world) = some moved := by
          simp [step, hacting, hwork, moved]
        obtain ⟨hholder, _⟩ := Site.rebuild_of_work hwork
        have hfree' : ∀ who, moved.site.holder = some who →
            who = moved.worker duty := by
          intro who hwho
          rw [show moved.site.holder = _ from hholder] at hwho
          cases effect with
          | acquires => exact (Option.some.inj hwho).symm
          | releases => cases hwho
          | _ => exact hfree who hwho
        exact leads_work rfl hstep
          (ih next.left (hleft ▸ hless) (h.comes (comes_of_step hstep))
          hacting hfree' (congrArg Stage.left (Site.stage_rebuild_self hwork)))

/-- A round that is under way can be brought to its end at once, whatever world is
found. -/
theorem Tended.finishes (h : crew.Tended) {duty : Duty}
    (hacting : crew.loops.phase duty = .acting) (world : World) :
    crew.Leads slack (· = world) fun later =>
      later.loops.phase duty = .waiting ∧ later.loops.now = crew.loops.now := by
  -- Whoever has the lock comes first.
  have hunlocked : crew.Leads slack (· = world) fun later =>
      later.Tended ∧ later.loops = crew.loops ∧ later.site.holder = none := by
    cases hholder : crew.site.holder with
    | none => exact leads_here ⟨h, rfl, hholder⟩
    | some who =>
        obtain ⟨other, hother, rfl⟩ := h.acting_of_holder hholder
        refine (h.returns hother (fun who hwho => ?_) world).trans
          fun later hlater =>
          leads_here ⟨hlater.1, hlater.2.1, hlater.2.2.1⟩
        rw [hholder] at hwho
        exact (Option.some.inj hwho).symm
  refine hunlocked.trans fun free hfree => ?_
  obtain ⟨htended, hloops, hnone⟩ := hfree
  have hacting' : free.loops.phase duty = .acting := by
    rw [hloops]
    exact hacting
  have hfree' : ∀ who, free.site.holder = some who → who = free.worker duty :=
    fun who hwho => by
    rw [hnone] at hwho
    cases hwho
  refine (htended.returns hacting' hfree' world).trans fun done hdone => ?_
  obtain ⟨_, hloops', _, outcome, hreturned⟩ := hdone
  have hphase : done.loops.phase duty = .acting := by
    rw [hloops', hloops]
    exact hacting
  have hstep : done.step slack (.beat (.finish duty)) =
      some ⟨(done.loops.setPhase duty .waiting).note (.ended duty), done.site,
        done.journal ++ duty.closing outcome⟩ := by
    simp [step, remarks?, hreturned, Stage.outcome?, Loops.step, hphase]
  refine leads_beat hstep (leads_here ⟨?_, ?_⟩)
  · simp [Loops.note, Loops.setPhase]
  · simp [Loops.note, Loops.setPhase, hloops', hloops]

end Crew

end QueryGate.Reload
