import QueryGate.Proofs.Reload.Rebuilding

/-!
Generations under concurrent rebuilding.

Rebuilders read the active generation, build and publish in separate steps, and a
look at the schema decides before it has the lock. Still the published snapshots are
numbered one after the other, and none of them is replaced by one whose build began
before it was published.
-/

namespace QueryGate.Reload

open Catalog Engine

namespace Site

/-- The snapshots that a rebuilder published. -/
def publishedBy (site : Site) (who : Nat) : List Publication :=
  site.published.filter (·.publisher = some who)

/-- A build that began at a time is for the next generation, and what is published
was published before it. -/
def Next (site : Site) (began generation : Nat) : Prop :=
  generation = site.active.generation + 1 ∧ began < site.clock ∧
    ∀ p ∈ site.published, p.time < began

/-- What is true of a rebuilder at a stage. -/
def Sound (site : Site) (errand : Errand) : Stage → Prop
  | .discovering _ => errand = .checkSchema
  | .building began generation => site.Next began generation
  | .built began snapshot => site.Next began snapshot.generation
  | .returned (.ok changed) => errand = .reload → changed = true
  | _ => True

/-- The invariant of rebuilders that work at the same time. -/
structure Orderly (errands : Nat → Errand) (site : Site) : Prop where
  lock : ∀ who, site.holder = some who ↔ (site.stage who).locks = true
  sound : ∀ who, site.Sound (errands who) (site.stage who)
  number : site.published.length = site.active.generation + 1
  generations : site.published.map (·.snapshot.generation) =
    List.range site.published.length
  current : ∃ last, site.published.getLast? = some last ∧
    site.active = last.snapshot
  past : ∀ p ∈ site.published, p.time < site.clock
  fresh : site.published.Pairwise fun earlier later => earlier.time < later.began
  once : ∀ who, (site.stage who).hasPublished = true →
    ∃ p, site.publishedBy who = [p]
  never : ∀ who, (site.stage who).hasPublished = false → site.publishedBy who = []
  seen : ∀ reader, (site.seen reader).Pairwise (· ≤ ·)
  caughtUp : ∀ reader, ∀ generation ∈ site.seen reader,
    generation ≤ site.active.generation

/-- What a move of a rebuilder is for the lock and for what is published. -/
inductive Moves (site : Site) (errand : Errand) (before : Stage) :
    Stage → Effect → Prop
  | keeps {after : Stage} (hlocks : after.locks = before.locks)
      (hpublished : after.hasPublished = before.hasPublished)
      (hsound : site.tick.Sound errand after) :
      Moves site errand before after .nothing
  | acquires (hbefore : before = .waiting) (hfree : site.holder = none) :
      Moves site errand before .locked .acquires
  | publishes {began : Nat} {snapshot : Snapshot}
      (hbefore : before = .built began snapshot) :
      Moves site errand before .published (.publishes began snapshot)
  | releases {outcome : Except Error Bool} (hlocks : before.locks = true)
      (hpublished : (Stage.returned outcome).hasPublished = before.hasPublished)
      (hsound : site.tick.Sound errand (.returned outcome)) :
      Moves site errand before (.returned outcome) .releases

variable {errands : Nat → Errand} {site : Site}

/-- Every move of a rebuilder is one of these. -/
theorem moves_of_work (h : site.Orderly errands) {who : Nat} {world : World}
    {after : Stage} {effect : Effect}
    (hwork : site.work (errands who) world (site.stage who) =
      some (after, effect)) :
    site.Moves (errands who) (site.stage who) after effect := by
  have hsound := h.sound who
  cases hstage : site.stage who with
  | called =>
      rw [hstage] at hwork
      cases hwork
      cases herrand : errands who with
      | reload => exact .keeps rfl rfl trivial
      | checkSchema => exact .keeps rfl rfl rfl
  | discovering current =>
      rw [hstage] at hwork hsound
      cases hwork
      have hcheck : errands who = .checkSchema := hsound
      unfold inspect
      split
      · split
        · exact .keeps rfl rfl fun hreload => by
            rw [hcheck] at hreload; cases hreload
        · exact .keeps rfl rfl trivial
      · exact .keeps rfl rfl trivial
  | waiting =>
      rw [hstage] at hwork
      cases hholder : site.holder with
      | none =>
          simp only [work, hholder] at hwork
          cases hwork
          exact .acquires rfl hholder
      | some other =>
          simp only [work, hholder] at hwork
          cases hwork
  | locked =>
      rw [hstage] at hwork
      cases hwork
      exact .keeps rfl rfl ⟨rfl, Nat.lt_succ_self _, h.past⟩
  | building began generation =>
      rw [hstage] at hwork hsound
      cases hwork
      obtain ⟨hnext, hbegan, hpast⟩ := hsound
      unfold build
      split
      · next snapshot hsnapshot =>
          have hnumber := (World.builtFrom_of_snapshot hsnapshot).2
          exact .keeps rfl rfl ⟨hnumber.trans hnext,
            Nat.lt_succ_of_lt hbegan, hpast⟩
      · exact .keeps rfl rfl trivial
  | built began snapshot =>
      rw [hstage] at hwork
      cases hwork
      exact .publishes rfl
  | failed e =>
      rw [hstage] at hwork
      cases hwork
      exact .releases rfl rfl trivial
  | published =>
      rw [hstage] at hwork
      cases hwork
      exact .releases rfl rfl fun _ => rfl
  | returned outcome =>
      rw [hstage] at hwork
      cases hwork

/-- What is true of a rebuilder stays true while nothing is published. -/
theorem Sound.mono {errand : Errand} {stage : Stage} (h : site.Sound errand stage)
    {later : Site} (hactive : later.active = site.active)
    (hpublished : later.published = site.published)
    (hclock : site.clock ≤ later.clock) : later.Sound errand stage := by
  have hnext : ∀ {began generation}, site.Next began generation →
      later.Next began generation := by
    rintro began generation ⟨hgeneration, hbegan, hpast⟩
    rw [Next, hactive, hpublished]
    exact ⟨hgeneration, Nat.lt_of_lt_of_le hbegan hclock, hpast⟩
  cases stage with
  | building began generation => exact hnext h
  | built began snapshot => exact hnext h
  | returned outcome => cases outcome <;> exact h
  | _ => exact h

/-- What is true of a rebuilder without the lock does not depend on what is
published. -/
theorem Sound.of_not_locks {errand : Errand} {stage : Stage}
    (h : site.Sound errand stage) (hlocks : stage.locks = false) (other : Site) :
    other.Sound errand stage := by
  cases stage with
  | building began generation => cases hlocks
  | built began snapshot => cases hlocks
  | returned outcome => cases outcome <;> exact h
  | _ => exact h

namespace Orderly

theorem not_locks (h : site.Orderly errands) {who other : Nat}
    (hlocks : (site.stage who).locks = true) (hother : other ≠ who) :
    (site.stage other).locks = false := by
  cases hboth : (site.stage other).locks with
  | false => rfl
  | true =>
      have hheld := (h.lock other).mpr hboth
      rw [(h.lock who).mpr hlocks] at hheld
      exact absurd (Option.some.inj hheld).symm hother

/-- A move that publishes nothing preserves the invariant, where it is right about
the lock. -/
theorem quiet (h : site.Orderly errands) {who : Nat} (holder : Option Nat)
    {after : Stage} (hwho : holder = some who ↔ after.locks = true)
    (hothers : ∀ other, other ≠ who →
      (holder = some other ↔ (site.stage other).locks = true))
    (hpublished : after.hasPublished = (site.stage who).hasPublished)
    (hsound : site.tick.Sound (errands who) after) :
    (({ site with holder := holder }.setStage who after).tick).Orderly errands := by
  have hstage : ∀ other,
    (({ site with holder := holder }.setStage who after).tick).stage other =
      if other = who then after else site.stage other := fun other => rfl
  have hsame : ∀ other,
      ((({ site with holder := holder }.setStage who after).tick).stage
        other).hasPublished =
        (site.stage other).hasPublished := by
    intro other
    rw [hstage]
    by_cases hother : other = who
    · rw [if_pos hother, hother, hpublished]
    · rw [if_neg hother]
  constructor
  case lock =>
    intro other
    rw [hstage]
    by_cases hother : other = who
    · rw [if_pos hother, hother]
      exact hwho
    · rw [if_neg hother]
      exact hothers other hother
  case sound =>
    intro other
    rw [hstage]
    by_cases hother : other = who
    · rw [if_pos hother, hother]
      exact hsound.mono rfl rfl (Nat.le_refl _)
    · rw [if_neg hother]
      exact (h.sound other).mono rfl rfl (Nat.le_succ _)
  case number => exact h.number
  case generations => exact h.generations
  case current => exact h.current
  case past => exact fun p hp => Nat.lt_succ_of_lt (h.past p hp)
  case fresh => exact h.fresh
  case once =>
    exact fun other hother => h.once other ((hsame other).symm.trans hother)
  case never =>
    exact fun other hother => h.never other ((hsame other).symm.trans hother)
  case seen => exact h.seen
  case caughtUp => exact h.caughtUp

/-- A publication preserves the invariant: nobody else had the lock since its build
began. -/
theorem publishes (h : site.Orderly errands) {who began : Nat} {snapshot : Snapshot}
    (hstage : site.stage who = .built began snapshot) :
    (((site.publish who began snapshot).setStage who .published).tick).Orderly
      errands := by
  have hlocks : (site.stage who).locks = true := by
    rw [hstage]
    rfl
  obtain ⟨hnumber, hbegan, hpast⟩ : site.Next began snapshot.generation := by
    have hsound := h.sound who
    rw [hstage] at hsound
    exact hsound
  let publication : Publication := ⟨snapshot, some who, began, site.clock⟩
  let after := ((site.publish who began snapshot).setStage who .published).tick
  have hafter : ∀ other, after.stage other =
      if other = who then .published else site.stage other := fun other => rfl
  have hpublished : after.published = site.published ++ [publication] := rfl
  have hby : ∀ other, after.publishedBy other =
      site.publishedBy other ++ if other = who then [publication] else [] := by
    intro other
    rw [publishedBy, hpublished, List.filter_append, publishedBy]
    by_cases hother : other = who
    · simp [publication, hother]
    · simp [publication, hother, Ne.symm hother]
  show after.Orderly errands
  constructor
  case lock =>
    intro other
    rw [hafter]
    by_cases hother : other = who
    · rw [if_pos hother, hother]
      exact ⟨fun _ => rfl, fun _ => (h.lock who).mpr hlocks⟩
    · rw [if_neg hother]
      exact h.lock other
  case sound =>
    intro other
    rw [hafter]
    by_cases hother : other = who
    · rw [if_pos hother]
      trivial
    · rw [if_neg hother]
      exact (h.sound other).of_not_locks (h.not_locks hlocks hother) after
  case number =>
    rw [hpublished, List.length_append, h.number]
    exact congrArg (· + 1) hnumber.symm
  case generations =>
    rw [hpublished, List.map_append, List.length_append, h.generations,
      List.length_singleton, List.range_succ, h.number, ← hnumber]
    rfl
  case current => exact ⟨publication, by rw [hpublished, List.getLast?_concat], rfl⟩
  case past =>
    intro p hp
    rw [hpublished] at hp
    rcases List.mem_append.mp hp with hold | hnew
    · exact Nat.lt_succ_of_lt (h.past p hold)
    · rw [List.mem_singleton.mp hnew]
      exact Nat.lt_succ_self _
  case fresh =>
    rw [hpublished, List.pairwise_append]
    refine ⟨h.fresh, List.pairwise_singleton _ _, fun p hp q hq => ?_⟩
    rw [List.mem_singleton.mp hq]
    exact hpast p hp
  case once =>
    intro other hdone
    rw [hby]
    rw [hafter] at hdone
    by_cases hother : other = who
    · have hnone : site.publishedBy who = [] := h.never who (by rw [hstage]; rfl)
      rw [if_pos hother, hother, hnone]
      exact ⟨publication, rfl⟩
    · rw [if_neg hother] at hdone ⊢
      rw [List.append_nil]
      exact h.once other hdone
  case never =>
    intro other hnot
    rw [hby]
    rw [hafter] at hnot
    by_cases hother : other = who
    · rw [if_pos hother] at hnot
      cases hnot
    · rw [if_neg hother] at hnot ⊢
      rw [List.append_nil]
      exact h.never other hnot
  case seen => exact h.seen
  case caughtUp =>
    intro reader generation hgeneration
    have hle := h.caughtUp reader generation hgeneration
    show generation ≤ snapshot.generation
    omega

theorem rebuild (h : site.Orderly errands) (who : Nat) (world : World) :
    (site.rebuild (errands who) who world).Orderly errands := by
  rw [Site.rebuild]
  cases hwork : site.work (errands who) world (site.stage who) with
  | none => exact h
  | some move =>
      obtain ⟨after, effect⟩ := move
      have hheld : ∀ {other}, (site.stage who).locks = true → other ≠ who →
          ¬ (site.stage other).locks = true := by
        intro other hlocks hother
        rw [h.not_locks hlocks hother]
        simp
      cases moves_of_work h hwork with
      | keeps hlocks hpublished hsound =>
          exact h.quiet site.holder (by rw [hlocks]; exact h.lock who)
            (fun other _ => h.lock other) hpublished hsound
      | acquires hbefore hfree =>
          refine h.quiet (some who) ⟨fun _ => rfl, fun _ => rfl⟩
            (fun other hother => ?_)
            (by rw [hbefore]; rfl) trivial
          rw [← h.lock other, hfree]
          simp [Ne.symm hother]
      | publishes hbefore => exact h.publishes hbefore
      | releases hlocks hpublished hsound =>
          refine h.quiet none ⟨fun h => ?_, fun h => ?_⟩ (fun other hother => ?_)
            hpublished hsound
          · cases h
          · cases h
          · simp [hheld hlocks hother]

theorem look (h : site.Orderly errands) (reader : Nat) :
    (site.look reader).Orderly errands := by
  have hseen : ∀ other, (site.look reader).seen other =
      if other = reader then site.seen reader ++ [site.active.generation]
      else site.seen other :=
    fun other => rfl
  constructor
  case seen =>
    intro other
    rw [hseen]
    by_cases hother : other = reader
    · rw [if_pos hother, List.pairwise_append]
      refine ⟨h.seen reader, List.pairwise_singleton _ _,
        fun earlier hearlier last hlast => ?_⟩
      rw [List.mem_singleton.mp hlast]
      exact h.caughtUp reader earlier hearlier
    · rw [if_neg hother]
      exact h.seen other
  case caughtUp =>
    intro other generation hgeneration
    rw [hseen] at hgeneration
    show generation ≤ site.active.generation
    by_cases hother : other = reader
    · rw [if_pos hother] at hgeneration
      rcases List.mem_append.mp hgeneration with hold | hnew
      · exact h.caughtUp reader generation hold
      · exact Nat.le_of_eq (List.mem_singleton.mp hnew)
    · rw [if_neg hother] at hgeneration
      exact h.caughtUp other generation hgeneration
  case lock => exact h.lock
  case sound => exact fun who => (h.sound who).mono rfl rfl (Nat.le_refl _)
  case number => exact h.number
  case generations => exact h.generations
  case current => exact h.current
  case past => exact h.past
  case fresh => exact h.fresh
  case once => exact h.once
  case never => exact h.never

theorem step (h : site.Orderly errands) (act : Act) :
    (site.step errands act).Orderly errands := by
  cases act with
  | rebuild who world => exact h.rebuild who world
  | look reader => exact h.look reader

theorem run (h : site.Orderly errands) (acts : List Act) :
    (site.run errands acts).Orderly errands := by
  induction acts generalizing site with
  | nil => exact h
  | cons act rest ih => exact ih (h.step act)

end Orderly

theorem orderly_start {first : Snapshot} (hfirst : first.generation = 0) :
    (start first).Orderly errands := by
  constructor
  case lock => exact fun who => ⟨fun h => (by cases h), fun h => (by cases h)⟩
  case sound => exact fun who => trivial
  case number => exact (congrArg (· + 1) hfirst).symm
  case generations => simp [start, hfirst, List.range_succ]
  case current => exact ⟨_, rfl, rfl⟩
  case past =>
    intro p hp
    rw [List.mem_singleton.mp hp]
    exact Nat.zero_lt_one
  case fresh => exact List.pairwise_singleton _ _
  case once => exact fun who h => (by cases h)
  case never => exact fun who _ => rfl
  case seen => exact fun reader => List.Pairwise.nil
  case caughtUp => exact fun reader => List.forall_mem_nil _

/-- What is published stays published. -/
theorem published_step_kept (site : Site) (errands : Nat → Errand) (act : Act) :
    site.published <+: (site.step errands act).published := by
  cases act with
  | rebuild who world =>
      rw [Site.step, Site.rebuild]
      split
      · next stage effect hwork =>
          cases effect with
          | publishes began snapshot => exact List.prefix_append _ _
          | _ => exact List.prefix_rfl
      · exact List.prefix_rfl
  | look reader => exact List.prefix_rfl

theorem published_run_kept (site : Site) (errands : Nat → Errand)
    (acts : List Act) : site.published <+: (site.run errands acts).published := by
  induction acts generalizing site with
  | nil => exact List.prefix_rfl
  | cons act rest ih => exact (site.published_step_kept errands act).trans (ih _)

/-- What rebuilders and readers can rely on. The published snapshots are numbered
one after the other, without gap or repetition, and the active one is the last of
them. None is replaced by one whose build began before it was published. Who tells
that there is a new snapshot has published one, and no other; who tells anything
else has published none; and a reload that succeeds tells that there is one. Whoever
published a snapshot has told so, or is about to. No reader sees the generations go
back. -/
structure Numbered (errands : Nat → Errand) (site : Site) : Prop where
  generations : site.published.map (·.snapshot.generation) =
    List.range site.published.length
  current : ∃ last, site.published.getLast? = some last ∧
    site.active = last.snapshot
  fresh : site.published.Pairwise fun earlier later => earlier.time < later.began
  accounted : ∀ who, site.stage who = .returned (.ok true) →
    ∃ p, site.publishedBy who = [p]
  unpublished : ∀ who outcome, site.stage who = .returned outcome →
    outcome ≠ .ok true →
    site.publishedBy who = []
  reloaded : ∀ who changed, errands who = .reload →
    site.stage who = .returned (.ok changed) →
    changed = true
  attributed : ∀ p ∈ site.published, ∀ who, p.publisher = some who →
    site.stage who = .published ∨ site.stage who = .returned (.ok true)
  readers : ∀ reader, (site.seen reader).Pairwise (· ≤ ·)

theorem Orderly.numbered (h : site.Orderly errands) : site.Numbered errands := by
  constructor
  case generations => exact h.generations
  case current => exact h.current
  case fresh => exact h.fresh
  case accounted =>
    intro who hstage
    exact h.once who (by rw [hstage]; rfl)
  case unpublished =>
    intro who outcome hstage hother
    refine h.never who ?_
    rw [hstage]
    match outcome with
    | .error e => rfl
    | .ok false => rfl
    | .ok true => exact absurd rfl hother
  case reloaded =>
    intro who changed herrand hstage
    have hsound := h.sound who
    rw [hstage] at hsound
    exact hsound herrand
  case attributed =>
    intro p hp who hwho
    have hmem : p ∈ site.publishedBy who :=
      List.mem_filter.mpr ⟨hp, by simpa using hwho⟩
    cases hpublished : (site.stage who).hasPublished with
    | false =>
        rw [h.never who hpublished] at hmem
        cases hmem
    | true =>
        match hstage : site.stage who with
        | .published => exact Or.inl rfl
        | .returned (.ok true) => exact Or.inr rfl
        | .returned (.ok false) | .returned (.error e) | .called
            | .discovering _ | .waiting
        | .locked | .building _ _ | .built _ _ | .failed _ =>
            rw [hstage] at hpublished
            cases hpublished
  case readers => exact h.seen

/-- However many reload and look at the schema at the same time, and in whatever
order they move, the snapshots are numbered one after the other, none replaces one
that it could not know of, each success accounts for one of them, and no reader sees
them go back. -/
theorem run_numbered {world : World} {first : Snapshot}
    (hfirst : world.snapshot 0 = .ok first) (errands : Nat → Errand)
    (acts : List Act) :
    ((start first).run errands acts).Numbered errands ∧
      ∀ more, ((start first).run errands acts).published <+:
        ((start first).run errands (acts ++ more)).published := by
  have hstart : (start first).Orderly errands :=
    orderly_start (World.builtFrom_of_snapshot hfirst).2
  refine ⟨(hstart.run acts).numbered, fun more => ?_⟩
  rw [run, run, List.foldl_append]
  exact published_run_kept _ errands more

namespace TwoReloads

def world : World :=
  ⟨.postgres, .ok ⟨⟨14, "public", "app"⟩, [], [], []⟩, .ok .default, .ok []⟩

/-- Two rebuilders are called to reload, and move in turn. -/
def acts : List Act :=
  (List.replicate 10 [.rebuild 0 world, .rebuild 1 world]).flatten

/-- The second one waits until the first one gives the lock back. -/
theorem run_numbered_acts :
    ∃ first, world.snapshot 0 = .ok first ∧
      ((start first).run (fun _ => .reload) acts).Numbered (fun _ => .reload) ∧
      ((start first).run (fun _ => .reload) acts).published.map
        (fun p => (p.snapshot.generation, p.publisher, p.began, p.time)) =
          [(0, none, 0, 0), (1, some 0, 4, 6), (2, some 1, 9, 11)] := by
  obtain ⟨first, hfirst⟩ : ∃ first, world.snapshot 0 = .ok first := ⟨_, rfl⟩
  refine ⟨first, hfirst, (run_numbered hfirst (fun _ => .reload) acts).1, ?_⟩
  cases hfirst
  rfl

end TwoReloads

end Site

end QueryGate.Reload
