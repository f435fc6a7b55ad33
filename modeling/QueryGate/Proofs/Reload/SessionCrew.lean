import QueryGate.Proofs.Reload.Sparing

/-!
The tasks of a session keep on.

A session does what is due at once, one duty after the other. So its tasks are loops
whose rounds take no time, and whatever holds of every crew holds of them.
-/

namespace QueryGate.Reload

open Engine

variable {State Plan : Type}

namespace Service

variable (service : Service State Plan) (world : World)

theorem report_nil : service.report [] = service := by
  simp [report]

variable [Catalog.Hashing]

/-- A duty is to look at the schema, and to report a failure. -/
theorem perform_checkSchema : service.perform world .checkSchema =
    (service.checkSchema world).2.report
      (Duty.checkSchema.closing (service.checkSchema world).1) := by
  rw [perform]
  cases houtcome : service.checkSchema world with
  | mk outcome after =>
      cases outcome with
      | ok drifted => exact (report_nil after).symm
      | error e => rfl

/-- A duty is to reload, and to report a failure. -/
theorem perform_reload : service.perform world .reload =
    ((service.report Duty.reload.opening).reload world).2.report
      (Duty.reload.closing
        (((service.report Duty.reload.opening).reload world).1.map
          fun _ => true)) := by
  rw [perform, Duty.opening]
  cases houtcome : (service.report [.configurationChanged]).reload world with
  | mk outcome after =>
      cases outcome with
      | ok _ => exact (report_nil after).symm
      | error e => rfl

end Service

namespace Crew

/-- A rebuilder is at a stage, and all else is as a service has it. -/
structure Stands (crew : Crew) (duty : Duty) (loops : Loops) (stage : Stage)
    (holder : Option Nat) (service : Service State Plan)
    (before : List Notice) : Prop where
  loops : crew.loops = loops
  stage : crew.stage duty = stage
  holder : crew.site.holder = holder
  active : crew.site.active = service.active.snapshot
  journal : service.journal = before ++ crew.journal

section Standing

variable [Catalog.Hashing] {slack : Nat} {found : World → Prop} {crew : Crew}
  {duty : Duty} {loops : Loops} {stage next : Stage} {holder : Option Nat}
  {service : Service State Plan} {before : List Notice} {effect : Effect}
  {P : Crew → Prop}

namespace Stands

theorem move (h : crew.Stands duty loops stage holder service before)
    {world : World} (hfound : found world) (after : Service State Plan)
    (hacting : loops.phase duty = .acting)
    (hwork : crew.site.work duty.errand world stage = some (next, effect))
    (hactive : crew.site.activeAfter effect = after.active.snapshot)
    (hjournal : after.journal = service.journal ++ stage.notices world)
    (hnext : ∀ moved : Crew, moved.Stands duty loops next
      (crew.site.holderAfter (crew.worker duty) effect) after before →
      moved.Leads slack found P) :
    crew.Leads slack found P := by
  have hself : crew.site.stage (crew.worker duty) = stage := h.stage
  rw [← hself] at hwork
  obtain ⟨hholder', hactive'⟩ := Site.rebuild_of_work hwork
  have hstep : crew.step slack (.work duty world) = some ⟨crew.loops,
      crew.site.rebuild duty.errand (crew.worker duty) world,
      crew.journal ++ (crew.stage duty).notices world⟩ := by
    rw [step, h.loops, if_pos hacting, Crew.stage, hwork]
    rfl
  refine leads_work hfound hstep
    (hnext _ ⟨h.loops, Site.stage_rebuild_self hwork, hholder',
      hactive'.trans hactive, ?_⟩)
  rw [hjournal, h.journal, h.stage, List.append_assoc]

/-- A move that leaves what is shared alone. -/
theorem keep (h : crew.Stands duty loops stage holder service before)
    {world : World} (hfound : found world) (after : Service State Plan)
    (hacting : loops.phase duty = .acting)
    (hwork : crew.site.work duty.errand world stage = some (next, .nothing))
    (hactive : after.active.snapshot = service.active.snapshot)
    (hjournal : after.journal = service.journal ++ stage.notices world)
    (hnext : ∀ moved : Crew, moved.Stands duty loops next holder after before →
      moved.Leads slack found P) :
    crew.Leads slack found P :=
  h.move hfound after hacting hwork (h.active.trans hactive.symm) hjournal
    fun moved hmoved =>
    hnext moved ⟨hmoved.loops, hmoved.stage, hmoved.holder.trans h.holder,
      hmoved.active, hmoved.journal⟩

/-- Once it waits for the lock, a rebuilder does what a reload does. -/
theorem reload (h : crew.Stands duty loops .waiting none service before)
    (hacting : loops.phase duty = .acting) {world : World} (hfound : found world)
    (hnext : ∀ moved : Crew, moved.Stands duty loops
      (.returned ((service.reload world).1.map fun _ => true))
        none (service.reload world).2
      before → moved.Leads slack found P) : crew.Leads slack found P := by
  have hwaiting : crew.site.work duty.errand world .waiting =
      some (.locked, .acquires) := by
    simp [Site.work, h.holder]
  refine h.move hfound service hacting hwaiting h.active (List.append_nil _).symm
    fun locked hlocked => ?_
  refine hlocked.keep hfound service hacting rfl rfl (List.append_nil _).symm
    fun building hbuilding => ?_
  let read := (service.look world.looks).report world.notices
  have hgeneration : locked.site.active.generation = service.generation :=
    congrArg _ hlocked.active
  refine hbuilding.keep hfound read hacting rfl rfl rfl fun built hbuilt => ?_
  rw [build, hgeneration] at hbuilt
  cases hsnapshot : world.snapshot (service.generation + 1) with
  | error e =>
      rw [hsnapshot] at hbuilt
      rw [Service.reload_of_error hsnapshot] at hnext
      exact hbuilt.move hfound read hacting rfl hbuilt.active
        (List.append_nil _).symm hnext
  | ok snapshot =>
      rw [hsnapshot] at hbuilt
      rw [Service.reload_of_ok hsnapshot] at hnext
      let there := (read.publish snapshot).report
        [.published snapshot.generation snapshot.schema.shownDigest]
      refine hbuilt.move hfound there hacting rfl rfl rfl
        fun published hpublished => ?_
      exact hpublished.move hfound there hacting rfl hpublished.active
        (List.append_nil _).symm hnext

/-- A rebuilder that is called for a look at the schema does what such a look
does. -/
theorem checkSchema (h : crew.Stands .checkSchema loops .called none service before)
    (hacting : loops.phase .checkSchema = .acting) {world : World}
    (hfound : found world)
    (hnext : ∀ moved : Crew, moved.Stands .checkSchema loops
      (.returned (service.checkSchema world).1) none (service.checkSchema world).2
      before → moved.Leads slack found P) : crew.Leads slack found P := by
  have hcalled : crew.site.work Duty.checkSchema.errand world .called =
      some (.discovering service.active.snapshot, .nothing) := by
    rw [← h.active]
    rfl
  refine h.keep hfound service hacting hcalled rfl (List.append_nil _).symm
    fun seeing hseeing => ?_
  have hlook : seeing.site.work Duty.checkSchema.errand world
      (.discovering service.active.snapshot) =
        some (inspect service.active.snapshot world, .nothing) := rfl
  rw [← Service.checkSchemaThen_self] at hnext
  cases hseen : world.discover service.active.snapshot.blocklist with
  | error e =>
      rw [Service.checkSchemaThen_of_error hseen] at hnext
      simp only [inspect, hseen] at hlook
      refine hseeing.keep hfound (service.look 1) hacting hlook rfl ?_ hnext
      simp [Stage.notices, hseen, Service.look]
  | ok found =>
      cases hsame : found.sameStructure service.active.snapshot.schema with
      | true =>
          rw [Service.checkSchemaThen_of_same hseen hsame] at hnext
          simp only [inspect, hseen, hsame, if_true] at hlook
          refine hseeing.keep hfound (service.look 1) hacting hlook rfl ?_ hnext
          simp [Stage.notices, hseen, hsame, Service.look]
      | false =>
          simp only [inspect, hseen, hsame, Bool.false_eq_true, if_false] at hlook
          let drifted := (service.look 1).report [.schemaChanged
            service.active.snapshot.schema.shownDigest found.shownDigest]
          have hthen : service.checkSchemaThen world world =
              ((drifted.reload world).1.map fun _ => true,
                (drifted.reload world).2) := by
            simp [Service.checkSchemaThen, hseen, hsame, drifted]
          rw [hthen] at hnext
          refine hseeing.keep hfound drifted hacting hlook rfl ?_
            fun waiting hwaiting => hwaiting.reload hacting hfound hnext
          simp [Stage.notices, hseen, hsame, drifted, Service.report, Service.look]

/-- The loop goes on when its rebuilder has returned. -/
theorem finish {outcome : Except Error Bool}
    (h : crew.Stands duty loops (.returned outcome) holder service before)
    (hacting : loops.phase duty = .acting) :
    crew.Leads slack found fun later =>
      later.loops = (loops.setPhase duty .waiting).note (.ended duty) ∧
        later.site.active =
          (service.report (duty.closing outcome)).active.snapshot ∧
        (service.report (duty.closing outcome)).journal = before ++
          later.journal := by
  have hstep : crew.step slack (.beat (.finish duty)) =
      some ⟨(loops.setPhase duty .waiting).note (.ended duty), crew.site,
        crew.journal ++ duty.closing outcome⟩ := by
    simp [step, remarks?, h.stage, Stage.outcome?, Loops.step, h.loops, hacting]
  refine leads_beat hstep (leads_here ⟨rfl, h.active, ?_⟩)
  rw [Service.report, h.journal, List.append_assoc]

end Stands

/-- What a loop does when its time has come is what its duty is for the service, if
nobody else is at work. -/
theorem Tended.performs (h : crew.Tended)
    (hidle : ∀ duty, crew.loops.phase duty ≠ .acting)
    (hready : crew.loops.Ready duty)
    (hactive : crew.site.active = service.active.snapshot)
    (hjournal : service.journal = before ++ crew.journal) {world : World}
    (hfound : found world) :
    crew.Leads slack found fun later =>
      later.loops = ((((crew.loops.engage slack duty).setPhase duty .acting).note
        (.began duty)).setPhase duty .waiting).note (.ended duty) ∧
      later.site.active = (service.perform world duty).active.snapshot ∧
      (service.perform world duty).journal = before ++ later.journal := by
  let acting :=
    ((crew.loops.engage slack duty).setPhase duty .acting).note (.began duty)
  have hacting : acting.phase duty = .acting := if_pos rfl
  have hbeat : crew.loops.step slack (.begin duty) = some acting := if_pos hready
  have hstep : crew.step slack (.beat (.begin duty)) =
      some ⟨acting, crew.site, crew.journal ++ duty.opening⟩ := by
    simp [step, remarks?, hbeat]
  have hstands : Stands ⟨acting, crew.site, crew.journal ++ duty.opening⟩ duty
    acting .called none
      (service.report duty.opening) before := by
    refine ⟨rfl, ?_, h.released hidle, hactive, ?_⟩
    · have hbegin : Beat.begin duty ≠ .finish duty := by simp
      rw [stage, worker, rounds_of_step hbeat, if_neg hbegin]
      exact h.idle duty (hidle duty)
    · rw [Service.report, hjournal, List.append_assoc]
  refine leads_beat hstep ?_
  cases duty with
  | checkSchema =>
      rw [Duty.opening, Service.report_nil] at hstands
      rw [Service.perform_checkSchema]
      exact hstands.checkSchema hacting hfound fun moved hmoved =>
        hmoved.finish hacting
  | reload =>
      have hcalled : crew.site.work Duty.reload.errand world .called =
        some (.waiting, .nothing) := rfl
      refine hstands.keep hfound _ hacting hcalled rfl (List.append_nil _).symm
        fun waiting hwaiting => ?_
      rw [Service.perform_reload]
      exact hwaiting.reload hacting hfound fun moved hmoved => hmoved.finish hacting

end Standing

end Crew

namespace Tasks

/-- The timer of the watcher. Without a watcher there is none to set. -/
def timer (tasks : Tasks) : Debouncer :=
  (tasks.watcher.map Watcher.timer).getD (.idle 0)

/-- A task that was not started is like one that has ended. -/
def phase (tasks : Tasks) : Duty → Phase
  | .checkSchema => if tasks.poller.isSome then .waiting else .ended
  | .reload => if tasks.watcher.isSome then .waiting else .ended

/-- The loops of tasks that wait, all messages being received. -/
def loops (tasks : Tasks) (inbox : Inbox) (now : Nat) (log : List Entry) : Loops :=
  ⟨tasks.poller, inbox, tasks.timer, tasks.phase, now, false, log⟩

/-- When a duty is due. -/
def due? (tasks : Tasks) : Duty → Option Nat
  | .checkSchema => tasks.poller.map Poller.due
  | .reload => tasks.timer.due

variable {tasks : Tasks} {duty : Duty} {time due : Nat}

theorem due?_loops (tasks : Tasks) (inbox : Inbox) (now : Nat) (log : List Entry)
    (duty : Duty) : (tasks.loops inbox now log).due? duty = tasks.due? duty := by
  cases duty <;> rfl

theorem messages_loops (tasks : Tasks) {inbox : Inbox} (hempty : inbox.waiting = 0)
    (now : Nat) (log : List Entry) (duty : Duty) :
    (tasks.loops inbox now log).messages duty = 0 := by
  cases duty with
  | checkSchema => rfl
  | reload => exact hempty

theorem phase_ne_acting (tasks : Tasks) (duty : Duty) :
    tasks.phase duty ≠ .acting := by
  cases duty <;> simp only [phase] <;> split <;> exact nofun

/-- Only a task that was started has something to do. -/
theorem phase_of_due? (h : tasks.due? duty = some due) :
    tasks.phase duty = .waiting := by
  cases duty with
  | checkSchema =>
      obtain ⟨poller, hpoller, _⟩ := Option.map_eq_some_iff.mp h
      simp [phase, hpoller]
  | reload =>
      cases hwatcher : tasks.watcher with
      | none => simp [due?, timer, hwatcher, Debouncer.idle] at h
      | some watcher => simp [phase, hwatcher]

theorem nextBy?_eq (tasks : Tasks) (time : Nat) : tasks.nextBy? time =
    match (tasks.due? .checkSchema).filter (· ≤ time),
      (tasks.due? .reload).filter (· ≤ time) with
    | some p, some q => if q < p then some (.reload, q) else some (.checkSchema, p)
    | some p, .none => some (.checkSchema, p)
    | .none, some q => some (.reload, q)
    | .none, .none => .none := by
  have hquiet : (tasks.watcher.bind fun w => w.timer.dueBy? time) =
      (tasks.due? .reload).filter (· ≤ time) := by
    cases hwatcher : tasks.watcher <;>
      simp [due?, timer, hwatcher, Debouncer.dueBy?, Debouncer.idle]
  rw [nextBy?, hquiet]
  rfl

/-- What comes next is what is due first. -/
theorem due?_of_nextBy? (h : tasks.nextBy? time = some (duty, due)) :
    tasks.due? duty = some due ∧ due ≤ time ∧
      ∀ other later, tasks.due? other = some later → due ≤ later := by
  rw [nextBy?_eq] at h
  cases hcheck : tasks.due? .checkSchema <;> cases hreload : tasks.due? .reload <;>
    simp only [hcheck, hreload, Option.filter_none, Option.filter_some,
      decide_eq_true_eq] at h <;>
    refine ⟨by grind, by grind, fun other later hlater => ?_⟩ <;>
      cases other <;> grind

/-- Nothing is left to do when all that is due is due later. -/
theorem lt_of_nextBy?_eq_none (h : tasks.nextBy? time = .none)
    (hdue : tasks.due? duty = some due) : time < due := by
  rw [nextBy?_eq] at h
  cases hcheck : tasks.due? .checkSchema <;> cases hreload : tasks.due? .reload <;>
    simp only [hcheck, hreload, Option.filter_none, Option.filter_some,
      decide_eq_true_eq] at h <;>
    cases duty <;> grind

/-- After a duty was done, nothing is due earlier than it was. -/
theorem le_of_due?_after (h : tasks.nextBy? time = some (duty, due)) {other : Duty}
    {later : Nat} (hlater : (tasks.after duty).due? other = some later) :
    due ≤ later := by
  obtain ⟨hdue, _, hfirst⟩ := due?_of_nextBy? h
  cases duty with
  | checkSchema =>
      cases other with
      | reload => exact hfirst .reload later hlater
      | checkSchema =>
          obtain ⟨poller, hpoller, rfl⟩ := Option.map_eq_some_iff.mp hdue
          simp only [due?, after, hpoller, Option.map_some,
            Option.some.injEq] at hlater
          rw [← hlater]
          exact Nat.le_add_right _ _
  | reload =>
      cases other with
      | checkSchema => exact hfirst .checkSchema later hlater
      | reload =>
          cases hwatcher : tasks.watcher <;>
            simp [due?, after, timer, hwatcher, Debouncer.clear,
              Debouncer.idle] at hlater

/-- What loops have done when their time had come is what the tasks have done. -/
theorem loops_after (hdue : tasks.due? duty = some due) (slack : Nat)
    (inbox : Inbox) (log : List Entry) :
    ((((((tasks.loops inbox due log).engage slack duty).setPhase duty .acting).note
      (.began duty)).setPhase duty .waiting).note (.ended duty)) =
      (tasks.after duty).loops inbox due
        (⟨due, .ended duty⟩ :: ⟨due, .began duty⟩ :: log) := by
  cases duty with
  | checkSchema =>
      obtain ⟨poller, hpoller, rfl⟩ := Option.map_eq_some_iff.mp hdue
      have hphase : (fun other => if other = Duty.checkSchema then Phase.waiting
          else if other = .checkSchema then .acting else tasks.phase other) =
          (tasks.after .checkSchema).phase := by
        funext other
        cases other <;> simp [phase, after, hpoller]
      simp only [loops, Loops.note, Loops.setPhase, Loops.engage, hphase, hpoller]
      simp [after, timer, hpoller, Poller.tick]
  | reload =>
      cases hwatcher : tasks.watcher with
      | none => simp [due?, timer, hwatcher, Debouncer.idle] at hdue
      | some watcher =>
          have hphase : (fun other => if other = Duty.reload then Phase.waiting
              else if other = .reload then .acting else tasks.phase other) =
              (tasks.after .reload).phase := by
            funext other
            cases other <;> simp [phase, after, hwatcher]
          simp only [loops, Loops.note, Loops.setPhase, Loops.engage, hphase]
          simp [after, timer, hwatcher]

@[simp] theorem phase_touch (tasks : Tasks) (present : List String) (path : String)
    (now : Nat) : (tasks.touch present path now).phase = tasks.phase := by
  funext duty
  cases duty with
  | checkSchema => rfl
  | reload => simp [phase, touch]

/-- A watcher takes no notice of a file, or it sets its timer. -/
theorem touch_cases (tasks : Tasks) (present : List String) (path : String)
    (now : Nat) :
    tasks.touch present path now = tasks ∨
      tasks.watcher.isSome ∧ (tasks.touch present path now).timer =
        tasks.timer.event now := by
  cases hwatcher : tasks.watcher with
  | none =>
      rw [touch, hwatcher, Option.map_none, ← hwatcher]
      exact Or.inl rfl
  | some watcher =>
      by_cases hnotices : watcher.scope.notices present path = true
      · exact Or.inr ⟨rfl, by simp [timer, touch, hwatcher, hnotices]⟩
      · rw [touch, hwatcher, Option.map_some, if_neg hnotices, ← hwatcher]
        exact Or.inl rfl

/-- Nothing is due at once because a timer was set. -/
theorem le_of_due?_touch {present : List String} {path : String} {now : Nat}
    (htimer : (tasks.touch present path now).timer = tasks.timer.event now)
    (hearly : ∀ duty due, tasks.due? duty = some due → now ≤ due)
    (hdue : (tasks.touch present path now).due? duty = some due) : now ≤ due := by
  cases duty with
  | checkSchema => exact hearly .checkSchema due hdue
  | reload =>
      rw [due?, htimer] at hdue
      exact Nat.le_of_add_right_le (Nat.le_of_eq (Option.some.inj hdue))

/-- A message that was sent is received at once, and sets the timer. -/
theorem receive_loops (hwatcher : tasks.watcher.isSome) {present : List String}
    {path : String} {now : Nat}
    (htimer : (tasks.touch present path now).timer = tasks.timer.event now)
    {inbox : Inbox} (htake : inbox.offer.take = inbox) (slack : Nat)
    (log : List Entry) :
    (tasks.loops inbox.offer now log).step slack .receive =
      some ((tasks.touch present path now).loops inbox now
        (⟨now, .heard⟩ :: log)) := by
  have hlistens : (tasks.loops inbox.offer now log).Listens .reload :=
    ⟨if_pos hwatcher, rfl⟩
  rw [Loops.step, if_pos ⟨hlistens, inbox.waiting_offer_pos⟩]
  simp only [Loops.note, loops, phase_touch, htimer, htake]
  rfl

end Tasks

theorem Inbox.take_offer_empty (capacity : Nat) (h : 0 < capacity) :
    (empty capacity h).offer.take = empty capacity h := by
  simp [empty, offer, take, h]

theorem Log.Quick.cons {slack : Nat} {poller : Poller} {entry : Entry}
    {log : List Entry} (h : Quick slack poller log)
    (hentry : entry.deed = .ended .checkSchema →
      entry.time ≤ tick slack poller log) :
    Quick slack poller (entry :: log) := by
  intro time older hsuffix
  rcases List.suffix_cons_iff.mp hsuffix with hsame | hsuffix
  · cases hsame
    exact hentry rfl
  · exact h time older hsuffix

namespace Crew

/-- A crew has come as far as the tasks of a session, having been started like them.
The checks of a session take no time. -/
structure Mirrors (crew : Crew) (slack : Nat) (first : Crew) (inbox : Inbox)
    (service : Service State Plan) (tasks : Tasks) (now : Nat)
    (before : List Notice) : Prop where
  regular : first.loops.Regular slack crew.loops
  tended : crew.Tended
  loops : crew.loops = tasks.loops inbox now crew.loops.log
  early : ∀ duty due, tasks.due? duty = some due → now ≤ due
  quick : ∀ poller ∈ first.loops.poller, Log.Quick slack poller crew.loops.log
  active : crew.site.active = service.active.snapshot
  journal : service.journal = before ++ crew.journal

namespace Mirrors

variable {slack : Nat} {found : World → Prop} {first crew : Crew} {inbox : Inbox}
  {service : Service State Plan} {tasks : Tasks} {now time due : Nat} {duty : Duty}
  {before : List Notice}

/-- The log tells when the poller is due. -/
theorem tick_eq (h : crew.Mirrors slack first inbox service tasks now before)
    {poller : Poller} (hpoller : first.loops.poller = some poller)
    (hdue : tasks.due? .checkSchema = some due) :
    Log.tick slack poller crew.loops.log = due := by
  have hkept : tasks.poller = (first.loops.habits slack).poller.map fun poller =>
      { poller with due := Log.tick slack poller crew.loops.log } := by
    rw [← show crew.loops.poller = tasks.poller by rw [h.loops]; rfl]
    exact h.regular.poller
  rw [Tasks.due?, hkept, Loops.habits, hpoller] at hdue
  exact Option.some.inj hdue

variable [Catalog.Hashing]

/-- A beat at which a crew reports nothing. -/
theorem beat (h : crew.Mirrors slack first inbox service tasks now before)
    {beat : Beat} {loops' : Loops}
    (hstep : crew.loops.step slack beat = some loops')
    (hremarks : crew.remarks? beat = some []) {inbox' : Inbox} {tasks' : Tasks}
    {now' : Nat} (hloops : loops' = tasks'.loops inbox' now' loops'.log)
    (hearly : ∀ duty due, tasks'.due? duty = some due → now' ≤ due)
    (hquick : ∀ poller ∈ first.loops.poller, Log.Quick slack poller loops'.log) :
    crew.step slack (.beat beat) = some ⟨loops', crew.site, crew.journal⟩ ∧
      Mirrors ⟨loops', crew.site, crew.journal⟩ slack first inbox' service tasks'
        now' before := by
  have hwhole : crew.step slack (.beat beat) =
      some ⟨loops', crew.site, crew.journal⟩ := by
    simp [step, hremarks, hstep]
  exact ⟨hwhole, h.regular.step hstep, h.tended.comes (comes_of_step hwhole),
    hloops, hearly, hquick, h.active, h.journal⟩

/-- Time passes until something is due at the earliest. -/
theorem pass (h : crew.Mirrors slack first inbox service tasks now before)
    (hempty : inbox.waiting = 0) (hnow : now ≤ time)
    (hearly : ∀ duty due, tasks.due? duty = some due → time ≤ due) :
    ∃ later, crew.step slack (.beat (.pass (time - now))) = some later ∧
      later.Mirrors slack first inbox service tasks time before := by
  have hrests : ∀ duty, crew.loops.Rests (time - now) duty := by
    rw [h.loops]
    intro duty _
    refine ⟨rfl, tasks.messages_loops hempty _ _ duty, fun due hdue => ?_⟩
    rw [Tasks.due?_loops] at hdue
    have hlater := hearly duty due hdue
    show now + (time - now) ≤ due
    omega
  have hstep : crew.loops.step slack (.pass (time - now)) =
      some { crew.loops with now := crew.loops.now + (time - now) } :=
    if_pos ⟨hrests .checkSchema, hrests .reload⟩
  refine ⟨_, h.beat hstep rfl ?_ hearly h.quick⟩
  rw [h.loops]
  simp only [Tasks.loops, Nat.add_sub_cancel' hnow]

/-- The crew does what is due, as the tasks do. -/
theorem perform (h : crew.Mirrors slack first inbox service tasks now before)
    (hempty : inbox.waiting = 0) (hnext : tasks.nextBy? time = some (duty, due))
    {world : World} (hfound : found world) : crew.Leads slack found fun later =>
      later.Mirrors slack first inbox (service.perform world duty)
        (tasks.after duty) due
        before := by
  obtain ⟨hdue, _, hfirst⟩ := Tasks.due?_of_nextBy? hnext
  obtain ⟨ripe, hstep, hripe⟩ := h.pass hempty (h.early duty due hdue) hfirst
  refine leads_beat hstep ?_
  have hready : ripe.loops.Ready duty := by
    rw [hripe.loops]
    refine ⟨⟨Tasks.phase_of_due? hdue, rfl⟩, tasks.messages_loops hempty _ _ duty,
      due, ?_, Nat.le_refl due⟩
    rw [Tasks.due?_loops]
    exact hdue
  have hidle : ∀ other, ripe.loops.phase other ≠ .acting := by
    rw [hripe.loops]
    exact tasks.phase_ne_acting
  obtain ⟨actions, later, hrun, ⟨hloops, hactive, hjournal⟩, hactions⟩ :=
    hripe.tended.performs hidle hready hripe.active hripe.journal hfound
  rw [hripe.loops, Tasks.loops_after hdue] at hloops
  refine ⟨actions, later, hrun, ?_, hactions⟩
  constructor
  case regular => exact hripe.regular.run (loops_run? hrun)
  case tended => exact hripe.tended.run hrun
  case loops => rw [hloops]; rfl
  case early => exact fun _ _ hlater => Tasks.le_of_due?_after hnext hlater
  case quick =>
    intro poller hpoller
    rw [hloops]
    refine ((hripe.quick poller hpoller).cons fun hbegan => by cases hbegan).cons
      fun hended => ?_
    -- The check began at its tick, and ends at the same time.
    obtain rfl : duty = .checkSchema := Deed.ended.inj hended
    have htick := hripe.tick_eq hpoller hdue
    rw [Log.tick, htick, if_pos (Nat.le_add_right _ _)]
    exact Nat.le_add_right _ _
  case active => exact hactive
  case journal => exact hjournal

/-- The crew does all that is due by some time, as the tasks do. -/
theorem runUntil (h : crew.Mirrors slack first inbox service tasks now before)
    (hempty : inbox.waiting = 0) (hnow : now ≤ time) {world : World}
    (hfound : found world) :
    crew.Leads slack found fun later => later.Mirrors slack first inbox
      (runUntil world time service tasks).1 (runUntil world time service tasks).2
        time before := by
  fun_induction Reload.runUntil world time service tasks generalizing crew now with
  | case1 service tasks duty due hnext ih =>
      exact (h.perform hempty hnext hfound).trans fun later hlater =>
        ih hlater (Tasks.due?_of_nextBy? hnext).2.1
  | case2 service tasks hnext =>
      obtain ⟨later, hstep, hlater⟩ := h.pass hempty hnow fun duty due hdue =>
        Nat.le_of_lt (Tasks.lt_of_nextBy?_eq_none hnext hdue)
      exact leads_beat hstep (leads_here hlater)

/-- A file was written. The watcher is sent a message about it, if it concerns it,
and receives that at once. -/
theorem touch (h : crew.Mirrors slack first inbox service tasks now before)
    (htake : inbox.offer.take = inbox) (present : List String) (path : String) :
    crew.Leads slack found fun later => later.Mirrors slack first inbox service
      (tasks.touch present path now) now before := by
  rcases tasks.touch_cases present path now with hsame | ⟨hwatcher, htimer⟩
  · rw [hsame]
    exact leads_here h
  · have hsignal : crew.loops.step slack (.signal .changed) =
        some (tasks.loops inbox.offer now (⟨now, .noticed⟩ :: crew.loops.log)) := by
      rw [h.loops]
      rfl
    have hquick : ∀ poller ∈ first.loops.poller,
        Log.Quick slack poller (⟨now, .noticed⟩ :: crew.loops.log) :=
          fun poller hpoller =>
      (h.quick poller hpoller).cons fun hended => by cases hended
    obtain ⟨hsend, hsent⟩ := h.beat hsignal rfl rfl h.early hquick
    have hreceive := Tasks.receive_loops hwatcher htimer htake slack
      (⟨now, .noticed⟩ :: crew.loops.log)
    obtain ⟨hhear, hheard⟩ := hsent.beat hreceive rfl rfl
      (fun _ _ => Tasks.le_of_due?_touch htimer h.early) fun poller hpoller =>
        (hquick poller hpoller).cons fun hended => by cases hended
    exact leads_beat hsend (leads_beat hhear (leads_here hheard))

end Mirrors

/-- A crew has come as far as a session. -/
def Accompanies (crew : Crew) (slack : Nat) (first : Crew) (inbox : Inbox)
    (session : Session State Plan) (before : List Notice) : Prop :=
  ∃ tasks, session.tasks = some tasks ∧
    crew.Mirrors slack first inbox session.service tasks session.now before

section Accompanying

variable [Catalog.Hashing] {slack : Nat} {found : World → Prop} {first crew : Crew}
  {capacity : Nat} {hcapacity : 0 < capacity} {session : Session State Plan}
  {before : List Notice}

theorem Accompanies.meet
    (h : crew.Accompanies slack first (.empty capacity hcapacity) session before)
    (happening : Happening)
    (hfound : ∀ world time, happening = .advance world time → found world) :
    crew.Leads slack found fun later =>
      later.Accompanies slack first (.empty capacity hcapacity)
        (session.meet happening)
        before := by
  obtain ⟨tasks, htasks, hmirrors⟩ := h
  cases happening with
  | touch present path =>
      refine (hmirrors.touch (Inbox.take_offer_empty _ _) present path).trans
        fun later hlater =>
        leads_here ⟨_, ?_, hlater⟩
      simp [Session.meet, Session.touch, htasks]
  | advance world time =>
      have hadvanced : session.meet (.advance world time) =
          ⟨(runUntil world (session.now + time) session.service tasks).1,
            session.now + time,
            some (runUntil world (session.now + time) session.service
              tasks).2⟩ := by
        simp [Session.meet, Session.advance, htasks]
      rw [hadvanced]
      exact (hmirrors.runUntil rfl (Nat.le_add_right _ _)
        (hfound world time rfl)).trans fun later hlater =>
          leads_here ⟨_, rfl, hlater⟩

theorem Accompanies.follow
    (h : crew.Accompanies slack first (.empty capacity hcapacity) session before)
    (happenings : List Happening)
    (hfound : ∀ world time, .advance world time ∈ happenings → found world) :
    crew.Leads slack found fun later =>
      later.Accompanies slack first (.empty capacity hcapacity)
        (session.follow happenings)
        before := by
  induction happenings generalizing crew session with
  | nil => exact leads_here h
  | cons happening rest ih =>
      refine (h.meet happening fun world time hsame => hfound world time ?_).trans
        fun later hlater => ih hlater fun world time hmem => hfound world time ?_
      · exact List.mem_cons.mpr (Or.inl hsame.symm)
      · exact List.mem_cons_of_mem _ hmem

end Accompanying

end Crew

namespace Site

/-- A snapshot is active, and nobody was called yet. The snapshots before it do not
matter. -/
def settled (active : Snapshot) : Site :=
  ⟨active, none, fun _ => .called, active.generation + 1,
    (List.range (active.generation + 1)).map fun n =>
      ⟨{ active with generation := n }, none, n, n⟩,
    fun _ => []⟩

theorem orderly_settled (active : Snapshot) (errands : Nat → Errand) :
    (settled active).Orderly errands := by
  constructor
  case lock => exact fun who => ⟨fun h => (by cases h), fun h => (by cases h)⟩
  case sound => exact fun who => trivial
  case number => simp [settled]
  case generations => simp [settled, Function.comp_def]
  case current =>
    refine ⟨⟨active, none, active.generation, active.generation⟩, ?_, rfl⟩
    simp [settled, List.range_succ]
  case past =>
    intro p hp
    obtain ⟨n, hn, rfl⟩ := List.mem_map.mp hp
    exact List.mem_range.mp hn
  case fresh => exact List.pairwise_map.mpr List.pairwise_lt_range
  case once => exact fun who h => (by cases h)
  case never =>
    intro who _
    refine List.filter_eq_nil_iff.mpr fun p hp => ?_
    obtain ⟨n, _, rfl⟩ := List.mem_map.mp hp
    simp
  case seen => exact fun reader => List.Pairwise.nil
  case caughtUp => exact fun reader => List.forall_mem_nil _

end Site

namespace Session

/-- The crew of a session that starts its tasks. Its channel has room for some
messages. -/
def crew (session : Session State Plan) (options : TaskOptions)
    (root : Option WatchRoot) (inbox : Inbox) : Crew :=
  let snapshot := session.service.active.snapshot
  ⟨(Tasks.start snapshot.settings options root session.now).loops inbox
    session.now [], .settled snapshot, []⟩

variable (session : Session State Plan) (options : TaskOptions)
  (root : Option WatchRoot) {inbox : Inbox}

theorem timer_start (settings : Settings) (now : Nat) :
    (Tasks.start settings options root now).timer.due = none := by
  unfold Tasks.start Tasks.watcher? Tasks.timer
  split
  · split <;> rfl
  · rfl

/-- The first look at the schema comes after a whole interval. -/
theorem due_start {settings : Settings} {now : Nat} {poller : Poller}
    (hpoller : (Tasks.start settings options root now).poller = some poller) :
    poller.due = now + poller.interval := by
  obtain ⟨seconds, _, hstarted⟩ := Option.bind_eq_some_iff.mp hpoller
  split at hstarted
  · cases hstarted
    rfl
  · cases hstarted

/-- Nothing is due when the tasks are started. -/
theorem le_of_due?_start (settings : Settings) (now : Nat) {duty : Duty} {due : Nat}
    (hdue : (Tasks.start settings options root now).due? duty = some due) :
    now ≤ due := by
  cases duty with
  | checkSchema =>
      obtain ⟨poller, hpoller, rfl⟩ := Option.map_eq_some_iff.mp hdue
      rw [due_start options root hpoller]
      exact Nat.le_add_right _ _
  | reload =>
      rw [Tasks.due?, timer_start] at hdue
      cases hdue

theorem fresh_crew (hempty : inbox.waiting = 0) :
    (session.crew options root inbox).Fresh where
  loops := {
    log := rfl
    quiet := timer_start ..
    empty := hempty
    uncancelled := rfl
    idle := Tasks.phase_ne_acting _
    early := fun poller hpoller => by
      have hdue : (Tasks.start session.service.active.snapshot.settings options root
          session.now).due? .checkSchema = some poller.due :=
        congrArg (Option.map Poller.due) hpoller
      exact le_of_due?_start options root _ _ hdue }
  orderly := Site.orderly_settled _ _
  uncalled := fun _ => rfl
  journal := rfl

theorem accompanies_crew [Catalog.Hashing] (slack : Nat)
    (hempty : inbox.waiting = 0) :
    (session.crew options root inbox).Accompanies slack
      (session.crew options root inbox) inbox (session.start options root)
      (session.service.journal ++ Tasks.notices options root) := by
  have hfresh := session.fresh_crew options root hempty
  refine ⟨_, rfl, hfresh.loops.regular slack, hfresh.tended, rfl,
    fun duty due hdue => ?_, fun poller _ time older hsuffix =>
      ?_, rfl, (List.append_nil _).symm⟩
  · exact le_of_due?_start options root _ _ hdue
  · cases List.eq_nil_of_suffix_nil hsuffix

end Session

end QueryGate.Reload
