import QueryGate.Proofs.Reload.SessionCrew

/-!
When the poller looks, and what is active then.

The poller gets its interval from the settings that are active when the tasks are
started. Reloads may bring settings with another interval, or with none, and the
poller goes on as before: it also looks at the schema when the active settings say
that nobody should. Where no world has such settings this cannot happen.
-/

namespace QueryGate.Reload

open Engine

variable {State Plan : Type}

namespace Poller

/-- The times of the next ticks. -/
def times (poller : Poller) (count : Nat) : List Nat :=
  (List.range count).map fun tick => poller.due + tick * poller.interval

/-- The poller after some ticks. -/
def skip (poller : Poller) (count : Nat) : Poller :=
  { poller with due := poller.due + count * poller.interval }

theorem skip_zero (poller : Poller) : poller.skip 0 = poller := by
  simp [skip]

theorem skip_skip (poller : Poller) (count more : Nat) :
    (poller.skip count).skip more = poller.skip (count + more) := by
  simp [skip, Nat.add_mul, Nat.add_assoc]

theorem times_add (poller : Poller) (count more : Nat) :
    poller.times (count + more) = poller.times count ++
      (poller.skip count).times more := by
  simp [times, skip, List.range_add, Nat.add_mul, Nat.add_assoc, Function.comp_def]

/-- A poller has come to a time, and has ticked at some times until then: all that
were due, and no others. -/
def Ticks (poller : Poller) (now : Nat) (times : List Nat)
    (after : Poller) : Prop :=
  ∃ count, times = poller.times count ∧ after = poller.skip count ∧
    now < after.due ∧
    (0 < count → after.due ≤ now + poller.interval)

variable {poller middle after : Poller} {now later : Nat} {times more : List Nat}

theorem ticks_none (h : now < poller.due) : poller.Ticks now [] poller :=
  ⟨0, rfl, poller.skip_zero.symm, h, fun hpos => absurd hpos (Nat.lt_irrefl 0)⟩

/-- A tick that is due comes before the others. -/
theorem Ticks.cons (h : (poller.skip 1).Ticks now times after)
    (hdue : poller.due ≤ now) : poller.Ticks now (poller.due :: times) after := by
  obtain ⟨count, rfl, rfl, hnow, hlast⟩ := h
  refine ⟨1 + count, ?_, skip_skip poller 1 count, hnow, fun _ => ?_⟩
  · rw [times_add]
    simp [Poller.times]
  · rcases Nat.eq_zero_or_pos count with rfl | hpos
    · simpa [skip] using hdue
    · exact hlast hpos

theorem Ticks.trans (h : poller.Ticks now times middle)
    (hmore : middle.Ticks later more after) (hle : now ≤ later) :
    poller.Ticks later (times ++ more) after := by
  obtain ⟨count, rfl, rfl, _, hlast⟩ := h
  obtain ⟨others, rfl, rfl, hlater, hothers⟩ := hmore
  refine ⟨count + others, (poller.times_add count others).symm,
    skip_skip poller count others, hlater, fun hpos => ?_⟩
  rcases Nat.eq_zero_or_pos others with rfl | hpos'
  · rw [skip_zero]
    exact Nat.le_trans (hlast hpos) (Nat.add_le_add_right hle _)
  · exact hothers hpos'

/-- How often a poller has ticked follows from its interval, and from how long it
has run. -/
theorem Ticks.eq (h : poller.Ticks now times after) {start : Nat}
    (hstart : start ≤ now) (hdue : poller.due = start + poller.interval) :
    times = poller.times ((now - start) / poller.interval) := by
  obtain ⟨count, rfl, rfl, hnow, hlast⟩ := h
  simp only [skip, hdue] at hnow hlast
  have hcount : (now - start) / poller.interval = count := by
    refine Nat.div_eq_of_lt_le ?_ ?_
    · rcases Nat.eq_zero_or_pos count with rfl | hpos
      · simp
      · have := hlast hpos
        omega
    · rw [Nat.succ_mul]
      omega
  rw [hcount]

end Poller

/-- A look that the poller takes at the schema, and the snapshot that is active
then. -/
structure Poll where
  time : Nat
  active : Snapshot

/-- The active settings do not say that nobody should look. -/
def Poll.Wanted (poll : Poll) : Prop :=
  poll.active.settings.pollInterval.isSome

/-- The look that is taken as a duty. -/
def Duty.polls (duty : Duty) (due : Nat) (active : Snapshot) : List Poll :=
  match duty with
  | .checkSchema => [⟨due, active⟩]
  | .reload => []

/-- The looks that are taken while `runUntil` does all that is due by a given
time. -/
def pollsUntil [Catalog.Hashing] (world : World) (time : Nat)
    (service : Service State Plan) (tasks : Tasks) : List Poll :=
  match _h : tasks.nextBy? time with
  | some (duty, due) =>
      duty.polls due service.active.snapshot ++
        pollsUntil world time (service.perform world duty) (tasks.after duty)
  | none => []
termination_by tasks.backlog time
decreasing_by exact Tasks.backlog_after_lt _h

/-- A snapshot is there since some other one was, or was built later of one of some
worlds. -/
def Since (first : Snapshot) (worlds : List World) (snapshot : Snapshot) : Prop :=
  snapshot = first ∨
    first.generation < snapshot.generation ∧
    ∃ world ∈ worlds, snapshot.BuiltFrom world

namespace Since

variable {first : Snapshot} {worlds : List World}
  {before after : Service State Plan}

theorem of_publishes (h : Since first worlds before.active.snapshot) {world : World}
    (hworld : world ∈ worlds) (hpublishes : Service.Publishes world before after) :
    Since first worlds after.active.snapshot := by
  obtain ⟨snapshot, hbuilt, hnumber, hactive, _⟩ := hpublishes
  have hle : first.generation ≤ before.generation := by
    rcases h with hfirst | ⟨hlater, _⟩
    · exact Nat.le_of_eq (congrArg Snapshot.generation hfirst).symm
    · exact Nat.le_of_lt hlater
  rw [hactive]
  refine Or.inr ⟨?_, world, hworld, hbuilt⟩
  show first.generation < snapshot.generation
  omega

theorem of_keeps (h : Since first worlds before.active.snapshot)
    (hkeeps : before.Keeps after) : Since first worlds after.active.snapshot := by
  rw [hkeeps.1]
  exact h

variable [Catalog.Hashing]

theorem perform (h : Since first worlds before.active.snapshot) {world : World}
    (hworld : world ∈ worlds) (duty : Duty) :
    Since first worlds (before.perform world duty).active.snapshot := by
  cases duty with
  | checkSchema =>
      rw [Service.perform_checkSchema, ← Service.checkSchemaThen_self]
      rcases before.checkSchemaThen_cases world world with
        ⟨_, _, hkeeps⟩ | ⟨_, hkeeps⟩ | ⟨_, hpublishes⟩
      · exact h.of_keeps hkeeps
      · exact h.of_keeps hkeeps
      · exact h.of_publishes hworld hpublishes
  | reload =>
      have hreported : Since first worlds
        (before.report Duty.reload.opening).active.snapshot := h
      rw [Service.perform_reload]
      rcases (before.report Duty.reload.opening).reload_cases world with
        ⟨_, _, _, hkeeps⟩ | ⟨_, hpublishes⟩
      · exact hreported.of_keeps hkeeps
      · exact hreported.of_publishes hworld hpublishes

theorem handle (h : Since first worlds before.active.snapshot)
    (backend : Backend State Plan) {event : Event}
    (hworlds : ∀ world ∈ event.world?, world ∈ worlds) :
    Since first worlds (before.handle backend event).2.active.snapshot := by
  rcases before.handle_cases backend event with
    ⟨_, _, hkeeps⟩ | ⟨_, _, world, hworld, hpublishes⟩ | ⟨_, _, hactive, _⟩
  · exact h.of_keeps hkeeps
  · exact h.of_publishes (hworlds world hworld) hpublishes
  · rw [hactive]
    exact h

end Since

namespace Service

variable [Catalog.Hashing]

theorem looks_reload (service : Service State Plan) (world : World) :
    service.looks ≤ (service.reload world).2.looks := by
  cases hsnapshot : world.snapshot (service.generation + 1) with
  | error e =>
      rw [reload_of_error hsnapshot]
      exact Nat.le_add_right _ _
  | ok snapshot =>
      rw [reload_of_ok hsnapshot]
      exact Nat.le_add_right _ _

theorem looks_checkSchemaThen (service : Service State Plan) (seen world : World) :
    service.looks + 1 ≤ (service.checkSchemaThen seen world).2.looks := by
  simp only [checkSchemaThen]
  split
  · split
    · exact Nat.le_refl _
    · exact looks_reload ((service.look 1).report _) world
  · exact Nat.le_refl _

/-- A duty to look at the schema is done, whatever the settings say. -/
theorem looks_perform (service : Service State Plan) (world : World) (duty : Duty)
    (due : Nat) :
    service.looks + (duty.polls due service.active.snapshot).length ≤
      (service.perform world duty).looks := by
  cases duty with
  | checkSchema =>
      rw [perform_checkSchema, ← checkSchemaThen_self]
      exact looks_checkSchemaThen service world world
  | reload =>
      rw [perform_reload]
      exact looks_reload (service.report Duty.reload.opening) world

theorem looks_handle (service : Service State Plan) (backend : Backend State Plan)
    (event : Event) : service.looks ≤ (service.handle backend event).2.looks := by
  cases event with
  | reload world => exact looks_reload service world
  | checkSchema seen world =>
      exact Nat.le_of_succ_le (looks_checkSchemaThen service seen world)
  | compile request => exact Nat.le_refl _
  | compileHeld generation request =>
      simp only [handle]
      split <;> exact Nat.le_refl _

end Service

section Until

variable [Catalog.Hashing] {world : World} {time due : Nat}
  {service : Service State Plan} {tasks : Tasks} {duty : Duty}

theorem pollsUntil_of_some (h : tasks.nextBy? time = some (duty, due)) :
    pollsUntil world time service tasks = duty.polls due service.active.snapshot ++
      pollsUntil world time (service.perform world duty) (tasks.after duty) := by
  rw [pollsUntil]
  split
  · next hnext =>
      rw [h] at hnext
      cases hnext
      rfl
  · next hnext =>
      rw [h] at hnext
      cases hnext

theorem pollsUntil_of_none (h : tasks.nextBy? time = none) :
    pollsUntil world time service tasks = [] := by
  rw [pollsUntil]
  split
  · next hnext =>
      rw [h] at hnext
      cases hnext
  · rfl

/-- Whatever reloads bring, the poller ticks at its times. -/
theorem ticks_runUntil (world : World) (time : Nat) (service : Service State Plan)
    (tasks : Tasks) {poller : Poller} (hpoller : tasks.poller = some poller) :
    ∃ after, (runUntil world time service tasks).2.poller = some after ∧
      poller.Ticks time ((pollsUntil world time service tasks).map Poll.time)
        after := by
  fun_induction runUntil world time service tasks generalizing poller with
  | case1 service tasks duty due hnext ih =>
      rw [pollsUntil_of_some hnext]
      obtain ⟨hdue, htime, _⟩ := Tasks.due?_of_nextBy? hnext
      cases duty with
      | checkSchema =>
          rw [Tasks.due?, hpoller, Option.map_some, Option.some.injEq] at hdue
          subst hdue
          have hskip : (tasks.after .checkSchema).poller =
              some (poller.skip 1) := by
            simp [Tasks.after, hpoller, Poller.skip]
          obtain ⟨after, hafter, hticks⟩ := ih hskip
          exact ⟨after, hafter, hticks.cons htime⟩
      | reload => exact ih hpoller
  | case2 service tasks hnext =>
      have hdue : tasks.due? .checkSchema = some poller.due := by
        rw [Tasks.due?, hpoller, Option.map_some]
      rw [pollsUntil_of_none hnext]
      exact ⟨poller, hpoller,
        Poller.ticks_none (Tasks.lt_of_nextBy?_eq_none hnext hdue)⟩

/-- Without a poller nobody looks. -/
theorem pollsUntil_eq_nil (world : World) (time : Nat)
    (service : Service State Plan) (tasks : Tasks) (hpoller : tasks.poller = none) :
    (runUntil world time service tasks).2.poller = none ∧
      pollsUntil world time service tasks = [] := by
  fun_induction runUntil world time service tasks with
  | case1 service tasks duty due hnext ih =>
      rw [pollsUntil_of_some hnext]
      obtain ⟨hdue, _, _⟩ := Tasks.due?_of_nextBy? hnext
      cases duty with
      | checkSchema =>
          rw [Tasks.due?, hpoller] at hdue
          cases hdue
      | reload => exact ih hpoller
  | case2 service tasks hnext => exact ⟨hpoller, pollsUntil_of_none hnext⟩

/-- Each look of the poller asks the database, whatever the settings say. -/
theorem looks_runUntil (world : World) (time : Nat) (service : Service State Plan)
    (tasks : Tasks) : service.looks + (pollsUntil world time service tasks).length ≤
      (runUntil world time service tasks).1.looks := by
  fun_induction runUntil world time service tasks with
  | case1 service tasks duty due hnext ih =>
      rw [pollsUntil_of_some hnext, List.length_append, ← Nat.add_assoc]
      exact Nat.le_trans (Nat.add_le_add_right
        (service.looks_perform world duty due) _) ih
  | case2 service tasks hnext => simp [pollsUntil_of_none hnext]

variable {first : Snapshot} {worlds : List World}

/-- Each look of the poller comes upon a snapshot that is there since the tasks were
started, or was built later of a world. -/
theorem since_runUntil (hworld : world ∈ worlds)
    (h : Since first worlds service.active.snapshot) :
    Since first worlds (runUntil world time service tasks).1.active.snapshot ∧
      ∀ poll ∈ pollsUntil world time service tasks,
        Since first worlds poll.active := by
  fun_induction runUntil world time service tasks with
  | case1 service tasks duty due hnext ih =>
      obtain ⟨hlater, hpolls⟩ := ih (h.perform hworld duty)
      refine ⟨hlater, ?_⟩
      rw [pollsUntil_of_some hnext]
      refine List.forall_mem_append.mpr ⟨fun poll hpoll => ?_, hpolls⟩
      cases duty with
      | checkSchema =>
          rw [List.mem_singleton.mp hpoll]
          exact h
      | reload => cases hpoll
  | case2 service tasks hnext =>
      rw [pollsUntil_of_none hnext]
      exact ⟨h, List.forall_mem_nil _⟩

end Until

/-- What happens to a session. Somebody may ask something of the service, perhaps to
reload. -/
inductive Occasion where
  | around (happening : Happening)
  | asked (event : Event)

namespace Occasion

def time : Occasion → Nat
  | .around happening => happening.time
  | .asked _ => 0

/-- How much time passes on some occasions. -/
def elapsed : List Occasion → Nat
  | [] => 0
  | occasion :: rest => occasion.time + elapsed rest

/-- The worlds that new snapshots may be built of. -/
def worlds : Occasion → List World
  | .around (.advance world _) => [world]
  | .around (.touch _ _) => []
  | .asked event => event.world?.toList

end Occasion

namespace Session

/-- An interval of less than five seconds is replaced, and none is used that is
negative. -/
theorem pollInterval_eq_some_iff {settings : Settings} {seconds : Nat} :
    settings.pollInterval = some seconds ↔ settings.restricted = false ∧
      0 ≤ settings.pollSeconds ∧
      (seconds : Int) = if settings.pollSeconds < 5 then 10
        else settings.pollSeconds := by
  simp only [Settings.pollInterval, Settings.shortestPoll, Settings.fallbackPoll]
  cases settings.restricted with
  | true => simp
  | false =>
      by_cases hnegative : settings.pollSeconds < 0
      · have : ¬ 0 ≤ settings.pollSeconds := by omega
        simp [hnegative, this]
      · by_cases hbrief : settings.pollSeconds < 5
        · simp only [Bool.false_eq_true, hnegative, hbrief, if_true, if_false,
            Option.some.injEq, true_and]
          omega
        · simp only [Bool.false_eq_true, hnegative, hbrief, if_false,
            Option.some.injEq, true_and]
          omega

theorem pollInterval_pos {settings : Settings} {seconds : Nat}
    (h : settings.pollInterval = some seconds) : 0 < seconds := by
  obtain ⟨_, _, hseconds⟩ := pollInterval_eq_some_iff.mp h
  split at hseconds <;> omega

section Hashed

variable [Catalog.Hashing] (backend : Backend State Plan)

def undergo (session : Session State Plan) : Occasion → Session State Plan
  | .around happening => session.meet happening
  | .asked event =>
      { session with service := (session.service.handle backend event).2 }

/-- The looks that are taken while something happens. -/
def pollsIn (session : Session State Plan) : Occasion → List Poll
  | .around (.advance world time) =>
      match session.tasks with
      | some tasks => pollsUntil world (session.now + time) session.service tasks
      | none => []
  | _ => []

/-- The session after some occasions. -/
def through (session : Session State Plan) (occasions : List Occasion) :
    Session State Plan :=
  occasions.foldl (undergo backend) session

/-- The looks that are taken in some occasions. -/
def polls (session : Session State Plan) : List Occasion → List Poll
  | [] => []
  | occasion :: rest =>
      session.pollsIn occasion ++ (session.undergo backend occasion).polls rest

variable {session : Session State Plan} {tasks : Tasks}

/-- Whatever happens, the poller ticks at its times. -/
theorem ticks_undergo (htasks : session.tasks = some tasks) {poller : Poller}
    (hpoller : tasks.poller = some poller) (hnow : session.now < poller.due)
    (occasion : Occasion) :
    ∃ tasks' after, (session.undergo backend occasion).tasks = some tasks' ∧
      tasks'.poller = some after ∧
      (session.undergo backend occasion).now = session.now + occasion.time ∧
      poller.Ticks (session.now + occasion.time)
        ((session.pollsIn occasion).map Poll.time)
        after := by
  match occasion with
  | .asked event =>
      exact ⟨tasks, poller, htasks, hpoller, rfl, Poller.ticks_none hnow⟩
  | .around (.touch present path) =>
      refine ⟨tasks.touch present path session.now, poller, ?_, hpoller, rfl,
        Poller.ticks_none hnow⟩
      simp [undergo, meet, touch, htasks]
  | .around (.advance world time) =>
      obtain ⟨after, hafter, hticks⟩ :=
        ticks_runUntil world (session.now + time) session.service tasks hpoller
      refine ⟨_, after, ?_, hafter, session.now_meet _, ?_⟩
      · simp [undergo, meet, advance, htasks]
      · simpa [pollsIn, htasks, Occasion.time, Happening.time] using hticks

theorem ticks_polls (htasks : session.tasks = some tasks) {poller : Poller}
    (hpoller : tasks.poller = some poller) (hnow : session.now < poller.due)
    (occasions : List Occasion) :
    ∃ after, poller.Ticks (session.now + Occasion.elapsed occasions)
      ((session.polls backend occasions).map Poll.time) after := by
  induction occasions generalizing session tasks poller with
  | nil => exact ⟨poller, Poller.ticks_none hnow⟩
  | cons occasion rest ih =>
      obtain ⟨tasks', middle, htasks', hmiddle, hnow', hticks⟩ :=
        ticks_undergo backend htasks hpoller hnow occasion
      have hlater : (session.undergo backend occasion).now < middle.due := by
        obtain ⟨_, _, _, hdue, _⟩ := hticks
        rw [hnow']
        exact hdue
      obtain ⟨after, hrest⟩ := ih htasks' hmiddle hlater
      refine ⟨after, ?_⟩
      rw [hnow', Nat.add_assoc] at hrest
      rw [polls, List.map_append]
      exact hticks.trans hrest (Nat.add_le_add_left (Nat.le_add_right _ _) _)

/-- Without a poller nobody looks, and none comes later. -/
theorem unpolled_undergo (htasks : session.tasks = some tasks)
    (hpoller : tasks.poller = none) (occasion : Occasion) :
    session.pollsIn occasion = [] ∧
      ∃ tasks', (session.undergo backend occasion).tasks = some tasks' ∧
        tasks'.poller = none := by
  match occasion with
  | .asked event => exact ⟨rfl, tasks, htasks, hpoller⟩
  | .around (.touch present path) =>
      refine ⟨rfl, tasks.touch present path session.now, ?_, hpoller⟩
      simp [undergo, meet, touch, htasks]
  | .around (.advance world time) =>
      obtain ⟨hlater, hnone⟩ :=
        pollsUntil_eq_nil world (session.now + time) session.service tasks hpoller
      refine ⟨?_, _, ?_, hlater⟩
      · simpa [pollsIn, htasks] using hnone
      · simp [undergo, meet, advance, htasks]

theorem polls_eq_nil (htasks : session.tasks = some tasks)
    (hpoller : tasks.poller = none) (occasions : List Occasion) :
    session.polls backend occasions = [] := by
  induction occasions generalizing session tasks with
  | nil => rfl
  | cons occasion rest ih =>
      obtain ⟨hnone, tasks', htasks', hpoller'⟩ :=
        unpolled_undergo backend htasks hpoller occasion
      rw [polls, hnone, ih htasks' hpoller']
      rfl

/-- What a turn adds to the looks. -/
theorem looks_undergo (session : Session State Plan) (occasion : Occasion) :
    session.service.looks + (session.pollsIn occasion).length ≤
      (session.undergo backend occasion).service.looks := by
  match occasion with
  | .asked event => exact session.service.looks_handle backend event
  | .around (.touch present path) => exact Nat.le_refl _
  | .around (.advance world time) =>
      cases htasks : session.tasks with
      | none => simp [undergo, meet, advance, pollsIn, htasks]
      | some tasks =>
          simpa [undergo, meet, advance, pollsIn, htasks] using
            looks_runUntil world (session.now + time) session.service tasks

theorem looks_polls (session : Session State Plan) (occasions : List Occasion) :
    session.service.looks + (session.polls backend occasions).length ≤
      (session.through backend occasions).service.looks := by
  induction occasions generalizing session with
  | nil => exact Nat.le_refl _
  | cons occasion rest ih =>
      rw [polls, List.length_append, ← Nat.add_assoc]
      exact Nat.le_trans
        (Nat.add_le_add_right (session.looks_undergo backend occasion) _) (ih _)

section Origin

variable {first : Snapshot} {worlds : List World}

theorem since_undergo (h : Since first worlds session.service.active.snapshot)
    {occasion : Occasion} (hworlds : ∀ world ∈ occasion.worlds, world ∈ worlds) :
    Since first worlds (session.undergo backend occasion).service.active.snapshot ∧
      ∀ poll ∈ session.pollsIn occasion, Since first worlds poll.active := by
  match occasion with
  | .asked event =>
      refine ⟨h.handle backend fun world hworld => hworlds world ?_,
        List.forall_mem_nil _⟩
      simpa [Occasion.worlds] using hworld
  | .around (.touch present path) => exact ⟨h, List.forall_mem_nil _⟩
  | .around (.advance world time) =>
      cases htasks : session.tasks with
      | none => simpa [undergo, meet, advance, pollsIn, htasks] using h
      | some tasks =>
          have hworld : world ∈ worlds := hworlds world (List.mem_singleton.mpr rfl)
          simpa [undergo, meet, advance, pollsIn, htasks]
            using since_runUntil hworld h

theorem since_polls (h : Since first worlds session.service.active.snapshot)
    {occasions : List Occasion}
    (hworlds : ∀ world ∈ occasions.flatMap Occasion.worlds, world ∈ worlds) :
    ∀ poll ∈ session.polls backend occasions, Since first worlds poll.active := by
  induction occasions generalizing session with
  | nil => exact List.forall_mem_nil _
  | cons occasion rest ih =>
      rw [List.flatMap_cons, List.forall_mem_append] at hworlds
      obtain ⟨hlater, hpolls⟩ := since_undergo backend h hworlds.1
      exact List.forall_mem_append.mpr ⟨hpolls, ih hlater hworlds.2⟩

end Origin

/-- The poller is made once, of the settings that are active when the tasks are
started. Then it looks at the schema whenever its interval is over, whatever reloads
bring. What it comes upon is the snapshot that was active at the start, or one that
was built since. So as long as no world has settings without an interval, it does
not look unless the active settings want that. -/
theorem polls_fixed (backend : Backend State Plan) (session : Session State Plan)
    (options : TaskOptions) (root : Option WatchRoot) (occasions : List Occasion) :
    let settings := session.service.active.snapshot.settings
    let worlds := occasions.flatMap Occasion.worlds
    let begun := session.start options root
    let polls := begun.polls backend occasions
    (settings.pollInterval = none → polls = []) ∧
      (∀ seconds, settings.pollInterval = some seconds →
        polls.map Poll.time =
          (List.range (Occasion.elapsed occasions / (seconds * 1000))).map
            fun tick =>
            session.now + (tick + 1) * (seconds * 1000)) ∧
      begun.service.looks + polls.length ≤
        (begun.through backend occasions).service.looks ∧
      (∀ poll ∈ polls, Since session.service.active.snapshot worlds poll.active) ∧
      ((∀ world ∈ worlds, ∀ settings, world.settings = .ok settings →
          settings.pollInterval.isSome) → ∀ poll ∈ polls, poll.Wanted) := by
  intro settings worlds begun polls
  have hsince : ∀ poll ∈ polls,
      Since session.service.active.snapshot worlds poll.active :=
    since_polls backend (Or.inl rfl) fun _ hworld => hworld
  have hnone : settings.pollInterval = none → polls = [] := by
    intro hsettings
    refine polls_eq_nil backend rfl ?_ occasions
    simp [Tasks.start, Tasks.poller?, settings, hsettings]
  refine ⟨hnone, ?_, looks_polls backend begun occasions, hsince, ?_⟩
  · intro seconds hsettings
    have hpos : 0 < seconds * 1000 :=
      Nat.mul_pos (pollInterval_pos hsettings) (by decide)
    have hpoller : (Tasks.start settings options root session.now).poller =
        some ⟨seconds * 1000, session.now + seconds * 1000, hpos⟩ := by
      simp only [Tasks.start, Tasks.poller?, hsettings, Option.bind_some,
        dif_pos hpos]
    have hnow : begun.now < session.now + seconds * 1000 :=
      Nat.lt_add_of_pos_right hpos
    obtain ⟨after, hticks⟩ := ticks_polls backend rfl hpoller hnow occasions
    have htimes := hticks.eq (Nat.le_add_right _ _) rfl
    rw [Nat.add_sub_cancel_left] at htimes
    rw [htimes, Poller.times]
    refine List.map_congr_left fun tick _ => ?_
    simp only [Nat.succ_mul]
    omega
  · intro hworlds poll hpoll
    rcases hsince poll hpoll with hfirst | ⟨_, world, hworld, hbuilt⟩
    · -- Had the first settings no interval, nobody would look.
      rw [Poll.Wanted, hfirst, Option.isSome_iff_ne_none]
      intro hsettings
      rw [hnone hsettings] at hpoll
      cases hpoll
    · exact hworlds world hworld poll.active.settings hbuilt.settings

end Hashed

namespace Restricted

/-- A database whose structure stays the same. The settings allow for other
queries. -/
def lenient : World :=
  ⟨.postgres, .ok ⟨⟨14, "public", "app"⟩, [], [], []⟩, .ok .default, .ok []⟩

/-- The settings allow for no other queries, so nobody should look. -/
def strict : World :=
  { lenient with settings := .ok { Settings.default with production := true } }

/-- While the settings stay the same, the poller looks when its interval is over. -/
theorem polls_fixed_lenient :
    ∃ service : Service Unit String, Service.start lenient () = .ok service ∧
      let polls := ((ofService service).start ⟨10000, false⟩ none).polls .echo
        [.around (.advance lenient 10500), .around (.advance lenient 10500)]
      polls.map Poll.time = [10000, 20000] ∧ ∀ poll ∈ polls, poll.Wanted := by
  obtain ⟨service, hstart⟩ : ∃ service : Service Unit String,
    Service.start lenient () = .ok service := ⟨_, rfl⟩
  obtain ⟨_, htimes, _, _, hwanted⟩ :=
    polls_fixed .echo (ofService service) ⟨10000, false⟩ none
    [.around (.advance lenient 10500), .around (.advance lenient 10500)]
  have hinterval : service.active.snapshot.settings.pollInterval = some 10 := by
    cases hstart
    rfl
  refine ⟨service, hstart, ?_, hwanted fun world hworld settings hsettings => ?_⟩
  · rw [htimes 10 hinterval]
    simp [Occasion.elapsed, Occasion.time, Happening.time, ofService,
      List.range_succ]
  · have hworld : world = lenient := by simpa [Occasion.worlds] using hworld
    subst hworld
    cases hsettings
    rfl

/-- Somebody reloads while the poller waits. -/
def occasions : List Occasion :=
  [.asked (.reload strict), .around (.advance strict 10500)]

/-- The poller looks when the active settings do not want it. -/
theorem polls_unwanted :
    ∃ service : Service Unit String, Service.start lenient () = .ok service ∧
    ∃ poll ∈ ((ofService service).start ⟨10000, false⟩ none).polls .echo occasions,
      poll.time = 10000 ∧ poll.active.settings.restricted = true ∧
      ¬ poll.Wanted := by
  obtain ⟨service, hstart⟩ : ∃ service : Service Unit String,
    Service.start lenient () = .ok service := ⟨_, rfl⟩
  let begun := (ofService service).start ⟨10000, false⟩ none
  let reloaded := begun.undergo .echo (.asked (.reload strict))
  let tasks := Tasks.start service.active.snapshot.settings ⟨10000, false⟩ none 0
  refine ⟨service, hstart, ⟨10000, reloaded.service.active.snapshot⟩, ?_, rfl, ?_⟩
  · have hnext : tasks.nextBy? 10500 = some (.checkSchema, 10000) := by
      cases hstart
      rfl
    have hlooks : reloaded.pollsIn (.around (.advance strict 10500)) =
        pollsUntil strict (0 + 10500) reloaded.service tasks := rfl
    refine List.mem_append_right _ (List.mem_append_left _ ?_)
    show _ ∈ reloaded.pollsIn (.around (.advance strict 10500))
    rw [hlooks, Nat.zero_add, pollsUntil_of_some hnext]
    exact List.mem_append_left _ (List.mem_singleton.mpr rfl)
  · cases hstart
    exact ⟨rfl, Bool.false_ne_true⟩

end Restricted

end Session

end QueryGate.Reload
