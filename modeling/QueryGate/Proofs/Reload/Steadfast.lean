import QueryGate.Proofs.Reload.SessionCrew

/-!
Failures in the background stop nothing.

The poller and the watcher go on until they are told to stop, whatever fails them.
What they do, and when, is what it would be without the failures. Each failure is
reported once, leaves the active snapshot as it was, and is forgotten.
-/

namespace QueryGate.Reload

open Engine

namespace Crew

/-- Failures of a loop are forgotten. Whatever is done and reported after a round
that failed could be done, and would be reported, had the round gone by with its
rebuilder never moving. -/
def Forgets [Catalog.Hashing] (slack : Nat) (crew : Crew) (duty : Duty) : Prop :=
  ∀ actions failed e ended rest later, crew.run? slack actions = some failed →
    .beat (.finish duty) ∉ actions → failed.stage duty = .returned (.error e) →
    failed.step slack (.beat (.finish duty)) = some ended →
    ended.run? slack rest = some later →
    ∃ other freed other' more,
      crew.run? slack (actions.filter (keeps duty)) = some other ∧
      other.spare slack duty = some freed ∧ freed.run? slack rest = some other' ∧
      later.Like none other' ∧ later.journal = ended.journal ++ more ∧
      other'.journal = freed.journal ++ more

/-- What can be relied on after any actions of a crew that was just started. What
the loops do follows from what happens to them, and not from what rebuilders find or
return. A check begins at its tick or, after one that was slow, as soon as that has
ended. A reload begins at the end of its window. Nothing else begins, nothing is
left out, and neither loop ends until it is told to stop. So unless a check takes
longer than until the next tick, the checks begin at the ticks of the interval, and
there was one reload for each window that is over. Each round that failed was
reported once, and has published nothing. What was published last is active, and the
lock is given back however rounds end. A round can always be brought to its end,
whatever world is found. Once the loops were told to stop, no round begins. -/
structure Steadfast [Catalog.Hashing] (slack : Nat) (first : Crew)
    (actions : List Action) (crew : Crew) : Prop where
  oblivious : first.loops.run? slack (actions.filterMap Action.beat?) =
    some crew.loops
  regular : first.loops.Regular slack crew.loops
  steady : ∀ poller ∈ first.loops.poller, Log.Quick slack poller crew.loops.log →
    let count := Log.times (.began .checkSchema) crew.loops.log
    Log.beginnings .checkSchema crew.loops.log =
        (List.range count).map (fun round => poller.due + round * poller.interval) ∧
      (crew.loops.phase .checkSchema = .waiting →
        crew.loops.now ≤ poller.due + count * poller.interval)
  windows : Log.windows first.loops.timer.window crew.loops.log =
    Log.times (.began .reload) crew.loops.log + crew.loops.timer.due.toList.length
  told : ∀ duty, crew.journal.filterMap duty.failure? =
    (List.range (crew.rounds duty)).filterMap (crew.site.failure? duty)
  grave : ∀ notice ∈ crew.journal, notice.severity = .error →
    ∃ duty e, notice = Duty.failure duty e
  unpublished : ∀ duty round e, crew.site.failure? duty round = some e →
    crew.site.publishedBy (duty.worker round) = []
  current : ∃ last, crew.site.published.getLast? = some last ∧
    crew.site.active = last.snapshot
  released : (∀ duty, crew.loops.phase duty ≠ .acting) → crew.site.holder = none
  forgets : ∀ duty, crew.loops.phase duty ≠ .acting → crew.Forgets slack duty
  finishes : ∀ duty, crew.loops.phase duty = .acting → ∀ world : World,
    crew.Leads slack (· = world) fun later =>
      later.loops.phase duty = .waiting ∧ later.loops.now = crew.loops.now
  stops : crew.loops.cancelled = true →
    ∀ rest later, crew.run? slack rest = some later →
    ∀ duty, Log.times (.began duty) later.loops.log =
      Log.times (.began duty) crew.loops.log

section Runs

variable {slack : Nat} {first crew : Crew} {actions : List Action}

theorem Tended.unpublished (h : crew.Tended) {duty : Duty} {round : Nat} {e : Error}
    (hfailed : crew.site.failure? duty round = some e) :
    crew.site.publishedBy (duty.worker round) = [] := by
  refine h.orderly.never _ ?_
  unfold Site.failure? Stage.failure? at hfailed
  split at hfailed
  · next hreturned => rw [hreturned]; rfl
  · cases hfailed

variable [Catalog.Hashing]

theorem Tended.forgets (h : crew.Tended) {duty : Duty}
    (hidle : crew.loops.phase duty ≠ .acting) : crew.Forgets slack duty := by
  intro actions failed e ended rest later hrun hfinish hfailed hended hrest
  obtain ⟨other, freed, hother, hspare, hlike⟩ :=
    h.round_spared (h.idle duty hidle) hrun hfinish hfailed hended
  have hspares : ∀ action ∈ rest, Spares none action := by
    intro action _
    cases action <;> exact nofun
  obtain ⟨other', more, hother', hlike', hmore, hmore'⟩ := hlike.run hspares hrest
  exact ⟨other, freed, other', more, hother, hspare, hother', hlike', hmore, hmore'⟩

theorem Fresh.steadfast (h : first.Fresh)
    (hrun : first.run? slack actions = some crew) :
    first.Steadfast slack actions crew := by
  have hregular := h.regular_run hrun
  have htended := h.tended.run hrun
  have hlawful := hregular.lawful
  constructor
  case oblivious => exact loops_run? hrun
  case regular => exact hregular
  case steady =>
    intro poller hpoller hquick
    rw [Loops.habits, hpoller] at hlawful
    obtain ⟨htick, hfree, hbeginnings⟩ := Log.steady hlawful hquick
    refine ⟨hbeginnings, fun hwaiting => ?_⟩
    rw [← htick, ← Nat.max_eq_left hfree]
    exact hregular.punctual hwaiting poller hpoller
  case windows =>
    rw [hregular.timer]
    exact Log.windows_eq hlawful
  case told => exact htended.told
  case grave => exact htended.grave
  case unpublished => exact fun duty round e hfailed => htended.unpublished hfailed
  case current => exact htended.orderly.current
  case released => exact htended.released
  case forgets => exact fun duty hidle => htended.forgets hidle
  case finishes => exact fun duty hacting world => htended.finishes hacting world
  case stops =>
    exact fun hcancelled rest later hrest =>
      Loops.times_began_of_run hcancelled (loops_run? hrest)

end Runs

end Crew

variable {State Plan : Type}

namespace Session

section Hashed

variable [Catalog.Hashing]

/-- Nothing happens once the tasks were told to stop. -/
theorem service_follow_stop (session : Session State Plan)
    (happenings : List Happening) :
    (session.stop.follow happenings).service = session.service := by
  suffices h : ∀ stopped : Session State Plan, stopped.tasks = none →
      (stopped.follow happenings).service = stopped.service from h session.stop rfl
  induction happenings with
  | nil => exact fun stopped _ => rfl
  | cons happening rest ih =>
      intro stopped hnone
      cases happening with
      | touch present path =>
          exact ih (stopped.touch present path) (by simp [touch, hnone])
      | advance world time =>
          have hadvanced : stopped.advance world time =
              { stopped with now := stopped.now + time } := by
            simp [advance, hnone]
          show ((stopped.advance world time).follow rest).service = stopped.service
          rw [hadvanced]
          exact ih _ hnone

/-- Failures stop nothing. The tasks that a session starts are those of a crew that
has just been started, and whatever happens around the session, the crew may do what
they do. The session has come as far as time has been passed, and the first check
comes after a whole interval. Whatever the crew does, its rounds begin when they
have to, and those that fail are reported, change nothing, and are forgotten. -/
theorem failures_stop_nothing (session : Session State Plan) (options : TaskOptions)
    (root : Option WatchRoot) (slack room : Nat) :
    let inbox := .empty (room + 1) room.succ_pos
    let first := session.crew options root inbox
    let begun := session.start options root
    let before := session.service.journal ++ Tasks.notices options root
    (∀ happenings,
      first.Leads slack (fun world => ∃ time, .advance world time ∈ happenings)
        fun crew =>
          crew.Accompanies slack first inbox (begun.follow happenings) before) ∧
      (∀ happenings, (begun.follow happenings).now =
        session.now + Happening.elapsed happenings) ∧
      (∀ poller ∈ first.loops.poller, poller.due = session.now + poller.interval) ∧
      (∀ actions crew, first.run? slack actions = some crew →
        first.Steadfast slack actions crew) ∧
      ∀ happenings more, ((begun.follow happenings).stop.follow more).service =
        (begun.follow happenings).service := by
  intro inbox first begun before
  refine ⟨fun happenings => ?_, now_follow begun, fun poller hpoller => ?_,
    fun actions crew hrun => ?_, fun happenings more => ?_⟩
  · exact (session.accompanies_crew options root slack rfl).follow happenings
      fun world time hmem => ⟨time, hmem⟩
  · exact due_start options root hpoller
  · exact (session.fresh_crew options root rfl).steadfast hrun
  · exact service_follow_stop _ _

end Hashed

namespace Outage

def up : World :=
  ⟨.postgres, .ok ⟨⟨14, "public", "app"⟩, [], [], []⟩, .ok .default, .ok []⟩

def down : World :=
  { up with rows := .error (.discoveryFailed "down") }

def options : TaskOptions :=
  ⟨5000, true⟩

/-- A check of a database that is down, and takes some time. -/
def check (time : Nat) : List Action :=
  [.beat (.begin .checkSchema), .work .checkSchema down, .work .checkSchema down,
    .beat (.pass time), .beat (.finish .checkSchema)]

def actions : List Action :=
  [.beat (.pass 10000)] ++ check 0 ++ [.beat (.pass 10000)] ++
    check 15000 ++ check 0 ++
    [.beat (.pass 10000)] ++ check 0

/-- The second check takes longer than until the next tick, so the third one is
late, and the interval counts from there. Each of them is reported, and none of them
ends the checks. -/
theorem failures_stop_nothing_down :
    ∃ service : Service Unit String, Service.start up () = .ok service ∧
      let first :=
        (ofService service).crew options (some (.directory []))
          (.empty 1 Nat.one_pos)
      ∃ crew, first.run? 0 actions = some crew ∧ first.Steadfast 0 actions crew ∧
        Log.beginnings .checkSchema crew.loops.log = [10000, 20000, 35000, 45000] ∧
        crew.journal = List.replicate 4
          (.schemaCheckFailed (.discoveryFailed "down")) := by
  obtain ⟨service, hstart⟩ :
      ∃ service : Service Unit String, Service.start up () = .ok service :=
    ⟨_, rfl⟩
  obtain ⟨_, _, _, hsteadfast, _⟩ :=
    failures_stop_nothing (ofService service) options (some (.directory [])) 0 0
  refine ⟨service, hstart, ?_⟩
  cases hstart
  exact ⟨_, rfl, hsteadfast actions _ rfl, rfl, rfl⟩

end Outage

end Session

end QueryGate.Reload
