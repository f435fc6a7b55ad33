import QueryGate.Reload.Debouncer
import QueryGate.Reload.Scope
import QueryGate.Reload.Service

/-!
The tasks that keep a service fresh.

The poller looks at the schema at fixed times, the watcher reloads once the
configuration directory has been quiet after a change. Neither ends with a failure:
it is reported, and the task goes on. Time is a number of milliseconds that passes
in `advance` alone, which does what is due in the order of its times.
-/

namespace QueryGate.Reload

open Catalog Engine

/-- Looks at the schema again and again, and next when it is due. -/
structure Poller where
  interval : Nat
  due : Nat
  interval_pos : 0 < interval

/-- Reloads after changes of a directory. -/
structure Watcher where
  scope : Scope
  timer : Debouncer

/-- The directory that a configuration is kept in, with those that it holds, or a
path where there is none. -/
inductive WatchRoot where
  | directory (present : List String)
  | missing (path : String)

/-- What the tasks are started with: how long the directory has to be quiet, in
milliseconds, and whether it is watched. -/
structure TaskOptions where
  debounce : Nat
  watch : Bool

/-- The running tasks. -/
structure Tasks where
  poller : Option Poller
  watcher : Option Watcher

namespace Tasks

/-- No task at all. -/
def none : Tasks :=
  ⟨.none, .none⟩

def count (tasks : Tasks) : Nat :=
  tasks.poller.toList.length + tasks.watcher.toList.length

/-- The poller of an engine with some settings. Its interval does not change any
more. -/
def poller? (settings : Settings) (now : Nat) : Option Poller :=
  settings.pollInterval.bind fun seconds =>
    if h : 0 < seconds * 1000 then some ⟨seconds * 1000, now + seconds * 1000, h⟩
    else .none

/-- The watcher of a directory. -/
def watcher? (options : TaskOptions) : Option WatchRoot → Option Watcher
  | some (.directory present) =>
      if options.watch then some ⟨.ofDirectories present, .idle options.debounce⟩
      else .none
  | _ => .none

/-- The notice about a directory that cannot be watched. -/
def notices (options : TaskOptions) : Option WatchRoot → List Notice
  | some (.missing path) =>
      if options.watch then [.watcherUnavailable (.config (.unwatchable path))]
      else []
  | _ => []

/-- The tasks of an engine with some settings. -/
def start (settings : Settings) (options : TaskOptions) (root : Option WatchRoot)
    (now : Nat) : Tasks :=
  ⟨poller? settings now, watcher? options root⟩

/-- Tells the watcher that a file was written, in a directory that holds others. -/
def touch (tasks : Tasks) (present : List String) (path : String)
    (now : Nat) : Tasks :=
  { tasks with
    watcher := tasks.watcher.map fun w =>
      if w.scope.notices present path then { w with timer := w.timer.event now }
      else w }

end Tasks

/-- What a task does when its time has come. -/
inductive Duty where
  | checkSchema
  | reload
deriving DecidableEq, Repr

/-- The next duty by a given time, and when it is due. -/
def Tasks.nextBy? (tasks : Tasks) (time : Nat) : Option (Duty × Nat) :=
  let poll := (tasks.poller.map Poller.due).filter (· ≤ time)
  let quiet := tasks.watcher.bind fun w => w.timer.dueBy? time
  match poll, quiet with
  | some p, some q => if q < p then some (.reload, q) else some (.checkSchema, p)
  | some p, .none => some (.checkSchema, p)
  | .none, some q => some (.reload, q)
  | .none, .none => .none

/-- Sets the times after a duty was done. -/
def Tasks.after (tasks : Tasks) : Duty → Tasks
  | .checkSchema =>
      { tasks with poller := tasks.poller.map fun p =>
        { p with due := p.due + p.interval } }
  | .reload =>
      { tasks with watcher := tasks.watcher.map fun w =>
        { w with timer := w.timer.clear } }

/-- What is left to do by a given time: the milliseconds up to which the poller is
behind, and a timer that is set. -/
def Tasks.backlog (tasks : Tasks) (time : Nat) : Nat :=
  (match tasks.poller with
    | some p => time + 1 - p.due
    | .none => 0) +
  match tasks.watcher with
    | some w => if w.timer.due.isSome then 1 else 0
    | .none => 0

theorem Tasks.backlog_after_lt {tasks : Tasks} {time due : Nat} {duty : Duty}
    (h : tasks.nextBy? time = some (duty, due)) :
    (tasks.after duty).backlog time < tasks.backlog time := by
  obtain ⟨poller, watcher⟩ := tasks
  have hpoll : ∀ p : Poller, p.due ≤ time → time + 1 - (p.due + p.interval) <
      time + 1 - p.due := by
    intro p hp
    have := p.interval_pos
    omega
  cases duty with
  | checkSchema =>
      cases poller with
      | none =>
          simp only [nextBy?, Option.map_none, Option.filter_none] at h
          split at h <;> simp_all
      | some p =>
          have hp : p.due ≤ time := by
            apply Classical.byContradiction
            intro hn
            simp only [nextBy?, Option.map_some, Option.filter,
              decide_eq_true_eq, hn, if_false] at h
            split at h <;> simp_all
          have := hpoll p hp
          simp only [after, backlog, Option.map_some]
          omega
  | reload =>
      cases watcher with
      | none =>
          simp only [nextBy?, Option.bind_none] at h
          split at h <;> simp_all
      | some w =>
          have hw : w.timer.due.isSome := by
            apply Classical.byContradiction
            intro hn
            have hnone : w.timer.due = .none := by simpa using hn
            simp only [nextBy?, Option.bind_some, Debouncer.dueBy?, hnone,
              Option.filter_none] at h
            split at h <;> simp_all
          simp [after, backlog, Debouncer.clear, hw]

/-- A service with its tasks, while they are started. -/
structure Session (State Plan : Type) where
  service : Service State Plan
  now : Nat
  tasks : Option Tasks

variable {State Plan : Type} [Hashing]

/-- Does what is due. -/
def Service.perform (service : Service State Plan) (world : World) :
    Duty → Service State Plan
  | .checkSchema =>
      match service.checkSchema world with
      | (.ok _, service) => service
      | (.error e, service) => service.report [.schemaCheckFailed e]
  | .reload =>
      match (service.report [.configurationChanged]).reload world with
      | (.ok _, service) => service
      | (.error e, service) => service.report [.reloadFailed e]

/-- Does all that is due by a given time. -/
def runUntil (world : World) (time : Nat) (service : Service State Plan)
    (tasks : Tasks) : Service State Plan × Tasks :=
  match _h : tasks.nextBy? time with
  | some (duty, _) =>
      runUntil world time (service.perform world duty) (tasks.after duty)
  | none => (service, tasks)
termination_by tasks.backlog time
decreasing_by exact Tasks.backlog_after_lt _h

namespace Session

/-- A service without tasks. -/
def ofService (service : Service State Plan) : Session State Plan :=
  ⟨service, 0, none⟩

/-- Starts the tasks. -/
def start (session : Session State Plan) (options : TaskOptions)
    (root : Option WatchRoot) : Session State Plan :=
  { session with
    service := session.service.report (Tasks.notices options root)
    tasks :=
      some (.start session.service.active.snapshot.settings options root
        session.now) }

/-- Ends the tasks. A reload that was waiting for quiet does not take place. -/
def stop (session : Session State Plan) : Session State Plan :=
  { session with tasks := none }

/-- A file was written, in a directory that holds others. -/
def touch (session : Session State Plan) (present : List String) (path : String) :
    Session State Plan :=
  { session with tasks := session.tasks.map (·.touch present path session.now) }

/-- Lets time pass. -/
def advance (session : Session State Plan) (world : World) (time : Nat) :
    Session State Plan :=
  let until_ := session.now + time
  match session.tasks with
  | some tasks =>
      let (service, tasks) := runUntil world until_ session.service tasks
      ⟨service, until_, some tasks⟩
  | none => { session with now := until_ }

end Session

end QueryGate.Reload
