import QueryGate.Reload.Background
import QueryGate.Tool.Arguments
import QueryGate.Tool.Check

/-!
Keeping a snapshot fresh.

The database is connected to before the configuration is read. Changes of files are
answered by reloads until the command is interrupted. The size of the channel from
the watcher is a setting of the environment; a channel that cannot be made ends the
program at once.
-/

namespace QueryGate.Tool

open Catalog Engine Reload Storage

/-- A number that an environment variable may set. -/
structure Tunable where
  key : String
  standard : Nat

/-- How long a directory has to be quiet, in milliseconds. -/
def reloadDebounce : Tunable :=
  ⟨"QUARRY_RELOAD_DEBOUNCE_MS", 10000⟩

/-- How many changes may wait in the channel from the watcher. -/
def channelSize : Tunable :=
  ⟨"QUARRY_WATCHER_CHANNEL_SIZE", 256⟩

namespace Tunable

/-- The number in an environment. A value that is no number counts as none. -/
def value (tunable : Tunable) (environment : Environment) : Nat :=
  ((environment.lookup tunable.key).bind readWord?).getD tunable.standard

/-- The notice about a value that is no number. -/
def notices (tunable : Tunable) (environment : Environment) : List Notice :=
  match environment.lookup tunable.key with
  | some text =>
      if (readWord? text).isSome then [] else [.settingIgnored text tunable.key]
  | none => []

end Tunable

/-- The most that a channel may hold. -/
def largestChannel : Nat := largestWord / 8

/-- Whether a channel can be made. -/
def isChannelSize (size : Nat) : Bool :=
  1 ≤ size && size ≤ largestChannel

/-- The directories in a directory. -/
def directoryNames (entries : List (FileName × Node)) : List String :=
  (entries.filter fun entry => !entry.2.isFile).filterMap fun entry =>
    decode? entry.1

/-- What there is to watch at the place of a configuration. -/
def watchRootOf (path : String) : Except IoFault Node → WatchRoot
  | .ok node => .directory (directoryNames node.entries)
  | .error _ => .missing path

/-- No query is ever compiled for a service that is only watched. -/
abbrev WatchedService : Type := Service Unit Unit

/-- How watching ended. It is broken when the program broke off. -/
inductive WatchEnd where
  | interrupted
  | failed (failure : Failure)
  | broken
deriving DecidableEq, Repr

/-- What there was to report, and how watching ended. -/
structure WatchOutcome where
  notices : List Notice
  ending : WatchEnd

/-- The options of the tasks. -/
def taskOptions (environment : Environment) (debounce : Option Nat)
    (noWatch : Bool) : TaskOptions :=
  ⟨debounce.getD (reloadDebounce.value environment), !noWatch⟩

/-- A change: a file, and what is at the place of the configuration afterwards. -/
structure Change where
  path : String
  place : Except IoFault Node

variable [Hashing]

/-- Answers one change. The time passes that has to be quiet. -/
def answerChange (database : Database) (path : String) (options : TaskOptions)
    (state : Session Unit Unit × Except IoFault Node) (change : Change) :
    Session Unit Unit × Except IoFault Node :=
  let (session, before) := state
  let present := match watchRootOf path before with
    | .directory present => present
    | .missing _ => []
  ((session.touch present change.path).advance (worldOf change.place database)
    options.debounce, change.place)

/-- The notice that everything has begun. -/
def watchingNotice (path : String) (service : WatchedService) : Notice :=
  .watching path service.generation service.active.snapshot.schema.shownDigest

/-- Keeps a service fresh through changes until it is interrupted. -/
def watchService (environment : Environment) (options : TaskOptions) (path : String)
    (database : Database) (place : Except IoFault Node) (service : WatchedService)
    (changes : List Change) : WatchOutcome :=
  let channelNotices :=
    if options.watch then channelSize.notices environment else []
  let service := service.report channelNotices
  if options.watch && !isChannelSize (channelSize.value environment) then
    ⟨service.journal, .broken⟩
  else
    let session :=
      (Session.ofService service).start options (some (watchRootOf path place))
    let idle := (session.tasks.map Tasks.count).getD 0 == 0
    let session := { session with
      service := session.service.report
        ((if idle then [.nothingKeptFresh] else []) ++
          [watchingNotice path session.service]) }
    let (session, _) :=
      changes.foldl (answerChange database path options) (session, place)
    let service :=
      session.service.report [.stopping, .stopped session.service.generation]
    ⟨service.journal, .interrupted⟩

/-- Keeps a snapshot fresh through changes until the command is interrupted. -/
def watch (around : Surroundings) (environment : Environment) (subject : Subject)
    (options : TaskOptions) (changes : List Change) : WatchOutcome :=
  let early := reloadDebounce.notices environment
  match around.database subject.endpoint with
  | .error failure => ⟨early, .failed failure⟩
  | .ok database =>
      let world := worldOf around.place database
      match (Service.start world () : Except Error WatchedService) with
      | .error cause => ⟨early ++ world.notices, .failed (.engine cause)⟩
      | .ok service =>
          watchService environment options subject.config database around.place
            { service with journal := early ++ service.journal } changes

end QueryGate.Tool
