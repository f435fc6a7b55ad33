import QueryGate.Error

/-!
What is reported while an engine is built and kept fresh.

Functions return their notices, in the order in which they are reported, beside
their result.
-/

namespace QueryGate

/-- The weight of a notice. -/
inductive Severity where
  | error
  | warn
  | info
  | debug
  | trace
deriving DecidableEq, Repr

namespace Severity

def name : Severity → String
  | .error => "error"
  | .warn => "warn"
  | .info => "info"
  | .debug => "debug"
  | .trace => "trace"

/-- The place in the order from the gravest to the most talkative. -/
def rank : Severity → Nat
  | .error => 1
  | .warn => 2
  | .info => 3
  | .debug => 4
  | .trace => 5

end Severity

/-- The digests are those of schemas: of the one that was published, or of those
before and after a change. -/
inductive Notice where
  | recordSkipped (name : String)
  | registrationReplaced (query role service previous : String)
  | roleTableMissing (role schema table : String)
  | settingIgnored (value key : String)
  | watcherUnavailable (cause : Error)
  | schemaCheckFailed (cause : Error)
  | reloadFailed (cause : Error)
  | nothingKeptFresh
  | discovered (tables functions : Nat)
  | started (tables queries : Nat)
  | published (generation : Nat) (digest : String)
  | schemaChanged (before after : String)
  | configurationChanged
  | watching (root : String) (generation : Nat) (digest : String)
  | stopping
  | stopped (generation : Nat)
  | failed (message : String)
deriving DecidableEq, Repr

namespace Notice

def severity : Notice → Severity
  | .recordSkipped _ => .warn
  | .registrationReplaced _ _ _ _ => .warn
  | .roleTableMissing _ _ _ => .warn
  | .settingIgnored _ _ => .warn
  | .watcherUnavailable _ => .warn
  | .nothingKeptFresh => .warn
  | .schemaCheckFailed _ => .error
  | .reloadFailed _ => .error
  | .failed _ => .error
  | _ => .info

/-- The part of the program that a notice comes from, by which notices are told
apart when some of them are to be shown. -/
def target : Notice → String
  | .recordSkipped _ => "quarry_core::allow"
  | .registrationReplaced _ _ _ _ => "quarry_core::engine::cache"
  | .roleTableMissing _ _ _ => "quarry_core::iam"
  | .settingIgnored _ _ => "quarry_core::cnf"
  | .watcherUnavailable _ => "quarry_core::reload::tasks"
  | .schemaCheckFailed _ => "quarry_core::reload::tasks"
  | .reloadFailed _ => "quarry_core::reload::tasks"
  | .configurationChanged => "quarry_core::reload::tasks"
  | .started _ _ => "quarry_core::reload"
  | .published _ _ => "quarry_core::reload"
  | .schemaChanged _ _ => "quarry_core::reload"
  | .discovered _ _ => "quarry::cli::check"
  | .nothingKeptFresh => "quarry::cli::watch"
  | .watching _ _ _ => "quarry::cli::watch"
  | .stopping => "quarry::cli::watch"
  | .stopped _ => "quarry::cli::watch"
  | .failed _ => "quarry::cli"

/-- The wording. How long it took to build a snapshot is added where the notice is
shown. -/
def message : Notice → String
  | .recordSkipped name =>
      s!"Skipping allow-listed query '{name}': no operation found"
  | .registrationReplaced query role service previous =>
      s!"The query '{query}' for role '{role}' from service '{service}' " ++
        s!"replaces the one from service '{previous}'"
  | .roleTableMissing role schema table =>
      s!"Role '{role}' references the table '{schema}.{table}' which does not exist"
  | .settingIgnored value key => s!"Ignoring invalid value '{value}' for {key}"
  | .watcherUnavailable cause =>
      s!"Configuration changes will not be picked up: {cause.message}"
  | .schemaCheckFailed cause =>
      s!"Error checking the database schema: {cause.message}"
  | .reloadFailed cause => s!"Error reloading the engine: {cause.message}"
  | .nothingKeptFresh =>
      "Neither schema polling nor the configuration watcher is enabled"
  | .discovered tables functions =>
      s!"Discovered {tables} tables and {functions} functions"
  | .started tables queries =>
      s!"Started with {tables} tables and {queries} allow-listed queries"
  | .published generation digest =>
      s!"Published engine snapshot {generation} (schema hash {digest})"
  | .schemaChanged before after =>
      s!"Schema changed (hash {before} -> {after}), reloading"
  | .configurationChanged => "Configuration changed, reloading"
  | .watching root generation digest =>
      s!"Watching {root} (generation {generation}, schema hash {digest}), " ++
        "press Ctrl-C to stop"
  | .stopping => "Stopping the reload tasks"
  | .stopped generation => s!"Stopped at generation {generation}"
  | .failed message => message

end Notice

end QueryGate
