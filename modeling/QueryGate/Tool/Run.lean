import QueryGate.Tool.LogFilter
import QueryGate.Tool.Release
import QueryGate.Tool.Watch

/-!
Running a command.

The logging filter is read before anything is done. A failure is reported as a
notice, so that the filter decides whether it is seen, except for a filter that is
invalid itself.
-/

namespace QueryGate.Tool

/-- How a command ended. It is broken when the program broke off. -/
inductive Ending where
  | done
  | failed (failure : Failure)
  | broken
deriving DecidableEq, Repr

def Ending.exitCode : Ending → Nat
  | done => 0
  | failed _ => 1
  | broken => 101

def Stop.exitCode : Stop → Nat
  | help => 0
  | usage => 2

/-- What a command came to. -/
structure Outcome where
  ending : Ending
  output : String
  notices : List Notice

namespace Outcome

def failed (notices : List Notice) (failure : Failure) : Outcome :=
  ⟨.failed failure, "", notices ++ [.failed failure.message]⟩

end Outcome

variable [Catalog.Hashing]

/-- The outcome of a look. -/
def CheckOutcome.outcome (look : CheckOutcome) (json : Bool) : Outcome :=
  match look.findings with
  | .error failure => .failed look.notices failure
  | .ok findings =>
      ⟨.done, if json then findings.outline.write 0 ++ "\n"
        else findings.summary, look.notices⟩

/-- The outcome of watching. -/
def WatchOutcome.outcome (watched : WatchOutcome) : Outcome :=
  match watched.ending with
  | .failed failure => .failed watched.notices failure
  | .interrupted => ⟨.done, "", watched.notices⟩
  | .broken => ⟨.broken, "", watched.notices⟩

/-- Does what is to be done. -/
def Command.perform (around : Surroundings) (environment : Environment)
    (release : String) (changes : List Change) : Command → Outcome
  | check subject json => (Tool.check around subject.endpoint).outcome json
  | watch subject debounce noWatch =>
      (Tool.watch around environment subject
        (taskOptions environment debounce noWatch) changes).outcome
  | version => ⟨.done, release ++ "\n", []⟩

/-- Does what is to be done, and keeps the notices that are to be shown. -/
def Invocation.run (invocation : Invocation) (around : Surroundings)
    (environment : Environment) (release : String)
    (changes : List Change) : Outcome :=
  match LogFilter.ofText invocation.log with
  | .error .invalid => ⟨.failed .logFilter, "", []⟩
  | .error .cutCharacter => ⟨.broken, "", []⟩
  | .ok filter =>
      let outcome := invocation.command.perform around environment release changes
      { outcome with notices := outcome.notices.filter filter.shows }

/-- Where the configuration of a command is, if it has one. -/
def Command.place? : Command → Option String
  | check subject _ => some subject.config
  | watch subject _ _ => some subject.config
  | version => none

end QueryGate.Tool
