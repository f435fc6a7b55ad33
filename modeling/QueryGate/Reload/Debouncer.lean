/-!
A timer that waits for quiet.

Every event sets the timer anew, and the timer runs out once there was no event for
a whole window. Times are in milliseconds.
-/

namespace QueryGate.Reload

/-- A timer that waits for quiet: how long it has to be quiet, and when the timer
runs out, if it was set. -/
structure Debouncer where
  window : Nat
  due : Option Nat
deriving DecidableEq, Repr

namespace Debouncer

/-- A timer that is not set. -/
def idle (window : Nat) : Debouncer :=
  ⟨window, none⟩

/-- Sets the timer anew. -/
def event (d : Debouncer) (now : Nat) : Debouncer :=
  { d with due := some (now + d.window) }

/-- Stops the timer. -/
def clear (d : Debouncer) : Debouncer :=
  { d with due := none }

/-- When the timer runs out, if it does so by a given time. -/
def dueBy? (d : Debouncer) (time : Nat) : Option Nat :=
  d.due.filter (· ≤ time)

end Debouncer

end QueryGate.Reload
