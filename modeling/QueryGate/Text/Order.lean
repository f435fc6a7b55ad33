/-!
Texts in ascending order of their characters.
-/

namespace QueryGate.Text

/-- The texts in ascending order. -/
def sorted (texts : List String) : List String :=
  texts.mergeSort fun a b => decide (a ≤ b)

/-- The distinct texts in ascending order. -/
def sortedDistinct (texts : List String) : List String :=
  (sorted texts).eraseReps

/-- Entries in ascending order of their keys. -/
def sortedByKey {α : Type} (entries : List (String × α)) : List (String × α) :=
  entries.mergeSort fun a b => decide (a.1 ≤ b.1)

end QueryGate.Text
