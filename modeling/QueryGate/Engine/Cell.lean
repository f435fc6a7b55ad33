import QueryGate.Engine.Cache
import QueryGate.Engine.Statement

/-!
What an engine keeps for the targets of its cache.

A cell holds the statement of a target once there is one, and the variables of the
latest request that selected the target. Writing one cell leaves all others as they
are.
-/

namespace QueryGate.Engine

/-- What is kept for a target. -/
structure Cell (Plan : Type) where
  statement : Option (Statement Plan)
  lastVars : Option Variables

namespace Cell

/-- A cell that nothing was written to. -/
def empty {Plan : Type} : Cell Plan :=
  ⟨none, none⟩

end Cell

/-- The cells of all targets; those that are not listed are empty. -/
structure Cells (Plan : Type) where
  written : List (TargetKey × Cell Plan)

namespace Cells

variable {Plan : Type}

/-- The cells that nothing was written to. -/
def empty : Cells Plan :=
  ⟨[]⟩

def get (cells : Cells Plan) (key : TargetKey) : Cell Plan :=
  (cells.written.lookup key).getD .empty

def set (cells : Cells Plan) (key : TargetKey) (cell : Cell Plan) : Cells Plan :=
  ⟨(key, cell) :: cells.written.filter fun entry => entry.1 ≠ key⟩

/-- Keeps the variables of a request. -/
def storeVars (cells : Cells Plan) (key : TargetKey)
    (vars : Variables) : Cells Plan :=
  cells.set key { cells.get key with lastVars := some vars }

/-- Keeps a statement. -/
def storeStatement (cells : Cells Plan) (key : TargetKey)
    (statement : Statement Plan) : Cells Plan :=
  cells.set key { cells.get key with statement := some statement }

@[simp] theorem get_empty (key : TargetKey) :
    (empty : Cells Plan).get key = .empty :=
  rfl

@[simp] theorem get_set_self (cells : Cells Plan) (key : TargetKey)
    (cell : Cell Plan) : (cells.set key cell).get key = cell := by
  simp [get, set]

theorem lookup_filter_ne {written : List (TargetKey × Cell Plan)}
    {key other : TargetKey} (h : other ≠ key) :
    (written.filter fun entry => entry.1 ≠ key).lookup other =
      written.lookup other := by
  induction written with
  | nil => rfl
  | cons entry rest ih =>
      obtain ⟨k, cell⟩ := entry
      by_cases hk : k = key
      · subst hk
        have hne : (other == k) = false := by simpa using h
        simpa [List.lookup_cons, hne] using ih
      · by_cases ho : other = k <;> simp_all [List.lookup_cons]

theorem get_set_of_ne (cells : Cells Plan) {key other : TargetKey}
    (cell : Cell Plan) (h : other ≠ key) :
    (cells.set key cell).get other = cells.get other := by
  have hbeq : (other == key) = false := by simpa using h
  simp only [get, set, List.lookup_cons, hbeq]
  rw [lookup_filter_ne h]

end Cells

end QueryGate.Engine
