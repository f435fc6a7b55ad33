import QueryGate.Error
import QueryGate.Pattern.Reader

/-!
The names of tables, columns and functions that are excluded by policy.

A blocklist is written as patterns, each of which is anchored at both ends of a
name. It is refused as a whole at the first entry that is no pattern, and when its
patterns take too much room together.
-/

namespace QueryGate

open Pattern

/-- An entry as it was written, and the pattern that names are compared with. -/
structure BlocklistEntry where
  pattern : String
  expression : Expression
deriving Repr

/-- The text of a pattern, anchored at both ends. -/
def anchored (pattern : List Char) : List Char :=
  "^(?:".toList ++ pattern ++ ")$".toList

/-- An entry for a pattern. -/
def BlocklistEntry.ofPattern (pattern : String) : Except Error BlocklistEntry :=
  match Expression.ofText? (anchored pattern.toList) with
  | some expression => .ok ⟨pattern, expression⟩
  | none => .error (.invalidBlocklist pattern)

def BlocklistEntry.blocks (entry : BlocklistEntry) (name : String) : Bool :=
  entry.expression.occursIn name.toList

/-- The excluded names. -/
structure Blocklist where
  entries : List BlocklistEntry
deriving Repr

namespace Blocklist

/-- The blocklist that excludes nothing. -/
def none : Blocklist :=
  ⟨[]⟩

/-- The blocklist of some patterns, unless one of them is invalid or they are too
large together. -/
def ofPatterns (patterns : List String) : Except Error Blocklist := do
  let entries ← patterns.mapM BlocklistEntry.ofPattern
  if Expression.fitTogether (entries.map BlocklistEntry.expression) then
    return ⟨entries⟩
  else
    throw (.invalidBlocklist (", ".intercalate patterns))

/-- The patterns as they were written. -/
def patterns (list : Blocklist) : List String :=
  list.entries.map BlocklistEntry.pattern

def isEmpty (list : Blocklist) : Bool :=
  list.entries.isEmpty

/-- Whether a name is excluded. -/
def blocks (list : Blocklist) (name : String) : Bool :=
  list.entries.any (·.blocks name)

end Blocklist

end QueryGate
