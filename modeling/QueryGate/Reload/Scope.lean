import QueryGate.Storage.Path

/-!
Which changes of a configuration directory are noticed.

The directory itself is watched, and the whole of its well-known directories when
they exist at the start. Other directories are not, but that one is created is a
change of the directory itself.
-/

namespace QueryGate.Reload

/-- The directories that are watched to any depth. -/
def watchedDirectories : List String :=
  ["fragments", "queries", "scripts", "keys"]

/-- What is watched of a directory: those of the well-known directories that existed
at the start. -/
structure Scope where
  directories : List String
deriving DecidableEq, Repr

namespace Scope

/-- What is watched of a directory that holds others. -/
def ofDirectories (present : List String) : Scope :=
  ⟨watchedDirectories.filter present.contains⟩

/-- Whether it is noticed that a file is written, in a directory that holds
others. -/
def notices (scope : Scope) (present : List String) (path : String) : Bool :=
  match Storage.pathParts path with
  | [] => false
  | [_] => true
  | directory :: _ =>
      scope.directories.contains directory || !present.contains directory

end Scope

end QueryGate.Reload
