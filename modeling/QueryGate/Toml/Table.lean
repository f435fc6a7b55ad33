import QueryGate.Toml.Value

/-!
The tables of a TOML document while it is read.

A table is remembered together with what brought it about: a longer header implies
it, a dotted key makes it in passing, or a header declares it. A header may declare
a table once, and only where no value and no dotted key made it. Dotted keys go on
with tables that no header declared.
-/

namespace QueryGate.Toml

/-- What brought a table about. -/
inductive Origin where
  | implied
  | dotted
  | declared
deriving DecidableEq, Repr

/-- What a key stands for. Headers in double brackets have tables, each by its
entries. -/
inductive Node where
  | value (value : Value)
  | table (origin : Origin) (entries : List (String × Node))
  | tables (items : List (List (String × Node)))
deriving Repr, Inhabited

/-- The entries of a table, with distinct keys. -/
abbrev Entries : Type := List (String × Node)

namespace Entries

/-- Changes what a key stands for, or gives a new key something to stand for. -/
def update (key : String) (change : Option Node → Option Node) :
    Entries → Option Entries
  | [] => (change none).map fun node => [(key, node)]
  | (k, node) :: rest =>
      if k = key then (change (some node)).map fun node => (k, node) :: rest
      else (update key change rest).map ((k, node) :: ·)

/-- Changes the table at the end of a path. Tables on the path that are not there
yet come about, and of several tables for one key the last is meant. -/
def within (dotted : Bool) (change : Origin → Entries → Option Entries) :
    List String → Origin → Entries → Option Entries
  | [], origin, entries => change origin entries
  | key :: path, _, entries =>
      let fresh : Origin := if dotted then .dotted else .implied
      entries.update key fun
        | none => (within dotted change path fresh []).map (.table fresh)
        | some (.table origin inner) =>
            if dotted && origin = .declared then none
            else (within dotted change path origin inner).map (.table origin)
        | some (.tables items) =>
            match items.getLast? with
            | some last =>
                (within dotted change path .declared last).map fun changed =>
                  .tables (items.dropLast ++ [changed])
            | none => none
        | some (.value _) => none

/-- Gives the key at the end of a dotted key a value. A table belongs either to
dotted keys or to its header. -/
def set (path : List String) (key : String) (value : Value) (origin : Origin)
    (entries : Entries) : Option Entries :=
  within true (fun origin inner =>
    if (origin = .dotted) = path.isEmpty then none
    else inner.update key fun
      | none => some (.value value)
      | some _ => none) path origin entries

/-- Declares a table. -/
def declare (parents : List String) (key : String) (entries : Entries) :
    Option Entries :=
  within false (fun _ inner => inner.update key fun
    | none => some (.table .declared [])
    | some (.table .implied kept) => some (.table .declared kept)
    | some _ => none) parents .declared entries

/-- Adds a table to those of a key. -/
def append (parents : List String) (key : String) (entries : Entries) :
    Option Entries :=
  within false (fun _ inner => inner.update key fun
    | none => some (.tables [[]])
    | some (.tables items) => some (.tables (items ++ [[]]))
    | some _ => none) parents .declared entries

/-- Gives a key a value in the table of a header. -/
def setIn (header : List String) (path : List String) (key : String) (value : Value)
    (entries : Entries) : Option Entries :=
  within false (set path key value) header .declared entries

end Entries

mutual

/-- The value that a node stands for. -/
def Node.toValue : Node → Value
  | .value held => held
  | .table _ entries => .table (Node.valuesOf entries)
  | .tables items => .list (Node.tablesOf items)

def Node.valuesOf : List (String × Node) → List (String × Value)
  | [] => []
  | (key, node) :: rest => (key, node.toValue) :: Node.valuesOf rest

def Node.tablesOf : List (List (String × Node)) → List Value
  | [] => []
  | entries :: rest => .table (Node.valuesOf entries) :: Node.tablesOf rest

end

end QueryGate.Toml
