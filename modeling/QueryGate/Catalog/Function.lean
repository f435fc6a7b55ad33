import QueryGate.Catalog.Row

/-!
Functions grouped from their rows.

Rows with the same identifier are about one function, which has the name of the
first of them. Functions with a blocked name are left out. Parameters are ordered by
position, and one without a name of its own is named by its rank, counted from one.
-/

namespace QueryGate.Catalog

/-- A parameter of a function. -/
structure Param where
  position : Int
  name : String
  type : String
deriving DecidableEq, Repr

/-- A function and its parameters in order. -/
structure Function where
  name : String
  params : List Param
deriving DecidableEq, Repr

/-- The parameter of a name. -/
def Function.param? (function : Function) (name : String) : Option Param :=
  function.params.find? (·.name = name)

/-- A parameter as its row has it. -/
structure ParamRow where
  position : Int
  name : Option String
  type : String
deriving DecidableEq, Repr

def FunctionRow.param (row : FunctionRow) : Option ParamRow :=
  row.position.map fun position => ⟨position, row.paramName, row.paramType⟩

/-- A function while its rows are collected, with its parameters in the order of
their rows. -/
structure FunctionGroup where
  id : String
  name : String
  params : List ParamRow
deriving DecidableEq, Repr

/-- Adds a row to the function it is about. A row about no function so far begins a
new one unless its name is blocked. -/
def addFunctionRow (blocked : String → Bool) (row : FunctionRow) :
    List FunctionGroup → List FunctionGroup
  | [] => if blocked row.name then [] else [⟨row.id, row.name, row.param.toList⟩]
  | g :: rest =>
      if g.id = row.id then
        { g with params := g.params ++ row.param.toList } :: rest
      else g :: addFunctionRow blocked row rest

/-- The name of a parameter: the one it was declared with, or its rank. -/
def ParamRow.nameAt (row : ParamRow) (rank : Nat) : String :=
  match row.name with
  | some name => if name.isEmpty then toString rank else name
  | none => toString rank

/-- Orders parameters by position, those of the same position as their rows, and
names them. -/
def orderParams (rows : List ParamRow) : List Param :=
  (rows.mergeSort fun a b => decide (a.position ≤ b.position)).zipIdx.map
    fun (row, i) =>
    ⟨row.position, row.nameAt (i + 1), row.type⟩

/-- The functions that rows are about, in order of first appearance. -/
def groupFunctions (blocked : String → Bool) (rows : List FunctionRow) :
    List Function :=
  (rows.foldl (fun groups row => addFunctionRow blocked row groups) []).map
    fun group =>
    ⟨group.name, orderParams group.params⟩

end QueryGate.Catalog
