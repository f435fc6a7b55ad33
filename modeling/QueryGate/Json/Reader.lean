import QueryGate.Json.Token

/-!
Reading a JSON value from its text.

The tokens are read one after the other by a machine that keeps the lists and
objects still open. `Json.ofText?` gives the value of a text that holds exactly one
value. A later field of an object replaces an earlier one of the same key, and lists
and objects nest at most 127 deep.
-/

namespace QueryGate.Json

/-- A list or object whose end was not read yet: the items so far, latest first, or
the fields so far and the key whose value is being read. -/
inductive Frame where
  | list (items : List Json)
  | object (fields : Fields) (key : String)
deriving Repr, Inhabited

/-- What the next token has to be. In place of a value or a key there may be the end
of the list or object when nothing was read of it yet. What follows a value belongs
to the innermost frame, and there is nothing more outside of all frames. -/
inductive Expectation where
  | value (mayClose : Bool)
  | key (fields : Fields) (mayClose : Bool)
  | colon (fields : Fields) (key : String)
  | following (value : Json)
deriving Repr, Inhabited

structure ReaderState where
  expected : Expectation
  open_ : List Frame
deriving Repr, Inhabited

/-- How deep lists and objects may nest. -/
def maxDepth : Nat := 127

/-- Opens a list or an object. -/
def ReaderState.enter (s : ReaderState) (frame : Frame) (expected : Expectation) :
    Option ReaderState :=
  if s.open_.length < maxDepth then some ⟨expected, frame :: s.open_⟩ else none

/-- Reads one token. -/
def ReaderState.step (s : ReaderState) (t : Token) : Option ReaderState :=
  match s.expected, t, s.open_ with
  | .value _, .atom value, _ => some { s with expected := .following value }
  | .value _, .openList, _ => s.enter (.list []) (.value true)
  | .value _, .openObject, _ => s.enter (.object [] "") (.key [] true)
  | .value true, .closeList, .list items :: outer =>
      some ⟨.following (.list items.reverse), outer⟩
  | .key fields _, .atom (.text key), _ =>
      some { s with expected := .colon fields key }
  | .key fields true, .closeObject, .object _ _ :: outer =>
      some ⟨.following (.object fields), outer⟩
  | .colon fields key, .colon, .object _ _ :: outer =>
      some ⟨.value false, .object fields key :: outer⟩
  | .following value, .comma, .list items :: outer =>
      some ⟨.value false, .list (value :: items) :: outer⟩
  | .following value, .closeList, .list items :: outer =>
      some ⟨.following (.list (value :: items).reverse), outer⟩
  | .following value, .comma, .object fields key :: outer =>
      some ⟨.key (fields.insert key value) false, .object fields key :: outer⟩
  | .following value, .closeObject, .object fields key :: outer =>
      some ⟨.following (.object (fields.insert key value)), outer⟩
  | _, _, _ => none

/-- The value that was read, when nothing is open any more. -/
def ReaderState.value? (s : ReaderState) : Option Json :=
  match s.expected, s.open_ with
  | .following value, [] => some value
  | _, _ => none

/-- The value that a sequence of tokens spells. -/
def ofTokens? (tokens : List Token) : Option Json :=
  (tokens.foldlM ReaderState.step ⟨.value false, []⟩).bind ReaderState.value?

/-- The value that a text spells. -/
def ofText? (s : List Char) : Option Json :=
  (tokens? s).bind ofTokens?

end QueryGate.Json
