import QueryGate.Text.Order

/-!
Facts in the form of a tree, and how the tree is written.

The entries of a record are written in ascending order of their keys, each on a line
of its own, two blanks deeper than the record itself.
-/

namespace QueryGate.Tool

/-- Facts in the form of a tree. -/
inductive Outline where
  | nothing
  | flag (value : Bool)
  | number (value : Int)
  | text (value : String)
  | list (items : List Outline)
  | record (entries : List (String × Outline))
deriving Repr, Inhabited

namespace Outline

/-- A digit of the base sixteen. -/
def hexDigit (n : Nat) : String :=
  String.singleton (Nat.digitChar n)

/-- A character inside quotes. Control characters are escaped, all else but quotes
and backslashes stands for itself. -/
def quotedChar (c : Char) : String :=
  if c = '"' then "\\\""
  else if c = '\\' then "\\\\"
  else if c = '\n' then "\\n"
  else if c = '\r' then "\\r"
  else if c = '\t' then "\\t"
  else if c = '\x08' then "\\b"
  else if c = '\x0c' then "\\f"
  else if c.toNat < 0x20 then "\\u00" ++ hexDigit (c.toNat / 16) ++
    hexDigit (c.toNat % 16)
  else String.singleton c

/-- A text in quotes. -/
def quoted (text : String) : String :=
  "\"" ++ String.join (text.toList.map quotedChar) ++ "\""

/-- The blanks at the beginning of a line. -/
def indentation (depth : Nat) : String :=
  String.ofList (List.replicate (2 * depth) ' ')

/-- Lines between brackets, or brackets alone where there are no lines. -/
def bracketed (left right : String) (depth : Nat) (lines : List String) : String :=
  if lines.isEmpty then left ++ right
  else
    left ++ "\n" ++ String.intercalate ",\n"
      (lines.map (indentation (depth + 1) ++ ·)) ++ "\n" ++
      indentation depth ++ right

mutual

/-- The text of a tree whose first line stands at some depth. -/
def write (depth : Nat) : Outline → String
  | nothing => "null"
  | flag value => if value then "true" else "false"
  | number value => toString value
  | text value => quoted value
  | list items => bracketed "[" "]" depth (writeItems (depth + 1) items)
  | record entries =>
      bracketed "\x7b" "\x7d" depth
        ((Text.sortedByKey (writeEntries (depth + 1) entries)).map Prod.snd)

def writeItems (depth : Nat) : List Outline → List String
  | [] => []
  | item :: rest => write depth item :: writeItems depth rest

/-- The text of each entry, beside its key. -/
def writeEntries (depth : Nat) : List (String × Outline) → List (String × String)
  | [] => []
  | (key, value) :: rest =>
      (key, quoted key ++ ": " ++ write depth value) :: writeEntries depth rest

end

/-- What may be missing. -/
def maybe {α : Type} (outline : α → Outline) : Option α → Outline
  | some a => outline a
  | none => nothing

def texts (items : List String) : Outline :=
  list (items.map text)

end Outline

end QueryGate.Tool
