import QueryGate.Error

/-!
Files and directories.

Names and contents are bytes, which need not be text, and a file need not be
readable. A path is the list of the names that lead to a file, and following it
fails where a name is missing or where a file stands in the way.
-/

namespace QueryGate.Storage

/-- A name in a directory. -/
abbrev FileName : Type := List UInt8

namespace FileName

def ofText (text : String) : FileName :=
  text.toUTF8.data.toList

end FileName

/-- The text of bytes that are UTF-8. -/
def decode? (bytes : List UInt8) : Option String :=
  String.fromUTF8? ⟨bytes.toArray⟩

theorem decode?_eq_some_iff {bytes : List UInt8} {text : String} :
    decode? bytes = some text ↔ bytes = FileName.ofText text := by
  rw [decode?, String.fromUTF8?]
  constructor
  · intro h
    split at h
    · cases h
      rfl
    · cases h
  · rintro rfl
    exact dif_pos text.isValidUTF8

/-- A file, with what it holds or why that cannot be read, or a directory. -/
inductive Node where
  | file (content : Except IoFault (List UInt8))
  | directory (entries : List (FileName × Node))
deriving Repr, Inhabited

namespace Node

/-- What stands at the end of a path. -/
def at? (node : Node) : List FileName → Except IoFault Node
  | [] => .ok node
  | name :: rest =>
      match node with
      | file _ => .error .notADirectory
      | directory entries =>
          match entries.lookup name with
          | some inner => inner.at? rest
          | none => .error .notFound

def isFile : Node → Bool
  | file _ => true
  | directory _ => false

/-- The entries of a directory. -/
def entries? : Node → Except IoFault (List (FileName × Node))
  | directory entries => .ok entries
  | file _ => .error .notADirectory

/-- The text of a file. -/
def text? : Node → Except IoFault String
  | directory _ => .error .isADirectory
  | file content => content.bind fun bytes =>
      match decode? bytes with
      | some text => .ok text
      | none => .error .invalidData

/-- The entries of a directory, or none where there is a file. -/
def entries (node : Node) : List (FileName × Node) :=
  match node with
  | directory entries => entries
  | file _ => []

/-- Changes what stands under a name. Nothing stands there afterwards when the
change gives nothing. -/
def alter (change : Option Node → Option Node) (name : FileName) :
    List (FileName × Node) → List (FileName × Node)
  | [] => ((change none).map fun node => (name, node)).toList
  | entry :: rest =>
      if entry.1 = name then
        ((change (some entry.2)).map fun node => (name, node)).toList ++ rest
      else entry :: alter change name rest

/-- Puts something at the end of a path. Directories on the way are made. -/
def put (new : Option Node → Node) (node : Option Node) : List FileName → Node
  | [] => new node
  | name :: rest =>
      .directory (alter (fun inner => some (put new inner rest)) name
        ((node.map entries).getD []))

/-- Writes a file. -/
def writeFile (node : Node) (path : List FileName) (content : List UInt8) : Node :=
  put (fun _ => .file (.ok content)) (some node) path

/-- Makes a directory, unless there is one. -/
def makeDirectory (node : Node) (path : List FileName) : Node :=
  put (fun found => .directory ((found.map entries).getD [])) (some node) path

/-- Removes what stands at the end of a path, if anything does. -/
def remove (node : Node) : List FileName → Node
  | [] => node
  | name :: rest =>
      match node with
      | file content => .file content
      | directory entries =>
          .directory (alter (fun inner =>
            if rest.isEmpty then none else inner.map (remove · rest))
            name entries)

end Node

end QueryGate.Storage
