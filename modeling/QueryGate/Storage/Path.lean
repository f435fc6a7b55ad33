import QueryGate.Storage.Tree
import QueryGate.Text.Split

/-!
Paths that are written as text.
-/

namespace QueryGate.Storage

/-- The parts of a path between its slashes. A part that is a single dot leads
nowhere. -/
def pathParts (path : String) : List String :=
  ((Text.fields '/' path.toList).filter fun part =>
    !part.isEmpty && part != ['.']).map
    String.ofList

/-- Goes along the parts of a path. `above` are the directories above, nearest
first; nothing is known of what is beyond them. -/
def Node.walk (above : List Node) (node : Node) : List String → Except IoFault Node
  | [] => .ok node
  | part :: rest =>
      match node with
      | .file _ => .error .notADirectory
      | .directory entries =>
          if part = ".." then
            match above with
            | up :: above => up.walk above rest
            | [] => (Node.directory []).walk [] rest
          else
            match entries.lookup (FileName.ofText part) with
            | some inner => inner.walk (node :: above) rest
            | none => .error .notFound

/-- What is at the place of a path that begins in a directory. Nothing is known of
places that are named from the root. -/
def Node.locate (node : Node) (path : String) : Except IoFault Node :=
  if path.startsWith "/" then .error .notFound else node.walk [] (pathParts path)

end QueryGate.Storage
