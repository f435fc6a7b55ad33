import QueryGate.AllowList
import QueryGate.Settings
import QueryGate.Storage.Tree

/-!
The configuration that a directory holds.

The settings are in a file of their own, and there are default settings where it is
missing. Every file of the queries directory with one of the known extensions is a
query, named by the rest of its file name. The order in which a directory lists its
entries does not matter: queries are in ascending order of the bytes of their file
names.
-/

namespace QueryGate.Storage

/-- The file with the settings. -/
def settingsFile : String := "quarry.toml"

/-- The directory with the queries. -/
def queriesDirectory : String := "queries"

/-- What the name of a query file ends in. -/
def queryExtensions : List String := ["gql", "graphql"]

def dot : UInt8 := 46

/-- What stands before the last dot of a name, and what stands after it. A name
whose only dot is its first character has no extension. -/
def splitExtension? (name : FileName) : Option (FileName × FileName) :=
  let extension := (name.reverse.takeWhile (· != dot)).reverse
  let stem := (name.take (name.length - extension.length)).dropLast
  if stem.isEmpty then none else some (stem, extension)

/-- The name of the query in a file, if the file is one of a query. -/
def queryStem? (name : FileName) : Option FileName :=
  (splitExtension? name).bind fun (stem, extension) =>
    if (queryExtensions.map FileName.ofText).contains extension then some stem
    else none

/-- A file of a query: its name, the name of the query, and what the file holds. -/
structure QueryFile where
  fileName : FileName
  name : String
  node : Node

/-- The file of a query, unless the entry is something else. Names that are no text
are passed over. -/
def QueryFile.ofEntry? (entry : FileName × Node) : Option QueryFile := do
  let stem ← queryStem? entry.1
  let name ← decode? stem
  if entry.2.isFile then some ⟨entry.1, name, entry.2⟩ else none

/-- Files in ascending order of the bytes of their names. -/
def sortFiles (files : List QueryFile) : List QueryFile :=
  files.mergeSort fun a b => decide (a.fileName ≤ b.fileName)

/-- The record of a query. -/
def QueryFile.record (file : QueryFile) : Except IoFault AllowRecord :=
  file.node.text?.map fun text => ⟨file.name, "", text, ""⟩

/-- The records of the queries in a directory. -/
def recordsOf (entries : List (FileName × Node)) :
    Except IoFault (List AllowRecord) :=
  (sortFiles (entries.filterMap QueryFile.ofEntry?)).mapM QueryFile.record

/-- Follows a path from a place where nothing need be. -/
def follow (place : Except IoFault Node) (path : List String) :
    Except IoFault Node :=
  place.bind fun node => node.at? (path.map FileName.ofText)

/-- The settings at a place. -/
def readSettings (place : Except IoFault Node) : Except Error Settings :=
  match (follow place [settingsFile]).bind Node.text? with
  | .ok text => Settings.ofText text
  | .error .notFound => .ok .default
  | .error fault => .error (.io fault)

/-- The records at a place. -/
def readRecords (place : Except IoFault Node) : Except Error (List AllowRecord) :=
  match (follow place [queriesDirectory]).bind Node.entries? with
  | .ok entries =>
      match recordsOf entries with
      | .ok records => .ok records
      | .error fault => .error (.io fault)
  | .error .notFound => .ok []
  | .error fault => .error (.io fault)

end QueryGate.Storage
