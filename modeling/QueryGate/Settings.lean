import QueryGate.Access.Role
import QueryGate.Blocklist
import QueryGate.Toml.Reader

/-!
The settings of an engine and their document.

Every setting has a default, and a document with anything but settings in it is
refused. `Settings.ofText` reads the document.
-/

namespace QueryGate

open Access

/-- The settings of an engine. In production it accepts registered queries only, and
keeps what is compiled, unless the allow-list is disabled. Between two looks at the
schema of the database there are some seconds; a negative number stands for no
looks. The blocklist has patterns of the names that are blocked. By default, what
the anonymous role does not name may be blocked. -/
structure Settings where
  production : Bool
  disableAllowList : Bool
  pollSeconds : Int
  blocklist : List String
  roles : List RoleConfig
  defaultBlock : Bool
deriving DecidableEq, Repr

namespace Settings

def default : Settings :=
  { production := false
    disableAllowList := false
    pollSeconds := 10
    blocklist := []
    roles := []
    defaultBlock := false }

/-- Whether only registered queries may run. -/
def restricted (settings : Settings) : Bool :=
  settings.production && !settings.disableAllowList

/-- Shorter intervals than this are not used. -/
def shortestPoll : Int := 5

/-- The interval in place of one that is too short. -/
def fallbackPoll : Nat := 10

/-- The seconds between two looks at the schema, if there are any. Restricted
engines never look. -/
def pollInterval (settings : Settings) : Option Nat :=
  if settings.restricted then none
  else if settings.pollSeconds < 0 then none
  else if settings.pollSeconds < shortestPoll then some fallbackPoll
  else some settings.pollSeconds.toNat

/-- The blocked names. -/
def blockedNames (settings : Settings) : Except Error Blocklist :=
  Blocklist.ofPatterns settings.blocklist

end Settings

namespace Toml.Value

def asText? : Value → Option String
  | .text value => some value
  | _ => none

def asBoolean? : Value → Option Bool
  | .boolean value => some value
  | _ => none

def asInteger? : Value → Option Int
  | .integer value => some value
  | _ => none

def asList? : Value → Option (List Value)
  | .list items => some items
  | _ => none

def asListOf? {α : Type} (read : Value → Option α) (value : Value) :
    Option (List α) :=
  value.asList?.bind fun items => items.mapM read

end Toml.Value

/-- Entries under some of the known keys, or nothing when a key is not known. -/
def knownEntries? (keys : List String) (entries : List (String × Toml.Value)) :
    Option (List (String × Toml.Value)) :=
  if entries.all fun entry => keys.contains entry.1 then some entries else none

/-- The entries of a record. A record may be written as a list of its values in
order, which may end early; values beyond the last one are passed over. -/
def recordEntries? (keys : List String) :
    Toml.Value → Option (List (String × Toml.Value))
  | .table entries => knownEntries? keys entries
  | .list items => some (keys.zip items)
  | _ => none

/-- The value of an entry, or a default where there is none. -/
def entryOr? {α : Type} (entries : List (String × Toml.Value)) (key : String)
    (read : Toml.Value → Option α) (absent : α) : Option α :=
  match entries.lookup key with
  | some value => read value
  | none => some absent

namespace Access

def RoleTableConfig.ofToml? (value : Toml.Value) : Option RoleTableConfig := do
  let entries ← recordEntries? ["schema", "name", "read_only", "blocked"] value
  return {
    schema := ← entryOr? entries "schema" Toml.Value.asText? ""
    name := ← entryOr? entries "name" Toml.Value.asText? ""
    readOnly := ← entryOr? entries "read_only" Toml.Value.asBoolean? false
    blocked := ← entryOr? entries "blocked" Toml.Value.asBoolean? false }

def RoleConfig.ofToml? (value : Toml.Value) : Option RoleConfig := do
  let entries ← recordEntries? ["name", "match", "tables"] value
  return {
    name := ← entryOr? entries "name" Toml.Value.asText? ""
    filter := ← entryOr? entries "match" Toml.Value.asText? ""
    tables := ← entryOr? entries "tables" (·.asListOf? RoleTableConfig.ofToml?) [] }

end Access

namespace Settings

/-- The names of the settings. -/
def keys : List String :=
  ["production", "disable_allow_list", "db_schema_poll_duration", "blocklist",
    "roles", "default_block"]

/-- The settings that the entries of a document give. -/
def ofEntries? (entries : List (String × Toml.Value)) : Option Settings := do
  let entries ← knownEntries? keys entries
  return {
    production :=
      ← entryOr? entries "production" Toml.Value.asBoolean? default.production
    disableAllowList :=
      ← entryOr? entries "disable_allow_list" Toml.Value.asBoolean?
        default.disableAllowList
    pollSeconds :=
      ← entryOr? entries "db_schema_poll_duration" Toml.Value.asInteger?
        default.pollSeconds
    blocklist :=
      ← entryOr? entries "blocklist" (·.asListOf? Toml.Value.asText?)
        default.blocklist
    roles :=
      ← entryOr? entries "roles" (·.asListOf? RoleConfig.ofToml?) default.roles
    defaultBlock :=
      ← entryOr? entries "default_block" Toml.Value.asBoolean?
        default.defaultBlock }

/-- The settings of a document. -/
def ofText (text : String) : Except Error Settings :=
  match (Toml.Document.ofText? text.toList).bind ofEntries? with
  | some settings => .ok settings
  | none => .error .malformedConfig

end Settings

end QueryGate
