import QueryGate.Text.Split
import QueryGate.Tool.Number

/-!
The command line.

Options stand before or after the word of the command, with their value behind an
equals sign, in the next argument or, for an option of one letter, right behind the
letter. What the command line does not say is taken from the environment and,
failing that, is a default. Nothing may be said twice, except that the logging
filter may be given both before and after the command, and then the latter counts.
-/

namespace QueryGate.Tool

/-- Why a command line gives no command. -/
inductive Stop where
  | help
  | usage
deriving DecidableEq, Repr

/-- An option with a value. -/
inductive Setting where
  | log
  | db
  | config
  | debounce
deriving DecidableEq, Repr

/-- An option without a value. -/
inductive Switch where
  | json
  | noWatch
deriving DecidableEq, Repr

namespace Setting

def name : Setting → String
  | log => "log"
  | db => "db"
  | config => "config"
  | debounce => "debounce"

/-- The environment variable that counts where the command line says nothing. -/
def environmentName : Setting → String
  | log => "QUARRY_LOG"
  | db => "QUARRY_DB"
  | config => "QUARRY_CONFIG"
  | debounce => "QUARRY_RELOAD_DEBOUNCE"

/-- Whether a text is a value of the option. -/
def accepts : Setting → String → Bool
  | log, _ => true
  | db, _ => true
  | config, text => !text.isEmpty
  | debounce, text => (readWord? text).isSome

end Setting

def Switch.name : Switch → String
  | json => "json"
  | noWatch => "no-watch"

/-- The words that commands go by. -/
inductive Verb where
  | check
  | watch
  | version
deriving DecidableEq, Repr

namespace Verb

def name : Verb → String
  | check => "check"
  | watch => "watch"
  | version => "version"

def all : List Verb :=
  [check, watch, version]

def ofName? (text : String) : Option Verb :=
  all.find? (·.name = text)

/-- The options with a value that belong to a command, or to none of them. -/
def settings : Option Verb → List Setting
  | none => [.log]
  | some version => [.log]
  | some check => [.log, .db, .config]
  | some watch => [.log, .db, .config, .debounce]

/-- The options without a value that belong to a command. -/
def switches : Option Verb → List Switch
  | some check => [.json]
  | some watch => [.noWatch]
  | _ => []

end Verb

/-- What was read on one side of the command. Of the latest option, at most the
value was read. -/
structure Given where
  settings : List (Setting × String)
  switches : List Switch
  latest : Option (Setting × Option String)
deriving DecidableEq, Repr

namespace Given

def nothing : Given :=
  ⟨[], [], none⟩

/-- Whether the next argument is the value of the latest option. -/
def awaitsValue (given : Given) : Bool :=
  match given.latest with
  | some (_, none) => true
  | _ => false

/-- Takes an option with its value, unless there is one already or the value is
unfit. -/
def take (given : Given) (setting : Setting) (value : String) : Except Stop Given :=
  if (given.settings.lookup setting).isSome || !setting.accepts value then
    .error .usage
  else .ok { given with settings := given.settings ++ [(setting, value)] }

/-- Takes the latest option, which has to have its value by now. -/
def settle (given : Given) : Except Stop Given :=
  match given.latest with
  | none => .ok given
  | some (_, none) => .error .usage
  | some (setting, some value) => { given with latest := none }.take setting value

/-- Reads an option with a value, which may stand behind it. -/
def option (given : Given) (setting : Setting) : Option String → Except Stop Given
  | some value => do (← given.settle).take setting value
  | none => do
      let given ← given.settle
      return { given with latest := some (setting, none) }

/-- Reads an option without a value. -/
def switch (given : Given) (switch : Switch) : Except Stop Given := do
  let given ← given.settle
  if given.switches.contains switch then .error .usage
  else return { given with switches := given.switches ++ [switch] }

/-- Asks for help, unless something was wrong before. -/
def help (given : Given) : Except Stop Given := do
  let _ ← given.settle
  .error .help

/-- Reads an option that is written as a word. -/
def longOption (verb : Option Verb) (given : Given) (name : String)
    (value : Option String) : Except Stop Given :=
  match (Verb.settings verb).find? (·.name = name) with
  | some setting => given.option setting value
  | none =>
      match (Verb.switches verb).find? (·.name = name), value with
      | some found, none => given.switch found
      | _, _ => if name = "help" && value.isNone then given.help else .error .usage

/-- Reads options that are written as letters. -/
def shortOptions (given : Given) : List Char → Except Stop Given
  | 'h' :: _ => given.help
  | ['l'] => given.option .log none
  | 'l' :: '=' :: value => given.option .log (some (String.ofList value))
  | 'l' :: value => given.option .log (some (String.ofList value))
  | _ => .error .usage

/-- The word of an option and the value behind it. -/
def nameAndValue (text : List Char) : String × Option String :=
  match Text.splitOnce ['='] text with
  | some (name, value) => (String.ofList name, some (String.ofList value))
  | none => (String.ofList text, none)

/-- Reads an argument that is no command. -/
def argument (verb : Option Verb) (given : Given) (text : String) :
    Except Stop Given :=
  match text.toList with
  | '-' :: '-' :: rest =>
      let (name, value) := nameAndValue rest
      given.longOption verb name value
  | '-' :: c :: rest => given.shortOptions (c :: rest)
  | _ =>
      match given.latest with
      | some (setting, none) =>
          .ok { given with latest := some (setting, some text) }
      | _ => .error .usage

end Given

/-- Reads the arguments after the command. Nothing may follow two dashes. -/
def readAfter (verb : Verb) (given : Given) : List String → Except Stop Given
  | [] => given.settle
  | text :: rest =>
      if text = "--" then if rest.isEmpty then given.settle else .error .usage
      else do readAfter verb (← given.argument (some verb) text) rest

/-- A command line: what stands before the command, the command, and what stands
after it. -/
structure CommandLine where
  before : Given
  verb : Verb
  after : Given
deriving DecidableEq, Repr

/-- What the arguments after the word `help` ask for. -/
def readHelp : List String → Stop
  | [] => .help
  | [text] => if (Verb.ofName? text).isSome || text = "help" then .help else .usage
  | _ => .usage

/-- Reads the arguments from the first one. -/
def readBefore (given : Given) : List String → Except Stop CommandLine
  | [] => .error .usage
  | text :: rest =>
      if !given.awaitsValue && text = "help" then .error (readHelp rest)
      else if text = "--" then .error .usage
      else
        match if given.awaitsValue then none else Verb.ofName? text with
        | some verb => do
            let after ← readAfter verb .nothing rest
            return ⟨← given.settle, verb, after⟩
        | none => do readBefore (← given.argument none text) rest

/-- The values of environment variables. -/
abbrev Environment : Type := List (String × String)

/-- The value of an option that the command line or the environment gives. -/
def Given.value? (given : Given) (environment : Environment) (setting : Setting) :
    Except Stop (Option String) :=
  match given.settings.lookup setting,
    environment.lookup setting.environmentName with
  | some value, _ => .ok (some value)
  | none, some value =>
      if setting.accepts value then .ok (some value) else .error .usage
  | none, none => .ok none

/-- The database to look at, and where its configuration is. -/
structure Subject where
  endpoint : String
  config : String
deriving DecidableEq, Repr

/-- What is to be done. -/
inductive Command where
  | check (subject : Subject) (json : Bool)
  | watch (subject : Subject) (debounce : Option Nat) (noWatch : Bool)
  | version
deriving DecidableEq, Repr

/-- What is to be done, and which notices are to be shown. -/
structure Invocation where
  log : String
  command : Command
deriving DecidableEq, Repr

/-- The logging filter where nothing is said about it. -/
def defaultLog : String := "info"

/-- The directory of the configuration where nothing is said about it. -/
def defaultConfig : String := "."

namespace CommandLine

def subject (line : CommandLine) (environment : Environment) :
    Except Stop Subject := do
  let config ← line.after.value? environment .config
  match ← line.after.value? environment .db with
  | some endpoint => return ⟨endpoint, config.getD defaultConfig⟩
  | none => .error .usage

def command (line : CommandLine) (environment : Environment) :
    Except Stop Command :=
  match line.verb with
  | .check => do
      return .check (← line.subject environment)
        (line.after.switches.contains .json)
  | .watch => do
      let debounce ← line.after.value? environment .debounce
      return .watch (← line.subject environment) (debounce.bind readWord?)
        (line.after.switches.contains .noWatch)
  | .version => .ok .version

/-- The logging filter: what stands after the command counts before what stands in
front of it. -/
def log (line : CommandLine) (environment : Environment) : String :=
  ((line.after.settings.lookup .log <|> line.before.settings.lookup .log) <|>
    environment.lookup Setting.log.environmentName).getD defaultLog

end CommandLine

/-- What the arguments and the environment ask for. -/
def Invocation.ofArguments (arguments : List String) (environment : Environment) :
    Except Stop Invocation := do
  let line ← readBefore .nothing arguments
  return ⟨line.log environment, ← line.command environment⟩

end QueryGate.Tool
