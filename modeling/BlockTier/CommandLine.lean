import BlockTier.Settings
/-!
The command line: a role, and the options that may stand before its name or after it. An option
given after the name counts before one given ahead of it, and both count before the environment.
-/
namespace BlockTier

def Role.all : List Role := [sidecar, controller, storageNode]

def Role.command : Role → String
  | sidecar => "sidecar"
  | controller => "controller"
  | storageNode => "storage-node"

def Role.ofCommand? (word : String) : Option Role :=
  all.find? (·.command = word)

theorem Role.ofCommand?_command (r : Role) : ofCommand? r.command = some r := by
  cases r <;> decide

namespace CommandLine

structure Invocation where
  role : Role
  config : String
  listen : Option String
  verbose : Bool
  deriving DecidableEq

/-- Why a command line starts no role. -/
inductive Stop
  | help
  | version
  | nothingGiven
  | missingCommand
  | unknownCommand
  | unknownArgument
  | invalidValue
  | unwantedValue
  | repeated
  deriving DecidableEq

def Stop.exitCode : Stop → UInt32
  | help | version => 0
  | _ => 2

/-- The options that take a value. -/
inductive Key
  | config | listen
  deriving DecidableEq

inductive Meaning
  | value (key : Key)
  | verbose
  | help
  | version

/-- The options of a level of the command line; only the top one tells the version. -/
def Meaning.ofLong? (top : Bool) (name : String) : Option Meaning :=
  if name = "config" then some (.value .config)
  else if name = "listen" then some (.value .listen)
  else if name = "verbose" then some .verbose
  else if name = "help" then some .help
  else if name = "version" ∧ top then some .version
  else none

def Meaning.ofShort? (top : Bool) (letter : Char) : Option Meaning :=
  if letter = 'c' then some (.value .config)
  else if letter = 'v' then some .verbose
  else if letter = 'h' then some .help
  else if letter = 'V' ∧ top then some .version
  else none

inductive Form
  | separator
  | long (name : String) (attached : Option String)
  | short (letters : List Char)
  | word

def Form.of (argument : String) : Form :=
  match argument.toList with
  | ['-', '-'] => .separator
  | '-' :: '-' :: text =>
    let name := text.takeWhile (· ≠ '=')
    match text.drop name.length with
    | [] => .long (.ofList name) none
    | _ :: value => .long (.ofList name) (some (.ofList value))
  | '-' :: letter :: more => .short (letter :: more)
  | _ => .word

/-- What one level of the command line has said so far. -/
structure Given where
  config : Option String := none
  listen : Option String := none
  verbose : Bool := false
  /-- An option whose value stands in an argument of its own, with the value once it has come. It
  is entered when the next option or the end of the command line is reached. -/
  pending : Option (Key × Option String) := none
  separated : Bool := false

namespace Given

def find? (g : Given) : Key → Option String
  | .config => g.config
  | .listen => g.listen

/-- Enters a value. Each option is given at most once, and no path is empty. -/
def enter (g : Given) (key : Key) (value : String) : Except Stop Given :=
  if (g.find? key).isSome then .error .repeated
  else
    match key with
    | .config => if value = "" then .error .invalidValue else .ok { g with config := some value }
    | .listen => .ok { g with listen := some value }

def settle (g : Given) : Except Stop Given :=
  match g.pending with
  | none => .ok g
  | some (_, none) => .error .invalidValue
  | some (key, some value) => { g with pending := none }.enter key value

def setVerbose (g : Given) : Except Stop Given := do
  let g ← g.settle
  if g.verbose then .error .repeated else .ok { g with verbose := true }

/-- Obeys an option that carries no value of its own. -/
def obey (g : Given) : Meaning → Except Stop Given
  | .value key => do return { ← g.settle with pending := some (key, none) }
  | .verbose => g.setVerbose
  | .help => do
    let _ ← g.settle
    .error .help
  | .version => do
    let _ ← g.settle
    .error .version

def long (g : Given) (top : Bool) (name : String) (attached : Option String) :
    Except Stop Given :=
  match Meaning.ofLong? top name, attached with
  | none, _ => .error .unknownArgument
  | some (.value key), some value => do (← g.settle).enter key value
  | some _, some _ => .error .unwantedValue
  | some meaning, none => g.obey meaning

/-- Several letters may share a dash; the first one that takes a value takes what follows it. -/
def short (g : Given) (top : Bool) : List Char → Except Stop Given
  | [] => .ok g
  | letter :: more =>
    match Meaning.ofShort? top letter, more with
    | none, _ => .error .unknownArgument
    | some (.value key), '=' :: value => do (← g.settle).enter key (.ofList value)
    | some (.value key), c :: value => do (← g.settle).enter key (.ofList (c :: value))
    | some meaning, more => do short (← g.obey meaning) top more

def awaiting? (g : Given) : Option Key :=
  match g.pending with
  | some (key, none) => some key
  | _ => none

/-- The path in the environment counts where this level names none. -/
def checkEnvironment (g : Given) (environment : Option String) : Except Stop Unit :=
  if g.config.isNone ∧ environment = some "" then .error .invalidValue else .ok ()

end Given

/-- Help on a command; commands have none below them. -/
def helpOn : List String → Stop
  | [] => .help
  | [word] => if word = "help" ∨ (Role.ofCommand? word).isSome then .help else .unknownCommand
  | _ => .unknownCommand

/-- Why a word, which is no option's value, cannot stand at the top level after the options. -/
def misplaced (word : String) : Stop :=
  if word = "help" ∨ (Role.ofCommand? word).isSome then .unknownArgument else .unknownCommand

/-- Reads the options of a level. At the top level a role's name ends them: it is given with the
arguments that follow it. -/
def readLevel (top : Bool) (g : Given) :
    List String → Except Stop (Given × Option (Role × List String))
  | [] => .ok (g, none)
  | argument :: rest =>
    if g.separated then .error (if top then misplaced argument else .unknownArgument)
    else
      match Form.of argument with
      | .separator => readLevel top { g with separated := true } rest
      | .long name attached => do readLevel top (← g.long top name attached) rest
      | .short letters => do readLevel top (← g.short top letters) rest
      | .word =>
        match g.awaiting? with
        | some key => readLevel top { g with pending := some (key, some argument) } rest
        | none =>
          if !top then .error .unknownArgument
          else if argument = "help" then .error (helpOn rest)
          else
            match Role.ofCommand? argument with
            | some role => .ok (g, some (role, rest))
            | none => .error .unknownCommand

def defaultConfig : String := "config.json"

/-- Reads a command line; `environment` holds the path that the environment names. -/
def read (arguments : List String) (environment : Option String) : Except Stop Invocation := do
  let (top, command) ← readLevel true {} arguments
  match command with
  | none =>
    let top ← top.settle
    top.checkEnvironment environment
    let given := top.config.isSome || environment.isSome || top.listen.isSome || top.verbose
    .error (if given then .missingCommand else .nothingGiven)
  | some (role, rest) =>
    let (below, _) ← readLevel false {} rest
    let below ← below.settle
    below.checkEnvironment environment
    let top ← top.settle
    top.checkEnvironment environment
    return {
      role
      config := (((below.config).or top.config).or environment).getD defaultConfig
      listen := below.listen.or top.listen
      verbose := below.verbose || top.verbose }

end CommandLine

end BlockTier
