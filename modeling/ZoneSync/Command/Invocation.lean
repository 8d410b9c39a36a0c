import ZoneSync.Command.Line

/-!
# Invocations

What a command line asks for: a command with its operands, and the options that all commands share.
An option given further down the command tree wins over one given further up, and both win over a
variable of the environment.
-/

namespace ZoneSync.Command

structure Options where
  credentials : Option String
  config : Option String
  output : Format
  color : Option ColorMode
  quiet : Bool
  timeout : Option UInt64
  deriving DecidableEq, Repr

/-- Which layout files are read, and which of their domains count; all of them if none is listed. -/
structure Sources where
  files : List String
  domains : List String
  deriving DecidableEq, Repr

inductive Action where
  | print (sources : Sources) (sorted : Bool)
  | pull (domains : List String) (sorted : Bool)
  | push (sources : Sources) (commit yes : Bool)
  | showConfig
  | showConfigPath
  | setPassword (customer : Option String)
  | completions
  deriving DecidableEq, Repr

structure Invocation where
  options : Options
  action : Action
  deriving DecidableEq, Repr

namespace Reading

/-- The values of a flag, in the order in which they were given. -/
def values (reading : Reading) (flag : Flag) : List String :=
  (reading.given.filter fun entry => entry.1 = flag).map Prod.snd

def sources (reading : Reading) : Sources :=
  ⟨reading.operands, reading.values .domain⟩

/-- What the deepest level asks for. -/
def action (reading : Reading) : Action :=
  match reading.level with
  | .print => .print reading.sources (reading.has .sortRecords)
  | .pull => .pull reading.operands (reading.has .sortRecords)
  | .push => .push reading.sources (reading.has .commit) (reading.has .yes)
  | .configPath => .showConfigPath
  | .configSetPassword => .setPassword (reading.values .customer).head?
  | .completions => .completions
  | _ => .showConfig

end Reading

/-- The value of a global flag in levels, of which the deepest comes first. -/
def globalValue? (environment : String → Option String) (levels : List Reading) (flag : Flag) :
    Option String :=
  (levels.findSome? fun reading => (reading.values flag).head?).or (flag.standIn?.bind environment)

def optionsOf (environment : String → Option String) (levels : List Reading) : Options :=
  let value := globalValue? environment levels
  { credentials := value .credentials
    config := value .config
    output := ((value .output).bind formatOfName?).getD .layout
    color := (value .color).bind ColorMode.ofName?
    quiet := (value .quiet).isSome
    timeout := (value .timeout).bind timeoutOfText? }

/-- What the words of a command line ask for. -/
def parse (environment : String → Option String) (words : List String) :
    Except Usage Invocation := do
  match ← readLevels environment (Reading.start .top) words with
  | [] => throw .missingCommand
  | deepest :: above =>
    return ⟨optionsOf environment (deepest :: above), deepest.action⟩

end ZoneSync.Command
