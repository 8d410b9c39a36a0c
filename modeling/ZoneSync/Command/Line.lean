import ZoneSync.Text.Numeral
import ZoneSync.View

/-!
# Command lines

The commands of the program with their flags, and how the words of a command line are read. Every
level of the command tree has its own flags and knows the global ones, too. Words are read from left
to right; a flag that takes a value waits for it, and its value is checked when the next flag begins
or the level ends.
-/

namespace ZoneSync.Command

/-- Why a command line is not carried out: help or the version is asked for, or a word is wrong. -/
inductive Usage where
  | help
  | helpForMissing
  | version (text : String)
  | missingOperand
  | missingCommand
  | unknownCommand
  | unknownFlag
  | badValue
  | unreadableValue
  | repeatedFlag
  | unneededValue
  deriving DecidableEq, Repr

/-- The exit code of the program. -/
def Usage.exitCode : Usage → Nat
  | help | version _ => 0
  | _ => 2

/-- When to use colours. -/
inductive ColorMode where
  | auto | always | never
  deriving DecidableEq, Repr

def ColorMode.ofName? (name : String) : Option ColorMode :=
  [("auto", auto), ("always", always), ("never", never)].lookup name

/-- The formats by the names they have on a command line. -/
def formatOfName? (name : String) : Option Format :=
  [("dsl", Format.layout), ("json", .json), ("yaml", .yaml)].lookup name

def timeoutOfText? (text : String) : Option UInt64 :=
  (Text.numeral? UInt64.size text.toList).map .ofNat

/-! ### Flags -/

inductive Flag where
  | credentials | config | output | color | verbose | quiet | timeout | help | version
  | domain | sortRecords | commit | yes | customer
  deriving DecidableEq, Repr

namespace Flag

def name : Flag → String
  | credentials => "credentials"
  | config => "config"
  | output => "output"
  | color => "color"
  | verbose => "verbose"
  | quiet => "quiet"
  | timeout => "timeout"
  | help => "help"
  | version => "version"
  | domain => "domain"
  | sortRecords => "sort-records"
  | commit => "commit"
  | yes => "yes"
  | customer => "customer"

def letter? : Flag → Option Char
  | credentials => some 'c'
  | output => some 'o'
  | verbose => some 'v'
  | quiet => some 'q'
  | help => some 'h'
  | version => some 'V'
  | domain => some 'd'
  | sortRecords => some 's'
  | commit => some 'C'
  | yes => some 'y'
  | _ => none

def takesValue : Flag → Bool
  | credentials | config | output | color | timeout | domain | customer => true
  | _ => false

/-- Flags that may be given more than once. -/
def repeats : Flag → Bool
  | verbose | domain => true
  | _ => false

/-- The variable that stands in for the flag. -/
def standIn? : Flag → Option String
  | credentials => some "DNSSYNC_CREDENTIALS"
  | config => some "DNSSYNC_CONFIG"
  | _ => none

/-- What is wrong with a value. -/
def fault? (flag : Flag) (value : String) : Option Usage :=
  match flag with
  | credentials | config => if value.isEmpty then some .badValue else none
  | output => if (formatOfName? value).isNone then some .badValue else none
  | color => if (ColorMode.ofName? value).isNone then some .badValue else none
  | timeout => if (timeoutOfText? value).isNone then some .unreadableValue else none
  | _ => none

def global : List Flag :=
  [credentials, config, output, color, verbose, quiet, timeout, help, version]

end Flag

/-! ### Levels -/

/-- The levels of the command tree. -/
inductive Level where
  | top | print | pull | push | config | configShow | configPath | configSetPassword | completions
  deriving DecidableEq, Repr

namespace Level

/-- The words that lead to a level, joined by hyphens. -/
def path : Level → String
  | top => "dnssync"
  | print => "dnssync-print"
  | pull => "dnssync-pull"
  | push => "dnssync-push"
  | config => "dnssync-config"
  | configShow => "dnssync-config-show"
  | configPath => "dnssync-config-path"
  | configSetPassword => "dnssync-config-set-password"
  | completions => "dnssync-completions"

def commands : Level → List (String × Level)
  | top => [("print", print), ("pull", pull), ("push", push), ("config", config),
      ("completions", completions)]
  | config => [("show", configShow), ("path", configPath), ("set-password", configSetPassword)]
  | _ => []

/-- Whether a word names a command of the level; the levels with commands know `help`, too. -/
def knows (level : Level) (word : String) : Bool :=
  (level.commands.lookup word).isSome || (word == "help" && !level.commands.isEmpty)

def flags (level : Level) : List Flag :=
  Flag.global ++ match level with
    | print => [.domain, .sortRecords]
    | pull => [.sortRecords]
    | push => [.domain, .commit, .yes]
    | configSetPassword => [.customer]
    | _ => []

/-- How many operands a level takes at most, if there is a limit. A level that takes any needs
one. -/
def maxOperands : Level → Option Nat
  | print | pull | push => none
  | completions => some 1
  | _ => some 0

def shells : List String :=
  ["bash", "elvish", "fish", "powershell", "zsh"]

/-- What is wrong with an operand. -/
def operandFault? (level : Level) (operand : String) : Option Usage :=
  match level with
  | print | push => if operand.isEmpty then some .badValue else none
  | completions => if operand ∈ shells then none else some .badValue
  | _ => none

def flagOfName? (level : Level) (name : String) : Option Flag :=
  level.flags.find? fun flag => flag.name == name

def flagOfLetter? (level : Level) (letter : Char) : Option Flag :=
  level.flags.find? fun flag => flag.letter? == some letter

end Level

/-! ### Reading -/

/-- What has been read and not yet been checked. -/
inductive Pending where
  | nothing
  | waiting (flag : Flag)
  | value (flag : Flag) (text : String)
  | operands (texts : List String)
  deriving DecidableEq, Repr

/-- What has been read of a level. -/
structure Reading where
  level : Level
  given : List (Flag × String)
  operands : List String
  pending : Pending
  /-- Two hyphens have been read; all that follow are operands. -/
  literal : Bool
  deriving DecidableEq, Repr

namespace Reading

def start (level : Level) : Reading :=
  ⟨level, [], [], .nothing, false⟩

def has (reading : Reading) (flag : Flag) : Bool :=
  reading.given.any fun entry => entry.1 = flag

/-- Adds a flag with its value. -/
def add (reading : Reading) (flag : Flag) (value : String) : Except Usage Reading :=
  if reading.has flag && !flag.repeats then .error .repeatedFlag
  else
    match flag.fault? value with
    | some fault => .error fault
    | none => .ok { reading with given := reading.given ++ [(flag, value)] }

/-- Checks what is pending. -/
def settle (reading : Reading) : Except Usage Reading :=
  let settled := { reading with pending := .nothing }
  match reading.pending with
  | .nothing => .ok settled
  | .waiting _ => .error .badValue
  | .value flag text => settled.add flag text
  | .operands texts =>
    match texts.findSome? reading.level.operandFault? with
    | some fault => .error fault
    | none => .ok { settled with operands := settled.operands ++ texts }

/-- Reads a flag that takes no value. -/
def addSwitch (reading : Reading) (flag : Flag) : Except Usage Reading := do
  let reading ← reading.settle
  match flag with
  | .help => throw .help
  | .version => throw (.version s!"{reading.level.path} 0.1.0\n")
  | flag => reading.add flag ""

/-- Reads a flag together with its value. -/
def addAttached (reading : Reading) (flag : Flag) (value : String) : Except Usage Reading := do
  (← reading.settle).add flag value

/-- Reads a flag whose value comes next. -/
def await (reading : Reading) (flag : Flag) : Except Usage Reading := do
  return { ← reading.settle with pending := .waiting flag }

/-- Reads a long flag, whose hyphens have been read. -/
def long (reading : Reading) (word : List Char) : Except Usage Reading :=
  let name := String.ofList (word.takeWhile (· != '='))
  let value := word.dropWhile (· != '=')
  match reading.level.flagOfName? name, value with
  | none, _ => .error .unknownFlag
  | some flag, [] => if flag.takesValue then reading.await flag else reading.addSwitch flag
  | some flag, _ :: value =>
    if flag.takesValue then reading.addAttached flag (String.ofList value)
    else .error .unneededValue

/-- Reads letters of flags, whose hyphen has been read. What follows a flag with a value is its
value. -/
def letters (reading : Reading) : List Char → Except Usage Reading
  | [] => .ok reading
  | letter :: rest =>
    match reading.level.flagOfLetter? letter with
    | none => .error .unknownFlag
    | some flag =>
      if flag.takesValue then
        match rest with
        | [] => reading.await flag
        | '=' :: value => reading.addAttached flag (String.ofList value)
        | value => reading.addAttached flag (String.ofList value)
      else do
        (← reading.addSwitch flag).letters rest

/-- Reads an operand, if the level takes one more. -/
def operand (reading : Reading) (word : String) : Except Usage Reading :=
  let before := match reading.pending with
    | .operands texts => texts
    | _ => []
  let count := reading.operands.length + before.length
  match reading.level.maxOperands with
  | some limit =>
    if count < limit then do
      return { ← reading.settle with pending := .operands [word] }
    else if reading.level.commands.isEmpty || (reading.literal && reading.level.knows word) then
      .error .unknownFlag
    else .error .unknownCommand
  | none =>
    if before.isEmpty then do
      return { ← reading.settle with pending := .operands [word] }
    else .ok { reading with pending := .operands (before ++ [word]) }

/-- Reads a word that is not the name of a command. -/
def word (reading : Reading) (word : String) : Except Usage Reading :=
  if reading.literal then reading.operand word
  else
    match word.toList with
    | ['-', '-'] => .ok { reading with literal := true }
    | '-' :: '-' :: name => reading.long name
    | '-' :: letter :: letters => reading.letters (letter :: letters)
    | _ =>
      match reading.pending with
      | .waiting flag => .ok { reading with pending := .value flag word }
      | _ => reading.operand word

/-- Whether the next word may be the name of a command. -/
def atCommand (reading : Reading) : Bool :=
  !reading.literal && match reading.pending with
    | .waiting _ => false
    | _ => true

/-- Checks the variables that stand in for flags, and that nothing is missing. -/
def finish (environment : String → Option String) (hasCommand : Bool) (reading : Reading) :
    Except Usage Reading := do
  let reading ← reading.settle
  let inherited := reading.level.flags.filterMap fun flag =>
    if reading.has flag then none
    else (flag.standIn?.bind environment).map fun value => (flag, value)
  match inherited.findSome? fun (flag, value) => flag.fault? value with
  | some fault => throw fault
  | none =>
    if hasCommand then return reading
    else if !reading.level.commands.isEmpty then
      let nothingGiven := reading.given.isEmpty && inherited.isEmpty
      throw (if nothingGiven then .helpForMissing else .missingCommand)
    else if reading.operands.isEmpty && reading.level.maxOperands != some 0 then
      throw .missingOperand
    else return reading

end Reading

/-- Help on the command that the words name, if they name one. -/
def helpOn (level : Level) : List String → Usage
  | [] => .help
  | word :: rest =>
    match level.commands.lookup word with
    | some inner => helpOn inner rest
    | none => if level.knows word && rest.isEmpty then .help else .unknownCommand

/-- Reads a level and the levels below it; the deepest comes first. A level is finished after the
levels below it. -/
def readLevels (environment : String → Option String) (reading : Reading) :
    List String → Except Usage (List Reading)
  | [] => do return [← reading.finish environment false]
  | word :: rest =>
    match if reading.atCommand then reading.level.commands.lookup word else none with
    | some inner => do
      let below ← readLevels environment (Reading.start inner) rest
      return below ++ [← reading.finish environment true]
    | none =>
      if reading.atCommand && reading.level.knows word then .error (helpOn reading.level rest)
      else do
        readLevels environment (← reading.word word) rest

end ZoneSync.Command
