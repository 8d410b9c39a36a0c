import ZoneSync.Command.Push
import ZoneSync.Command.Sources
import ZoneSync.Credentials

/-!
# Running commands

Every command begins with the configuration, in which options win over the configuration file. What
it then reads, asks and shows is its own.
-/

namespace ZoneSync.Command

/-- The configuration of one run. -/
structure Preferences where
  config : Config
  /-- Where the configuration was looked for. -/
  path : String
  deriving DecidableEq, Repr

def configPath (surroundings : Surroundings) (options : Options) : String :=
  options.config.getD (Config.defaultPath surroundings.environment)

def Preferences.load (surroundings : Surroundings) (options : Options) :
    Except Failure Preferences := do
  let path := configPath surroundings options
  let config ← (Config.load surroundings path).mapError Failure.config
  let timeout := options.timeout.getD config.timeout
  if timeout = 0 then throw (.validation Config.Key.timeout.name Config.timeoutReason)
  let credentials := options.credentials.getD config.credentials
  return ⟨{ config with timeout := timeout, credentials := credentials }, path⟩

namespace Preferences

/-- The colour mode of the configuration; what is no mode leaves the choice to the program. -/
def colorMode (preferences : Preferences) (options : Options) : ColorMode :=
  options.color.getD ((ColorMode.ofName? preferences.config.color).getD .auto)

def isColored (preferences : Preferences) (options : Options) (surroundings : Surroundings) :
    Bool :=
  match preferences.colorMode options with
  | .always => true
  | .never => false
  | .auto => surroundings.screen && (surroundings.environment "NO_COLOR").isNone

/-- A session for the configured connection, not yet opened. -/
def session (preferences : Preferences) (surroundings : Surroundings) : Except Failure Session := do
  let connection ← (Connection.load surroundings preferences.config).mapError Failure.config
  (connection.session surroundings).mapError Failure.ofApi

end Preferences

/-! ### The commands -/

/-- The words with which a command line may go on. -/
def completions : Report :=
  .ofText false ("\n".intercalate (Level.top.commands.map Prod.fst))

section

variable (surroundings : Surroundings) (options : Options) (preferences : Preferences)

/-- Shows the layout that files declare. -/
def print (sources : Sources) (sorted : Bool) : Dialogue Report := do
  let (warnings, loaded) := sources.load surroundings
  warnings.forM Dialogue.tell
  match loaded with
  | .error failure => return .fail failure
  | .ok layout =>
    return .ofText options.quiet
      (layout.shown options.output (sorted || preferences.config.sortRecords))

/-- Shows what the provider holds. -/
def pull (domains : List String) (sorted : Bool) : Dialogue Report := do
  match preferences.session surroundings with
  | .error failure => return .fail failure
  | .ok session =>
    let fetched ← session.within fun session => do
      return (← session.fetchLayout domains, session)
    match fetched with
    | .error error => return .fail (.ofSync error)
    | .ok layout =>
      return .ofText options.quiet
        (layout.shown options.output (sorted || preferences.config.sortRecords))

/-- Shows, and writes on demand, what would bring the provider in step with a layout. -/
def push (sources : Sources) (commit yes : Bool) : Dialogue Report := do
  let (warnings, loaded) := sources.load surroundings
  warnings.forM Dialogue.tell
  match loaded with
  | .error failure => return .fail failure
  | .ok layout =>
    if layout.zones.isEmpty then
      Dialogue.tell .nothingToPush
      return .ofText options.quiet ""
    else
      match preferences.session surroundings with
      | .error failure => return .fail failure
      | .ok session =>
        let colored := preferences.isColored options surroundings
        let mode := ⟨commit, yes, options.output, colored, options.quiet⟩
        pushLayout session mode surroundings.answer layout

def showConfig : Except Failure Report := do
  let config := preferences.config
  let text ← match options.output with
    | .layout => config.render.mapError Failure.config
    | format => .ok (format.structured "" config.json)
  return .ofText options.quiet (String.ofList (Text.trimEnd text.toList))

/-- Stores a password; without a terminal nobody can enter one. -/
def setPassword (customer : Option String) : Except Failure Report := do
  if customer.isNone then
    let _ ← (Credentials.load surroundings preferences.config.credentials).mapError Failure.config
  throw (.validation "interactive" "prompt failed: IO error: not a terminal")

def act (action : Action) : Dialogue Report :=
  let settle := fun report : Except Failure Report => match report with
    | .ok report => Dialogue.done report
    | .error failure => Dialogue.done (.fail failure)
  match action with
  | .print sources sorted => print surroundings options preferences sources sorted
  | .pull domains sorted => pull surroundings options preferences domains sorted
  | .push sources commit yes => push surroundings options preferences sources commit yes
  | .showConfig => settle (showConfig options preferences)
  | .showConfigPath => return .ofText options.quiet preferences.path
  | .setPassword customer => settle (setPassword surroundings preferences customer)
  | .completions => Dialogue.done completions

end

/-- Runs what a command line asks for. Words to complete are known without a configuration. -/
def run (surroundings : Surroundings) (invocation : Invocation) : Dialogue Report :=
  match invocation.action, Preferences.load surroundings invocation.options with
  | .completions, _ => return completions
  | _, .error failure => return .fail failure
  | action, .ok preferences => act surroundings invocation.options preferences action

/-- The files that a run may read, as far as they are known in these surroundings: the credentials
file and the certificate are known only where the configuration is. -/
def filesToRead (surroundings : Surroundings) (invocation : Invocation) : List String :=
  let layouts := match invocation.action with
    | .print sources _ | .push sources _ _ => sources.files.filter fun path => !isInput path
    | _ => []
  let configured := match Preferences.load surroundings invocation.options with
    | .ok preferences => preferences.config.credentials :: preferences.config.caCert.toList
    | .error _ => []
  configPath surroundings invocation.options :: layouts ++ configured

end ZoneSync.Command
