import ZoneSync.Config.Error
import ZoneSync.Config.Value
import ZoneSync.Json
import ZoneSync.Toml.Printer

/-!
# Configuration

Five keys, each with a default. A configuration file overrides the defaults, and variables of the
environment override the file, key by key. Keys that are not known do not matter.
-/

namespace ZoneSync

structure Config where
  credentials : String
  timeout : UInt64
  caCert : Option String
  color : String
  sortRecords : Bool
  deriving DecidableEq, Repr

namespace Config

inductive Key where
  | credentials | timeout | caCert | color | sortRecords
  deriving DecidableEq, Repr

def Key.name : Key → String
  | .credentials => "credentials"
  | .timeout => "timeout"
  | .caCert => "ca_cert"
  | .color => "color"
  | .sortRecords => "sort_records"

/-- The variable that overrides the key. -/
def Key.variableName (key : Key) : String :=
  "DNSSYNC_" ++ String.ofList (key.name.toList.map Char.toUpper)

/-! ### Places -/

/-- The path of `name` within the directory `base`. -/
def join (base name : String) : String :=
  if base.toList.getLast? = some '/' then base ++ name else base ++ "/" ++ name

/-- Where programs keep their configuration: the directory of a variable, if it is an absolute path,
or one in the home directory. -/
def directory (environment : String → Option String) : String :=
  match (environment "XDG_CONFIG_HOME").filter fun path => path.toList.head? == some '/' with
  | some path => path
  | none => ((environment "HOME").map (join · ".config")).getD ".config"

/-- The configuration file that is read if no other is named. -/
def defaultPath (environment : String → Option String) : String :=
  join (join (directory environment) "dnssync") "config.toml"

def default (environment : String → Option String) : Config where
  credentials :=
    let base := ((environment "HOME").map (join · ".config")).getD ".config"
    join (join base "dnssync") "credentials.json"
  timeout := 30
  caCert := none
  color := "auto"
  sortRecords := false

/-! ### Layers -/

/-- The values that one source gives to the keys. -/
abbrev Layer := Key → Option Value

def fileLayer (members : Toml.Members) : Layer :=
  fun key => (members.find? key.name).map Value.ofNode

/-- The values that variables give. Their names may be spelled with small letters. -/
def variableLayer (bindings : List (String × String)) : Layer :=
  fun key =>
    let named := bindings.reverse.find? fun (name, _) => name.map Char.toUpper = key.variableName
    named.map fun (_, value) => Value.ofVariable value

/-- The first layer wins where it has a value. -/
def Layer.over (first second : Layer) : Layer :=
  fun key => (first key).or (second key)

def textValue (byDefault : String) : Option Value → Except ConfigError String
  | none => .ok byDefault
  | some (.text value) => .ok value
  | some _ => .error .malformed

def numberValue (byDefault : UInt64) : Option Value → Except ConfigError UInt64
  | none => .ok byDefault
  | some (.number value) => .ok value
  | some _ => .error .malformed

def switchValue (byDefault : Bool) : Option Value → Except ConfigError Bool
  | none => .ok byDefault
  | some (.switch value) => .ok value
  | some _ => .error .malformed

/-- The configuration that a layer makes of the defaults. -/
def ofLayer (byDefault : Config) (layer : Layer) : Except ConfigError Config := do
  let credentials ← textValue byDefault.credentials (layer .credentials)
  let timeout ← numberValue byDefault.timeout (layer .timeout)
  let caCert ← match layer .caCert with
    | none => pure byDefault.caCert
    | value => some <$> textValue "" value
  let color ← textValue byDefault.color (layer .color)
  let sortRecords ← switchValue byDefault.sortRecords (layer .sortRecords)
  return ⟨credentials, timeout, caCert, color, sortRecords⟩

/-! ### Loading -/

/-- What a configuration file says; a file that is not there says nothing. -/
def readFile (surroundings : Surroundings) (path : String) : Except ConfigError Toml.Members :=
  match surroundings.readText path with
  | .ok text => (Toml.parse? text).elim (.error .malformed) .ok
  | .error .notText => .error .malformed
  | .error (.file fault) => if fault.isAbsence then .ok [] else .error .malformed

/-- A request has to have at least a second. -/
def timeoutReason : String := "must be at least one second"

def load (surroundings : Surroundings) (path : String) : Except ConfigError Config := do
  let members ← readFile surroundings path
  let layer := (variableLayer surroundings.bindings).over (fileLayer members)
  let config ← ofLayer (default surroundings.environment) layer
  if config.timeout = 0 then throw (.validation Key.timeout.name timeoutReason)
  return config

/-! ### Showing -/

def json (config : Config) : Json :=
  .object <| [
    (Key.credentials.name, .string config.credentials),
    (Key.timeout.name, .nat config.timeout.toNat)] ++
    (config.caCert.elim [] fun path => [(Key.caCert.name, .string path)]) ++ [
    (Key.color.name, .string config.color),
    (Key.sortRecords.name, .bool config.sortRecords)]

def line (key : Key) (value : String) : String :=
  s!"{key.name} = {value}\n"

/-- The configuration as a configuration file, which holds numbers of 63 bits. -/
def render (config : Config) : Except ConfigError String :=
  if UInt64.size / 2 ≤ config.timeout.toNat then .error .unwritable
  else
    .ok (line .credentials (Toml.quote config.credentials) ++
      line .timeout (toString config.timeout.toNat) ++
      config.caCert.elim "" (fun path => line .caCert (Toml.quote path)) ++
      line .color (Toml.quote config.color) ++
      line .sortRecords (toString config.sortRecords))

end Config

end ZoneSync
