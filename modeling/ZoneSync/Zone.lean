import ZoneSync.Record
import ZoneSync.Text.Numeral

/-!
# Zones and their settings

A zone is a domain with its settings and its records. The serial number is set only for a zone that
came from the provider.

There are five scalar settings: four timers in seconds, and whether the zone is signed. Each has a
name and a written value, and what is written can be read back. A timer is read only if it is
positive and fits 32 bits; a switch has ten spellings.
-/

namespace ZoneSync

/-- The names of the settings, in their fixed order. -/
inductive Setting where
  | ttl | refresh | retry | expire | dnssec
  deriving DecidableEq, Repr

namespace Setting

def all : List Setting :=
  [ttl, refresh, retry, expire, dnssec]

def name : Setting → String
  | ttl => "ttl"
  | refresh => "refresh"
  | retry => "retry"
  | expire => "expire"
  | dnssec => "dnssec"

def ofName? (name : String) : Option Setting :=
  all.find? fun setting => name == setting.name

end Setting

/-- Why a setting is not accepted. -/
inductive SettingError where
  | unknown (name : String)
  | notATimer (setting : Setting) (value : String)
  | notASwitch (setting : Setting) (value : String)
  deriving DecidableEq, Repr

def SettingError.message : SettingError → String
  | unknown name =>
    s!"unknown setting '{name}', valid settings are: " ++
      ", ".intercalate (Setting.all.map Setting.name)
  | notATimer setting value =>
    s!"invalid value '{value}' for setting '{setting.name}': expected a positive integer"
  | notASwitch setting value =>
    s!"invalid value '{value}' for setting '{setting.name}': " ++
      "expected one of y, yes, true, on, 1, n, no, false, off, 0"

/-- The settings of one zone. -/
structure Settings where
  ttl : UInt32
  refresh : UInt32
  retry : UInt32
  expire : UInt32
  dnssec : Bool
  deriving DecidableEq, Repr

namespace Settings

/-- What the provider gives a new zone. -/
def default : Settings :=
  ⟨86400, 28800, 7200, 1209600, false⟩

/-- Reads a positive number of seconds below 2^32. -/
def timer? (value : String) : Option UInt32 :=
  ((Text.numeral? UInt32.size value.toList).filter (0 < ·)).map UInt32.ofNat

def yesWords : List String := ["y", "yes", "true", "on", "1"]

def noWords : List String := ["n", "no", "false", "off", "0"]

/-- Reads a switch; the case of ASCII letters does not matter. -/
def switch? (value : String) : Option Bool :=
  let word := String.ofList (value.toList.map Char.toLower)
  if word ∈ yesWords then some true else if word ∈ noWords then some false else none

/-- Reads a written value into a setting. What has been stored stays stored, so nothing may be stored
before the value is known to be good. -/
def store (setting : Setting) (value : String) : ExceptT SettingError (StateM Settings) Unit := do
  match setting with
  | .dnssec =>
    let some on := switch? value | throw (.notASwitch setting value)
    modify fun settings => { settings with dnssec := on }
  | _ =>
    let some seconds := timer? value | throw (.notATimer setting value)
    match setting with
    | .ttl => modify fun settings => { settings with ttl := seconds }
    | .refresh => modify fun settings => { settings with refresh := seconds }
    | .retry => modify fun settings => { settings with retry := seconds }
    | .expire => modify fun settings => { settings with expire := seconds }
    | .dnssec => return

/-- The settings with one of them read from its written value. -/
def set (settings : Settings) (setting : Setting) (value : String) : Except SettingError Settings :=
  match (store setting value).run settings with
  | (.ok (), after) => .ok after
  | (.error error, _) => .error error

/-- The written value of a setting. -/
def value (settings : Settings) : Setting → String
  | .ttl => toString settings.ttl.toNat
  | .refresh => toString settings.refresh.toNat
  | .retry => toString settings.retry.toNat
  | .expire => toString settings.expire.toNat
  | .dnssec => if settings.dnssec then "yes" else "no"

/-- The settings whose value is not the default one, in their fixed order. -/
def nonDefault (settings : Settings) : List Setting :=
  Setting.all.filter fun setting => settings.value setting != default.value setting

def display (settings : Settings) : String :=
  let signed := if settings.dnssec then "on" else "off"
  s!"TTL {settings.ttl.toNat}, Refresh {settings.refresh.toNat}, Retry {settings.retry.toNat}, " ++
    s!"Expire {settings.expire.toNat}, DNSSEC {signed}"

end Settings

structure Zone where
  domain : String
  settings : Settings
  serial : Option UInt64
  entries : List Record
  deriving DecidableEq

end ZoneSync
