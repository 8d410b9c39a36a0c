import ZoneSync.Json.Printer
import ZoneSync.Layout.Printer
import ZoneSync.Sync
import ZoneSync.Text.Classes
import ZoneSync.Yaml.Printer

/-!
# Views

Zones and their changes as structured data, and the formats in which they are shown. In structured
data identifiers and serial numbers are kept; the layout format leaves them out.
-/

namespace ZoneSync

/-! ### Structured data -/

def Settings.json (settings : Settings) : Json :=
  .object [
    ("ttl", .nat settings.ttl.toNat),
    ("refresh", .nat settings.refresh.toNat),
    ("retry", .nat settings.retry.toNat),
    ("expire", .nat settings.expire.toNat),
    ("dnssec", .bool settings.dnssec)]

def Record.json (record : Record) : Json :=
  .object <| [
    ("type", .string record.type.name),
    ("hostname", .string record.hostname),
    ("destination", .string record.destination)] ++
    (record.priority.elim [] fun priority => [("priority", .nat priority.toNat)]) ++
    record.id.elim [] fun id => [("id", .string id)]

def Zone.json (zone : Zone) : Json :=
  .object <| [("domain", .string zone.domain), ("settings", zone.settings.json)] ++
    (zone.serial.elim [] fun serial => [("serial", .nat serial.toNat)]) ++
    [("entries", .array (zone.entries.map Record.json))]

/-- The zones of a layout under their domains. -/
def Layout.json (layout : Layout) : Json :=
  .object (layout.zones.map fun zone => (zone.domain, zone.json))

def SettingsChange.json (change : SettingsChange) : Json :=
  .object [("old", change.old.json), ("new", change.new.json)]

def Delta.json (delta : Delta) : Json :=
  .object [
    ("domain", .string delta.domain),
    ("settings", delta.settings.elim .null SettingsChange.json),
    ("removed", .array (delta.removed.map Record.json)),
    ("added", .array (delta.added.map Record.json))]

/-- What became of a domain, in a run that has written its changes or not. -/
def Outcome.json (committed : Bool) (outcome : Outcome) : Json :=
  match outcome.result with
  | .ok delta =>
    .object [
      ("domain", .string outcome.domain),
      ("committed", .bool committed),
      ("delta", delta.json)]
  | .error error =>
    .object [
      ("domain", .string outcome.domain),
      ("committed", .bool false),
      ("error", .string error.message)]

/-! ### Formats -/

/-- The formats of what is shown: layout text, or structured data in one of two notations. -/
inductive Format where
  | layout | json | yaml
  deriving DecidableEq, Repr

/-- Structured data as a text; where the format is layout text the caller has a text of his own. -/
def Format.structured (format : Format) (byLayout : String) (data : Json) : String :=
  match format with
  | .layout => byLayout
  | .json => data.pretty
  | .yaml => Yaml.document data

/-- A layout as it is shown. Records are sorted only in layout text. -/
def Layout.shown (layout : Layout) (format : Format) (sorted : Bool) : String :=
  let text := String.ofList (Text.trimEnd (layout.render sorted).toList)
  format.structured text layout.json

end ZoneSync
