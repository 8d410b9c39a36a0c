import ZoneSync.Decoding
import ZoneSync.Zone

/-!
# The provider's data

Zones and records as the provider tells them, and as it is told to change them. Nothing in them has
been checked: types are any text, and numbers have 64 bits.
-/

namespace ZoneSync

/-- What the provider tells of a zone. -/
structure RemoteZone where
  name : String
  ttl : UInt64
  serial : Option UInt64
  refresh : UInt64
  retry : UInt64
  expire : UInt64
  dnssec : Bool
  deriving DecidableEq, Repr

def RemoteZone.shape : Decode.Shape RemoteZone where
  name := "DnsZoneData"
  blank := ⟨"", 0, none, 0, 0, 0, false⟩
  fields := [
    ⟨"name", true, fun value zone => return { zone with name := ← Decode.string value }⟩,
    ⟨"ttl", true, fun value zone => return { zone with ttl := ← Decode.integer value }⟩,
    ⟨"serial", false, fun value zone =>
      return { zone with serial := ← Decode.optionalInteger value }⟩,
    ⟨"refresh", true, fun value zone => return { zone with refresh := ← Decode.integer value }⟩,
    ⟨"retry", true, fun value zone => return { zone with retry := ← Decode.integer value }⟩,
    ⟨"expire", true, fun value zone => return { zone with expire := ← Decode.integer value }⟩,
    ⟨"dnssecstatus", false, fun value zone =>
      return { zone with dnssec := ← Decode.boolean value }⟩]

def RemoteZone.decode (value : Json) : Except DecodeError RemoteZone :=
  shape.decode value

/-- What the provider tells of a record. -/
structure RemoteRecord where
  id : String
  hostname : String
  type : String
  priority : Option UInt64
  destination : String
  deleted : Bool
  state : Option String
  deriving DecidableEq, Repr

def RemoteRecord.shape : Decode.Shape RemoteRecord where
  name := "DnsRecordData"
  blank := ⟨"", "", "", none, "", false, none⟩
  fields := [
    ⟨"id", true, fun value told => return { told with id := ← Decode.identifier value }⟩,
    ⟨"hostname", true, fun value told => return { told with hostname := ← Decode.string value }⟩,
    ⟨"type", true, fun value told => return { told with type := ← Decode.string value }⟩,
    ⟨"priority", false, fun value told =>
      return { told with priority := ← Decode.optionalInteger value }⟩,
    ⟨"destination", true, fun value told =>
      return { told with destination := ← Decode.string value }⟩,
    ⟨"deleterecord", false, fun value told =>
      return { told with deleted := ← Decode.boolean value }⟩,
    ⟨"state", false, fun value told =>
      return { told with state := ← Decode.optionalString value }⟩]

def RemoteRecord.decode (value : Json) : Except DecodeError RemoteRecord :=
  shape.decode value

/-- The records of a zone come inside of a structure; left out they are none. -/
def RemoteRecord.setShape : Decode.Shape (List RemoteRecord) where
  name := "DnsRecordSetData"
  blank := []
  fields := [⟨"dnsrecords", false, fun value _ => Decode.array RemoteRecord.decode value⟩]

def RemoteRecord.decodeSet (value : Json) : Except DecodeError (List RemoteRecord) :=
  setShape.decode value

/-- The identifier of a session comes inside of a structure, too. -/
def sessionShape : Decode.Shape String where
  name := "LoginData"
  blank := ""
  fields := [⟨"apisessionid", true, fun value _ => Decode.string value⟩]

def decodeSession (value : Json) : Except DecodeError String :=
  sessionShape.decode value

/-- What the settings of a zone shall be. -/
structure ZoneUpdate where
  name : String
  settings : Settings
  deriving DecidableEq, Repr

def ZoneUpdate.json (update : ZoneUpdate) : Json :=
  .object [
    ("name", .string update.name),
    ("ttl", .nat update.settings.ttl.toNat),
    ("refresh", .nat update.settings.refresh.toNat),
    ("retry", .nat update.settings.retry.toNat),
    ("expire", .nat update.settings.expire.toNat),
    ("dnssecstatus", .bool update.settings.dnssec)]

/-- A record to delete or to store. A record that the provider does not hold yet has no
identifier. -/
structure RecordUpdate where
  id : Option String
  type : String
  hostname : String
  destination : String
  delete : Bool
  state : Option String
  priority : Option UInt16
  deriving DecidableEq, Repr

def RecordUpdate.json (update : RecordUpdate) : Json :=
  .object <| [
    ("id", update.id.elim .null .string),
    ("type", .string update.type),
    ("hostname", .string update.hostname),
    ("destination", .string update.destination),
    ("deleterecord", .bool update.delete),
    ("state", update.state.elim .null .string)] ++
    update.priority.elim [] fun priority => [("priority", .nat priority.toNat)]

end ZoneSync
