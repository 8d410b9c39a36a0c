import ZoneSync.Delta
import ZoneSync.Provider.Data
import ZoneSync.SyncError

/-!
# From the provider's data and back

What the provider tells becomes a zone under the same rules that a layout has to keep. One record
that breaks them makes the whole zone unusable; none is dropped. What has to change becomes updates.
-/

namespace ZoneSync

namespace RemoteRecord

/-- The priority of a record. The provider gives a number to all records; it counts only for mail
exchangers, and there a missing one is zero. -/
def priorityFor (type : RecordType) (told : RemoteRecord) : Except String (Option UInt16) :=
  if type = .mx then
    let raw := told.priority.getD 0
    if raw.toNat < UInt16.size then .ok (some raw.toUInt16)
    else .error s!"priority {raw.toNat} out of range"
  else .ok none

/-- The record that is told of, or what is wrong with it. -/
def check (told : RemoteRecord) : Except String Record := do
  let type ← match RecordType.ofName? told.type with
    | some type => pure type
    | none => throw (RecordError.unknownType told.type).message
  let priority ← priorityFor type told
  match Record.new type told.hostname told.destination priority with
  | .ok sound => return sound.withId told.id
  | .error error => throw error.message

def toRecord (domain : String) (told : RemoteRecord) : Except SyncError Record :=
  told.check.mapError fun message =>
    .conversion domain s!"record {told.id} ({told.hostname}): {message}"

end RemoteRecord

namespace RemoteZone

/-- A timer has to be a positive number of 32 bits. -/
def timer (domain field : String) (value : UInt64) : Except SyncError UInt32 :=
  if 0 < value.toNat && value.toNat < UInt32.size then .ok value.toUInt32
  else
    .error (.conversion domain s!"zone {field} {value.toNat} is not a positive 32-bit integer")

def checkSettings (told : RemoteZone) : Except SyncError Settings := do
  let ttl ← timer told.name "ttl" told.ttl
  let refresh ← timer told.name "refresh" told.refresh
  let retry ← timer told.name "retry" told.retry
  let expire ← timer told.name "expire" told.expire
  return ⟨ttl, refresh, retry, expire, told.dnssec⟩

/-- The zone that is told of. Records that are about to be deleted do not belong to it. -/
def toZone (told : RemoteZone) (records : List RemoteRecord) : Except SyncError Zone := do
  let settings ← told.checkSettings
  let kept := records.filter fun record => !record.deleted
  let entries ← kept.mapM (RemoteRecord.toRecord told.name)
  return ⟨told.name, settings, told.serial, entries⟩

end RemoteZone

/-- The update that deletes or stores a record. Only a record that the provider holds can be
deleted. -/
def Record.update? (record : Record) (delete : Bool) : Option RecordUpdate :=
  if delete && record.id.isNone then none
  else some {
    id := record.id
    type := record.type.name
    hostname := record.hostname
    destination := record.destination
    delete := delete
    state := none
    priority := record.priority }

namespace Delta

/-- The change of the settings as an update. -/
def zoneUpdate? (delta : Delta) : Option ZoneUpdate :=
  delta.settings.map fun change => ⟨delta.domain, change.new⟩

/-- All changes of records in one batch: deletions first, then additions. -/
def batch (delta : Delta) : List RecordUpdate :=
  delta.removed.filterMap (Record.update? · true) ++ delta.added.filterMap (Record.update? · false)

end Delta

end ZoneSync
