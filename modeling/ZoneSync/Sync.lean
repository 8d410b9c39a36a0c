import ZoneSync.Credentials
import ZoneSync.Layout
import ZoneSync.Remote

/-!
# Synchronisation

Zones are fetched, compared with the zones that are desired, and written back where they differ. In
a push of several zones each domain has its own outcome: one that fails never stops the others.
-/

namespace ZoneSync

/-- How the push of one domain ended. -/
structure Outcome where
  domain : String
  result : Except SyncError Delta

namespace Session

/-! ### Opening and closing -/

def connect (session : Session) : Dialogue (Except SyncError Unit × Session) := do
  let (result, session) ← session.login
  return (result.mapError SyncError.ofApi, session)

/-- Ends the session. A failure is only worth a warning. -/
def disconnect (session : Session) : Dialogue Session := do
  let (result, session) ← session.logout
  match result with
  | .ok () => return session
  | .error error =>
    Dialogue.tell (.logoutFailed error)
    return session

/-- Logs in, does the work, and logs out whether or not the work succeeded. -/
def within (session : Session) (work : Session → Dialogue (Except SyncError α × Session)) :
    Dialogue (Except SyncError α) := do
  let (opened, session) ← session.connect
  match opened with
  | .error error => return .error error
  | .ok () =>
    let (result, session) ← work session
    let _ ← session.disconnect
    return result

/-! ### Reading -/

/-- What the provider holds for a domain. -/
def fetchZone (session : Session) (domain : String) : Dialogue (Except SyncError Zone) := do
  match ← session.zoneInfo domain with
  | .error error => return .error (.ofApiFor domain error)
  | .ok told =>
    match ← session.recordInfo domain with
    | .error error => return .error (.ofApiFor domain error)
    | .ok records => return told.toZone records

/-- Fetches one domain after the other into `layout`; the first failure ends it. -/
def fetchInto (session : Session) (layout : Layout) :
    List String → Dialogue (Except SyncError Layout)
  | [] => return .ok layout
  | domain :: rest => do
    match ← session.fetchZone domain with
    | .error error => return .error error
    | .ok zone => session.fetchInto (layout.insert zone) rest

def fetchLayout (session : Session) (domains : List String) : Dialogue (Except SyncError Layout) :=
  session.fetchInto Layout.empty domains

/-! ### Writing -/

/-- Writes the settings of a change, if it has any. -/
def applySettings (session : Session) (delta : Delta) : Dialogue (Except ApiError Unit) :=
  match delta.zoneUpdate? with
  | none => return .ok ()
  | some update => do
    let answer ← session.updateZone delta.domain update
    return answer.map fun _ => ()

/-- Writes the records of a change, if it has any. -/
def applyRecords (session : Session) (delta : Delta) : Dialogue (Except ApiError Unit) :=
  if delta.batch.isEmpty then return .ok ()
  else do
    let answer ← session.updateRecords delta.domain delta.batch
    return answer.map fun _ => ()

/-- Writes a change: first the settings, and if they are accepted the records. -/
def applyDelta (session : Session) (delta : Delta) : Dialogue (Except SyncError Unit) := do
  match ← session.applySettings delta with
  | .error error => return .error (.ofApi error)
  | .ok () =>
    let answer ← session.applyRecords delta
    return answer.mapError SyncError.ofApi

/-- What has to change for a zone to be as desired; it is written only if `commit` is set. -/
def pushZone (session : Session) (desired : Zone) (commit : Bool) :
    Dialogue (Except SyncError Delta) := do
  match ← session.fetchZone desired.domain with
  | .error error => return .error error
  | .ok current =>
    let delta := reconcile current desired
    if commit then
      match ← session.applyDelta delta with
      | .error error => return .error error
      | .ok () => return .ok delta
    else return .ok delta

/-- Pushes one zone and warns of its failure. -/
def pushOutcome (session : Session) (commit : Bool) (desired : Zone) : Dialogue Outcome := do
  let result ← session.pushZone desired commit
  match result with
  | .ok _ => return ⟨desired.domain, result⟩
  | .error error =>
    Dialogue.tell (.pushFailed desired.domain error)
    return ⟨desired.domain, result⟩

/-- Pushes all zones, in the order of the layout. -/
def pushLayout (session : Session) (layout : Layout) (commit : Bool) : Dialogue (List Outcome) :=
  layout.zones.mapM (session.pushOutcome commit)

end Session

/-- Does the work in a session of its own, which is opened before and closed after. -/
def Connection.oneshot (surroundings : Surroundings) (connection : Connection)
    (work : Session → Dialogue (Except SyncError α × Session)) : Dialogue (Except SyncError α) :=
  match connection.session surroundings with
  | .error error => return .error (.ofApi error)
  | .ok session => session.within work

end ZoneSync
