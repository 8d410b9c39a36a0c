import ZoneSync.Dialogue
import ZoneSync.Json.Printer
import ZoneSync.Provider.Envelope

/-!
# Sessions

A session is opened by a login and closed by a logout. All other calls need its identifier; without
one they fail and nothing is sent. A login that fails leaves the session as it was, and a logout
always ends it here, whatever the provider says.
-/

namespace ZoneSync

/-- Who talks to which endpoint, and the identifier of the session that is open. -/
structure Session where
  endpoint : Url
  account : Account
  id : Option String
  deriving DecidableEq, Repr

namespace Session

def new (endpoint : Url) (account : Account) : Session :=
  ⟨endpoint, account, none⟩

def isOpen (session : Session) : Bool :=
  session.id.isSome

/-- How many characters of an unreadable body an error shows. -/
def previewLength : Nat := 200

/-- The envelope in the text of an answer. What is wrong with an unreadable text is not told. -/
def readEnvelope (text : String) : Except ApiError Envelope :=
  match Envelope.parse? text with
  | some envelope => .ok envelope
  | none =>
    let preview := Text.quoted (String.ofList (text.toList.take previewLength))
    .error (.undecodable s!"* (body preview: {preview})" text)

/-- The envelope of a reply, whether it tells of success or not. -/
def receive (endpoint : Url) (action : String) (reply : Reply) : Except ApiError Envelope := do
  readEnvelope (← reply.text endpoint.withoutUser.render action)

/-- Sends a message to the endpoint; only an endpoint on the web can be asked at all. -/
def post (session : Session) (message : Message) : Dialogue (Except ApiError Envelope) :=
  if session.endpoint.isWeb then do
    let reply ← Dialogue.send ⟨session.endpoint, message⟩
    return receive session.endpoint message.action reply
  else
    return .error (.transport ⟨session.endpoint.withoutUser.render, .notTheWeb⟩)

/-- Refusals become errors. -/
def ensureSuccess (action : String) (envelope : Envelope) : Except ApiError Envelope :=
  if envelope.succeeded then .ok envelope
  else .error (.refused action envelope.code envelope.message)

/-- The data of an envelope, read by `decode`. -/
def decodeData (decode : Json → Except DecodeError α) (action : String) (envelope : Envelope) :
    Except ApiError α :=
  match decode envelope.data with
  | .ok data => .ok data
  | .error error =>
    .error (.undecodable s!"unexpected responsedata for '{action}': {error.message}"
      (Json.compact envelope.data))

/-- Calls the provider within the session. -/
def call (session : Session) (asked : Call) : Dialogue (Except ApiError Envelope) :=
  match session.id with
  | none => return .error (.sessionRequired asked.action)
  | some id => do
    let answer ← session.post (.call session.account id asked)
    return answer.bind (ensureSuccess asked.action)

/-- A call whose answer holds data. -/
def query (session : Session) (asked : Call) (decode : Json → Except DecodeError α) :
    Dialogue (Except ApiError α) := do
  let answer ← session.call asked
  return answer.bind (decodeData decode asked.action)

/-! ### Opening and closing -/

/-- The identifier that the provider gives at a login. -/
def admitted (account : Account) (envelope : Envelope) : Except ApiError String :=
  if envelope.succeeded then decodeData decodeSession "login" envelope
  else
    .error (.authentication <|
      s!"login failed for customer ID {account.customer}: {envelope.message} " ++
        s!"(status code {envelope.code})")

def login (session : Session) : Dialogue (Except ApiError Unit × Session) := do
  let answer ← session.post (.login session.account)
  match answer.bind (admitted session.account) with
  | .ok id => return (.ok (), { session with id := some id })
  | .error error => return (.error error, session)

def logout (session : Session) : Dialogue (Except ApiError Unit × Session) := do
  let answer ← session.call .logout
  return (answer.map fun _ => (), { session with id := none })

/-! ### Zones and records -/

def zoneInfo (session : Session) (domain : String) : Dialogue (Except ApiError RemoteZone) :=
  session.query (.zoneInfo domain) RemoteZone.decode

def recordInfo (session : Session) (domain : String) :
    Dialogue (Except ApiError (List RemoteRecord)) :=
  session.query (.recordInfo domain) RemoteRecord.decodeSet

/-- Replaces the settings of a zone; the answer is the zone as it is now. -/
def updateZone (session : Session) (domain : String) (update : ZoneUpdate) :
    Dialogue (Except ApiError RemoteZone) :=
  session.query (.updateZone domain update) RemoteZone.decode

/-- Deletes and stores records; the answer is the records as they are now. -/
def updateRecords (session : Session) (domain : String) (batch : List RecordUpdate) :
    Dialogue (Except ApiError (List RemoteRecord)) :=
  session.query (.updateRecords domain batch) RemoteRecord.decodeSet

end Session

end ZoneSync
