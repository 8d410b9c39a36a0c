import ZoneSync.Provider.Data
import ZoneSync.Provider.Error
import ZoneSync.Url

/-!
# Requests and replies

Everything that is asked of the provider goes to one endpoint, as the name of an action and its
parameters. All requests but the login name the session in which they are made.
-/

namespace ZoneSync

/-- Who asks: a customer, the key of the application, and its password. -/
structure Account where
  customer : String
  apiKey : String
  apiPassword : String
  deriving DecidableEq, Repr

/-- An account as it is shown, without its secrets. -/
def Account.masked (account : Account) : String :=
  "Credentials \x7b customer: " ++ Text.quoted account.customer ++
    ", api_key: \"****\", api_password: \"****\" \x7d"

/-- What can be asked within a session. -/
inductive Call where
  | logout
  | zoneInfo (domain : String)
  | recordInfo (domain : String)
  | updateZone (domain : String) (update : ZoneUpdate)
  | updateRecords (domain : String) (batch : List RecordUpdate)
  deriving DecidableEq, Repr

namespace Call

def action : Call → String
  | logout => "logout"
  | zoneInfo _ => "infoDnsZone"
  | recordInfo _ => "infoDnsRecords"
  | updateZone _ _ => "updateDnsZone"
  | updateRecords _ _ => "updateDnsRecords"

/-- The parameters of the action itself. -/
def parameters : Call → List (String × Json)
  | logout => []
  | zoneInfo domain | recordInfo domain => [("domainname", .string domain)]
  | updateZone domain update => [("domainname", .string domain), ("dnszone", update.json)]
  | updateRecords domain batch =>
    let records := Json.array (batch.map RecordUpdate.json)
    [("domainname", .string domain), ("dnsrecordset", .object [("dnsrecords", records)])]

/-- The domain that the call is about. -/
def domain? : Call → Option String
  | logout => none
  | zoneInfo domain | recordInfo domain | updateZone domain _ | updateRecords domain _ =>
    some domain

/-- Calls that change what the provider holds. -/
def isWrite : Call → Bool
  | updateZone _ _ | updateRecords _ _ => true
  | _ => false

end Call

/-- What is sent to an endpoint. -/
inductive Message where
  | login (account : Account)
  | call (account : Account) (session : String) (asked : Call)
  deriving DecidableEq, Repr

namespace Message

def action : Message → String
  | login _ => "login"
  | call _ _ asked => asked.action

def parameters : Message → List (String × Json)
  | login account => [
      ("apikey", .string account.apiKey),
      ("apipassword", .string account.apiPassword),
      ("customernumber", .string account.customer)]
  | call account session asked => asked.parameters ++ [
      ("apikey", .string account.apiKey),
      ("apisessionid", .string session),
      ("customernumber", .string account.customer)]

def json (message : Message) : Json :=
  .object [("action", .string message.action), ("param", .object message.parameters)]

end Message

structure Request where
  endpoint : Url
  message : Message
  deriving DecidableEq, Repr

/-- What comes back: an answer with its status, or none for some reason. Of an answer that is cut
short only the status is known. -/
inductive Reply where
  | answered (status : Nat) (body : String)
  | cutShort (status : Nat)
  | closed
  | timedOut
  | unreachable
  deriving DecidableEq, Repr

namespace Reply

/-- Statuses that tell of success. -/
def isSuccess (status : Nat) : Bool :=
  200 ≤ status && status < 300

/-- Answers of these statuses have no body, whatever was sent. -/
def isBodiless (status : Nat) : Bool :=
  status = 204 || status = 304

/-- The body of an answer of success, or why there is none. -/
def text (url action : String) : Reply → Except ApiError String
  | answered status body =>
    if !isSuccess status then .error (.http action status)
    else .ok (if isBodiless status then "" else body)
  | cutShort status =>
    if !isSuccess status then .error (.http action status)
    else if isBodiless status then .ok ""
    else .error (.transport ⟨url, .cutShort⟩)
  | closed => .error (.transport ⟨url, .closed⟩)
  | timedOut => .error (.transport ⟨url, .timedOut⟩)
  | unreachable => .error (.transport ⟨url, .unreachable⟩)

end Reply

end ZoneSync
