import ZoneSync.Certificate
import ZoneSync.Config
import ZoneSync.Decoding
import ZoneSync.Session

/-!
# Credentials

The credentials file says who the customer is and may name another endpoint. The password comes from
a variable of the environment or else from the file. Together with the configuration this is all
that is needed to talk to the provider.
-/

namespace ZoneSync

/-- What a credentials file says. -/
structure Credentials where
  endpoint : Option String
  customer : String
  apiKey : String
  apiPassword : Option String
  deriving DecidableEq, Repr

namespace Credentials

def shape : Decode.Shape Credentials where
  name := "CredentialsFile"
  blank := ⟨none, "", "", none⟩
  fields := [
    ⟨"json_endpoint", false, fun value credentials =>
      return { credentials with endpoint := ← Decode.optionalString value }⟩,
    ⟨"customer", true, fun value credentials =>
      return { credentials with customer := ← Decode.identifier value }⟩,
    ⟨"api_key", true, fun value credentials =>
      return { credentials with apiKey := ← Decode.string value }⟩,
    ⟨"api_password", false, fun value credentials =>
      return { credentials with apiPassword := ← Decode.optionalString value }⟩]

def load (surroundings : Surroundings) (path : String) : Except ConfigError Credentials :=
  match surroundings.readText path with
  | .error fault => .error (.credentials path (.unreadable fault))
  | .ok text =>
    match shape.parse? text with
    | some credentials => .ok credentials
    | none => .error (.credentials path .malformed)

def passwordVariable : String := "DNSSYNC_API_PASSWORD"

/-- The password, if there is one; an empty variable does not count. -/
def password? (surroundings : Surroundings) (credentials : Credentials) : Option String :=
  ((surroundings.environment passwordVariable).filter (!·.isEmpty)).or credentials.apiPassword

end Credentials

/-- Everything that is needed to open a session. -/
structure Connection where
  endpoint : Url
  account : Account
  caCert : Option String
  timeout : UInt64
  deriving DecidableEq, Repr

namespace Connection

/-- The endpoint of the provider. -/
def defaultEndpoint : Url where
  scheme := "https".toList
  authority := some ⟨[], none, "ccp.netcup.net".toList, none⟩
  path := "/run/webservice/servers/endpoint.php".toList
  query := some "JSON".toList
  fragment := none

def endpointOf (credentials : Credentials) : Except ConfigError Url :=
  match credentials.endpoint with
  | none => .ok defaultEndpoint
  | some text =>
    (Url.parse text).mapError fun error =>
      .validation "json_endpoint" s!"invalid URL '{text}': {error.message}"

/-- The connection that a configuration and its credentials describe. -/
def load (surroundings : Surroundings) (config : Config) : Except ConfigError Connection := do
  let credentials ← Credentials.load surroundings config.credentials
  match credentials.password? surroundings with
  | none => throw (.noPassword credentials.customer)
  | some password =>
    let endpoint ← endpointOf credentials
    let account := ⟨credentials.customer, credentials.apiKey, password⟩
    return ⟨endpoint, account, config.caCert, config.timeout⟩

/-- Takes over the certificates that are trusted in addition. -/
def checkTrust (surroundings : Surroundings) : Option String → Except ApiError Unit
  | none => .ok ()
  | some path =>
    match surroundings.file path with
    | .error fault => .error (.tls s!"failed to read CA cert: {fault.message}")
    | .ok file =>
      if Certificate.isUsable file then .ok ()
      else .error (.tls "failed to build HTTP client: builder error")

/-- A session for the connection, not yet opened. -/
def session (surroundings : Surroundings) (connection : Connection) : Except ApiError Session := do
  checkTrust surroundings connection.caCert
  return Session.new connection.endpoint connection.account

end Connection

end ZoneSync
