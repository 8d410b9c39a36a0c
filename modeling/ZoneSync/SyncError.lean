import ZoneSync.Layout.Error
import ZoneSync.Provider.Error

/-!
# Failures of a synchronisation

What a user is told when the provider cannot be brought in step with a layout. Failures of the talk
with the provider become such failures in one place, `SyncError.ofApi`.
-/

namespace ZoneSync

inductive SyncError where
  | connectionFailed (url reason : String)
  | authenticationFailed (message : String)
  | timeout
  | api (message : String) (code : Option Int) (status : Option Nat)
  | domainNotFound (domain : String)
  | conversion (domain message : String)
  | layout (error : LayoutError)
  | config (message : String)
  | internal (message : String)
  deriving DecidableEq, Repr

namespace SyncError

def message : SyncError → String
  | connectionFailed url reason => s!"Cannot connect to API endpoint at {url}: {reason}"
  | authenticationFailed message => s!"Authentication failed: {message}"
  | timeout => "Request timed out"
  | api message _ _ => s!"API error: {message}"
  | domainNotFound domain => s!"Domain '{domain}' not found"
  | conversion domain message => s!"Remote data for {domain} is unusable: {message}"
  | layout error => error.message
  | config message => s!"Configuration error: {message}"
  | internal message => s!"Internal error: {message}"

def ofTransport (error : TransportError) : SyncError :=
  match error.fault with
  | .timedOut => timeout
  | .unreachable => connectionFailed error.url error.message
  | _ => api error.message none none

def ofApi : ApiError → SyncError
  | .authentication message => authenticationFailed message
  | .sessionRequired action => authenticationFailed s!"no valid session for '{action}'"
  | .transport error => ofTransport error
  | .invalidUrl error => config s!"Invalid URL: {error.message}"
  | .tls message => connectionFailed "" s!"TLS error: {message}"
  | .http action status => api s!"HTTP {status} during '{action}'" none (some status)
  | .refused action code message => api s!"{action}: {message}" (some code) none
  | .undecodable message _ => internal s!"Deserialization error: {message}"

/-- The provider's code for a domain that the account does not manage. -/
def unmanagedDomain : Int := 5029

/-- The failure of a question about a domain. -/
def ofApiFor (domain : String) (error : ApiError) : SyncError :=
  if error.code? = some unmanagedDomain then domainNotFound domain else ofApi error

end SyncError

end ZoneSync
