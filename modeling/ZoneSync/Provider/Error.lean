import ZoneSync.Url.Host

/-!
# Failures of talking to the provider

A call fails because there is no session, because no answer comes back, because the answer is a
refusal, or because it cannot be understood.
-/

namespace ZoneSync

/-- Why no answer came back. -/
inductive TransportFault where
  | unreachable
  | timedOut
  | closed
  | cutShort
  | notTheWeb
  deriving DecidableEq, Repr

/-- A request to `url` without an answer. -/
structure TransportError where
  url : String
  fault : TransportFault
  deriving DecidableEq, Repr

def TransportError.message (error : TransportError) : String :=
  match error.fault with
  | .unreachable | .timedOut | .closed => s!"error sending request for url ({error.url})"
  | .cutShort => "error decoding response body"
  | .notTheWeb => s!"builder error for url ({error.url})"

inductive ApiError where
  | authentication (message : String)
  | sessionRequired (action : String)
  | transport (error : TransportError)
  | invalidUrl (error : UrlError)
  | tls (message : String)
  | http (action : String) (status : Nat)
  | refused (action : String) (code : Int) (message : String)
  | undecodable (message body : String)
  deriving DecidableEq, Repr

namespace ApiError

def message : ApiError → String
  | authentication message => s!"Authentication failed: {message}"
  | sessionRequired action => s!"Action '{action}' requires a valid session -- log in first"
  | transport error => s!"HTTP transport error: {error.message}"
  | invalidUrl error => s!"Invalid URL: {error.message}"
  | tls message => s!"TLS error: {message}"
  | http action status => s!"HTTP {status} from endpoint during '{action}'"
  | refused action code message =>
    s!"API error during '{action}': {message} (status code {code})"
  | undecodable message _ => s!"Deserialization error: {message}"

/-- A new login might help. -/
def isAuth : ApiError → Bool
  | authentication _ | sessionRequired _ => true
  | _ => false

/-- The same call might succeed later. -/
def isTransient : ApiError → Bool
  | transport error => error.fault = .timedOut || error.fault = .unreachable
  | http _ status => 500 ≤ status
  | _ => false

/-- The provider's own code. -/
def code? : ApiError → Option Int
  | refused _ code _ => some code
  | _ => none

end ApiError

end ZoneSync
