import ZoneSync.Config.Error
import ZoneSync.SyncError

/-!
# Failures of a command

What a command tells when it fails: a message, a code for the kind of failure, advice where there is
some, and the exit code of the program.
-/

namespace ZoneSync

/-- What a command reads. -/
inductive Source where
  | file (path : String)
  /-- The answer of the operator, at a terminal. -/
  | operator
  deriving DecidableEq, Repr

inductive Failure where
  | connection (url reason : String)
  | timeout
  | authentication (message : String)
  | layout (source : String) (error : LayoutError)
  | domainNotFound (domain : String)
  | api (message : String)
  | partly (failed total : Nat)
  | validation (field reason : String)
  | config (error : ConfigError)
  | unconfirmed
  | unreadable (source : Source) (fault : ReadFault)
  | internal (message : String)
  deriving DecidableEq, Repr

namespace Failure

def message : Failure → String
  | connection url _ => s!"Could not reach the DNS API at {url}"
  | timeout => "Request timed out"
  | authentication message => s!"Authentication failed: {message}"
  | layout source error => s!"{source}: {error.message}"
  | domainNotFound domain => s!"Domain '{domain}' not found"
  | api message => s!"API error: {message}"
  | partly failed total => s!"{failed} of {total} domains failed to sync"
  | validation field reason => s!"Invalid value for {field}: {reason}"
  | config error => error.message
  | unconfirmed => "Committing changes requires confirmation"
  | unreadable (.file path) fault => s!"Cannot read {path}: {fault.message}"
  | unreadable .operator fault => s!"IO error: {fault.message}"
  | internal message => s!"Internal error: {message}"

/-- The code of the kind of failure; a terminal that fails has none. -/
def code : Failure → String
  | connection _ _ => "dnssync::connection_failed"
  | timeout => "dnssync::timeout"
  | authentication _ => "dnssync::auth_failed"
  | layout _ _ => "dnssync::layout"
  | domainNotFound _ => "dnssync::not_found"
  | api _ => "dnssync::api_error"
  | partly _ _ => "dnssync::partial_failure"
  | validation _ _ => "dnssync::validation"
  | config _ => "dnssync::config"
  | unconfirmed => "dnssync::confirmation_required"
  | unreadable (.file _) _ => "dnssync::io"
  | unreadable .operator _ => ""
  | internal _ => "dnssync::internal"

/-- What the user may do about it. -/
def help : Failure → Option String
  | connection _ reason =>
    some ("Check network access and the json_endpoint in your credentials file.\n" ++
      s!"Reason: {reason}")
  | timeout => some "Increase the timeout with --timeout or the \x60timeout\x60 config key."
  | authentication _ =>
    some ("Verify customer, api_key and api_password in your credentials file.\n" ++
      "Store the password in the keyring with: dnssync config set-password")
  | layout _ _ =>
    some ("Layout lines are tab-indented: " ++
      "zone names at column 0, settings and records one tab in.")
  | domainNotFound _ =>
    some "The domain must be managed by the netcup account in your credentials file."
  | partly _ _ => some "See the summary table above; rerun with -v for details."
  | config _ => some "Check the config file shown by: dnssync config path"
  | unconfirmed => some "Use --yes (-y) to skip confirmation in non-interactive contexts."
  | _ => none

/-- The exit code of the program. -/
def exitCode : Failure → Nat
  | validation _ _ | unconfirmed => 2
  | authentication _ => 3
  | domainNotFound _ => 4
  | connection _ _ => 7
  | timeout => 8
  | layout _ _ => 9
  | partly _ _ => 10
  | _ => 1

theorem exitCode_ne_zero (failure : Failure) : failure.exitCode ≠ 0 := by
  cases failure <;> simp [exitCode]

/-- How a failed synchronisation is told. -/
def ofSync : SyncError → Failure
  | .connectionFailed url reason => connection url reason
  | .authenticationFailed message => authentication message
  | .timeout => timeout
  | .api message _ _ => api message
  | .domainNotFound domain => domainNotFound domain
  | .conversion domain message => api s!"{domain}: {message}"
  | .layout error => layout "layout" error
  | .config message => validation "configuration" message
  | .internal message => internal message

def ofApi (error : ApiError) : Failure :=
  ofSync (.ofApi error)

end Failure

end ZoneSync
