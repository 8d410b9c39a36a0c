import ZoneSync.Surroundings

/-!
# Errors of the configuration

What can be wrong with the configuration file and the credentials file.
-/

namespace ZoneSync

/-- What is wrong with a credentials file. -/
inductive CredentialsFault where
  | unreadable (fault : ReadFault)
  | malformed
  deriving DecidableEq, Repr

def CredentialsFault.message : CredentialsFault → String
  | unreadable fault => fault.message
  | malformed => "not a credentials document"

inductive ConfigError where
  | validation (field reason : String)
  | credentials (path : String) (fault : CredentialsFault)
  | noPassword (customer : String)
  | keyring (reason : String)
  | unwritable
  | malformed
  deriving DecidableEq, Repr

def ConfigError.message : ConfigError → String
  | validation field reason => s!"invalid {field}: {reason}"
  | credentials path fault => s!"cannot read credentials file {path}: {fault.message}"
  | noPassword customer => s!"no API password found for customer {customer}"
  | keyring reason => s!"keyring access failed: {reason}"
  | unwritable => "failed to serialize config: out of range for u64 type"
  | malformed => "config loading failed"

end ZoneSync
