/-!
# Surroundings of a run

What a run of the program finds around it: files, variables of the environment, the text on the
standard input, and whether somebody can be asked. The program reads from it and never writes.
-/

namespace ZoneSync

/-- Why a file or a terminal cannot be read: there is none, it is a directory, a part of its path is
a file, its path is no path at all, or reading fails for another reason. -/
inductive FileFault where
  | missing
  | directory
  | beneathFile
  | nameTooLong
  | nullInName
  | other (message : String)
  deriving DecidableEq, Repr

def FileFault.message : FileFault → String
  | missing => "No such file or directory (os error 2)"
  | directory => "Is a directory (os error 21)"
  | beneathFile => "Not a directory (os error 20)"
  | nameTooLong => "File name too long (os error 36)"
  | nullInName => "file name contained an unexpected NUL byte"
  | other message => message

/-- Whether there is no file at all; there may still be a directory. -/
def FileFault.isAbsence : FileFault → Bool
  | other _ => false
  | _ => true

/-- Why a text cannot be read. -/
inductive ReadFault where
  | file (fault : FileFault)
  | notText
  deriving DecidableEq, Repr

def ReadFault.message : ReadFault → String
  | file fault => fault.message
  | notText => "stream did not contain valid UTF-8"

structure Surroundings where
  /-- The bytes of a file. -/
  file : String → Except FileFault ByteArray
  /-- The variables with their values. -/
  bindings : List (String × String)
  input : ByteArray
  /-- Whether the output goes to a terminal. -/
  screen : Bool
  /-- What the operator answers when asked, or why asking fails; nothing if there is nobody to
  ask. -/
  answer : Option (Except FileFault Bool)

namespace Surroundings

/-- The variables that the program reads. -/
def variableNames : List String :=
  ["HOME", "XDG_CONFIG_HOME", "NO_COLOR", "DNSSYNC_API_PASSWORD", "DNSSYNC_CONFIG",
    "DNSSYNC_CREDENTIALS", "DNSSYNC_TIMEOUT", "DNSSYNC_CA_CERT", "DNSSYNC_COLOR",
    "DNSSYNC_SORT_RECORDS"]

/-- The value of a variable. -/
def environment (surroundings : Surroundings) (name : String) : Option String :=
  surroundings.bindings.lookup name

/-- Bytes as a text. -/
def decodeText (bytes : ByteArray) : Except ReadFault String :=
  match String.fromUTF8? bytes with
  | some text => .ok text
  | none => .error .notText

def readText (surroundings : Surroundings) (path : String) : Except ReadFault String :=
  match surroundings.file path with
  | .ok bytes => decodeText bytes
  | .error fault => .error (.file fault)

end Surroundings

end ZoneSync
