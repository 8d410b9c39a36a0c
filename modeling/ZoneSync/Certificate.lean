import ZoneSync.Certificate.Element
import ZoneSync.Certificate.Section

/-!
# Certificates

A certificate says who is trusted, from when to when, and with which key, and is signed by whoever
says so. It is of the third version, with extensions that restrict its use, or of the first.

A file of certificates is usable if each of them has the form of a certificate. Nothing is computed:
signatures and dates are looked at by nobody before a connection is made.
-/

namespace ZoneSync

/-- The parts of a certificate, as the bytes they are written in. -/
structure Certificate where
  serial : List UInt8
  issuer : List UInt8
  validity : List UInt8
  subject : List UInt8
  key : List UInt8
  deriving DecidableEq, Repr

namespace Certificate

/-! ### Extensions -/

/-- A restriction; whoever does not know a critical one has to refuse the certificate. -/
structure Extension where
  name : Bytes
  critical : Bool
  value : Bytes
  deriving DecidableEq, Repr

namespace Extension

/-- Whether an extension is critical, if it says so. -/
def critical? (bytes : Bytes) : Option (Bool × Bytes) :=
  match content? Tag.boolean bytes with
  | some ([0xff], rest) => some (true, rest)
  | some ([0x00], rest) => some (false, rest)
  | some _ => none
  | none => if bytes.head? = some Tag.boolean then none else some (false, bytes)

def ofBytes? (bytes : Bytes) : Option Extension := do
  let (name, rest) ← content? Tag.identifier bytes
  let (critical, rest) ← critical? rest
  let value ← onlyContent? Tag.octetString rest
  return ⟨name, critical, value⟩

/-- The standard extensions are named by two bytes and their number. -/
def number? (extension : Extension) : Option UInt8 :=
  match extension.name with
  | [0x55, 0x1d, number] => some number
  | _ => none

/-- What a key may be used for; its value is a string of bits and not a sequence. -/
def keyUsage : UInt8 := 15

/-- The extensions that are understood: the use of a key, other names, whether a certificate may
sign others, restrictions of names, lists of revoked certificates, and further uses of a key. -/
def understood : List UInt8 := [keyUsage, 17, 19, 30, 31, 37]

def isUnderstood (extension : Extension) : Bool :=
  extension.number?.any understood.contains

/-- What is understood has a sequence as its value, and what is not is not critical. -/
def isAcceptable (extension : Extension) : Bool :=
  if extension.isUnderstood then
    extension.number? = some keyUsage || (onlyContent? Tag.sequence extension.value).isSome
  else !extension.critical

end Extension

/-- Whether extensions are acceptable and none that is understood is there twice. -/
def areAcceptable (extensions : List Extension) : Bool :=
  let understood := extensions.filter Extension.isUnderstood
  extensions.all Extension.isAcceptable && (understood.map Extension.name).Nodup

/-- Extensions in the last part of a certificate, which may be absent or empty. -/
def extensions? (bytes : Bytes) : Option (List Extension) :=
  if bytes.isEmpty then some []
  else do
    let part ← onlyContent? (Tag.part 3) bytes
    let content ← onlyContent? Tag.sequence part
    (← contents? Tag.sequence content.length content).mapM Extension.ofBytes?

/-! ### Certificates -/

/-- The parts from the issuer on, and the bytes after them. -/
def parties? (serial bytes : Bytes) : Option (Certificate × Bytes) := do
  let (issuer, rest) ← content? Tag.sequence bytes
  let (validity, rest) ← content? Tag.sequence rest
  let (subject, rest) ← content? Tag.sequence rest
  let (key, rest) ← content? Tag.sequence rest
  return (⟨serial, issuer, validity, subject, key⟩, rest)

/-- A certificate of the third version repeats how it is signed. -/
def ofThird? (algorithm signed : Bytes) : Option Certificate := do
  let (version, rest) ← content? (Tag.part 0) signed
  let (serial, rest) ← content? Tag.integer rest
  let (repeated, rest) ← content? Tag.sequence rest
  let (certificate, rest) ← parties? serial rest
  let extensions ← extensions? rest
  if onlyContent? Tag.integer version = some [2] && repeated = algorithm &&
      areAcceptable extensions then
    some certificate
  else none

/-- A certificate of the first version does not tell its version and has no extensions. -/
def ofFirst? (signed : Bytes) : Option Certificate := do
  let (serial, rest) ← content? Tag.integer signed
  let (_, rest) ← content? Tag.sequence rest
  match ← parties? serial rest with
  | (certificate, []) => some certificate
  | _ => none

/-- A certificate is a sequence of what is signed, how it is signed, and the signature. -/
def ofBytes? (bytes : Bytes) : Option Certificate := do
  let content ← onlyContent? Tag.sequence bytes
  let (signed, rest) ← content? Tag.sequence content
  let (algorithm, rest) ← content? Tag.sequence rest
  match ← wholeBytes? rest with
  | (_, []) => (ofThird? algorithm signed).or (ofFirst? signed)
  | _ => none

/-- The certificates of a file. -/
def ofFile? (file : ByteArray) : Option (List Certificate) := do
  let sections ← Section.ofFile? file
  let certificates := sections.filter (·.label = "CERTIFICATE".toList)
  certificates.mapM fun found => ofBytes? found.bytes

/-- Whether all certificates of a file can be trusted as far as their form goes. -/
def isUsable (file : ByteArray) : Bool :=
  (ofFile? file).isSome

end Certificate

end ZoneSync
