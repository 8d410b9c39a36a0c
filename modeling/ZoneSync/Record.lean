import ZoneSync.Address
import ZoneSync.Text.Basic
import ZoneSync.Text.Classes
import ZoneSync.Text.Quoted

/-!
# Resource records

A record says what a zone holds: its type, hostname, destination and, for mail exchangers, a
priority. That content makes its identity. The identifier under which the provider stores a record
rides along and never makes two records different.

Every content satisfies the rules of its type; they are part of the type `Content`, and
`Content.new` is the only check.
-/

namespace ZoneSync

/-- The record types that the provider accepts, in the order in which records are sorted. -/
inductive RecordType where
  | a | aaaa | cname | mx | ns | txt | caa | srv | tlsa | ds | sshfp | openpgpkey | smimea
  deriving DecidableEq, Repr

namespace RecordType

def all : List RecordType :=
  [a, aaaa, cname, mx, ns, txt, caa, srv, tlsa, ds, sshfp, openpgpkey, smimea]

def name : RecordType → String
  | a => "A"
  | aaaa => "AAAA"
  | cname => "CNAME"
  | mx => "MX"
  | ns => "NS"
  | txt => "TXT"
  | caa => "CAA"
  | srv => "SRV"
  | tlsa => "TLSA"
  | ds => "DS"
  | sshfp => "SSHFP"
  | openpgpkey => "OPENPGPKEY"
  | smimea => "SMIMEA"

/-- The place of the type in the sort order. -/
def rank (type : RecordType) : Nat :=
  all.idxOf type

/-- The type of that name; the case of ASCII letters does not matter. -/
def ofName? (name : String) : Option RecordType :=
  all.find? fun type => name.toList.map Char.toUpper == type.name.toList

end RecordType

/-- The two texts of a record that have to be tokens of a layout line. -/
inductive TokenField where
  | hostname | destination
  deriving DecidableEq, Repr

def TokenField.name : TokenField → String
  | .hostname => "hostname"
  | .destination => "destination"

/-- Why a record is refused. -/
inductive RecordError where
  | unknownType (name : String)
  | missingPriority
  | unexpectedPriority (type : RecordType)
  | notAToken (field : TokenField) (value : String)
  | addressFamily (type : RecordType) (destination : String)
  deriving DecidableEq, Repr

def RecordError.message : RecordError → String
  | unknownType name =>
    s!"unknown record type '{name}', valid types are: " ++
      ", ".intercalate (RecordType.all.map RecordType.name)
  | missingPriority => "MX record requires a priority"
  | unexpectedPriority type => s!"{type.name} record must not carry a priority"
  | notAToken field value =>
    s!"{field.name} {Text.quoted value} cannot be written as a layout token"
  | addressFamily type destination =>
    let family := if type = .a then "IPv4" else "IPv6"
    s!"{type.name} record destination '{destination}' is not a valid {family} address"

/-- A token can stand between the tabs of a layout line: it is not empty, begins and ends with no
blank, and holds no tab or line end. -/
def isToken (text : List Char) : Bool :=
  !text.isEmpty && Text.trim text == text && text.all fun c => c != '\t' && c != '\r' && c != '\n'

namespace Content

/-- Mail exchangers carry a priority, and no others do. -/
def priorityFault? (type : RecordType) (priority : Option UInt16) : Option RecordError :=
  match type, priority with
  | .mx, none => some .missingPriority
  | .mx, some _ => none
  | _, none => none
  | other, some _ => some (.unexpectedPriority other)

/-- Address records point to an address of their family. -/
def familyFault? (type : RecordType) (destination : String) : Option RecordError :=
  match type with
  | .a =>
    if Address.isIPv4 destination.toList then none else some (.addressFamily .a destination)
  | .aaaa =>
    if Address.isIPv6 destination.toList then none else some (.addressFamily .aaaa destination)
  | _ => none

/-- The first rule that a record would break. -/
def fault? (type : RecordType) (hostname destination : String) (priority : Option UInt16) :
    Option RecordError :=
  if !isToken hostname.toList then some (.notAToken .hostname hostname)
  else if !isToken destination.toList then some (.notAToken .destination destination)
  else (priorityFault? type priority).or (familyFault? type destination)

end Content

/-- What a record says. -/
structure Content where
  type : RecordType
  hostname : String
  destination : String
  priority : Option UInt16
  sound : Content.fault? type hostname destination priority = none
  deriving DecidableEq

namespace Content

def new (type : RecordType) (hostname destination : String) (priority : Option UInt16) :
    Except RecordError Content :=
  match sound : fault? type hostname destination priority with
  | none => .ok ⟨type, hostname, destination, priority, sound⟩
  | some fault => .error fault

/-- An absent priority comes before all others. -/
def comparePriority : Option UInt16 → Option UInt16 → Ordering
  | none, none => .eq
  | none, some _ => .lt
  | some _, none => .gt
  | some p, some q => compare p.toNat q.toNat

/-- Type first, then hostname, destination and priority. -/
def compare (x y : Content) : Ordering :=
  (Ord.compare x.type.rank y.type.rank).then <|
    (Text.compareTexts x.hostname y.hostname).then <|
      (Text.compareTexts x.destination y.destination).then <|
        comparePriority x.priority y.priority

end Content

/-- A record, with the identifier that the provider gave it if it came from there. -/
structure Record extends content : Content where
  id : Option String
  deriving DecidableEq

namespace Record

def new (type : RecordType) (hostname destination : String) (priority : Option UInt16) :
    Except RecordError Record :=
  return { ← Content.new type hostname destination priority with id := none }

/-- The same record as stored under `id`. -/
def withId (record : Record) (id : String) : Record :=
  { record with id := some id }

/-- One line for a reader: the type in five columns, the hostname and the destination. -/
def display (record : Record) : String :=
  let type := record.type.name
  let padding := String.ofList (List.replicate (5 - type.length) ' ')
  let priority := match record.priority with
    | some priority => s!" priority {priority.toNat}"
    | none => ""
  type ++ padding ++ " " ++ record.hostname ++ " -> " ++ record.destination ++ priority

/-- Puts a record in front of the first one that is not smaller. -/
def insertSorted (record : Record) : List Record → List Record
  | [] => [record]
  | other :: rest =>
    if record.content.compare other.content = .gt then other :: insertSorted record rest
    else record :: other :: rest

/-- The records in ascending order; records of equal content keep their order. -/
def sort (records : List Record) : List Record :=
  records.foldr insertSorted []

/-- The first record of each content, in order; the contents in `seen` count as already met. -/
def distinctFrom (seen : List Content) : List Record → List Record
  | [] => []
  | record :: rest =>
    if record.content ∈ seen then distinctFrom seen rest
    else record :: distinctFrom (record.content :: seen) rest

def distinct (records : List Record) : List Record :=
  distinctFrom [] records

end Record

end ZoneSync
