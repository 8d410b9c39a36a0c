import ZoneSync.Layout
import ZoneSync.Layout.Error
import ZoneSync.Layout.Line

/-!
# Reading layout text

```text
.ttl        3600            a default for the zones declared below
example.com                 opens a zone, or opens it again
    .dnssec yes             a setting of the open zone
    A       www     192.0.2.1
    MX      @       mx.example.com  10
    !remove-record  hostname=www
```

Lines are read in order. The first line that cannot be read rejects the whole text.
-/

namespace ZoneSync.Layout

/-- A zone while it is read. -/
structure Draft where
  domain : String
  settings : Settings
  entries : List Entry
  deriving DecidableEq

def Draft.zone (draft : Draft) : Zone where
  domain := draft.domain
  settings := draft.settings
  serial := none
  entries := resolve draft.entries

/-- What the lines read so far have said: the defaults for new zones, the open zone, and the zones
in the order of their first opening. -/
structure Reading where
  defaults : Settings
  current : Option String
  drafts : List Draft
  deriving DecidableEq

namespace Reading

def start : Reading :=
  ⟨Settings.default, none, []⟩

def openDraft? (reading : Reading) : Option Draft :=
  reading.current.bind fun domain => reading.drafts.find? fun draft => draft.domain = domain

/-- The draft of the open zone. -/
def openDraft (reading : Reading) : Except Fault Draft :=
  match reading.openDraft? with
  | some draft => .ok draft
  | none => .error .noOpenZone

/-- Puts `draft` in the place of the draft of its domain. -/
def update (reading : Reading) (draft : Draft) : Reading :=
  { reading with
    drafts := reading.drafts.map fun other => if other.domain = draft.domain then draft else other }

/-- Adds an entry to the open zone. -/
def addEntry (reading : Reading) (entry : Entry) : Except Fault Reading := do
  let draft ← reading.openDraft
  return reading.update { draft with entries := draft.entries ++ [entry] }

/-- The settings with the named one read from `value`. -/
def assign (settings : Settings) (name value : String) : Except Fault Settings :=
  match Setting.ofName? name with
  | none => .error (.setting (.unknown name))
  | some setting => (settings.set setting value).mapError .setting

/-- Opens a zone. A new one starts with the defaults of this moment. -/
def openZone (reading : Reading) (domain : String) : Reading :=
  { reading with
    current := some domain
    drafts :=
      if reading.drafts.any fun draft => draft.domain = domain then reading.drafts
      else reading.drafts ++ [⟨domain, reading.defaults, []⟩] }

def readPriority (text : String) : Except Fault UInt16 :=
  match Text.numeral? UInt16.size text.toList with
  | some priority => .ok (UInt16.ofNat priority)
  | none => .error (.priority text)

/-- A record from the tokens of its line. -/
def readRecord (type hostname destination : String) (priority : Option String) :
    Except Fault Record :=
  match RecordType.ofName? type with
  | none => .error (.record (.unknownType type))
  | some type => do
    let priority ← priority.mapM readPriority
    (Record.new type hostname destination priority).mapError .record

/-- What one line adds. -/
def apply (reading : Reading) : Shape → Except Fault Reading
  | .nothing => .ok reading
  | .default name value => do
    return { reading with defaults := ← assign reading.defaults name value }
  | .zone domain =>
    if domain.toList.any Text.isBlank then .error (.blankInDomain domain)
    else .ok (reading.openZone domain)
  | .override name value => do
    let draft ← reading.openDraft
    return reading.update { draft with settings := ← assign draft.settings name value }
  | .directive action filters => do
    let directive ← (Directive.parse action filters).mapError .directive
    reading.addEntry (.directive directive)
  | .record type hostname destination priority => do
    let record ← readRecord type hostname destination priority
    reading.addEntry (.record record)

/-- Reads one line. -/
def step (reading : Reading) (line : Line) : Except LayoutError Reading :=
  let content := String.ofList line.content
  match line.shape? with
  | none => .error (.unknownShape line.number content)
  | some shape =>
    (reading.apply shape).mapError fun fault => .invalid line.number content fault.message

/-- The layout that was read. -/
def finish (reading : Reading) : Layout :=
  Layout.ofZones (reading.drafts.map Draft.zone)

end Reading

/-- Reads layout text; nothing is left of a text with an unreadable line. -/
def parse (text : String) : Except LayoutError Layout := do
  let reading ← (Line.ofText text).foldlM Reading.step Reading.start
  return reading.finish

end ZoneSync.Layout
