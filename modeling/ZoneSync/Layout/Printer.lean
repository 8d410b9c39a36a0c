import ZoneSync.Layout

/-!
# Writing layout text

The canonical text of a layout. Settings with their default value are left out, records of equal
content are written once, and an empty line stands between two zones. Reading the text gives the
same layout again.
-/

namespace ZoneSync

namespace Record

/-- The line that declares a record. -/
def layoutLine (record : Record) : String :=
  let priority := match record.priority with
    | some priority => s!"\t{priority.toNat}"
    | none => ""
  "\t" ++ record.type.name ++ "\t" ++ record.hostname ++ "\t" ++ record.destination ++ priority

/-- The records as they are written: in record order if `sorted`, and each content once. -/
def listed (sorted : Bool) (records : List Record) : List Record :=
  distinct (if sorted then sort records else records)

end Record

/-- The line that declares a setting. -/
def Settings.layoutLine (settings : Settings) (setting : Setting) : String :=
  "\t." ++ setting.name ++ "\t" ++ settings.value setting

/-- The lines that declare a zone. -/
def Zone.layoutLines (zone : Zone) (sorted : Bool) : List String :=
  zone.domain :: zone.settings.nonDefault.map zone.settings.layoutLine ++
    (Record.listed sorted zone.entries).map Record.layoutLine

def Zone.render (zone : Zone) (sorted : Bool) : String :=
  String.join ((zone.layoutLines sorted).map (· ++ "\n"))

/-- The canonical text of a layout. -/
def Layout.render (layout : Layout) (sorted : Bool) : String :=
  "\n".intercalate (layout.zones.map fun zone => zone.render sorted)

end ZoneSync
