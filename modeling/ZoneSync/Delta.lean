import ZoneSync.Zone

/-!
# Reconciliation

What has to change to turn the zone that the provider holds into the zone that a layout declares.
Records are compared by content, so the identifiers of the current side never cause a change. They
are kept in the records to remove, which the provider can only delete by identifier.
-/

namespace ZoneSync

/-- Settings before and after. -/
structure SettingsChange where
  old : Settings
  new : Settings
  deriving DecidableEq, Repr

structure Delta where
  domain : String
  settings : Option SettingsChange
  removed : List Record
  added : List Record
  deriving DecidableEq

namespace Delta

/-- Nothing is left to write. -/
def isNoop (delta : Delta) : Bool :=
  delta.settings.isNone && delta.removed.isEmpty && delta.added.isEmpty

end Delta

/-- How far the desired records have been held against the current ones: the current records that no
desired one has claimed, the contents that have been met, and the records to add so far. -/
structure Matching where
  remaining : List Record
  seen : List Content
  added : List Record
  deriving DecidableEq

namespace Matching

/-- Before any desired record: of each content the first current record remains. -/
def start (current : List Record) : Matching :=
  ⟨Record.distinct current, [], []⟩

/-- Takes one more desired record. The first of its content claims the current record, or is to be
added if there is none; the others change nothing. -/
def visit (matching : Matching) (record : Record) : Matching :=
  if record.content ∈ matching.seen then matching
  else
    let seen := record.content :: matching.seen
    if record.content ∈ matching.remaining.map Record.content then
      { matching with
        remaining := matching.remaining.filter fun other => other.content ≠ record.content
        seen }
    else { matching with seen, added := matching.added ++ [record] }

end Matching

/-- The change from `current` to `desired`: records to remove in record order, records to add in the
order of their declaration. -/
def reconcile (current desired : Zone) : Delta :=
  let matching := desired.entries.foldl Matching.visit (Matching.start current.entries)
  { domain := desired.domain
    settings :=
      if current.settings = desired.settings then none
      else some ⟨current.settings, desired.settings⟩
    removed := Record.sort matching.remaining
    added := matching.added }

namespace Delta

/-- The colour of a line in a listing of changes. -/
inductive Ink where
  | red | green
  deriving DecidableEq, Repr

/-- The line, set in a colour by the escape codes of a terminal if `colored`. -/
def Ink.paint (ink : Ink) (colored : Bool) (line : String) : String :=
  let code := match ink with
    | .red => "31"
    | .green => "32"
  if colored then "\x1b[" ++ code ++ "m" ++ line ++ "\x1b[39m" else line

/-- The listing of the changes: settings, removals, additions. -/
def diff (delta : Delta) (colored : Bool) : String :=
  let settings := match delta.settings with
    | none => []
    | some change =>
      [Ink.red.paint colored s!"-zone {delta.domain}: {change.old.display}",
        Ink.green.paint colored s!"+zone {delta.domain}: {change.new.display}"]
  let removed := delta.removed.map fun record =>
    Ink.red.paint colored s!"-{delta.domain} {record.display}"
  let added := delta.added.map fun record =>
    Ink.green.paint colored s!"+{delta.domain} {record.display}"
  "\n".intercalate (settings ++ removed ++ added)

end Delta

end ZoneSync
