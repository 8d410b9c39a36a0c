import ZoneSync.Sync
import ZoneSync.Text.Table

/-!
# Summaries

One row for each domain of a push: what became of it, and how much it changes.
-/

namespace ZoneSync

/-- What became of a domain. -/
inductive Status where
  | upToDate
  | updated
  | pending
  | failed (error : SyncError)
  deriving DecidableEq, Repr

def Status.text : Status → String
  | upToDate => "up to date"
  | updated => "updated"
  | pending => "pending"
  | failed error => s!"failed: {error.message}"

/-- What became of the domain, in a run that has written its changes or not. -/
def Outcome.status (committed : Bool) (outcome : Outcome) : Status :=
  match outcome.result with
  | .error error => .failed error
  | .ok delta => if delta.isNoop then .upToDate else if committed then .updated else .pending

/-- The cells of an outcome. -/
def Outcome.row (committed : Bool) (outcome : Outcome) : List String :=
  let (settings, removed, added) := match outcome.result with
    | .ok delta => (delta.settings.isSome, delta.removed.length, delta.added.length)
    | .error _ => (false, 0, 0)
  [outcome.domain, (outcome.status committed).text, if settings then "changed" else "-",
    toString removed, toString added]

def summary (outcomes : List Outcome) (committed : Bool) : String :=
  Text.table ["Domain", "Status", "Settings", "Removed", "Added"]
    (outcomes.map (Outcome.row committed))

end ZoneSync
