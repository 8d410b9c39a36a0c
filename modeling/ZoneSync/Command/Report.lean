import ZoneSync.Command.Failure

/-!
# Reports

What a command leaves behind: a text for the reader of its output, notes for its operator, and
whether it failed.
-/

namespace ZoneSync.Command

structure Report where
  output : String
  notes : String
  result : Except Failure Unit

/-- A text as it is written out: nothing if there is nothing to say, or nothing shall be said. -/
def emit (quiet : Bool) (text : String) : String :=
  if quiet || text.isEmpty then "" else text ++ "\n"

namespace Report

def fail (failure : Failure) : Report :=
  ⟨"", "", .error failure⟩

def ofText (quiet : Bool) (text : String) : Report :=
  ⟨emit quiet text, "", .ok ()⟩

/-- The exit code of the program. -/
def exitCode (report : Report) : Nat :=
  match report.result with
  | .ok () => 0
  | .error failure => failure.exitCode

end Report

end ZoneSync.Command
