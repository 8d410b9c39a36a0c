import ZoneSync.Command.Report
import ZoneSync.Summary
import ZoneSync.View

/-!
# Pushing a layout

All domains are compared first and the changes are shown. Only then, if that is wanted and
confirmed, the very changes that were shown are written. In the end every domain is reported on.
-/

namespace ZoneSync

/-- Whether something of the domain is left to write. -/
def Outcome.isPending (outcome : Outcome) : Bool :=
  match outcome.result with
  | .ok delta => !delta.isNoop
  | .error _ => false

/-- The changes that are left to write. -/
def Outcome.pending? (outcome : Outcome) : Option Delta :=
  match outcome.result with
  | .ok delta => if delta.isNoop then none else some delta
  | .error _ => none

/-- Writes the changes of a domain, if there are any. -/
def Session.applyOutcome (session : Session) (outcome : Outcome) : Dialogue Outcome :=
  match outcome.pending? with
  | none => return outcome
  | some delta => do
    match ← session.applyDelta delta with
    | .ok () => return outcome
    | .error error =>
      Dialogue.tell (.applyFailed outcome.domain error)
      return { outcome with result := .error error }

namespace Command

/-- How a push is done and shown. -/
structure PushMode where
  commit : Bool
  /-- No confirmation is needed. -/
  yes : Bool
  format : Format
  colored : Bool
  quiet : Bool
  deriving DecidableEq, Repr

/-- What is done about changes. -/
inductive Decision where
  | leave
  | write
  | abort
  | refuse (failure : Failure)
  deriving DecidableEq, Repr

/-- Changes are written only on demand, and after a confirmation that somebody has to be there to
give. -/
def PushMode.decide (mode : PushMode) (answer : Option (Except FileFault Bool)) (pending : Nat) :
    Decision :=
  if !mode.commit || pending = 0 then .leave
  else if mode.yes then .write
  else
    match answer with
    | none => .refuse .unconfirmed
    | some (.error fault) => .refuse (.unreadable .operator (.file fault))
    | some (.ok true) => .write
    | some (.ok false) => .abort

/-- The listing of all changes. -/
def listing (mode : PushMode) (outcomes : List Outcome) : String :=
  if mode.format = .layout then
    let diffs := (outcomes.filterMap Outcome.pending?).map (Delta.diff · mode.colored)
    emit mode.quiet ("\n".intercalate diffs)
  else ""

/-- What became of every domain. -/
def conclusion (mode : PushMode) (outcomes : List Outcome) (committed : Bool) : String :=
  emit mode.quiet <|
    mode.format.structured (summary outcomes committed)
      (.array (outcomes.map (Outcome.json committed)))

/-- A push of one domain fails as that domain does; otherwise the failed domains are counted. -/
def verdict (outcomes : List Outcome) : Except Failure Unit :=
  let errors := outcomes.filterMap fun outcome =>
    match outcome.result with
    | .ok _ => none
    | .error error => some error
  match errors, outcomes with
  | [], _ => .ok ()
  | [error], [_] => .error (Failure.ofSync error)
  | errors, outcomes => .error (.partly errors.length outcomes.length)

/-- Ends the session and reports. -/
def concludePush (session : Session) (mode : PushMode) (shown note : String)
    (outcomes : List Outcome) (committed : Bool) : Dialogue Report := do
  let _ ← session.disconnect
  return ⟨shown ++ conclusion mode outcomes committed, note, verdict outcomes⟩

/-- Pushes within an open session. -/
def pushWithin (session : Session) (mode : PushMode) (answer : Option (Except FileFault Bool))
    (layout : Layout) : Dialogue Report := do
  let outcomes ← session.pushLayout layout false
  let pending := (outcomes.filter Outcome.isPending).length
  let shown := listing mode outcomes
  match mode.decide answer pending with
  | .leave =>
    let note :=
      if !mode.commit && 0 < pending && !mode.quiet then
        "Dry run, rerun with --commit to apply.\n"
      else ""
    concludePush session mode shown note outcomes false
  | .write =>
    let outcomes ← outcomes.mapM session.applyOutcome
    concludePush session mode shown "" outcomes true
  | .abort => concludePush session mode shown "Aborted, nothing was changed.\n" outcomes false
  | .refuse failure =>
    let _ ← session.disconnect
    return ⟨shown, "", .error failure⟩

/-- Opens the session, pushes, and closes it. -/
def pushLayout (session : Session) (mode : PushMode) (answer : Option (Except FileFault Bool))
    (layout : Layout) : Dialogue Report := do
  let (opened, session) ← session.connect
  match opened with
  | .error error => return .fail (.ofSync error)
  | .ok () => pushWithin session mode answer layout

end Command

end ZoneSync
