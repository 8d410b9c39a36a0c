import ZoneSync.Proofs.Sync.Exchanges

/-!
# Work with a session

Whoever uses the library works with a session by its operations, one after the other, and what comes
next may depend on what the ones before have come to. Such work is a routine. It may open and close
the session as often as it likes, it may fail at any point, and it may do other work in a session of
its own in between. There is no operation that turns a session to another endpoint or another account,
so no routine does: it leaves the session it was given, open or closed.
-/

namespace ZoneSync

/-- What can be done with a session, by the kind of its result. -/
inductive Operation : Type → Type
  | login : Operation (Except ApiError Unit)
  | logout : Operation (Except ApiError Unit)
  | isOpen : Operation Bool
  | zoneInfo (domain : String) : Operation (Except ApiError RemoteZone)
  | recordInfo (domain : String) : Operation (Except ApiError (List RemoteRecord))
  | updateZone (domain : String) (update : ZoneUpdate) : Operation (Except ApiError RemoteZone)
  | updateRecords (domain : String) (batch : List RecordUpdate) :
    Operation (Except ApiError (List RemoteRecord))
  | connect : Operation (Except SyncError Unit)
  | disconnect : Operation Unit
  | fetchZone (domain : String) : Operation (Except SyncError Zone)
  | fetchLayout (domains : List String) : Operation (Except SyncError Layout)
  | pushZone (desired : Zone) (commit : Bool) : Operation (Except SyncError Delta)
  | applyDelta (delta : Delta) : Operation (Except SyncError Unit)
  | pushLayout (layout : Layout) (commit : Bool) : Operation (List Outcome)

/-- Does something that leaves the session as it is. -/
def Session.hold {α : Type} (session : Session) (dialogue : Dialogue α) : Dialogue (α × Session) := do
  return (← dialogue, session)

def Operation.carryOut {α : Type} (session : Session) : Operation α → Dialogue (α × Session)
  | login => session.login
  | logout => session.logout
  | isOpen => session.hold (Dialogue.done session.isOpen)
  | zoneInfo domain => session.hold (session.zoneInfo domain)
  | recordInfo domain => session.hold (session.recordInfo domain)
  | updateZone domain update => session.hold (session.updateZone domain update)
  | updateRecords domain batch => session.hold (session.updateRecords domain batch)
  | connect => session.connect
  | disconnect => do return ((), ← session.disconnect)
  | fetchZone domain => session.hold (session.fetchZone domain)
  | fetchLayout domains => session.hold (session.fetchLayout domains)
  | pushZone desired commit => session.hold (session.pushZone desired commit)
  | applyDelta delta => session.hold (session.applyDelta delta)
  | pushLayout layout commit => session.hold (session.pushLayout layout commit)

/-- Operations one after the other, until a result is there. -/
inductive Routine : Type → Type 1
  | done {α : Type} (result : α) : Routine α
  | perform {α β : Type} (operation : Operation β) (next : β → Routine α) : Routine α
  | oneshot {α β : Type} (body : Routine (Except SyncError β))
    (next : Except SyncError β → Routine α) : Routine α

/-- Work in a session of its own is done with the same connection. -/
def Routine.carryOut {α : Type} (surroundings : Surroundings) (connection : Connection) :
    Routine α → Session → Dialogue (α × Session)
  | done result, session => Dialogue.done (result, session)
  | perform operation next, session => do
    let (told, session) ← operation.carryOut session
    (next told).carryOut surroundings connection session
  | oneshot body next, session => do
    let told ← connection.oneshot surroundings fun session =>
      body.carryOut surroundings connection session
    (next told).carryOut surroundings connection session

/-! ### The session that is left -/

variable {α : Type} {session : Session} {exchanges : List Exchange}

theorem Session.ends_hold {dialogue : Dialogue α} {result : α × Session}
    (hends : (session.hold dialogue).Ends exchanges result) : result.2 = session := by
  obtain ⟨first, rest, a, rfl, -, hrest⟩ := Dialogue.ends_bind_iff.1 hends
  rw [(Dialogue.ends_done_iff.1 hrest).2]

theorem Session.left_of_logout {result : Except ApiError Unit × Session}
    (hends : session.logout.Ends exchanges result) : result.2 = { session with id := none } := by
  obtain ⟨first, rest, answer, rfl, -, hrest⟩ := Dialogue.ends_bind_iff.1 hends
  rw [(Dialogue.ends_done_iff.1 hrest).2]

theorem Session.left_of_disconnect {left : Session} (hends : session.disconnect.Ends exchanges left) :
    left = { session with id := none } := by
  obtain ⟨first, rest, ⟨result, closed⟩, rfl, hlogout, hrest⟩ := Dialogue.ends_bind_iff.1 hends
  have hclosed := Session.left_of_logout hlogout
  cases result with
  | ok => exact (Dialogue.ends_done_iff.1 hrest).2.trans hclosed
  | error error => exact (Dialogue.ends_done_iff.1 (Dialogue.ends_warn_iff.1 hrest)).2.trans hclosed

theorem Session.left_of_login {result : Except ApiError Unit × Session}
    (hends : session.login.Ends exchanges result) : ∃ id, result.2 = { session with id := id } := by
  rcases ends_login hends with
    ⟨-, -, error, rfl⟩ | ⟨-, reply, -, ⟨id, -, rfl⟩ | ⟨-, error, rfl⟩⟩
  · exact ⟨session.id, rfl⟩
  · exact ⟨some id, rfl⟩
  · exact ⟨session.id, rfl⟩

theorem Session.left_of_connect {result : Except SyncError Unit × Session}
    (hends : session.connect.Ends exchanges result) : ∃ id, result.2 = { session with id := id } := by
  obtain ⟨first, rest, answer, rfl, hlogin, hrest⟩ := Dialogue.ends_bind_iff.1 hends
  rw [(Dialogue.ends_done_iff.1 hrest).2]
  exact left_of_login hlogin

/-- An operation may open or close the session and does nothing else to it. -/
theorem Operation.left_of_carryOut {operation : Operation α} {result : α × Session}
    (hends : (operation.carryOut session).Ends exchanges result) :
    ∃ id, result.2 = { session with id := id } := by
  cases operation with
  | login => exact Session.left_of_login hends
  | connect => exact Session.left_of_connect hends
  | logout => exact ⟨none, Session.left_of_logout hends⟩
  | disconnect =>
    obtain ⟨first, rest, left, rfl, hclosed, hrest⟩ := Dialogue.ends_bind_iff.1 hends
    rw [(Dialogue.ends_done_iff.1 hrest).2]
    exact ⟨none, Session.left_of_disconnect hclosed⟩
  | _ => exact ⟨session.id, Session.ends_hold hends⟩

theorem Routine.left_of_carryOut {surroundings : Surroundings} {connection : Connection}
    {routine : Routine α} {result : α × Session}
    (hends : (routine.carryOut surroundings connection session).Ends exchanges result) :
    ∃ id, result.2 = { session with id := id } := by
  induction routine generalizing session exchanges with
  | done a =>
    rw [(Dialogue.ends_done_iff.1 hends).2]
    exact ⟨session.id, rfl⟩
  | perform operation next ih =>
    obtain ⟨first, rest, ⟨told, middle⟩, rfl, hfirst, hrest⟩ := Dialogue.ends_bind_iff.1 hends
    obtain ⟨_, hmiddle⟩ := Operation.left_of_carryOut hfirst
    obtain ⟨id, hleft⟩ := ih told hrest
    rw [hleft, show middle = _ from hmiddle]
    exact ⟨id, rfl⟩
  | oneshot body next _ ih =>
    obtain ⟨first, rest, told, rfl, -, hrest⟩ := Dialogue.ends_bind_iff.1 hends
    exact ih told hrest

end ZoneSync
