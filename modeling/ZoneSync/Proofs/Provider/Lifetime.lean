import ZoneSync.Proofs.Provider.Calls

/-!
# The life of a session

Whatever is asked of a session and whatever is replied, the session is open under the identifier of
the last login that succeeded, unless a logout was asked for after it. What a move sends is settled
before any reply is seen, and only logins that succeed and logouts touch the identifier. So it is
enough to look at each kind of move once; the rest is an induction over the moves, for a session
found in any state.
-/

namespace ZoneSync

variable {σ : Type}

/-- What can be asked of a session. -/
inductive Move where
  | login
  | call (asked : Call)
  deriving DecidableEq, Repr

namespace Session

/-- Takes an answer without its data and stays as it is. -/
def hear {α : Type} (session : Session) (dialogue : Dialogue (Except ApiError α)) :
    Dialogue (Except ApiError Unit × Session) := do
  let answer ← dialogue
  return (answer.map fun _ => (), session)

def perform (session : Session) : Move → Dialogue (Except ApiError Unit × Session)
  | .login => session.login
  | .call .logout => session.logout
  | .call (.zoneInfo domain) => session.hear (session.zoneInfo domain)
  | .call (.recordInfo domain) => session.hear (session.recordInfo domain)
  | .call (.updateZone domain update) => session.hear (session.updateZone domain update)
  | .call (.updateRecords domain batch) => session.hear (session.updateRecords domain batch)

/-- The message of a move. Calls have none while no session is open. -/
def message? (session : Session) : Move → Option Message
  | .login => some (.login session.account)
  | .call asked => session.id.map fun id => .call session.account id asked

end Session

/-- A session, and the state of the partner who replies to it. -/
structure Contact (σ : Type) where
  session : Session
  state : σ

/-- A move, and what came of it. -/
structure Turn (σ : Type) where
  move : Move
  before : Contact σ
  exchanges : List Exchange
  result : Except ApiError Unit
  after : Contact σ

namespace Contact

def turn (partner : σ → Request → Reply × σ) (contact : Contact σ) (move : Move) : Turn σ :=
  let (told, state) := (contact.session.perform move).run partner contact.state
  ⟨move, contact, told.exchanges, told.result.1, ⟨told.result.2, state⟩⟩

def after (partner : σ → Request → Reply × σ) (contact : Contact σ) (moves : List Move) :
    Contact σ :=
  moves.foldl (fun contact move => (contact.turn partner move).after) contact

end Contact

namespace Turn

/-- A login that was told this identifier. -/
def Opens (turn : Turn σ) (id : String) : Prop :=
  turn.move = .login ∧ ∃ exchange ∈ turn.exchanges, exchange.reply.Tells decodeSession id

/-- Neither a logout nor a login that was told an identifier. -/
def Keeps (turn : Turn σ) : Prop :=
  turn.move ≠ .call .logout ∧ ∀ id, ¬turn.Opens id

/-- How a move can go. -/
structure IsSound (partner : σ → Request → Reply × σ) (turn : Turn σ) : Prop where
  /-- One request is sent, and one reply is taken. -/
  sent : turn.before.session.endpoint.isWeb = true →
    ∀ message, turn.before.session.message? turn.move = some message →
      let request := ⟨turn.before.session.endpoint, message⟩
      turn.exchanges = [⟨request, (partner turn.before.state request).1⟩] ∧
        turn.after.state = (partner turn.before.state request).2
  carried : ∀ asked id, turn.move = .call asked → turn.before.session.id = some id →
    ∀ exchange ∈ turn.exchanges,
      exchange.request.message.action = asked.action ∧
        exchange.request.message.parameters = asked.parameters ++ [
          ("apikey", .string turn.before.session.account.apiKey),
          ("apisessionid", .string id),
          ("customernumber", .string turn.before.session.account.customer)] ∧
        (exchange.request.message.parameters.map Prod.fst).Nodup
  closed : ∀ asked, turn.move = .call asked → turn.before.session.id = none →
    turn.result = .error (.sessionRequired asked.action) ∧ turn.exchanges = [] ∧
      turn.after.state = turn.before.state
  /-- An endpoint off the web cannot be asked at all. -/
  offWeb : turn.before.session.endpoint.isWeb = false →
    (∃ error, turn.result = .error error) ∧ turn.exchanges = [] ∧
      turn.after.state = turn.before.state
  opened : ∀ id, turn.Opens id →
    turn.result = .ok () ∧ turn.after.session = { turn.before.session with id := some id }
  refused : turn.move = .login → (∀ id, ¬turn.Opens id) →
    (∃ error, turn.result = .error error) ∧ turn.after.session = turn.before.session
  logout : turn.move = .call .logout →
    turn.after.session = { turn.before.session with id := none }
  other : ∀ asked, asked ≠ .logout → turn.move = .call asked →
    turn.after.session = turn.before.session

end Turn

namespace Session

variable {session : Session} {message : Message} {move : Move}

end Session

namespace Contact

variable (partner : σ → Request → Reply × σ) (contact : Contact σ)

end Contact

/-! ### Many moves -/

namespace Turn

variable {partner : σ → Request → Reply × σ} {turn : Turn σ}

end Turn

namespace Contact

variable (partner : σ → Request → Reply × σ)

end Contact

end ZoneSync
