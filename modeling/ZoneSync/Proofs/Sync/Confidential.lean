import ZoneSync.Proofs.Sync.Routine

/-!
# Where the password goes

The password of an account is a parameter of the login and goes nowhere else. So with another password
every operation is the same dialogue, in which only the requests are put otherwise: the results, the
errors with all their texts, the warnings and the sessions are those that there would have been, and
of the requests the logins differ in that parameter. Operations that are done one after the other, or
in sessions of their own, are the same dialogue too.
-/

namespace ZoneSync

/-! ### Requests put otherwise -/

namespace Dialogue

variable {α β γ : Type} (put : Request → Request)

/-- The dialogue with other requests in the places of its own. -/
def translate : Dialogue α → Dialogue α
  | .done result => .done result
  | .ask request next => .ask (put request) fun reply => (next reply).translate
  | .warn warning next => .warn warning next.translate

theorem translate_bind (dialogue : Dialogue α) (f : α → Dialogue β) :
    (dialogue >>= f).translate put = dialogue.translate put >>= fun a => (f a).translate put := by
  induction dialogue with
  | done => rfl
  | ask request next ih => simp only [ask_bind, translate, ih]
  | warn warning next ih => simp only [warn_bind, translate, ih]

theorem translate_mapM (f : γ → Dialogue α) (items : List γ) :
    (items.mapM f).translate put = items.mapM fun item => (f item).translate put := by
  induction items with
  | nil => rfl
  | cons item rest ih =>
    rw [List.mapM_cons, List.mapM_cons, translate_bind]
    refine bind_congr fun a => ?_
    rw [translate_bind, ih]
    rfl

end Dialogue

/-- The transcript with other requests in the places of its own. -/
def Transcript.translate {α : Type} (put : Request → Request) (told : Transcript α) : Transcript α :=
  { told with exchanges := told.exchanges.map fun exchange => ⟨put exchange.request, exchange.reply⟩ }

/-- To a partner who does not listen it makes no difference what is asked. -/
theorem Dialogue.run_translate {α σ : Type} (put : Request → Request) (replies : σ → Reply × σ)
    (dialogue : Dialogue α) (state : σ) :
    (dialogue.translate put).run (fun state _ => replies state) state =
      let (told, state) := dialogue.run (fun state _ => replies state) state
      (told.translate put, state) := by
  induction dialogue generalizing state with
  | done => rfl
  | ask request next ih =>
    simp only [translate, run, ih]
    rfl
  | warn warning next ih =>
    simp only [translate, run, ih]
    rfl

/-! ### Another password -/

def Account.withPassword (account : Account) (password : String) : Account :=
  { account with apiPassword := password }

def Session.withPassword (session : Session) (password : String) : Session :=
  { session with account := session.account.withPassword password }

def Connection.withPassword (connection : Connection) (password : String) : Connection :=
  { connection with account := connection.account.withPassword password }

def Message.withPassword (message : Message) (password : String) : Message :=
  match message with
  | .login account => .login (account.withPassword password)
  | .call account id asked => .call (account.withPassword password) id asked

def Request.withPassword (password : String) (request : Request) : Request :=
  { request with message := request.message.withPassword password }

namespace Dialogue

variable {α β γ : Type} (password : String)

/-- The dialogue with another password in its requests. -/
def withPassword (dialogue : Dialogue α) : Dialogue α :=
  dialogue.translate (Request.withPassword password)

theorem withPassword_bind (dialogue : Dialogue α) (f : α → Dialogue β) :
    (dialogue >>= f).withPassword password =
      dialogue.withPassword password >>= fun a => (f a).withPassword password :=
  translate_bind _ dialogue f

theorem withPassword_mapM (f : γ → Dialogue α) (items : List γ) :
    (items.mapM f).withPassword password = items.mapM fun item => (f item).withPassword password :=
  translate_mapM _ f items

end Dialogue

/-- What is left of some work with a session, where that has another password. -/
def leaving {α : Type} (password : String) (left : α × Session) : Dialogue (α × Session) :=
  .done (left.1, left.2.withPassword password)

namespace Session

open Dialogue (withPassword_bind withPassword_mapM)

variable {α : Type} (session : Session) (password : String)

/-! ### Calls -/

theorem post_withPassword (message : Message) :
    (session.withPassword password).post (message.withPassword password) =
      (session.post message).withPassword password := by
  have haction : (message.withPassword password).action = message.action := by
    cases message <;> rfl
  have hendpoint : (session.withPassword password).endpoint = session.endpoint := rfl
  rw [post, post, haction, hendpoint]
  split
  · rfl
  · rfl

theorem call_withPassword (asked : Call) :
    (session.withPassword password).call asked = (session.call asked).withPassword password := by
  -- Whether anything is sent depends on the identifier alone.
  have hid : (session.withPassword password).id = session.id := rfl
  rw [call, call, hid]
  cases session.id with
  | none => rfl
  | some id =>
    have hpost := session.post_withPassword password (.call session.account id asked)
    dsimp only
    rw [withPassword_bind, ← hpost]
    rfl

theorem query_withPassword (asked : Call) (decode : Json → Except DecodeError α) :
    (session.withPassword password).query asked decode =
      (session.query asked decode).withPassword password := by
  rw [query, query, withPassword_bind, call_withPassword]
  rfl

theorem login_withPassword :
    (session.withPassword password).login =
      session.login.withPassword password >>= leaving password := by
  have hpost := session.post_withPassword password (.login session.account)
  -- An error of the login names the customer and not the password.
  have hadmitted : admitted (session.withPassword password).account = admitted session.account := rfl
  rw [login, login, withPassword_bind, bind_assoc, ← hpost, hadmitted]
  refine bind_congr fun answer => ?_
  cases answer.bind (admitted session.account) <;> rfl

theorem logout_withPassword :
    (session.withPassword password).logout =
      session.logout.withPassword password >>= leaving password := by
  rw [logout, logout, withPassword_bind, bind_assoc, call_withPassword]
  rfl

theorem zoneInfo_withPassword (domain : String) :
    (session.withPassword password).zoneInfo domain =
      (session.zoneInfo domain).withPassword password :=
  session.query_withPassword password (.zoneInfo domain) RemoteZone.decode

theorem recordInfo_withPassword (domain : String) :
    (session.withPassword password).recordInfo domain =
      (session.recordInfo domain).withPassword password :=
  session.query_withPassword password (.recordInfo domain) RemoteRecord.decodeSet

theorem updateZone_withPassword (domain : String) (update : ZoneUpdate) :
    (session.withPassword password).updateZone domain update =
      (session.updateZone domain update).withPassword password :=
  session.query_withPassword password (.updateZone domain update) RemoteZone.decode

theorem updateRecords_withPassword (domain : String) (batch : List RecordUpdate) :
    (session.withPassword password).updateRecords domain batch =
      (session.updateRecords domain batch).withPassword password :=
  session.query_withPassword password (.updateRecords domain batch) RemoteRecord.decodeSet

/-! ### Synchronisation -/

theorem connect_withPassword :
    (session.withPassword password).connect =
      session.connect.withPassword password >>= leaving password := by
  rw [connect, connect, withPassword_bind, bind_assoc, login_withPassword, bind_assoc]
  rfl

theorem disconnect_withPassword :
    (session.withPassword password).disconnect =
      session.disconnect.withPassword password >>= fun left => .done (left.withPassword password) := by
  rw [disconnect, disconnect, withPassword_bind, bind_assoc, logout_withPassword, bind_assoc]
  refine bind_congr fun left => ?_
  obtain ⟨result, left⟩ := left
  cases result <;> rfl

theorem fetchZone_withPassword (domain : String) :
    (session.withPassword password).fetchZone domain =
      (session.fetchZone domain).withPassword password := by
  rw [fetchZone, fetchZone, withPassword_bind, zoneInfo_withPassword]
  refine bind_congr fun told => ?_
  cases told with
  | error error => rfl
  | ok told =>
    dsimp only
    rw [withPassword_bind, recordInfo_withPassword]
    refine bind_congr fun records => ?_
    cases records <;> rfl

theorem fetchInto_withPassword (layout : Layout) (domains : List String) :
    (session.withPassword password).fetchInto layout domains =
      (session.fetchInto layout domains).withPassword password := by
  induction domains generalizing layout with
  | nil => rfl
  | cons domain rest ih =>
    rw [fetchInto, fetchInto, withPassword_bind, fetchZone_withPassword]
    refine bind_congr fun fetched => ?_
    cases fetched with
    | error error => rfl
    | ok zone => exact ih (layout.insert zone)

theorem fetchLayout_withPassword (domains : List String) :
    (session.withPassword password).fetchLayout domains =
      (session.fetchLayout domains).withPassword password :=
  session.fetchInto_withPassword password Layout.empty domains

theorem applyDelta_withPassword (delta : Delta) :
    (session.withPassword password).applyDelta delta =
      (session.applyDelta delta).withPassword password := by
  have hsettings : (session.withPassword password).applySettings delta =
      (session.applySettings delta).withPassword password := by
    rw [applySettings, applySettings]
    cases delta.zoneUpdate? with
    | none => rfl
    | some update =>
      dsimp only
      rw [withPassword_bind, updateZone_withPassword]
      rfl
  have hrecords : (session.withPassword password).applyRecords delta =
      (session.applyRecords delta).withPassword password := by
    rw [applyRecords, applyRecords]
    split
    · rfl
    · rw [withPassword_bind, updateRecords_withPassword]
      rfl
  rw [applyDelta, applyDelta, withPassword_bind, hsettings]
  refine bind_congr fun written => ?_
  cases written with
  | error error => rfl
  | ok =>
    dsimp only
    rw [withPassword_bind, hrecords]
    rfl

theorem pushZone_withPassword (desired : Zone) (commit : Bool) :
    (session.withPassword password).pushZone desired commit =
      (session.pushZone desired commit).withPassword password := by
  rw [pushZone, pushZone, withPassword_bind, fetchZone_withPassword]
  refine bind_congr fun fetched => ?_
  cases fetched with
  | error error => rfl
  | ok current =>
    cases commit with
    | false => rfl
    | true =>
      simp only [if_true]
      rw [withPassword_bind, applyDelta_withPassword]
      refine bind_congr fun applied => ?_
      cases applied <;> rfl

theorem pushLayout_withPassword (layout : Layout) (commit : Bool) :
    (session.withPassword password).pushLayout layout commit =
      (session.pushLayout layout commit).withPassword password := by
  rw [pushLayout, pushLayout, withPassword_mapM]
  congr 1
  funext desired
  rw [pushOutcome, pushOutcome, withPassword_bind, pushZone_withPassword]
  refine bind_congr fun result => ?_
  cases result <;> rfl

theorem hold_withPassword {dialogue changed : Dialogue α}
    (hchanged : changed = dialogue.withPassword password) :
    (session.withPassword password).hold changed =
      (session.hold dialogue).withPassword password >>= leaving password := by
  rw [hchanged, hold, hold, withPassword_bind, bind_assoc]
  rfl

end Session

/-! ### Work with a session -/

open Dialogue (withPassword_bind)

variable {α : Type} (session : Session) (password : String)

theorem Operation.carryOut_withPassword (operation : Operation α) :
    operation.carryOut (session.withPassword password) =
      (operation.carryOut session).withPassword password >>= leaving password := by
  cases operation with
  | login => exact session.login_withPassword password
  | logout => exact session.logout_withPassword password
  | connect => exact session.connect_withPassword password
  | disconnect =>
    rw [carryOut, carryOut, withPassword_bind, bind_assoc, Session.disconnect_withPassword, bind_assoc]
    rfl
  | isOpen => exact session.hold_withPassword password rfl
  | zoneInfo domain =>
    exact session.hold_withPassword password (session.zoneInfo_withPassword password domain)
  | recordInfo domain =>
    exact session.hold_withPassword password (session.recordInfo_withPassword password domain)
  | updateZone domain update =>
    exact session.hold_withPassword password (session.updateZone_withPassword password domain update)
  | updateRecords domain batch =>
    exact session.hold_withPassword password (session.updateRecords_withPassword password domain batch)
  | fetchZone domain =>
    exact session.hold_withPassword password (session.fetchZone_withPassword password domain)
  | fetchLayout domains =>
    exact session.hold_withPassword password (session.fetchLayout_withPassword password domains)
  | pushZone desired commit =>
    exact session.hold_withPassword password (session.pushZone_withPassword password desired commit)
  | applyDelta delta =>
    exact session.hold_withPassword password (session.applyDelta_withPassword password delta)
  | pushLayout layout commit =>
    exact session.hold_withPassword password (session.pushLayout_withPassword password layout commit)

/-- Work in a session of its own, if for any session with another password the work is the same. -/
theorem Connection.oneshot_withPassword (surroundings : Surroundings) (connection : Connection)
    {work changed : Session → Dialogue (Except SyncError α × Session)}
    (hwork : ∀ session : Session, changed (session.withPassword password) =
      (work session).withPassword password >>= leaving password) :
    (connection.withPassword password).oneshot surroundings changed =
      (connection.oneshot surroundings work).withPassword password := by
  -- What is trusted is settled before there is a session, whoever the customer is.
  have hsession : (connection.withPassword password).session surroundings =
      (connection.session surroundings).map (·.withPassword password) := by
    rw [Connection.session, Connection.session]
    show checkTrust surroundings connection.caCert >>= _ = _
    cases checkTrust surroundings connection.caCert <;> rfl
  rw [oneshot, oneshot, hsession]
  cases connection.session surroundings with
  | error error => rfl
  | ok session =>
    show (session.withPassword password).within changed = (session.within work).withPassword password
    rw [Session.within, Session.within, withPassword_bind, Session.connect_withPassword, bind_assoc]
    refine bind_congr fun opened => ?_
    obtain ⟨result, opened⟩ := opened
    cases result with
    | error error => rfl
    | ok =>
      show changed (opened.withPassword password) >>= _ = _
      dsimp only
      rw [withPassword_bind, hwork, bind_assoc]
      refine bind_congr fun worked => ?_
      obtain ⟨result, worked⟩ := worked
      show (worked.withPassword password).disconnect >>= _ = _
      dsimp only
      rw [withPassword_bind, Session.disconnect_withPassword, bind_assoc]
      rfl

/-- With another password a routine is the same dialogue, put with that password. -/
theorem Routine.carryOut_withPassword (surroundings : Surroundings) (connection : Connection)
    (routine : Routine α) :
    routine.carryOut surroundings (connection.withPassword password) (session.withPassword password) =
      (routine.carryOut surroundings connection session).withPassword password >>=
        leaving password := by
  induction routine generalizing session with
  | done result => rfl
  | perform operation next ih =>
    rw [carryOut, carryOut, withPassword_bind, bind_assoc, Operation.carryOut_withPassword, bind_assoc]
    refine bind_congr fun told => ?_
    exact ih told.1 told.2
  | oneshot body next ihbody ih =>
    rw [carryOut, carryOut, withPassword_bind, bind_assoc,
      connection.oneshot_withPassword password surroundings ihbody]
    exact bind_congr fun told => ih told session

/-! ### What is seen from outside -/

/-- The parameters of a login with another password in the place of its own. -/
def replacePassword (password : String) (parameters : List (String × Json)) : List (String × Json) :=
  parameters.map fun (name, value) =>
    if name = "apipassword" then (name, .string password) else (name, value)

/-- The same reply to the same request, but for the value of the password in a login. -/
structure Exchange.SameButPassword (password : String) (first second : Exchange) : Prop where
  reply : second.reply = first.reply
  endpoint : second.request.endpoint = first.request.endpoint
  action : second.request.message.action = first.request.message.action
  login : first.request.message.action = "login" → second.request.message.parameters =
    replacePassword password first.request.message.parameters
  others : first.request.message.action ≠ "login" →
    second.request.message.json = first.request.message.json

theorem Exchange.sameButPassword (exchange : Exchange) :
    exchange.SameButPassword password
      ⟨exchange.request.withPassword password, exchange.reply⟩ := by
  obtain ⟨⟨endpoint, message⟩, reply⟩ := exchange
  cases message with
  | login account => exact ⟨rfl, rfl, rfl, fun _ => rfl, fun hother => absurd rfl hother⟩
  | call account id asked =>
    have haction : asked.action ≠ "login" := by cases asked <;> simp [Call.action]
    exact ⟨rfl, rfl, rfl, fun hlogin => absurd hlogin haction, fun _ => rfl⟩

/-- Of two runs that differ only in the password, and in which the replies are the same, nothing is
different but the passwords in the logins. -/
theorem Routine.run_withPassword {σ : Type} (surroundings : Surroundings) (connection : Connection)
    (routine : Routine α) (replies : σ → Reply × σ) (state : σ) :
    let first := (routine.carryOut surroundings connection session).run
      (fun state _ => replies state) state
    let second := (routine.carryOut surroundings (connection.withPassword password)
      (session.withPassword password)).run (fun state _ => replies state) state
    second.1.result = (first.1.result.1, first.1.result.2.withPassword password) ∧
      second.1.warnings = first.1.warnings ∧ second.2 = first.2 ∧
        List.Forall₂ (Exchange.SameButPassword password) first.1.exchanges second.1.exchanges := by
  intro first second
  have hsecond : second =
      (⟨(first.1.result.1, first.1.result.2.withPassword password),
        (first.1.translate (Request.withPassword password)).exchanges, first.1.warnings⟩,
        first.2) := by
    show Dialogue.run _ (routine.carryOut surroundings _ _) state = _
    rw [carryOut_withPassword]
    refine (Dialogue.run_bind_done _ _ _ _).trans ?_
    rw [Dialogue.withPassword, Dialogue.run_translate]
    rfl
  rw [hsecond]
  refine ⟨rfl, rfl, rfl, ?_⟩
  rw [Transcript.translate, List.forall₂_map_right_iff, List.forall₂_same]
  exact fun exchange _ => exchange.sameButPassword password

end ZoneSync
