import ZoneSync.Proofs.Command.Phases
import ZoneSync.Proofs.Sync.Routine

/-!
# No session is left open

Work in a session of its own begins with a login and ends with a logout. Whatever the work does with
the session, the logout finds the session as the work has left it, so it is sent exactly if there is
an identifier to be given back, and its reply has no say in the result. The push command opens and
closes its session by itself. All ways out of it pass the logout: a dry run, a confirmation that is
refused or cannot be had, and changes that are written or fail.
-/

namespace ZoneSync

section

variable {α σ : Type} {surroundings : Surroundings} {connection : Connection}

/-! ### Work in a session of its own -/

/-- How work in a session of its own can go: nothing is sent, or only a login, or the work is done
once between the login and the logout. The result and the partner's state are those at the end. -/
inductive Connection.Oneshot (surroundings : Surroundings) (connection : Connection)
    (work : Session → Dialogue (Except SyncError α × Session)) (partner : σ → Request → Reply × σ)
    (state : σ) : Transcript (Except SyncError α) × σ → Prop
  | unbuilt {error : ApiError} :
    connection.session surroundings = .error error →
      Oneshot surroundings connection work partner state (⟨.error (.ofApi error), [], []⟩, state)
  | refused {session : Session} {opening : Transcript (Except SyncError Unit × Session)}
    {after : σ} {error : SyncError} :
    connection.session surroundings = .ok session →
      session.connect.run partner state = (opening, after) → opening.result.1 = .error error →
        Oneshot surroundings connection work partner state
          (⟨.error error, opening.exchanges, opening.warnings⟩, after)
  | closed {session : Session} {opening : Transcript (Except SyncError Unit × Session)}
    {working : Transcript (Except SyncError α × Session)} {closing : Transcript Session}
    {opened worked after : σ} :
    connection.session surroundings = .ok session →
      session.connect.run partner state = (opening, opened) → opening.result.1 = .ok () →
        (work opening.result.2).run partner opened = (working, worked) →
          working.result.2.disconnect.run partner worked = (closing, after) →
            closing.result.isOpen = false →
              closing.exchanges.map Exchange.request = working.result.2.id.toList.map (fun id =>
                ⟨connection.endpoint, .call connection.account id .logout⟩) →
                Oneshot surroundings connection work partner state
                  (⟨working.result.1,
                    opening.exchanges ++ (working.exchanges ++ closing.exchanges),
                    opening.warnings ++ (working.warnings ++ closing.warnings)⟩, after)

theorem Session.ends_disconnect_closed {session after : Session} {exchanges : List Exchange}
    (hclosed : session.id = none) (hends : session.disconnect.Ends exchanges after) :
    exchanges = [] := by
  rw [disconnect, logout, call, hclosed] at hends
  exact (Dialogue.ends_done_iff.1 (Dialogue.ends_warn_iff.1 hends)).1

/-- The logout names the session that is open, if one is. -/
theorem Session.requests_disconnect {session after : Session} {exchanges : List Exchange}
    (hweb : session.endpoint.isWeb = true) (hends : session.disconnect.Ends exchanges after) :
    exchanges.map Exchange.request =
      session.id.toList.map fun id => ⟨session.endpoint, .call session.account id .logout⟩ := by
  cases hid : session.id with
  | none =>
    rw [ends_disconnect_closed hid hends]
    rfl
  | some id =>
    obtain ⟨reply, rfl⟩ := ends_disconnect hid hweb hends
    rfl

theorem Connection.session_eq {session : Session}
    (hsession : connection.session surroundings = .ok session) :
    session = Session.new connection.endpoint connection.account := by
  obtain ⟨_, -, hnew⟩ := bind_eq_ok_iff.1 hsession
  exact (Except.ok.inj hnew).symm

/-- The logout at the end names the session that the work has left open, and closes it. -/
theorem Connection.closing_of_ends {session begun : Session} {login worked logout : List Exchange}
    {routine : Routine α} {result : α × Session} {closed : Session}
    (hsession : connection.session surroundings = .ok session)
    (hconnect : session.connect.Ends login (.ok (), begun))
    (hwork : (routine.carryOut surroundings connection begun).Ends worked result)
    (hclose : result.2.disconnect.Ends logout closed) :
    closed.isOpen = false ∧ logout.map Exchange.request = result.2.id.toList.map fun id =>
      ⟨connection.endpoint, .call connection.account id .logout⟩ := by
  obtain rfl := session_eq hsession
  obtain ⟨id, hleft⟩ := Routine.left_of_carryOut hwork
  cases Session.ends_connect hconnect with
  | opened hweb htells =>
    have hreach : result.2.endpoint.isWeb = true := hleft ▸ hweb
    have hrequests := Session.requests_disconnect hreach hclose
    rw [Session.left_of_disconnect hclose]
    refine ⟨rfl, hrequests.trans ?_⟩
    rw [hleft]
    rfl

theorem Connection.run_oneshot (surroundings : Surroundings) (connection : Connection)
    (routine : Routine (Except SyncError α)) (partner : σ → Request → Reply × σ) (state : σ) :
    connection.Oneshot surroundings (routine.carryOut surroundings connection) partner state
      ((connection.oneshot surroundings (routine.carryOut surroundings connection)).run partner
        state) := by
  rw [oneshot]
  cases hsession : connection.session surroundings with
  | error error => exact .unbuilt hsession
  | ok session =>
    have hconnect := Dialogue.ends_run partner session.connect state
    rcases hopening : session.connect.run partner state with
      ⟨⟨⟨result, begun⟩, login, warned⟩, opened⟩
    rw [hopening] at hconnect
    dsimp only
    rw [Session.within, Dialogue.run_bind, hopening]
    cases result with
    | error error =>
      have hrefused : connection.Oneshot surroundings (routine.carryOut surroundings connection)
          partner state (⟨.error error, login, warned⟩, opened) :=
        .refused hsession hopening rfl
      simpa only [Dialogue.pure_eq_done, Dialogue.run, List.append_nil] using hrefused
    | ok =>
      have hwork := Dialogue.ends_run partner (routine.carryOut surroundings connection begun) opened
      rcases hworking : (routine.carryOut surroundings connection begun).run partner opened with
        ⟨working, worked⟩
      rw [hworking] at hwork
      have hclose := Dialogue.ends_run partner working.result.2.disconnect worked
      rcases hclosing : working.result.2.disconnect.run partner worked with ⟨closing, after⟩
      rw [hclosing] at hclose
      obtain ⟨hclosed, hlogout⟩ := closing_of_ends hsession hconnect hwork hclose
      have hends := Oneshot.closed hsession hopening rfl hworking hclosing hclosed hlogout
      simpa only [Dialogue.run_bind, hworking, hclosing, Dialogue.pure_eq_done, Dialogue.run,
        List.append_nil] using hends

/-! ### The push command -/

/-- The session that a login has opened is closed by a logout, the only one and the last request. -/
def ClosesLast (exchanges : List Exchange) : Prop :=
  ∀ endpoint account login id, ⟨⟨endpoint, .login account⟩, login⟩ ∈ exchanges →
    login.Tells decodeSession id → ∃ before logout,
      exchanges = before ++ [⟨⟨endpoint, .call account id .logout⟩, logout⟩] ∧
        ∀ other ∈ before, other.request.message.action ≠ Call.logout.action

namespace Session

variable {session : Session} {id domain : String} {exchanges : List Exchange} {delta : Delta}

/-- All exchanges are calls within the session, and none of them is a logout. -/
def StaysIn (session : Session) (id : String) (exchanges : List Exchange) : Prop :=
  ∀ exchange ∈ exchanges, ∃ asked reply,
    exchange = session.exchange id asked reply ∧ asked.action ≠ Call.logout.action

theorem staysIn_nil : session.StaysIn id [] :=
  fun _ hmem => absurd hmem List.not_mem_nil

theorem staysIn_cons {asked : Call} {reply : Reply} (hasked : asked.action ≠ Call.logout.action)
    (hrest : session.StaysIn id exchanges) :
    session.StaysIn id (session.exchange id asked reply :: exchanges) :=
  List.forall_mem_cons.2 ⟨⟨asked, reply, rfl, hasked⟩, hrest⟩

theorem staysIn_flatMap {β : Type} {parts : List (List Exchange × β)}
    (hparts : ∀ part ∈ parts, session.StaysIn id part.1) :
    session.StaysIn id (parts.flatMap Prod.fst) := by
  intro exchange hmem
  obtain ⟨part, hpart, hmem⟩ := List.mem_flatMap.1 hmem
  exact hparts part hpart exchange hmem

theorem Fetches.staysIn {fetched : Except SyncError Zone}
    (hfetches : session.Fetches id domain exchanges fetched) : session.StaysIn id exchanges := by
  have hzone : (Call.zoneInfo domain).action ≠ Call.logout.action := by simp [Call.action]
  have hrecords : (Call.recordInfo domain).action ≠ Call.logout.action := by simp [Call.action]
  cases hfetches with
  | told => exact staysIn_cons hzone (staysIn_cons hrecords staysIn_nil)
  | withoutRecords => exact staysIn_cons hzone (staysIn_cons hrecords staysIn_nil)
  | withoutZone => exact staysIn_cons hzone staysIn_nil

theorem SendsRecords.staysIn {result : Except SyncError Unit}
    (hsends : session.SendsRecords id delta exchanges result) : session.StaysIn id exchanges := by
  have hrecords : (Call.updateRecords delta.domain delta.batch).action ≠ Call.logout.action := by
    simp [Call.action]
  cases hsends with
  | nothing => exact staysIn_nil
  | accepted => exact staysIn_cons hrecords staysIn_nil
  | refused => exact staysIn_cons hrecords staysIn_nil

theorem Sends.staysIn {result : Except SyncError Unit}
    (hsends : session.Sends id delta exchanges result) : session.StaysIn id exchanges := by
  have hzone : ∀ update, (Call.updateZone delta.domain update).action ≠ Call.logout.action := by
    simp [Call.action]
  cases hsends with
  | unchanged _ hrecords => exact hrecords.staysIn
  | accepted _ _ hrecords => exact staysIn_cons (hzone _) hrecords.staysIn
  | refused => exact staysIn_cons (hzone _) staysIn_nil

theorem Settles.staysIn {outcome : Outcome} {part : List Exchange × Outcome}
    (hsettles : session.Settles id outcome part) : session.StaysIn id part.1 := by
  cases hsettles with
  | nothing => exact staysIn_nil
  | accepted _ hsends => exact hsends.staysIn
  | refused _ hsends => exact hsends.staysIn

end Session

namespace Command

variable {session : Session} {id : String} {mode : PushMode}
  {answer : Option (Except FileFault Bool)} {layout : Layout} {exchanges : List Exchange}
  {report : Report} {options : Options} {sources : Sources} {commit yes : Bool}

/-- Every course ends with the logout of its session, and has no other. -/
theorem Course.exists_logout (hcourse : Course session id mode answer layout exchanges report) :
    ∃ before logout, exchanges = before ++ [session.exchange id .logout logout] ∧
      session.StaysIn id before := by
  have hread : ∀ {compared : List (List Exchange × Outcome)},
      List.Forall₂ (session.Compares id) layout.zones compared →
        session.StaysIn id (compared.flatMap Prod.fst) := by
    intro compared hcompared
    refine Session.staysIn_flatMap fun part hpart => ?_
    obtain ⟨desired, -, hcompares⟩ := exists_mem_of_forall₂ hcompared hpart
    obtain ⟨fetched, hfetches, -⟩ := hcompares.result
    exact hfetches.staysIn
  cases hcourse with
  | left hcompared => exact ⟨_, _, rfl, hread hcompared⟩
  | declined hcompared => exact ⟨_, _, rfl, hread hcompared⟩
  | unanswered hcompared => exact ⟨_, _, rfl, hread hcompared⟩
  | written hcompared _ _ hsettled =>
    refine ⟨_, _, rfl, List.forall_mem_append.2 ⟨hread hcompared, ?_⟩⟩
    refine Session.staysIn_flatMap fun part hpart => ?_
    obtain ⟨outcome, -, hsettles⟩ := exists_mem_of_forall₂ hsettled hpart
    exact hsettles.staysIn

theorem Pushing.closesLast
    (hpushing : Pushing surroundings options sources commit yes exchanges report) :
    ClosesLast exchanges := by
  intro endpoint account login id hmem htells
  cases hpushing with
  | @refused preferences session reply failure _ _ hfails =>
    obtain ⟨-, rfl⟩ : (endpoint = session.endpoint ∧ account = session.account) ∧ login = reply := by
      simpa [Session.opening] using hmem
    exact absurd htells (hfails id)
  | @opened preferences layout session reply told rest _ _ _ _ htold hcourse =>
    obtain ⟨before, logout, rfl, hstays⟩ := hcourse.exists_logout
    obtain ⟨⟨rfl, rfl⟩, rfl⟩ :
        (endpoint = session.endpoint ∧ account = session.account) ∧ login = reply := by
      rcases List.mem_cons.1 hmem with heq | hmem
      · simpa [Session.opening] using heq
      · -- All that comes after the first request are calls.
        have hcall : ∀ (session : Session) (asked : Call) (reply : Reply),
            (⟨⟨endpoint, .login account⟩, login⟩ : Exchange) ≠ session.exchange told asked reply := by
          simp [Session.exchange]
        rcases List.mem_append.1 hmem with hmem | hmem
        · obtain ⟨asked, other, heq, -⟩ := hstays _ hmem
          exact absurd heq (hcall _ _ _)
        · exact absurd (List.mem_singleton.1 hmem) (hcall _ _ _)
    obtain rfl := Session.tells_unique htold htells
    refine ⟨session.opening login :: before, logout, rfl, List.forall_mem_cons.2 ⟨?_, ?_⟩⟩
    · simp [Session.opening, Message.action, Call.action]
    · intro other hother
      obtain ⟨asked, reply, rfl, hasked⟩ := hstays other hother
      exact hasked
  | _ => exact absurd hmem List.not_mem_nil

/-- No session is left open, neither by work in a session of its own nor by the push command. -/
theorem run_closes (partner : σ → Request → Reply × σ) (state : σ) (surroundings : Surroundings) :
    (∀ (α : Type) (connection : Connection) (routine : Routine (Except SyncError α)),
      connection.Oneshot surroundings (routine.carryOut surroundings connection) partner state
        ((connection.oneshot surroundings (routine.carryOut surroundings connection)).run partner
          state)) ∧
      ∀ (options : Options) (sources : Sources) (commit yes : Bool), ClosesLast
        ((run surroundings ⟨options, .push sources commit yes⟩).run partner state).1.exchanges := by
  refine ⟨fun α connection routine => connection.run_oneshot surroundings routine partner state,
    fun options sources commit yes => ?_⟩
  have hends := Dialogue.ends_run partner (run surroundings ⟨options, .push sources commit yes⟩) state
  exact (pushing_of_run hends).closesLast

end Command

end

/-! ### Work that closes its session and opens another -/

namespace Sample

open Command

def connection : Connection :=
  ⟨closed.endpoint, closed.account, none, 30⟩

/-- The work fails in the session that it has opened last. -/
def reopening : Routine (Except SyncError Unit) :=
  .perform .disconnect fun _ => .perform .connect fun _ => .done (.error .timeout)

def reopened : Transcript (Except SyncError Unit) × List Reply :=
  (connection.oneshot surroundings (reopening.carryOut surroundings connection)).run Dialogue.script
    [loginAnswer, .timedOut, answer "\x7b\"apisessionid\":\"again\"\x7d", .timedOut]

/-- A push of the two domains that nobody confirms. -/
def unconfirmed : Transcript Report :=
  ((run stocked ⟨options, .push sources true false⟩).run (recorded stubborn) []).1

end Sample

namespace Command

open Sample

/-- The first logout is lost, the last one names the session that was opened last, and the push that
nobody confirms gives back its session. -/
theorem run_closes_reopened :
    reopened.1.result = .error .timeout ∧
      reopened.1.exchanges.map (fun exchange => exchange.request.message) =
        [.login closed.account, .call closed.account "session" .logout,
          .login closed.account, .call closed.account "again" .logout] ∧
        connection.Oneshot surroundings (reopening.carryOut surroundings connection)
          Dialogue.script
          [loginAnswer, .timedOut, answer "\x7b\"apisessionid\":\"again\"\x7d", .timedOut]
          reopened ∧
          unconfirmed.exchanges.map (fun exchange => exchange.request.message.action) =
            ["login", "infoDnsZone", "infoDnsRecords", "infoDnsZone", "infoDnsRecords", "logout"] ∧
            ClosesLast unconfirmed.exchanges := by
  have hwork := (run_closes Dialogue.script
    [loginAnswer, .timedOut, answer "\x7b\"apisessionid\":\"again\"\x7d", .timedOut]
    surroundings).1 Unit connection reopening
  have hpush := (run_closes (recorded stubborn) [] stocked).2 options sources true false
  refine ⟨by decide +kernel, by decide +kernel, ?_, by decide +kernel, ?_⟩
  · rw [reopened]
    exact hwork
  · rw [unconfirmed]
    exact hpush

end Command

end ZoneSync
