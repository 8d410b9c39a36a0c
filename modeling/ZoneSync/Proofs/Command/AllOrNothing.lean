import ZoneSync.Proofs.Command.Pull
import ZoneSync.Proofs.Provider.Faults
import ZoneSync.Proofs.Sync.Gathered

/-!
# A pull shows all or nothing

A pull shows a layout only if the login and both questions about every domain are answered with what
was asked for. The first reply that does not do so, and data that break the rules, end the pull:
nothing more is asked but that the session be closed, nothing is shown, and the exit code tells that
first failure. The reply to the logout comes after everything is settled.
-/

namespace ZoneSync

/-- The request closes no session. -/
def Request.Stays (request : Request) : Prop :=
  request.message.action ≠ "logout"

namespace Session

variable {session : Session} {id domain : String} {domains : List String}
  {exchanges : List Exchange} {zone : Zone} {zones : List Zone} {error : SyncError}

/-! ### One domain -/

/-- What is asked about a domain whose zone cannot be had, and the exit code for that. -/
inductive Loses (session : Session) (domain : String) : List Exchange → Nat → Prop
  | untold {id : String} {reply : Reply} {code : Nat} :
    session.id = some id → reply.Fails RemoteZone.decode → reply.Exits questionDenied code →
      Loses session domain [session.exchange id (.zoneInfo domain) reply] code
  | unlisted {id : String} {first second : Reply} {told : RemoteZone} {code : Nat} :
    session.id = some id → first.Tells RemoteZone.decode told →
      second.Fails RemoteRecord.decodeSet → second.Exits questionDenied code →
        Loses session domain
          [session.exchange id (.zoneInfo domain) first,
            session.exchange id (.recordInfo domain) second]
          code
  | unusable {id : String} {first second : Reply} {told : RemoteZone}
    {records : List RemoteRecord} {error : SyncError} :
    session.id = some id → first.Tells RemoteZone.decode told →
      second.Tells RemoteRecord.decodeSet records → told.toZone records = .error error →
        Loses session domain
          [session.exchange id (.zoneInfo domain) first,
            session.exchange id (.recordInfo domain) second]
          1

theorem ends_query_iff {α : Type} {asked : Call} {decode : Json → Except DecodeError α}
    {result : Except ApiError α} (hopen : session.id = some id)
    (hweb : session.endpoint.isWeb = true) :
    (session.query asked decode).Ends exchanges result ↔
      ∃ reply, exchanges = [session.exchange id asked reply] ∧
        result = read session.endpoint asked decode reply := by
  rw [query_eq_ask hopen hweb, Dialogue.ends_ask_iff]
  constructor
  · rintro ⟨reply, rest, rfl, hrest⟩
    obtain ⟨rfl, rfl⟩ := Dialogue.ends_done_iff.1 hrest
    exact ⟨reply, rfl, rfl⟩
  · rintro ⟨reply, rfl, rfl⟩
    exact ⟨reply, [], rfl, .done⟩

theorem fails_of_read {α : Type} {endpoint : Url} {asked : Call} {reply : Reply}
    {decode : Json → Except DecodeError α} {error : ApiError}
    (hread : read endpoint asked decode reply = .error error) : reply.Fails decode := by
  intro data htells
  exact absurd ((read_of_tells htells).symm.trans hread) nofun

theorem loses_of_ends (hopen : session.id = some id) (hweb : session.endpoint.isWeb = true)
    (hends : (session.fetchZone domain).Ends exchanges (.error error)) :
    session.Loses domain exchanges (Failure.ofSync error).exitCode := by
  obtain ⟨first, rest, told, rfl, hzone, hrest⟩ := Dialogue.ends_bind_iff.1 hends
  obtain ⟨reply, rfl, rfl⟩ := (ends_query_iff hopen hweb).1 hzone
  cases hfirst : read session.endpoint (.zoneInfo domain) RemoteZone.decode reply with
  | error fault =>
    rw [hfirst] at hrest
    obtain ⟨rfl, hsame⟩ := Dialogue.ends_done_iff.1 hrest
    obtain rfl := Except.error.inj hsame
    exact .untold hopen (fails_of_read hfirst) (exits_of_read hfirst domain)
  | ok told =>
    rw [hfirst] at hrest
    obtain ⟨second, last, listed, rfl, hlist, hlast⟩ := Dialogue.ends_bind_iff.1 hrest
    obtain ⟨other, rfl, rfl⟩ := (ends_query_iff hopen hweb).1 hlist
    have htold := read_eq_ok_iff.1 hfirst
    cases hsecond : read session.endpoint (.recordInfo domain) RemoteRecord.decodeSet other with
    | error fault =>
      rw [hsecond] at hlast
      obtain ⟨rfl, hsame⟩ := Dialogue.ends_done_iff.1 hlast
      obtain rfl := Except.error.inj hsame
      exact .unlisted hopen htold (fails_of_read hsecond) (exits_of_read hsecond domain)
    | ok records =>
      rw [hsecond] at hlast
      obtain ⟨rfl, hzone⟩ := Dialogue.ends_done_iff.1 hlast
      rw [RemoteZone.exitCode_of_toZone hzone.symm]
      exact .unusable hopen htold (read_eq_ok_iff.1 hsecond) hzone.symm

theorem ends_of_learns (hweb : session.endpoint.isWeb = true)
    (hlearns : session.Learns domain exchanges zone) :
    (session.fetchZone domain).Ends exchanges (.ok zone) := by
  obtain ⟨hopen, hfirst, hsecond, hzone⟩ := hlearns
  refine Dialogue.ends_bind_iff.2 ⟨[_], [_], _, rfl, (ends_query_iff hopen hweb).2
    ⟨_, rfl, (read_of_tells hfirst).symm⟩, ?_⟩
  refine Dialogue.ends_bind_iff.2 ⟨[_], [], _, rfl, (ends_query_iff hopen hweb).2
    ⟨_, rfl, (read_of_tells hsecond).symm⟩, ?_⟩
  exact Dialogue.ends_done_iff.2 ⟨rfl, hzone.symm⟩

theorem ends_of_gathers {layout : Layout} (hweb : session.endpoint.isWeb = true)
    (hgathers : session.Gathers domains exchanges zones) :
    (session.fetchInto layout domains).Ends exchanges (.ok (layout.insertAll zones)) := by
  induction hgathers generalizing layout with
  | nil => exact .done
  | cons hlearns _ ih =>
    exact Dialogue.ends_bind_iff.2 ⟨_, _, _, rfl, ends_of_learns hweb hlearns, ih⟩

/-! ### One session -/

/-- The login told an identifier, both questions about every domain were answered, and the zones are
those that the replies tell of. -/
def Completes (session : Session) (domains : List String) (exchanges : List Exchange)
    (zones : List Zone) : Prop :=
  ∃ login id asked logout, login.Tells decodeSession id ∧
    { session with id := some id }.Gathers domains asked zones ∧
      exchanges = session.opening login :: asked ++ [session.exchange id .logout logout]

/-- The first failure in a session, and its exit code: nothing can be sent, the login fails, or the
zone of a domain cannot be had after those above it could. Only then there is a session to close. -/
inductive Halts (session : Session) (domains : List String) : List Exchange → Nat → Prop
  | unsent : session.endpoint.isWeb = false → Halts session domains [] 1
  | refused {login : Reply} {code : Nat} :
    login.Fails decodeSession → login.Exits (fun _ => 3) code →
      Halts session domains [session.opening login] code
  | stopped {login logout : Reply} {id domain : String} {above below : List String}
    {asked last : List Exchange} {zones : List Zone} {code : Nat} :
    login.Tells decodeSession id → domains = above ++ domain :: below →
      { session with id := some id }.Gathers above asked zones →
        { session with id := some id }.Loses domain last code →
          Halts session domains
            (session.opening login :: (asked ++ last) ++ [session.exchange id .logout logout]) code

/-- An endpoint off the web is not asked. -/
theorem connect_eq_done (hoff : session.endpoint.isWeb = false) :
    session.connect = .done
      (.error (.ofApi (.transport ⟨session.endpoint.withoutUser.render, .notTheWeb⟩)), session) := by
  rw [connect, login, post, if_neg (by simp [hoff])]
  rfl

/-- One request opens the session, and its reply tells whether that went well. -/
theorem connect_eq_ask (hweb : session.endpoint.isWeb = true) :
    session.connect = .ask ⟨session.endpoint, .login session.account⟩ fun reply =>
      .done <| match (receive session.endpoint "login" reply).bind (admitted session.account) with
        | .ok id => (.ok (), { session with id := some id })
        | .error error => (.error (.ofApi error), session) := by
  rw [connect, login, post, if_pos hweb]
  refine congrArg (Dialogue.ask _) (funext fun reply => ?_)
  simp only [Dialogue.bind, Dialogue.pure_eq_done, Message.action]
  cases (receive session.endpoint "login" reply).bind (admitted session.account) <;> rfl

theorem ends_connect_cases {result : Except SyncError Unit × Session}
    (hweb : session.endpoint.isWeb = true) (hends : session.connect.Ends exchanges result) :
    ∃ login, exchanges = [session.opening login] ∧
      ((∃ id, login.Tells decodeSession id ∧
          result = (.ok (), { session with id := some id })) ∨
        login.Fails decodeSession ∧ ∃ error, result = (.error error, session) ∧
          login.Exits (fun _ => 3) (Failure.ofSync error).exitCode) := by
  rw [connect_eq_ask hweb] at hends
  obtain ⟨login, rest, rfl, hrest⟩ := Dialogue.ends_ask_iff.1 hends
  obtain ⟨rfl, rfl⟩ := Dialogue.ends_done_iff.1 hrest
  refine ⟨login, rfl, ?_⟩
  cases hadmitted : (receive session.endpoint "login" login).bind (admitted session.account) with
  | ok id => exact Or.inl ⟨id, admitted_eq_ok_iff.1 hadmitted, rfl⟩
  | error error =>
    refine Or.inr ⟨fun id htells => ?_, .ofApi error, rfl, exits_of_admitted hadmitted⟩
    exact absurd ((admitted_eq_ok_iff.2 htells).symm.trans hadmitted) nofun

theorem ends_connect_of_tells {login : Reply} (hweb : session.endpoint.isWeb = true)
    (htells : login.Tells decodeSession id) :
    session.connect.Ends [session.opening login] (.ok (), { session with id := some id }) := by
  rw [connect_eq_ask hweb]
  refine Dialogue.ends_ask_iff.2 ⟨login, [], rfl, Dialogue.ends_done_iff.2 ⟨rfl, ?_⟩⟩
  rw [admitted_eq_ok_iff.2 htells]

/-- Fetches a layout in a session of its own. -/
def pullLayout (session : Session) (domains : List String) : Dialogue (Except SyncError Layout) :=
  session.within fun session => do return (← session.fetchLayout domains, session)

theorem ends_pullLayout {result : Except SyncError Layout}
    (hends : (session.pullLayout domains).Ends exchanges result) :
    (∃ zones, session.Completes domains exchanges zones ∧ result = .ok (Layout.ofZones zones)) ∨
      ∃ error, result = .error error ∧
        session.Halts domains exchanges (Failure.ofSync error).exitCode := by
  rw [pullLayout, within] at hends
  cases hweb : session.endpoint.isWeb with
  | false =>
    rw [connect_eq_done hweb] at hends
    obtain ⟨rfl, rfl⟩ := Dialogue.ends_done_iff.1 hends
    exact Or.inr ⟨_, rfl, .unsent hweb⟩
  | true =>
    obtain ⟨first, rest, ⟨opened, after⟩, rfl, hconnect, hrest⟩ := Dialogue.ends_bind_iff.1 hends
    obtain ⟨login, rfl, ⟨id, htells, heq⟩ | ⟨hfails, error, heq, hexits⟩⟩ :=
      ends_connect_cases hweb hconnect
    · obtain ⟨rfl, rfl⟩ := Prod.mk.inj heq
      obtain ⟨asked, last, fetched, rfl, hwork, hlast⟩ := Dialogue.ends_bind_iff.1 hrest
      obtain ⟨fetching, returned, layout, rfl, hlayout, hreturned⟩ :=
        Dialogue.ends_bind_iff.1 hwork
      obtain ⟨rfl, rfl⟩ := Dialogue.ends_done_iff.1 hreturned
      obtain ⟨closing, ended, closed, rfl, hclose, hended⟩ := Dialogue.ends_bind_iff.1 hlast
      obtain ⟨rfl, rfl⟩ := Dialogue.ends_done_iff.1 hended
      obtain ⟨logout, rfl⟩ := @ends_disconnect { session with id := some id } id _ _ rfl hweb hclose
      simp only [List.append_nil]
      rcases gathers_of_ends hlayout with ⟨zones, hgathers, rfl⟩ |
        ⟨above, domain, below, asked, zones, lost, error, hdomains, hgathers, hlost, rfl, rfl⟩
      · exact Or.inl ⟨zones, ⟨login, id, fetching, logout, htells, hgathers, rfl⟩, rfl⟩
      · exact Or.inr ⟨error, rfl, .stopped htells hdomains hgathers (loses_of_ends rfl hweb hlost)⟩
    · obtain ⟨rfl, rfl⟩ := Prod.mk.inj heq
      obtain ⟨rfl, rfl⟩ := Dialogue.ends_done_iff.1 hrest
      exact Or.inr ⟨error, rfl, .refused hfails hexits⟩

/-- An open session is closed by one request, whatever comes back. -/
theorem exists_ends_disconnect (hopen : session.id = some id)
    (hweb : session.endpoint.isWeb = true) (logout : Reply) :
    ∃ after, session.disconnect.Ends [session.exchange id .logout logout] after := by
  have hcall : session.call .logout =
      .ask ⟨session.endpoint, .call session.account id .logout⟩ fun reply =>
        .done ((receive session.endpoint "logout" reply).bind (ensureSuccess "logout")) := by
    rw [call, hopen]
    simp only [post, hweb, if_true]
    rfl
  obtain ⟨result, hlogout⟩ :
      ∃ result, session.logout.Ends [session.exchange id .logout logout] result := by
    rw [Session.logout, hcall]
    exact ⟨_, Dialogue.ends_bind_iff.2 ⟨[_], [], _, rfl, .ask .done, .done⟩⟩
  obtain ⟨answer, closed⟩ := result
  cases answer with
  | ok => exact ⟨_, Dialogue.ends_bind_iff.2 ⟨_, [], _, (List.append_nil _).symm, hlogout, .done⟩⟩
  | error error =>
    exact ⟨_, Dialogue.ends_bind_iff.2
      ⟨_, [], _, (List.append_nil _).symm, hlogout, .warn .done⟩⟩

theorem result_of_completes {result : Except SyncError Layout}
    (hends : (session.pullLayout domains).Ends exchanges result)
    (hcompletes : session.Completes domains exchanges zones) :
    result = .ok (Layout.ofZones zones) := by
  obtain ⟨login, id, asked, logout, htells, hgathers, rfl⟩ := hcompletes
  cases hweb : session.endpoint.isWeb with
  | false =>
    rw [pullLayout, within, connect_eq_done hweb] at hends
    exact absurd (Dialogue.ends_done_iff.1 hends).1 nofun
  | true =>
    obtain ⟨closed, hclosed⟩ :=
      @exists_ends_disconnect { session with id := some id } id rfl hweb logout
    have hfetch : ({ session with id := some id }.fetchLayout domains).Ends asked
        (.ok (Layout.ofZones zones)) :=
      @ends_of_gathers { session with id := some id } _ _ _ _ hweb hgathers
    refine hends.unique (Dialogue.ends_bind_iff.2 ⟨[session.opening login], asked ++ [_], _, rfl,
      ends_connect_of_tells hweb htells, ?_⟩)
    refine Dialogue.ends_bind_iff.2 ⟨asked, [_], _, rfl,
      Dialogue.ends_bind_iff.2 ⟨asked, [], _, (List.append_nil _).symm, hfetch, .done⟩, ?_⟩
    exact Dialogue.ends_bind_iff.2 ⟨[_], [], _, rfl, hclosed, .done⟩

/-! ### The reply to the logout -/

theorem stays_connect : session.connect.Asks Request.Stays := by
  refine Dialogue.Asks.bind ?_ fun _ => trivial
  have hlogin : "login" ≠ "logout" := by decide
  refine Dialogue.Asks.bind (asks_post hlogin) fun answer => ?_
  split <;> trivial

theorem stays_fetchInto (session : Session) (layout : Layout) (domains : List String) :
    (session.fetchInto layout domains).Asks Request.Stays := by
  induction domains generalizing layout with
  | nil => trivial
  | cons domain rest ih =>
    refine Dialogue.Asks.bind ((session.asks_fetchZone domain).mono ?_) fun fetched => ?_
    · rintro request ⟨account, id, asked, hmessage, rfl | rfl⟩
      · rw [Request.Stays, hmessage]
        exact (by decide : "infoDnsZone" ≠ "logout")
      · rw [Request.Stays, hmessage]
        exact (by decide : "infoDnsRecords" ≠ "logout")
    · cases fetched with
      | error => trivial
      | ok zone => exact ih _

section

variable {σ : Type} {partner other : σ → Request → Reply × σ}

/-- The reply to the logout comes too late to change the result. -/
theorem run_pullLayout_congr
    (hagree : ∀ state request, request.Stays → other state request = partner state request)
    (state : σ) :
    ((session.pullLayout domains).run other state).1.result =
      ((session.pullLayout domains).run partner state).1.result := by
  rw [pullLayout, within, Dialogue.run_bind, Dialogue.run_bind, stays_connect.run_congr hagree]
  generalize session.connect.run partner state = told
  obtain ⟨⟨⟨opened, after⟩, _, _⟩, middle⟩ := told
  cases opened with
  | error error => rfl
  | ok =>
    have hwork : (after.fetchLayout domains >>= fun layout => pure (layout, after)).Asks
        Request.Stays := (stays_fetchInto after Layout.empty domains).bind fun _ => trivial
    simp only [Dialogue.run_bind _ (_ >>= _), hwork.run_congr hagree]
    generalize Dialogue.run partner _ middle = worked
    rw [Dialogue.run_bind, Dialogue.run_bind]
    rfl

end

end Session

/-- A zone that is told under a name to be seen stays one, or makes room for another. -/
theorem Layout.hasSight_ofZones {format : Format} {zones : List Zone}
    (hsight : format.HasSight zones) : format.HasSight (ofZones zones).zones := by
  refine hsight.imp_right ?_
  rintro ⟨zone, hzone, c, hc, hsolid⟩
  have hdomain : zone.domain ∈ (ofZones zones).domains := by
    rw [domains_ofZones]
    exact List.mem_eraseDups.2 (List.mem_map_of_mem hzone)
  obtain ⟨other, hother, hname⟩ := List.mem_map.1 hdomain
  exact ⟨other, hother, c, hname ▸ hc, hsolid⟩

namespace Command

variable {surroundings : Surroundings} {options : Options} {preferences : Preferences}
  {session : Session} {domains : List String} {sorted : Bool}

/-- What is reported of a fetch. -/
def reportFetched (options : Options) (preferences : Preferences) (sorted : Bool) :
    Except SyncError Layout → Report
  | .error error => .fail (.ofSync error)
  | .ok layout => .ofText options.quiet
    (layout.shown options.output (sorted || preferences.config.sortRecords))

theorem run_pull_eq (hload : Preferences.load surroundings options = .ok preferences)
    (hsession : preferences.session surroundings = .ok session) :
    run surroundings ⟨options, .pull domains sorted⟩ =
      session.pullLayout domains >>= fun fetched =>
        .done (reportFetched options preferences sorted fetched) := by
  rw [run, hload]
  change pull surroundings options preferences domains sorted = _
  rw [pull, hsession]
  refine bind_congr fun fetched => ?_
  cases fetched <;> rfl

theorem emit_ne_empty {text : String} (hne : text ≠ "") : emit false text ≠ "" := by
  rw [emit, Bool.false_or, if_neg (by simpa using hne)]
  simp

/-- A pull shows the layout of the zones that were told, if all of them were told, and nothing
otherwise: then the first failure ends it, and its exit code is that of the first failure. The reply
to the logout has no say in this. -/
theorem pull_all_or_nothing {σ : Type}
    (hload : Preferences.load surroundings options = .ok preferences)
    (hsession : preferences.session surroundings = .ok session) (hloud : options.quiet = false)
    (partner : σ → Request → Reply × σ) (state : σ) :
    let pulled := ((run surroundings ⟨options, .pull domains sorted⟩).run partner state).1
    (pulled.result.exitCode = 0 ↔ ∃ zones, session.Completes domains pulled.exchanges zones) ∧
      (∀ zones, session.Completes domains pulled.exchanges zones →
        pulled.result = .ofText false ((Layout.ofZones zones).shown options.output
          (sorted || preferences.config.sortRecords)) ∧
        (options.output.HasSight zones → pulled.result.output ≠ "")) ∧
      (pulled.result.exitCode ≠ 0 → pulled.result.output = "" ∧
        session.Halts domains pulled.exchanges pulled.result.exitCode) ∧
      ∀ other : σ → Request → Reply × σ,
        (∀ state request, request.Stays → other state request = partner state request) →
          ((run surroundings ⟨options, .pull domains sorted⟩).run other state).1.result =
            pulled.result := by
  have hrun : ∀ talker : σ → Request → Reply × σ,
      let fetched := ((session.pullLayout domains).run talker state).1
      ((run surroundings ⟨options, .pull domains sorted⟩).run talker state).1 =
        ⟨reportFetched options preferences sorted fetched.result, fetched.exchanges,
          fetched.warnings⟩ := by
    intro talker
    rw [run_pull_eq hload hsession, Dialogue.run_bind_done]
  intro pulled
  have hends := Dialogue.ends_run partner (session.pullLayout domains) state
  simp only [pulled, hrun]
  generalize hfetched : ((session.pullLayout domains).run partner state).1 = fetched at hends ⊢
  refine ⟨⟨fun hcode => ?_, ?_⟩, fun zones hcompletes => ?_, fun hcode => ?_,
    fun other hagree => ?_⟩
  · rcases Session.ends_pullLayout hends with ⟨zones, hcompletes, -⟩ | ⟨error, hresult, -⟩
    · exact ⟨zones, hcompletes⟩
    · rw [hresult] at hcode
      exact absurd hcode (Failure.exitCode_ne_zero _)
  · rintro ⟨zones, hcompletes⟩
    rw [Session.result_of_completes hends hcompletes]
    rfl
  · rw [Session.result_of_completes hends hcompletes, reportFetched, hloud]
    exact ⟨rfl, fun hsight =>
      emit_ne_empty (Layout.shown_ne_empty (Layout.hasSight_ofZones hsight) _)⟩
  · rcases Session.ends_pullLayout hends with ⟨zones, -, hresult⟩ | ⟨error, hresult, hhalts⟩
    · rw [hresult] at hcode
      exact absurd rfl hcode
    · rw [hresult]
      exact ⟨rfl, hhalts⟩
  · rw [Session.run_pullLayout_congr hagree, hfetched]

end Command

/-! ### A domain that is not managed -/

namespace Sample

open Command

def unmanaged : Reply :=
  .answered 200 "\x7b\"status\":\"error\",\"statuscode\":5029\x7d"

/-- The pull of two domains, the second of which the account does not manage. -/
def halted : Transcript Report :=
  (run surroundings ⟨options, .pull ["a.org", "b.org"] true⟩).replay
    [loginAnswer, zoneAnswer, repeated, unmanaged, .timedOut]

end Sample

namespace Command

open Sample

/-- One domain alone is shown, and nothing of it is shown if the other one fails. -/
theorem pull_all_or_nothing_unmanaged :
    pulled.result.exitCode = 0 ∧
      (∃ zones, closed.Completes ([hosted].map Hosted.name) pulled.exchanges zones) ∧
      halted.result.exitCode = 4 ∧ halted.result.output = "" ∧
      closed.Halts ["a.org", "b.org"] halted.exchanges halted.result.exitCode ∧
      halted.exchanges.map (fun exchange => exchange.request.message.action) =
        ["login", "infoDnsZone", "infoDnsRecords", "infoDnsZone", "logout"] := by
  have hload : Preferences.load surroundings options = .ok preferences := by decide +kernel
  have hsession : preferences.session surroundings = .ok closed := by decide +kernel
  have hpulled : pulled.result.exitCode = 0 := by decide +kernel
  obtain ⟨hhalted, hactions⟩ : halted.result.exitCode = 4 ∧
      halted.exchanges.map (fun exchange => exchange.request.message.action) =
        ["login", "infoDnsZone", "infoDnsRecords", "infoDnsZone", "logout"] := by
    decide +kernel
  have hfailed : halted.result.exitCode ≠ 0 := hhalted.trans_ne (by decide)
  refine ⟨hpulled, ?_, hhalted, ?_⟩
  · rw [pulled, Dialogue.replay] at hpulled ⊢
    exact (pull_all_or_nothing hload hsession rfl Dialogue.script _).1.1 hpulled
  · rw [← and_assoc]
    refine ⟨?_, hactions⟩
    rw [halted, Dialogue.replay] at hfailed ⊢
    exact (pull_all_or_nothing hload hsession rfl Dialogue.script _).2.2.1 hfailed

end Command

end ZoneSync
