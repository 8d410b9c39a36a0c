import ZoneSync.Proofs.Provider.Calls
import ZoneSync.Proofs.Sync.Push

/-!
# What a synchronisation sends

For each function that talks to the provider a relation says which exchanges it makes and how it ends
for them. Fetching asks for the zone and, if it was told one, for the records. Writing a change sends
the settings if they differ, and the records if there are any to write and the settings were
accepted. Nothing else is sent, and each request is sent once.
-/

namespace ZoneSync

variable {session : Session} {id domain : String} {exchanges : List Exchange}

namespace Session

/-! ### Reading -/

/-- The exchanges that fetch the zone of a domain, and what they come to. -/
inductive Fetches (session : Session) (id domain : String) :
    List Exchange → Except SyncError Zone → Prop
  | told {first second : Reply} {zone : RemoteZone} {records : List RemoteRecord} :
    first.Tells RemoteZone.decode zone → second.Tells RemoteRecord.decodeSet records →
      Fetches session id domain
        [session.exchange id (.zoneInfo domain) first,
          session.exchange id (.recordInfo domain) second]
        (zone.toZone records)
  | withoutRecords {first second : Reply} {zone : RemoteZone} {error : SyncError} :
    first.Tells RemoteZone.decode zone → second.Fails RemoteRecord.decodeSet →
      Fetches session id domain
        [session.exchange id (.zoneInfo domain) first,
          session.exchange id (.recordInfo domain) second]
        (.error error)
  | withoutZone {first : Reply} {error : SyncError} :
    first.Fails RemoteZone.decode →
      Fetches session id domain [session.exchange id (.zoneInfo domain) first] (.error error)

theorem ends_fetchZone {result : Except SyncError Zone} (hopen : session.id = some id)
    (hweb : session.endpoint.isWeb = true) (hends : (session.fetchZone domain).Ends exchanges result) :
    session.Fetches id domain exchanges result := by
  obtain ⟨first, rest, told, rfl, hzone, hrest⟩ := Dialogue.ends_bind_iff.1 hends
  obtain ⟨reply, rfl, ⟨zone, htells, rfl⟩ | ⟨hfails, error, rfl⟩⟩ := ends_query hopen hweb hzone
  · obtain ⟨second, rest, told, rfl, hlist, hrest⟩ := Dialogue.ends_bind_iff.1 hrest
    obtain ⟨other, rfl, ⟨records, hrecords, rfl⟩ | ⟨hfails, error, rfl⟩⟩ :=
      ends_query hopen hweb hlist
    · obtain ⟨rfl, rfl⟩ := Dialogue.ends_done_iff.1 hrest
      exact .told htells hrecords
    · obtain ⟨rfl, rfl⟩ := Dialogue.ends_done_iff.1 hrest
      exact .withoutRecords htells hfails
  · obtain ⟨rfl, rfl⟩ := Dialogue.ends_done_iff.1 hrest
    exact .withoutZone hfails

/-- Fetching is no write. -/
theorem Fetches.readOnly {fetched : Except SyncError Zone}
    (hfetches : session.Fetches id domain exchanges fetched) : ReadOnly exchanges := by
  cases hfetches <;> simp [ReadOnly, exchange, Exchange.isWrite, Call.isWrite]

/-! ### Writing -/

/-- The exchanges that write the records of a change, and how that ends. -/
inductive SendsRecords (session : Session) (id : String) (delta : Delta) :
    List Exchange → Except SyncError Unit → Prop
  | nothing : delta.batch = [] → SendsRecords session id delta [] (.ok ())
  | accepted {reply : Reply} {told : List RemoteRecord} :
    delta.batch ≠ [] → reply.Tells RemoteRecord.decodeSet told →
      SendsRecords session id delta
        [session.exchange id (.updateRecords delta.domain delta.batch) reply] (.ok ())
  | refused {reply : Reply} {error : SyncError} :
    delta.batch ≠ [] → reply.Fails RemoteRecord.decodeSet →
      SendsRecords session id delta
        [session.exchange id (.updateRecords delta.domain delta.batch) reply] (.error error)

/-- The exchanges that write a change, and how that ends. -/
inductive Sends (session : Session) (id : String) (delta : Delta) :
    List Exchange → Except SyncError Unit → Prop
  | unchanged {exchanges : List Exchange} {result : Except SyncError Unit} :
    delta.settings = none → SendsRecords session id delta exchanges result →
      Sends session id delta exchanges result
  | accepted {change : SettingsChange} {reply : Reply} {told : RemoteZone}
    {exchanges : List Exchange} {result : Except SyncError Unit} :
    delta.settings = some change → reply.Tells RemoteZone.decode told →
      SendsRecords session id delta exchanges result →
        Sends session id delta
          (session.exchange id (.updateZone delta.domain ⟨delta.domain, change.new⟩) reply ::
            exchanges)
          result
  | refused {change : SettingsChange} {reply : Reply} {error : SyncError} :
    delta.settings = some change → reply.Fails RemoteZone.decode →
      Sends session id delta
        [session.exchange id (.updateZone delta.domain ⟨delta.domain, change.new⟩) reply]
        (.error error)

variable {delta : Delta}

theorem ends_applyRecords {result : Except ApiError Unit} (hopen : session.id = some id)
    (hweb : session.endpoint.isWeb = true)
    (hends : (session.applyRecords delta).Ends exchanges result) :
    session.SendsRecords id delta exchanges (result.mapError SyncError.ofApi) := by
  rw [applyRecords] at hends
  split at hends
  · next hempty =>
    obtain ⟨rfl, rfl⟩ := Dialogue.ends_done_iff.1 hends
    exact .nothing (List.isEmpty_iff.1 hempty)
  · next hbatch =>
    have hnonempty : delta.batch ≠ [] := fun hnil => hbatch (List.isEmpty_iff.2 hnil)
    obtain ⟨first, rest, answer, rfl, hupdate, hrest⟩ := Dialogue.ends_bind_iff.1 hends
    obtain ⟨rfl, rfl⟩ := Dialogue.ends_done_iff.1 hrest
    obtain ⟨reply, rfl, ⟨told, htells, rfl⟩ | ⟨hfails, error, rfl⟩⟩ := ends_query hopen hweb hupdate
    · exact .accepted hnonempty htells
    · exact .refused hnonempty hfails

theorem ends_applyDelta {result : Except SyncError Unit} (hopen : session.id = some id)
    (hweb : session.endpoint.isWeb = true)
    (hends : (session.applyDelta delta).Ends exchanges result) :
    session.Sends id delta exchanges result := by
  obtain ⟨first, rest, answer, rfl, hsettings, hrest⟩ := Dialogue.ends_bind_iff.1 hends
  rw [applySettings] at hsettings
  cases hchange : delta.settings with
  | none =>
    rw [Delta.zoneUpdate?, hchange] at hsettings
    obtain ⟨rfl, rfl⟩ := Dialogue.ends_done_iff.1 hsettings
    obtain ⟨records, last, answer, rfl, hrecords, hlast⟩ := Dialogue.ends_bind_iff.1 hrest
    obtain ⟨rfl, rfl⟩ := Dialogue.ends_done_iff.1 hlast
    have hsends := Sends.unchanged hchange (ends_applyRecords hopen hweb hrecords)
    simpa using hsends
  | some change =>
    rw [Delta.zoneUpdate?, hchange] at hsettings
    obtain ⟨sent, last, answer, rfl, hupdate, hlast⟩ := Dialogue.ends_bind_iff.1 hsettings
    obtain ⟨rfl, rfl⟩ := Dialogue.ends_done_iff.1 hlast
    obtain ⟨reply, rfl, ⟨told, htells, rfl⟩ | ⟨hfails, error, rfl⟩⟩ := ends_query hopen hweb hupdate
    · obtain ⟨records, last, answer, rfl, hrecords, hlast⟩ := Dialogue.ends_bind_iff.1 hrest
      obtain ⟨rfl, rfl⟩ := Dialogue.ends_done_iff.1 hlast
      have hsends := Sends.accepted hchange htells (ends_applyRecords hopen hweb hrecords)
      simpa using hsends
    · obtain ⟨rfl, rfl⟩ := Dialogue.ends_done_iff.1 hrest
      exact .refused hchange hfails

/-- A change of nothing is written by no request. -/
theorem Sends.eq_nil_of_isNoop {result : Except SyncError Unit}
    (hsends : session.Sends id delta exchanges result) (hnoop : delta.isNoop = true) :
    exchanges = [] ∧ result = .ok () := by
  obtain ⟨hupdate, hbatch⟩ := nothing_of_isNoop hnoop
  have hsettings : delta.settings = none := Option.map_eq_none_iff.1 hupdate
  have hrecords : ∀ {sent : List Exchange} {ended : Except SyncError Unit},
      session.SendsRecords id delta sent ended → sent = [] ∧ ended = .ok () := by
    rintro _ _ (_ | ⟨hnonempty, _⟩ | ⟨hnonempty, _⟩)
    · exact ⟨rfl, rfl⟩
    · exact absurd hbatch hnonempty
    · exact absurd hbatch hnonempty
  cases hsends with
  | unchanged _ hsent => exact hrecords hsent
  | accepted hchange => exact absurd (hsettings.symm.trans hchange) (by simp)
  | refused hchange => exact absurd (hsettings.symm.trans hchange) (by simp)

/-! ### Pushing one zone -/

/-- The exchanges that push a zone, and how that ends: what was fetched is compared with the zone,
and if so wanted the difference is written. -/
inductive Pushes (session : Session) (id : String) (desired : Zone) (commit : Bool) :
    List Exchange → Except SyncError Delta → Prop
  | unfetched {exchanges : List Exchange} {error : SyncError} :
    session.Fetches id desired.domain exchanges (.error error) →
      Pushes session id desired commit exchanges (.error error)
  | compared {exchanges : List Exchange} {current : Zone} :
    session.Fetches id desired.domain exchanges (.ok current) → commit = false →
      Pushes session id desired commit exchanges (.ok (reconcile current desired))
  | written {exchanges others : List Exchange} {current : Zone} {result : Except SyncError Unit} :
    session.Fetches id desired.domain exchanges (.ok current) → commit = true →
      session.Sends id (reconcile current desired) others result →
        Pushes session id desired commit (exchanges ++ others)
          (result.map fun _ => reconcile current desired)

theorem ends_pushZone {desired : Zone} {commit : Bool} {result : Except SyncError Delta}
    (hopen : session.id = some id) (hweb : session.endpoint.isWeb = true)
    (hends : (session.pushZone desired commit).Ends exchanges result) :
    session.Pushes id desired commit exchanges result := by
  obtain ⟨first, rest, fetched, rfl, hfetch, hrest⟩ := Dialogue.ends_bind_iff.1 hends
  have hfetches := ends_fetchZone hopen hweb hfetch
  cases fetched with
  | error error =>
    obtain ⟨rfl, rfl⟩ := Dialogue.ends_done_iff.1 hrest
    rw [List.append_nil]
    exact .unfetched hfetches
  | ok current =>
    cases commit with
    | false =>
      obtain ⟨rfl, rfl⟩ := Dialogue.ends_done_iff.1 hrest
      rw [List.append_nil]
      exact .compared hfetches rfl
    | true =>
      obtain ⟨sent, last, answer, rfl, happly, hlast⟩ := Dialogue.ends_bind_iff.1 hrest
      have hsends := ends_applyDelta hopen hweb happly
      cases answer with
      | ok =>
        obtain ⟨rfl, rfl⟩ := Dialogue.ends_done_iff.1 hlast
        rw [List.append_nil]
        exact .written hfetches rfl hsends
      | error error =>
        obtain ⟨rfl, rfl⟩ := Dialogue.ends_done_iff.1 hlast
        rw [List.append_nil]
        exact .written hfetches rfl hsends

/-- A push that cannot send fails. -/
theorem ends_pushZone_unsent {desired : Zone} {commit : Bool} {result : Except SyncError Delta}
    (hclosed : session.id = none ∨ session.endpoint.isWeb = false)
    (hends : (session.pushZone desired commit).Ends exchanges result) :
    exchanges = [] ∧ ∃ error, result = .error error := by
  obtain ⟨first, rest, fetched, rfl, hfetch, hrest⟩ := Dialogue.ends_bind_iff.1 hends
  obtain ⟨asked, others, told, rfl, hzone, hothers⟩ := Dialogue.ends_bind_iff.1 hfetch
  obtain ⟨rfl, error, rfl⟩ := ends_query_unsent hclosed hzone
  obtain ⟨rfl, rfl⟩ := Dialogue.ends_done_iff.1 hothers
  obtain ⟨rfl, rfl⟩ := Dialogue.ends_done_iff.1 hrest
  exact ⟨rfl, _, rfl⟩

theorem ends_pushOutcome {desired : Zone} {commit : Bool} {outcome : Outcome}
    (hopen : session.id = some id) (hweb : session.endpoint.isWeb = true)
    (hends : (session.pushOutcome commit desired).Ends exchanges outcome) :
    outcome.domain = desired.domain ∧
      session.Pushes id desired commit exchanges outcome.result := by
  obtain ⟨first, rest, result, rfl, hpush, hrest⟩ := Dialogue.ends_bind_iff.1 hends
  have hpushes := ends_pushZone hopen hweb hpush
  cases result with
  | ok delta =>
    obtain ⟨rfl, rfl⟩ := Dialogue.ends_done_iff.1 hrest
    rw [List.append_nil]
    exact ⟨rfl, hpushes⟩
  | error error =>
    obtain ⟨rfl, rfl⟩ := Dialogue.ends_done_iff.1 (Dialogue.ends_warn_iff.1 hrest)
    rw [List.append_nil]
    exact ⟨rfl, hpushes⟩

/-! ### Opening and closing -/

/-- The exchanges that open a session, and what they come to. -/
inductive Connects (session : Session) :
    List Exchange → Except SyncError Unit × Session → Prop
  | unreachable {error : SyncError} {after : Session} :
    session.endpoint.isWeb = false → Connects session [] (.error error, after)
  | refused {login : Reply} {error : SyncError} {after : Session} :
    login.Fails decodeSession → Connects session [session.opening login] (.error error, after)
  | opened {login : Reply} {id : String} :
    session.endpoint.isWeb = true → login.Tells decodeSession id →
      Connects session [session.opening login] (.ok (), { session with id := some id })

theorem ends_connect {result : Except SyncError Unit × Session}
    (hends : session.connect.Ends exchanges result) : session.Connects exchanges result := by
  obtain ⟨first, rest, ⟨answer, after⟩, rfl, hlogin, hrest⟩ := Dialogue.ends_bind_iff.1 hends
  obtain ⟨rfl, rfl⟩ := Dialogue.ends_done_iff.1 hrest
  rw [List.append_nil]
  rcases ends_login hlogin with
    ⟨hweb, rfl, error, heq⟩ | ⟨hweb, login, rfl, ⟨id, htells, heq⟩ | ⟨hfails, error, heq⟩⟩
  · obtain ⟨rfl, rfl⟩ := Prod.mk.inj heq
    exact .unreachable hweb
  · obtain ⟨rfl, rfl⟩ := Prod.mk.inj heq
    exact .opened hweb htells
  · obtain ⟨rfl, rfl⟩ := Prod.mk.inj heq
    exact .refused hfails

theorem ends_disconnect {after : Session} (hopen : session.id = some id)
    (hweb : session.endpoint.isWeb = true) (hends : session.disconnect.Ends exchanges after) :
    ∃ reply, exchanges = [session.exchange id .logout reply] := by
  obtain ⟨first, rest, ⟨result, closed⟩, rfl, hlogout, hrest⟩ := Dialogue.ends_bind_iff.1 hends
  obtain ⟨reply, rfl⟩ := ends_logout hopen hweb hlogout
  cases result with
  | ok =>
    obtain ⟨rfl, -⟩ := Dialogue.ends_done_iff.1 hrest
    exact ⟨reply, rfl⟩
  | error error =>
    obtain ⟨rfl, -⟩ := Dialogue.ends_done_iff.1 (Dialogue.ends_warn_iff.1 hrest)
    exact ⟨reply, rfl⟩

end Session

end ZoneSync
