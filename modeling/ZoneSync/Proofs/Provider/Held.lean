import Mathlib.Data.List.Forall2
import ZoneSync.Remote
import ZoneSync.Session

/-!
# The provider's side

For a domain the provider holds settings and records, and no two records under one identifier. An
update of the zone replaces the settings. An update of the records deletes those whose identifiers
are flagged, and stores all others under identifiers of its own choice.

A dialogue is judged by its exchanges: if each of them is a call that the provider has carried out
and a reply that tells of it, then the result of the dialogue and what the provider holds afterwards
are as its specification says. Specifications are composed along the dialogue.
-/

namespace ZoneSync

structure Held where
  zone : RemoteZone
  records : List RemoteRecord
  distinct : (records.map RemoteRecord.id).Nodup

/-- The zone that is fetched. -/
def Held.fetched (held : Held) : Except SyncError Zone :=
  held.zone.toZone held.records

/-! ### What calls do -/

structure RemoteZone.Holds (zone : RemoteZone) (settings : Settings) : Prop where
  ttl : zone.ttl = settings.ttl.toUInt64
  refresh : zone.refresh = settings.refresh.toUInt64
  retry : zone.retry = settings.retry.toUInt64
  expire : zone.expire = settings.expire.toUInt64
  dnssec : zone.dnssec = settings.dnssec

/-- The record is what the update says. Where that gives no priority the provider may put one. -/
structure RecordUpdate.IsStored (update : RecordUpdate) (record : RemoteRecord) : Prop where
  type : record.type = update.type
  hostname : record.hostname = update.hostname
  destination : record.destination = update.destination
  priority : ∀ priority, update.priority = some priority →
    record.priority = some priority.toUInt64
  deleted : record.deleted = false

/-- The identifiers that a batch flags for deletion. -/
def deletedIds (batch : List RecordUpdate) : List String :=
  (batch.filter RecordUpdate.delete).filterMap RecordUpdate.id

/-- What the provider may hold for the domain after it has carried out a call. -/
inductive Held.CarriesOut (domain : String) (held : Held) : Call → Held → Prop where
  | zoneInfo : held.CarriesOut domain (.zoneInfo domain) held
  | recordInfo : held.CarriesOut domain (.recordInfo domain) held
  | updateZone {update : ZoneUpdate} {after : Held} :
    after.zone.name = held.zone.name → after.zone.Holds update.settings →
      after.records = held.records → held.CarriesOut domain (.updateZone domain update) after
  | updateRecords {batch : List RecordUpdate} {stored : List RemoteRecord} {after : Held} :
    List.Forall₂ RecordUpdate.IsStored (batch.filter fun update => !update.delete) stored →
      after.records.Perm
        (held.records.filter (fun record => record.id ∉ deletedIds batch) ++ stored) →
        after.zone = held.zone → held.CarriesOut domain (.updateRecords domain batch) after

/-! ### What replies tell -/

/-- The reply is an answer of success with these data. -/
def Reply.Tells {α : Type} (reply : Reply) (decode : Json → Except DecodeError α) (data : α) :
    Prop :=
  ∃ status body envelope, reply = .answered status body ∧ isSuccess status = true ∧
    isBodiless status = false ∧ Envelope.parse? body = some envelope ∧
      envelope.succeeded = true ∧ decode envelope.data = .ok data

/-- The reply accepts the call, from what the provider holds after it. -/
def Held.Accepts (held : Held) : Call → Reply → Prop
  | .logout, _ => False
  | .zoneInfo _, reply => reply.Tells RemoteZone.decode held.zone
  | .recordInfo _, reply => reply.Tells RemoteRecord.decodeSet held.records
  | .updateZone _ _, reply => ∃ told, reply.Tells RemoteZone.decode told
  | .updateRecords _ _, reply => ∃ told, reply.Tells RemoteRecord.decodeSet told

/-- All requests are calls about the domain, and each of them is carried out and accepted. -/
inductive Serves (domain : String) : Held → List Exchange → Held → Prop where
  | nil {held : Held} : Serves domain held [] held
  | cons {held middle after : Held} {endpoint : Url} {account : Account} {id : String}
    {asked : Call} {reply : Reply} {rest : List Exchange} :
    held.CarriesOut domain asked middle → middle.Accepts asked reply →
      Serves domain middle rest after →
        Serves domain held (⟨⟨endpoint, .call account id asked⟩, reply⟩ :: rest) after

/-- Whether the exchange asks for a change. -/
def Exchange.isWrite (exchange : Exchange) : Bool :=
  match exchange.request.message with
  | .login _ => false
  | .call _ _ asked => asked.isWrite

variable {domain : String} {held after : Held} {α β : Type}

theorem serves_append {exchanges others : List Exchange} :
    Serves domain held (exchanges ++ others) after ↔
      ∃ middle, Serves domain held exchanges middle ∧ Serves domain middle others after := by
  constructor
  · intro hserves
    induction exchanges generalizing held with
    | nil => exact ⟨held, .nil, hserves⟩
    | cons exchange rest ih =>
      cases hserves with
      | cons hcarried haccepted hrest =>
        obtain ⟨middle, hfirst, hothers⟩ := ih hrest
        exact ⟨middle, .cons hcarried haccepted hfirst, hothers⟩
  · rintro ⟨middle, hfirst, hothers⟩
    induction hfirst with
    | nil => exact hothers
    | cons hcarried haccepted _ ih => exact .cons hcarried haccepted (ih hothers)

/-! ### Specifications -/

/-- However the dialogue runs, if all its requests are accepted, the result, the exchanges and what
the provider holds afterwards are as specified. -/
structure Ensures (domain : String) (held : Held) (dialogue : Dialogue α)
    (post : α → List Exchange → Held → Prop) : Prop where
  run : ∀ (σ : Type) (partner : σ → Request → Reply × σ) (state : σ) (after : Held),
    Serves domain held (dialogue.run partner state).1.exchanges after →
      post (dialogue.run partner state).1.result (dialogue.run partner state).1.exchanges after

variable {dialogue : Dialogue α} {f : α → Dialogue β} {post mid : α → List Exchange → Held → Prop}

theorem ensures_done {result : α} (hpost : post result [] held) :
    Ensures domain held (.done result) post := by
  constructor
  intro σ partner state after hserves
  cases hserves with
  | nil => exact hpost

theorem Ensures.bind {goal : β → List Exchange → Held → Prop}
    (hfirst : Ensures domain held dialogue mid)
    (hrest : ∀ result exchanges middle, mid result exchanges middle →
      Ensures domain middle (f result) fun last others after =>
        goal last (exchanges ++ others) after) :
    Ensures domain held (dialogue >>= f) goal := by
  constructor
  intro σ partner state after hserves
  rw [Dialogue.run_bind] at hserves ⊢
  obtain ⟨middle, hserved, hserves⟩ := serves_append.1 hserves
  have hmid := hfirst.run σ partner state middle hserved
  exact (hrest _ _ middle hmid).run σ partner _ after hserves

namespace Session

variable {session : Session} {asked : Call} {decode : Json → Except DecodeError α}

/-- What a call returns, as a function of the reply. -/
def read (endpoint : Url) (asked : Call) (decode : Json → Except DecodeError α) (reply : Reply) :
    Except ApiError α :=
  ((receive endpoint asked.action reply).bind (ensureSuccess asked.action)).bind
    (decodeData decode asked.action)

theorem read_of_tells {endpoint : Url} {reply : Reply} {data : α}
    (htells : reply.Tells decode data) : read endpoint asked decode reply = .ok data := by
  obtain ⟨status, body, envelope, rfl, hsuccess, hbody, hparse, hsucceeded, hdecode⟩ := htells
  have hreceive : receive endpoint asked.action (.answered status body) = .ok envelope := by
    simp only [receive, Reply.text, hsuccess, hbody, bind, Except.bind, readEnvelope, hparse,
      Bool.not_true, Bool.false_eq_true, if_false]
  rw [read, hreceive]
  show (ensureSuccess asked.action envelope).bind _ = _
  rw [ensureSuccess, if_pos hsucceeded]
  show decodeData decode asked.action envelope = _
  rw [decodeData, hdecode]

/-- A session that is open and can reach its endpoint sends one request for each call. -/
theorem query_eq_ask {id : String} (hopen : session.id = some id)
    (hweb : session.endpoint.isWeb = true) :
    session.query asked decode =
      .ask ⟨session.endpoint, .call session.account id asked⟩ fun reply =>
        .done (read session.endpoint asked decode reply) := by
  rw [query, call, hopen]
  simp only [post, hweb, if_true]
  rfl

theorem ensures_query {goal : Except ApiError α → List Exchange → Held → Prop} {id : String}
    (hopen : session.id = some id) (hweb : session.endpoint.isWeb = true)
    (hgoal : ∀ reply middle, held.CarriesOut domain asked middle → middle.Accepts asked reply →
      goal (read session.endpoint asked decode reply)
        [⟨⟨session.endpoint, .call session.account id asked⟩, reply⟩] middle) :
    Ensures domain held (session.query asked decode) goal := by
  constructor
  intro σ partner state after hserves
  rw [query_eq_ask hopen hweb] at hserves ⊢
  cases hserves with
  | cons hcarried haccepted hrest =>
    cases hrest with
    | nil => exact hgoal _ _ hcarried haccepted

end Session

end ZoneSync
