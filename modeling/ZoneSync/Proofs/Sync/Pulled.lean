import ZoneSync.Proofs.Layout.Sameness
import ZoneSync.Proofs.Sync.Convergence
import ZoneSync.Proofs.Sync.Exchanges

/-!
# What is fetched and written as a layout

A provider that hosts some domains tells of them what it holds, under whatever identifiers and with
repetitions. Fetching them gives their zones in order. Written as layout text and read back, a zone
has the settings and the contents that were fetched, so the next comparison finds no difference.
-/

namespace ZoneSync

open Record (content listed)

/-- What the provider holds for a domain. Identifiers may be anything. -/
structure Hosted where
  zone : RemoteZone
  records : List RemoteRecord

namespace Hosted

def name (hosted : Hosted) : String :=
  hosted.zone.name

def fetched (hosted : Hosted) : Except SyncError Zone :=
  hosted.zone.toZone hosted.records

/-- The name can stand in a line of its own. -/
structure IsNamed (hosted : Hosted) : Prop where
  nonempty : hosted.name ≠ ""
  solid : Text.IsSolid hosted.name.toList
  unmarked : hosted.name.toList.head? ≠ some '.'
  uncommented : hosted.name.toList.head? ≠ some '#'

end Hosted

/-- Logins are told a session, and questions about a domain are told what is held for it. -/
def Exchange.IsToldOf (hosts : List Hosted) (exchange : Exchange) : Prop :=
  match exchange.request.message with
  | .login _ => ∃ id, exchange.reply.Tells decodeSession id
  | .call _ _ (.zoneInfo domain) =>
    ∀ hosted ∈ hosts, hosted.name = domain → exchange.reply.Tells RemoteZone.decode hosted.zone
  | .call _ _ (.recordInfo domain) =>
    ∀ hosted ∈ hosts, hosted.name = domain →
      exchange.reply.Tells RemoteRecord.decodeSet hosted.records
  | .call _ _ _ => True

variable {hosts : List Hosted} {hosted : Hosted} {zone current : Zone} {session : Session}
  {id : String} {exchanges : List Exchange}

/-! ### Fetching -/

theorem Session.Fetches.eq_fetched {domain : String} {result : Except SyncError Zone}
    (hfetches : session.Fetches id domain exchanges result) (hhosted : hosted ∈ hosts)
    (hname : hosted.name = domain) (htold : ∀ exchange ∈ exchanges, exchange.IsToldOf hosts) :
    result = hosted.fetched := by
  cases hfetches with
  | told hzone hrecords =>
    have hfirst := htold _ List.mem_cons_self hosted hhosted hname
    have hsecond := htold _ (List.mem_cons_of_mem _ List.mem_cons_self) hosted hhosted hname
    rw [Session.tells_unique hzone hfirst, Session.tells_unique hrecords hsecond]
    rfl
  | withoutRecords _ hfails =>
    have hsecond := htold _ (List.mem_cons_of_mem _ List.mem_cons_self) hosted hhosted hname
    exact absurd hsecond (hfails _)
  | withoutZone hfails =>
    have hfirst := htold _ List.mem_cons_self hosted hhosted hname
    exact absurd hfirst (hfails _)

/-- Domains are fetched one after the other. -/
theorem ends_fetchInto {layout : Layout} {asked : List Hosted} {zones : List Zone}
    {result : Except SyncError Layout} (hopen : session.id = some id)
    (hweb : session.endpoint.isWeb = true) (hasked : ∀ hosted ∈ asked, hosted ∈ hosts)
    (hfetched : List.Forall₂ (fun hosted zone => hosted.fetched = .ok zone) asked zones)
    (hends : (session.fetchInto layout (asked.map Hosted.name)).Ends exchanges result)
    (htold : ∀ exchange ∈ exchanges, exchange.IsToldOf hosts) :
    result = .ok (layout.insertAll zones) := by
  induction hfetched generalizing layout exchanges with
  | nil => exact (Dialogue.ends_done_iff.1 hends).2
  | @cons hosted zone asked zones hzone _ ih =>
    obtain ⟨first, rest, fetched, rfl, hfetch, hrest⟩ := Dialogue.ends_bind_iff.1 hends
    have hresult := (Session.ends_fetchZone hopen hweb hfetch).eq_fetched
      (hasked hosted List.mem_cons_self) rfl
      fun exchange hexchange => htold exchange (List.mem_append_left _ hexchange)
    rw [hresult, hzone] at hrest
    exact ih (fun hosted hhosted => hasked hosted (List.mem_cons_of_mem _ hhosted)) hrest
      fun exchange hexchange => htold exchange (List.mem_append_right _ hexchange)

/-! ### Zones as they are read back -/

theorem Hosted.domain_of_fetched (hfetched : hosted.fetched = .ok zone) :
    zone.domain = hosted.name :=
  (RemoteZone.toZone_eq_ok_iff.1 hfetched).2.2.1

/-- A zone that was fetched can be written. -/
theorem Hosted.isPrintable_of_fetched (hnamed : hosted.IsNamed)
    (hfetched : hosted.fetched = .ok zone) : zone.IsPrintable := by
  have hdomain := domain_of_fetched hfetched
  have hpositive :=
    RemoteZone.positive_of_checkSettings (RemoteZone.toZone_eq_ok_iff.1 hfetched).1
  refine ⟨?_, ?_, ?_, ?_, hpositive⟩
  all_goals rw [hdomain]
  · exact hnamed.nonempty
  · exact hnamed.solid
  · exact hnamed.unmarked
  · exact hnamed.uncommented

/-- What was written and read back differs in nothing that is compared. -/
theorem isNoop_reread (sorted : Bool) (zone : Zone) :
    (reconcile zone (Layout.draftOf sorted zone).zone).isNoop = true := by
  refine (isNoop_reconcile_iff _ _).2 ⟨rfl, ?_⟩
  rw [Layout.entries_draftOf, ← contents_listed sorted, contents, contents, Record.content_bare]

/-- The provider holds what the layout declares for a domain. -/
structure Hosted.Meets (hosted : Hosted) (desired : Zone) : Prop where
  name : hosted.name = desired.domain
  noop : ∃ current, hosted.fetched = .ok current ∧ (reconcile current desired).isNoop = true

/-! ### Pushing -/

/-- A push of what is held finds nothing to do and only asks. -/
theorem Session.Pushes.of_meets {desired : Zone} {commit : Bool} {result : Except SyncError Delta}
    (hpushes : session.Pushes id desired commit exchanges result) (hhosted : hosted ∈ hosts)
    (hmeets : hosted.Meets desired) (htold : ∀ exchange ∈ exchanges, exchange.IsToldOf hosts) :
    (∃ delta, result = .ok delta ∧ delta.isNoop = true) ∧ ReadOnly exchanges := by
  obtain ⟨hname, current, hfetched, hnoop⟩ := hmeets
  cases hpushes with
  | unfetched hfetches =>
    have herror := hfetches.eq_fetched hhosted hname htold
    exact absurd (herror.trans hfetched) (by simp)
  | compared hfetches =>
    have heq := hfetches.eq_fetched hhosted hname htold
    obtain rfl := Except.ok.inj (heq.trans hfetched)
    exact ⟨⟨_, rfl, hnoop⟩, hfetches.readOnly⟩
  | written hfetches _ hsends =>
    have heq := hfetches.eq_fetched hhosted hname fun exchange hexchange =>
      htold exchange (List.mem_append_left _ hexchange)
    obtain rfl := Except.ok.inj (heq.trans hfetched)
    obtain ⟨rfl, rfl⟩ := hsends.eq_nil_of_isNoop hnoop
    rw [List.append_nil]
    exact ⟨⟨_, rfl, hnoop⟩, hfetches.readOnly⟩

/-- Nothing is left to be done for the domain. -/
def Outcome.IsNoop (outcome : Outcome) : Prop :=
  ∃ delta, outcome.result = .ok delta ∧ delta.isNoop = true

/-- A push of all that is held finds for every domain that nothing is to be done, and only asks. -/
theorem isNoop_of_pushLayout {layout : Layout} {commit : Bool} {outcomes : List Outcome}
    (hopen : session.id = some id) (hweb : session.endpoint.isWeb = true)
    (hmeets : ∀ desired ∈ layout.zones, ∃ hosted ∈ hosts, hosted.Meets desired)
    (hends : (session.pushLayout layout commit).Ends exchanges outcomes)
    (htold : ∀ exchange ∈ exchanges, exchange.IsToldOf hosts) :
    outcomes.map Outcome.domain = layout.domains ∧ (∀ outcome ∈ outcomes, outcome.IsNoop) ∧
      ReadOnly exchanges := by
  obtain ⟨parts, rfl, rfl, hparts⟩ := Dialogue.ends_mapM hends
  have hdomains : layout.domains = (parts.map Prod.snd).map Outcome.domain := by
    rw [List.map_map, Layout.domains, ← List.forall₂_eq_eq_eq, List.forall₂_map_left_iff,
      List.forall₂_map_right_iff]
    exact hparts.imp fun _ _ hpush => (Session.ends_pushOutcome hopen hweb hpush).1.symm
  have hall : ∀ part ∈ parts, part.2.IsNoop ∧ ReadOnly part.1 := by
    intro part hpart
    obtain ⟨desired, hdesired, hpush⟩ := exists_mem_of_forall₂ hparts hpart
    obtain ⟨hosted, hhosted, hheld⟩ := hmeets desired hdesired
    refine (Session.ends_pushOutcome hopen hweb hpush).2.of_meets hhosted hheld ?_
    exact fun exchange hexchange =>
      htold exchange (List.mem_flatten_of_mem (List.mem_map_of_mem hpart) hexchange)
  refine ⟨hdomains.symm, ?_, ?_⟩
  · intro outcome houtcome
    obtain ⟨part, hpart, rfl⟩ := List.mem_map.1 houtcome
    exact (hall part hpart).1
  · intro exchange hexchange
    obtain ⟨sent, hsent, hexchange⟩ := List.mem_flatten.1 hexchange
    obtain ⟨part, hpart, rfl⟩ := List.mem_map.1 hsent
    exact (hall part hpart).2 exchange hexchange

end ZoneSync
