import ZoneSync.Proofs.Layout.Merging
import ZoneSync.Proofs.Sync.Exchanges
import ZoneSync.Proofs.Sync.Isolation

/-!
# Gathering the zones of several domains

Each domain is asked about in two exchanges of its own, and the first failure ends the fetch before
anything is asked about the domains after it. A zone is put into the layout under the name that the
provider tells, not under the domain that was asked about. So the domains of the layout are those
that were asked for if the provider tells every zone under its domain, and only then: of two zones
that are told under one name the first is lost.
-/

namespace ZoneSync

theorem Dialogue.Asks.of_ends {α : Type} {allowed : Request → Prop} {dialogue : Dialogue α}
    {exchanges : List Exchange} {result : α} (hasks : dialogue.Asks allowed)
    (hends : dialogue.Ends exchanges result) : ∀ exchange ∈ exchanges, allowed exchange.request := by
  induction hends with
  | done => exact List.forall_mem_nil _
  | ask _ ih => exact List.forall_mem_cons.2 ⟨hasks.1, ih (hasks.2 _)⟩
  | warn _ ih => exact ih hasks

/-- If the zone of a domain is asked for and told, it is told under that domain. -/
def Exchange.Echoes (exchange : Exchange) : Prop :=
  match exchange.request.message with
  | .call _ _ (.zoneInfo domain) =>
    ∀ told, exchange.reply.Tells RemoteZone.decode told → told.name = domain
  | _ => True

namespace Session

variable {session : Session} {domain : String} {domains : List String} {exchanges : List Exchange}
  {zone : Zone} {zones : List Zone} {error : SyncError}

/-- Two exchanges about the domain, and the zone that their replies tell of. -/
inductive Learns (session : Session) (domain : String) : List Exchange → Zone → Prop
  | told {id : String} {first second : Reply} {told : RemoteZone} {records : List RemoteRecord}
    {zone : Zone} :
    session.id = some id → first.Tells RemoteZone.decode told →
      second.Tells RemoteRecord.decodeSet records → told.toZone records = .ok zone →
        Learns session domain
          [session.exchange id (.zoneInfo domain) first,
            session.exchange id (.recordInfo domain) second]
          zone

/-- The zones of the domains, each from its own exchanges. -/
inductive Gathers (session : Session) : List String → List Exchange → List Zone → Prop
  | nil : Gathers session [] [] []
  | cons {domain : String} {first : List Exchange} {zone : Zone} {rest : List String}
    {others : List Exchange} {zones : List Zone} :
    session.Learns domain first zone → Gathers session rest others zones →
      Gathers session (domain :: rest) (first ++ others) (zone :: zones)

/-- The fetch of one of the domains failed after those above it were fetched, and nothing was asked
about those below it. -/
def StopsAt (session : Session) (domains : List String) (exchanges : List Exchange)
    (error : SyncError) : Prop :=
  ∃ above domain below asked zones last, domains = above ++ domain :: below ∧
    session.Gathers above asked zones ∧ (session.fetchZone domain).Ends last (.error error) ∧
      exchanges = asked ++ last ∧
        ∀ exchange ∈ exchanges, ∀ later ∈ below, exchange.request.domain? ≠ some later

/-! ### One domain -/

theorem learns_of_ends (hends : (session.fetchZone domain).Ends exchanges (.ok zone)) :
    session.Learns domain exchanges zone := by
  have hunsent : ¬(session.id = none ∨ session.endpoint.isWeb = false) := by
    intro hclosed
    obtain ⟨first, rest, told, -, hzone, hrest⟩ := Dialogue.ends_bind_iff.1 hends
    obtain ⟨-, error, rfl⟩ := ends_query_unsent hclosed hzone
    exact absurd (Dialogue.ends_done_iff.1 hrest).2 (by simp)
  obtain ⟨hopen, hweb⟩ := not_or.1 hunsent
  obtain ⟨id, hid⟩ := Option.ne_none_iff_exists'.1 hopen
  have hfetches := ends_fetchZone hid (Bool.eq_true_of_not_eq_false hweb) hends
  generalize hresult : Except.ok zone = result at hfetches
  cases hfetches with
  | told hfirst hsecond => exact .told hid hfirst hsecond hresult.symm
  | withoutRecords => exact absurd hresult (by simp)
  | withoutZone => exact absurd hresult (by simp)

theorem domain_of_ends {result : Except SyncError Zone}
    (hends : (session.fetchZone domain).Ends exchanges result) :
    ∀ exchange ∈ exchanges, exchange.request.domain? = some domain := by
  have hasks : (session.fetchZone domain).Asks fun request => request.domain? = some domain := by
    refine (session.asks_fetchZone domain).mono fun request hcalls => (hcalls.mono ?_).domain?_eq
    rintro asked (rfl | rfl)
    · rfl
    · rfl
  exact hasks.of_ends hends

theorem Learns.domain?_eq (hlearns : session.Learns domain exchanges zone) :
    ∀ exchange ∈ exchanges, exchange.request.domain? = some domain := by
  obtain ⟨⟩ := hlearns
  exact List.forall_mem_cons.2 ⟨rfl, List.forall_mem_singleton.2 rfl⟩

theorem Learns.echoes_iff (hlearns : session.Learns domain exchanges zone) :
    (∀ exchange ∈ exchanges, exchange.Echoes) ↔ zone.domain = domain := by
  obtain ⟨-, hfirst, -, hzone⟩ := hlearns
  obtain ⟨-, -, hname, -⟩ := RemoteZone.toZone_eq_ok_iff.1 hzone
  rw [List.forall_mem_cons, List.forall_mem_singleton, hname]
  constructor
  · rintro ⟨hechoes, -⟩
    exact hechoes _ hfirst
  · intro hdomain
    refine ⟨fun told htold => ?_, trivial⟩
    rw [← tells_unique hfirst htold, hdomain]

/-! ### One domain after the other -/

theorem Gathers.length_eq (hgathers : session.Gathers domains exchanges zones) :
    zones.length = domains.length := by
  induction hgathers with
  | nil => rfl
  | cons _ _ ih => rw [List.length_cons, List.length_cons, ih]

theorem Gathers.echoes_iff (hgathers : session.Gathers domains exchanges zones) :
    (∀ exchange ∈ exchanges, exchange.Echoes) ↔ zones.map Zone.domain = domains := by
  induction hgathers with
  | nil => exact ⟨fun _ => rfl, fun _ => List.forall_mem_nil _⟩
  | cons hlearns _ ih =>
    rw [List.forall_mem_append, hlearns.echoes_iff, ih, List.map_cons, List.cons.injEq]

theorem Gathers.domain_mem (hgathers : session.Gathers domains exchanges zones) :
    ∀ exchange ∈ exchanges, ∃ domain ∈ domains, exchange.request.domain? = some domain := by
  induction hgathers with
  | nil => exact List.forall_mem_nil _
  | @cons domain first zone rest others zones hlearns _ ih =>
    refine List.forall_mem_append.2 ⟨fun exchange hexchange => ?_, fun exchange hexchange => ?_⟩
    · exact ⟨domain, List.mem_cons_self, hlearns.domain?_eq exchange hexchange⟩
    · obtain ⟨other, hother, hdomain⟩ := ih exchange hexchange
      exact ⟨other, List.mem_cons_of_mem _ hother, hdomain⟩

/-- Domains are fetched one after the other, up to the first failure. -/
theorem gathers_of_ends {layout : Layout} {result : Except SyncError Layout}
    (hends : (session.fetchInto layout domains).Ends exchanges result) :
    (∃ zones, session.Gathers domains exchanges zones ∧ result = .ok (layout.insertAll zones)) ∨
      ∃ above domain below asked zones last error, domains = above ++ domain :: below ∧
        session.Gathers above asked zones ∧ (session.fetchZone domain).Ends last (.error error) ∧
          exchanges = asked ++ last ∧ result = .error error := by
  induction domains generalizing layout exchanges with
  | nil =>
    obtain ⟨rfl, rfl⟩ := Dialogue.ends_done_iff.1 hends
    exact Or.inl ⟨[], .nil, rfl⟩
  | cons domain rest ih =>
    obtain ⟨first, others, fetched, rfl, hfetch, hrest⟩ := Dialogue.ends_bind_iff.1 hends
    cases fetched with
    | error error =>
      obtain ⟨rfl, rfl⟩ := Dialogue.ends_done_iff.1 hrest
      exact Or.inr ⟨[], domain, rest, [], [], first, error, rfl, .nil, hfetch, by simp, rfl⟩
    | ok zone =>
      have hlearns := learns_of_ends hfetch
      rcases ih hrest with ⟨zones, hgathers, rfl⟩ |
        ⟨above, failed, below, asked, zones, last, error, rfl, hgathers, hlast, rfl, rfl⟩
      · exact Or.inl ⟨zone :: zones, .cons hlearns hgathers, rfl⟩
      · exact Or.inr ⟨domain :: above, failed, below, first ++ asked, zone :: zones, last, error,
          rfl, .cons hlearns hgathers, hlast, (List.append_assoc ..).symm, rfl⟩

theorem stopsAt_of_failed {above below : List String} {asked last : List Exchange}
    (hnodup : (above ++ domain :: below).Nodup) (hgathers : session.Gathers above asked zones)
    (hlast : (session.fetchZone domain).Ends last (.error error)) :
    session.StopsAt (above ++ domain :: below) (asked ++ last) error := by
  refine ⟨above, domain, below, asked, zones, last, rfl, hgathers, hlast, rfl, ?_⟩
  have hbelow := List.nodup_append.1 hnodup
  refine List.forall_mem_append.2 ⟨fun exchange hexchange later hlater hsame => ?_,
    fun exchange hexchange later hlater hsame => ?_⟩
  · obtain ⟨other, hother, hdomain⟩ := hgathers.domain_mem exchange hexchange
    rw [hdomain] at hsame
    exact hbelow.2.2 other hother later (List.mem_cons_of_mem _ hlater) (Option.some.inj hsame)
  · rw [domain_of_ends hlast exchange hexchange] at hsame
    exact (List.nodup_cons.1 hbelow.2.1).1 (Option.some.inj hsame ▸ hlater)

/-! ### The layout -/

/-- As many distinct domains as zones: no two zones have the same. -/
theorem domains_ofZones_eq_iff (hlength : zones.length = domains.length) (hnodup : domains.Nodup) :
    (Layout.ofZones zones).domains = domains ↔ zones.map Zone.domain = domains := by
  rw [Layout.domains_ofZones]
  constructor
  · intro hdomains
    have hsubset : domains ⊆ zones.map Zone.domain := fun domain hdomain =>
      List.mem_eraseDups.1 (hdomains ▸ hdomain)
    have hperm : domains.Perm (zones.map Zone.domain) :=
      (hnodup.subperm hsubset).perm_of_length_le (by rw [List.length_map, hlength])
    rw [Layout.eraseDups_of_nodup (hperm.nodup_iff.1 hnodup)] at hdomains
    exact hdomains
  · rintro rfl
    exact Layout.eraseDups_of_nodup hnodup

/-- The layout has the domains that were asked for, and their zones, if and only if every zone was
told under its domain. Otherwise the last zone that was told under a name is the one that it has. A
failure is that of the first domain that could not be fetched. -/
theorem fetchLayout_gathers {σ : Type} (session : Session) {domains : List String}
    (hnodup : domains.Nodup) (partner : σ → Request → Reply × σ) (state : σ) :
    let told := ((session.fetchLayout domains).run partner state).1
    (∀ layout, told.result = .ok layout → ∃ zones, session.Gathers domains told.exchanges zones ∧
      (layout.domains = domains ↔ ∀ exchange ∈ told.exchanges, exchange.Echoes) ∧
        ((∀ exchange ∈ told.exchanges, exchange.Echoes) → layout.zones = zones) ∧
          ∀ domain zone, layout.get? domain = some zone ↔
            ∃ before after, zones = before ++ zone :: after ∧ zone.domain = domain ∧
              ∀ later ∈ after, later.domain ≠ domain) ∧
      ∀ error, told.result = .error error → session.StopsAt domains told.exchanges error := by
  intro told
  have hends := Dialogue.ends_run partner (session.fetchLayout domains) state
  rcases gathers_of_ends hends with ⟨zones, hgathers, hresult⟩ |
    ⟨above, domain, below, asked, zones, last, error, rfl, hgathers, hlast, hexchanges, hresult⟩
  · constructor
    · intro layout hlayout
      obtain rfl : Layout.ofZones zones = layout := Except.ok.inj (hresult.symm.trans hlayout)
      refine ⟨zones, hgathers, ?_, fun hechoes => ?_, fun domain zone => ?_⟩
      · rw [domains_ofZones_eq_iff hgathers.length_eq hnodup]
        exact hgathers.echoes_iff.symm
      · have hdomains := hgathers.echoes_iff.1 hechoes
        exact Layout.zones_ofZones (hdomains ▸ hnodup)
      · exact Layout.get?_ofZones_eq_some_iff
    · intro error herror
      exact absurd (hresult.symm.trans herror) (by simp)
  · constructor
    · intro layout hlayout
      exact absurd (hresult.symm.trans hlayout) (by simp)
    · intro other hother
      obtain rfl : error = other := Except.error.inj (hresult.symm.trans hother)
      have hstops := stopsAt_of_failed hnodup hgathers hlast
      rw [← hexchanges] at hstops
      exact hstops

end Session

namespace Sample

/-- A zone under that name, of which nothing else is told than of the other one. -/
def zoneAnswerFor (name : String) : Reply :=
  answer ("[\"" ++ name ++ "\",86400,null,28800,7200,1209600]")

/-- The replies to a fetch of two domains whose zones are told under these names. -/
def named (first second : String) : List Reply :=
  [zoneAnswerFor first, recordsAnswer ["1"], zoneAnswerFor second, recordsAnswer []]

def gather (replies : List Reply) : Transcript (Except SyncError Layout) :=
  ((session.fetchLayout ["a.org", "b.org"]).run Dialogue.script replies).1

theorem gather_gives {α : Type} (replies : List Reply) (part : Layout → α) (expected : α)
    (hpart : (gather replies).result.toOption.map part = some expected) :
    ∃ layout, (gather replies).result = .ok layout ∧ part layout = expected := by
  obtain ⟨layout, hlayout, hexpected⟩ := Option.map_eq_some_iff.1 hpart
  cases hresult : (gather replies).result with
  | error error =>
    rw [hresult] at hlayout
    exact absurd hlayout (by simp [Except.toOption])
  | ok told =>
    rw [hresult] at hlayout
    exact ⟨layout, congrArg Except.ok (Option.some.inj hlayout), hexpected⟩

end Sample

open Sample

theorem fetchLayout_gathers_pair :
    ["a.org", "b.org"].Nodup ∧
      ∃ layout zones, (gather (named "a.org" "b.org")).result = .ok layout ∧
        session.Gathers ["a.org", "b.org"] (gather (named "a.org" "b.org")).exchanges zones ∧
          layout.domains = ["a.org", "b.org"] ∧ layout.zones = zones := by
  have hnodup : ["a.org", "b.org"].Nodup := by decide
  obtain ⟨layout, hlayout, hdomains⟩ :=
    gather_gives (named "a.org" "b.org") Layout.domains ["a.org", "b.org"] (by decide +kernel)
  rw [gather] at hlayout ⊢
  obtain ⟨hgathered, -⟩ :=
    session.fetchLayout_gathers hnodup Dialogue.script (named "a.org" "b.org")
  obtain ⟨zones, hgathers, hechoes, hzones, -⟩ := hgathered layout hlayout
  exact ⟨hnodup, layout, zones, hlayout, hgathers, hdomains, hzones (hechoes.1 hdomains)⟩

/-- Both zones are told under one name: the fetch succeeds, and the second zone stands where the
first one stood. -/
theorem fetchLayout_one_name :
    ["a.org", "b.org"].Nodup ∧
      ∃ layout, (gather (named "a.org" "a.org")).result = .ok layout ∧
        layout.domains = ["a.org"] ∧ layout.zones = [zone []] := by
  obtain ⟨layout, hlayout, hzones⟩ :=
    gather_gives (named "a.org" "a.org") Layout.zones [zone []] (by decide +kernel)
  exact ⟨by decide, layout, hlayout, congrArg (List.map Zone.domain) hzones, hzones⟩

end ZoneSync
