import ZoneSync.Proofs.Dialogue
import ZoneSync.Proofs.Provider.Local
import ZoneSync.Proofs.Sync.Convergence

/-!
# Domains do not disturb each other

The push of a zone asks only about the domain of that zone. A failure becomes the outcome of the
domain and ends nothing else, so a push of many zones is the pushes of the zones one after the other.
Hence, if the provider keeps domains apart, each domain fares as if it were pushed alone, whatever
happens to the others.
-/

namespace ZoneSync

variable {α σ : Type}

/-- A call of this kind. -/
def Calls (kind : Call → Prop) (request : Request) : Prop :=
  ∃ account id asked, request.message = .call account id asked ∧ kind asked

theorem Calls.mono {kind other : Call → Prop} {request : Request} (hcalls : Calls kind request)
    (himp : ∀ asked, kind asked → other asked) : Calls other request := by
  obtain ⟨account, id, asked, hmessage, hkind⟩ := hcalls
  exact ⟨account, id, asked, hmessage, himp asked hkind⟩

theorem Calls.domain?_eq {domain : Option String} {request : Request}
    (hcalls : Calls (fun asked => asked.domain? = domain) request) : request.domain? = domain := by
  obtain ⟨account, id, asked, hmessage, hdomain⟩ := hcalls
  rw [Request.domain?, hmessage]
  exact hdomain

namespace Session

variable {session : Session} {desired : Zone} {commit : Bool}

/-! ### What is asked -/

theorem asks_post {allowed : Request → Prop} {message : Message}
    (hallowed : allowed ⟨session.endpoint, message⟩) : (session.post message).Asks allowed := by
  rw [post]
  split
  · exact ⟨hallowed, fun _ => trivial⟩
  · trivial

theorem asks_call {kind : Call → Prop} {asked : Call} (hkind : kind asked) :
    (session.call asked).Asks (Calls kind) := by
  rw [call]
  split
  · trivial
  · next id _ =>
    refine Dialogue.Asks.bind (asks_post ?_) fun _ => trivial
    exact ⟨session.account, id, asked, rfl, hkind⟩

theorem asks_query {kind : Call → Prop} {asked : Call} {decode : Json → Except DecodeError α}
    (hkind : kind asked) : (session.query asked decode).Asks (Calls kind) :=
  (asks_call hkind).bind fun _ => trivial

theorem asks_fetchZone (session : Session) (domain : String) :
    (session.fetchZone domain).Asks
      (Calls fun asked => asked = .zoneInfo domain ∨ asked = .recordInfo domain) := by
  refine (asks_query (.inl rfl)).bind fun told => ?_
  cases told with
  | error => trivial
  | ok zone =>
    refine (asks_query (.inr rfl)).bind fun told => ?_
    cases told <;> trivial

theorem asks_applyDelta (session : Session) (delta : Delta) :
    (session.applyDelta delta).Asks (Calls fun asked => asked.domain? = some delta.domain) := by
  have hsettings : (session.applySettings delta).Asks
      (Calls fun asked => asked.domain? = some delta.domain) := by
    rw [applySettings]
    split
    · trivial
    · refine Dialogue.Asks.bind ?_ fun _ => trivial
      exact asks_query rfl
  have hrecords : (session.applyRecords delta).Asks
      (Calls fun asked => asked.domain? = some delta.domain) := by
    rw [applyRecords]
    split
    · trivial
    · refine Dialogue.Asks.bind ?_ fun _ => trivial
      exact asks_query rfl
  refine hsettings.bind fun answer => ?_
  cases answer with
  | error => trivial
  | ok => exact hrecords.bind fun _ => trivial

/-- A push asks about its own domain, and writes only if it shall. -/
theorem asks_pushZone (session : Session) (desired : Zone) (commit : Bool) :
    (session.pushZone desired commit).Asks (Calls fun asked =>
      asked.domain? = some desired.domain ∧ (commit = false → asked.isWrite = false)) := by
  refine Dialogue.Asks.bind ((session.asks_fetchZone desired.domain).mono ?_) fun fetched => ?_
  · intro request hcalls
    refine hcalls.mono ?_
    rintro asked (rfl | rfl)
    · exact ⟨rfl, fun _ => rfl⟩
    · exact ⟨rfl, fun _ => rfl⟩
  · cases fetched with
    | error => trivial
    | ok current =>
      cases commit with
      | false => trivial
      | true =>
        refine Dialogue.Asks.bind ((session.asks_applyDelta _).mono ?_) fun answer => ?_
        · exact fun request hcalls => hcalls.mono fun asked hdomain => ⟨hdomain, by simp⟩
        · cases answer <;> trivial

theorem asks_pushOutcome (session : Session) (commit : Bool) (desired : Zone) :
    (session.pushOutcome commit desired).Asks (Calls fun asked =>
      asked.domain? = some desired.domain ∧ (commit = false → asked.isWrite = false)) := by
  refine (session.asks_pushZone desired commit).bind fun result => ?_
  cases result <;> trivial

theorem asks_pushOutcome_domain (session : Session) (commit : Bool) (desired : Zone) :
    (session.pushOutcome commit desired).Asks fun request =>
      request.domain? = some desired.domain :=
  (session.asks_pushOutcome commit desired).mono fun _ hcalls =>
    (hcalls.mono fun _ hkind => hkind.1).domain?_eq

theorem asks_pushLayout (session : Session) (layout : Layout) (commit : Bool) :
    (session.pushLayout layout commit).Asks (Calls fun asked =>
      (∃ domain ∈ layout.domains, asked.domain? = some domain) ∧
        (commit = false → asked.isWrite = false)) := by
  apply Dialogue.asks_mapM
  intro zone hzone
  refine (session.asks_pushOutcome commit zone).mono fun request hcalls => hcalls.mono ?_
  rintro asked ⟨hdomain, hread⟩
  exact ⟨⟨zone.domain, List.mem_map_of_mem hzone, hdomain⟩, hread⟩

/-! ### What comes of it -/

theorem domain_of_ends_pushOutcome {exchanges : List Exchange} {outcome : Outcome}
    (hends : (session.pushOutcome commit desired).Ends exchanges outcome) :
    outcome.domain = desired.domain := by
  obtain ⟨first, rest, result, -, -, hrest⟩ := Dialogue.ends_bind_iff.1 hends
  cases result with
  | ok delta =>
    rw [(Dialogue.ends_done_iff.1 hrest).2]
  | error error =>
    rw [(Dialogue.ends_done_iff.1 (Dialogue.ends_warn_iff.1 hrest)).2]

variable {partner : σ → Request → Reply × σ} {state : σ}

theorem domain_run_pushOutcome (desired : Zone) :
    ((session.pushOutcome commit desired).run partner state).1.result.domain = desired.domain :=
  domain_of_ends_pushOutcome (Dialogue.ends_run partner _ state)

/-- Every zone is pushed as if the push began with it. -/
theorem run_pushLayout (session : Session) (layout : Layout) (commit : Bool)
    (hlocal : IsLocal partner state) :
    let pushed := (session.pushLayout layout commit).run partner state
    let part := fun zone => (session.pushOutcome commit zone).run partner state
    pushed.1.result = layout.zones.map (fun zone => (part zone).1.result) ∧
      pushed.1.exchanges = layout.zones.flatMap (fun zone => (part zone).1.exchanges) ∧
        ∀ zone ∈ layout.zones, Alike partner zone.domain pushed.2 (part zone).2 :=
  Dialogue.run_mapM (session.asks_pushOutcome_domain commit) layout.distinct
    fun zone _ => hlocal zone.domain

end Session

/-- The domain of a zone finds just that zone. -/
theorem Layout.filter_domain_eq {layout : Layout} {zone : Zone} (hmem : zone ∈ layout.zones) :
    (layout.zones.filter fun other => other.domain = zone.domain) = [zone] := by
  obtain ⟨earlier, later, hzones⟩ := List.append_of_mem hmem
  have hdistinct := layout.distinct
  rw [hzones, List.map_append, List.map_cons, List.nodup_middle, List.nodup_cons,
    ← List.map_append] at hdistinct
  have hothers : ∀ other ∈ earlier ++ later, ¬other.domain = zone.domain :=
    fun other hother heq => hdistinct.1 (heq ▸ List.mem_map_of_mem hother)
  obtain ⟨hearlier, hlater⟩ := List.forall_mem_append.1 hothers
  rw [hzones, List.filter_append, List.filter_cons_of_pos (by simp),
    List.filter_eq_nil_iff.2 (by simpa using hearlier),
    List.filter_eq_nil_iff.2 (by simpa using hlater), List.nil_append]

/-- A domain finds one zone at most. -/
theorem Layout.filter_domain_cases (layout : Layout) (domain : String) :
    (layout.zones.filter fun zone => zone.domain = domain) = [] ∨
      ∃ zone, (layout.zones.filter fun zone => zone.domain = domain) = [zone] := by
  by_cases hmem : domain ∈ layout.domains
  · obtain ⟨zone, hzone, rfl⟩ := List.mem_map.1 hmem
    exact .inr ⟨zone, filter_domain_eq hzone⟩
  · refine .inl (List.filter_eq_nil_iff.2 fun zone hzone => ?_)
    have hne : zone.domain ≠ domain := fun heq => hmem (heq ▸ List.mem_map_of_mem hzone)
    simpa using hne

theorem Layout.zones_filter_domain {layout : Layout} {zone : Zone} (hmem : zone ∈ layout.zones) :
    (layout.filter [zone.domain]).zones = [zone] := by
  rw [← filter_domain_eq hmem]
  simp [filter]

/-- A domain of the layout alone is pushed as its zone is. -/
theorem Session.run_pushLayout_filter {σ : Type} {partner : σ → Request → Reply × σ} {state : σ}
    (session : Session) (commit : Bool) (hlocal : IsLocal partner state) {layout : Layout}
    {zone : Zone} (hzone : zone ∈ layout.zones) :
    let alone :=
      ((session.pushLayout (layout.filter [zone.domain]) commit).run partner state).1
    let part := ((session.pushOutcome commit zone).run partner state).1
    alone.result = [part.result] ∧ alone.exchanges = part.exchanges := by
  intro alone part
  obtain ⟨hresult, hexchanges, -⟩ :=
    session.run_pushLayout (layout.filter [zone.domain]) commit hlocal
  rw [Layout.zones_filter_domain hzone] at hresult hexchanges
  exact ⟨hresult, hexchanges.trans (List.flatMap_singleton ..)⟩

/-- A push of many zones gives one outcome for each zone, in their order. If the provider keeps
domains apart, the outcome of a domain and the exchanges about it are those of a push of that domain
alone. No other domain is asked about, and without `commit` nothing is written. -/
theorem pushLayout_isolated {σ : Type} (session : Session) (layout : Layout) (commit : Bool)
    (partner : σ → Request → Reply × σ) (state : σ) (hlocal : IsLocal partner state) :
    let pushed := ((session.pushLayout layout commit).run partner state).1
    pushed.result.map Outcome.domain = layout.domains ∧
      (∀ domain ∈ layout.domains,
        let alone := ((session.pushLayout (layout.filter [domain]) commit).run partner state).1
        ∃ outcome, alone.result = [outcome] ∧
          pushed.result.filter (fun other => other.domain = domain) = [outcome] ∧
            about domain pushed.exchanges = alone.exchanges) ∧
      (∀ exchange ∈ pushed.exchanges, ∃ domain ∈ layout.domains,
        exchange.request.domain? = some domain) ∧
      (commit = false → ReadOnly pushed.exchanges) := by
  intro pushed
  obtain ⟨hresult, hexchanges, -⟩ := session.run_pushLayout layout commit hlocal
  have hasked := (session.asks_pushLayout layout commit).of_run partner state
  refine ⟨?_, ?_, ?_, ?_⟩
  · rw [hresult, List.map_map]
    exact List.map_congr_left fun zone _ => Session.domain_run_pushOutcome zone
  · intro domain hmem alone
    obtain ⟨zone, hzone, rfl⟩ := List.mem_map.1 hmem
    obtain ⟨haloneResult, haloneExchanges⟩ :=
      session.run_pushLayout_filter commit hlocal hzone
    refine ⟨_, haloneResult, ?_, ?_⟩
    · rw [hresult, List.filter_map]
      simp only [Function.comp_def, Session.domain_run_pushOutcome]
      rw [Layout.filter_domain_eq hzone, List.map_singleton]
    · rw [hexchanges, about_flatMap fun zone =>
        (session.asks_pushOutcome_domain commit zone).of_run partner state,
        Layout.filter_domain_eq hzone, List.flatMap_singleton]
      exact haloneExchanges.symm
  · intro exchange hmem
    obtain ⟨account, id, asked, hmessage, ⟨domain, hdomain, heq⟩, -⟩ := hasked exchange hmem
    refine ⟨domain, hdomain, ?_⟩
    rw [Request.domain?, hmessage]
    exact heq
  · intro hcommit exchange hmem
    obtain ⟨account, id, asked, hmessage, -, hread⟩ := hasked exchange hmem
    rw [Exchange.isWrite, hmessage]
    exact hread hcommit

namespace Sample

/-- A provider who holds one domain and refuses requests about others. -/
def lone (_ : List Request) (request : Request) : Reply :=
  match request.message with
  | .login _ => answer "[\"session\"]"
  | .call _ _ (.zoneInfo "a.org") => zoneAnswer
  | .call _ _ (.recordInfo "a.org") => recordsAnswer ["1"]
  | .call _ _ (.updateRecords "a.org" _) => recordsAnswer []
  | _ => .answered 500 ""

/-- The domain that is held comes after one that is not. -/
def pair : Layout where
  zones := [⟨"b.org", Settings.default, none, []⟩, zone []]
  distinct := by decide

end Sample

open Sample

/-- The failure of the first domain does not keep the second one from being written. -/
theorem pushLayout_isolated_pair :
    let pushed := ((session.pushLayout pair true).run (recorded lone) []).1
    let alone := ((session.pushLayout (pair.filter ["a.org"]) true).run (recorded lone) []).1
    pushed.exchanges.map (fun exchange => exchange.request.domain?) =
        [some "b.org", some "a.org", some "a.org", some "a.org"] ∧
      ∃ outcome, alone.result = [outcome] ∧
        pushed.result.filter (fun other => other.domain = "a.org") = [outcome] ∧
          about "a.org" pushed.exchanges = alone.exchanges := by
  intro pushed alone
  have hisolated := pushLayout_isolated session pair true (recorded lone) [] (isLocal_recorded lone [])
  exact ⟨by decide +kernel, hisolated.2.1 "a.org" (by decide)⟩

end ZoneSync
