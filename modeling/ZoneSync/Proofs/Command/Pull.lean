import ZoneSync.Proofs.Command.Push
import ZoneSync.Proofs.Layout.Shown
import ZoneSync.Proofs.Sync.Pulled

/-!
# Pulling and then pushing

What a pull shows in the layout format is the layout text of the zones that were fetched, so it can
be read, and each of its zones is what the provider holds but for what is not compared. As long as
the provider holds it, a push of that layout has nothing to write, however much it is asked to.
-/

namespace ZoneSync.Command

variable {hosts : List Hosted} {zones : List Zone} {session : Session} {id : String}
  {exchanges : List Exchange} {report : Report} {surroundings : Surroundings} {options : Options}
  {preferences : Preferences} {sorted : Bool}

/-! ### Pulling -/

/-- The zones that are hosted, as one layout. -/
theorem ends_fetchLayout (hopen : session.id = some id) (hweb : session.endpoint.isWeb = true)
    (hfetched : List.Forall₂ (fun hosted zone => hosted.fetched = .ok zone) hosts zones)
    {result : Except SyncError Layout}
    (hends : (session.fetchLayout (hosts.map Hosted.name)).Ends exchanges result)
    (htold : ∀ exchange ∈ exchanges, exchange.IsToldOf hosts) :
    result = .ok (Layout.ofZones zones) :=
  ends_fetchInto hopen hweb (fun _ hhosted => hhosted) hfetched hends htold

theorem ends_pull (hsession : preferences.session surroundings = .ok session)
    (hweb : session.endpoint.isWeb = true)
    (hfetched : List.Forall₂ (fun hosted zone => hosted.fetched = .ok zone) hosts zones)
    (hends : (pull surroundings options preferences (hosts.map Hosted.name) sorted).Ends
      exchanges report)
    (htold : ∀ exchange ∈ exchanges, exchange.IsToldOf hosts) :
    report = .ofText options.quiet ((Layout.ofZones zones).shown options.output
      (sorted || preferences.config.sortRecords)) := by
  rw [pull, hsession] at hends
  obtain ⟨first, rest, result, rfl, hwithin, hrest⟩ := Dialogue.ends_bind_iff.1 hends
  obtain ⟨sent, others, opened, rfl, hconnect, hothers⟩ := Dialogue.ends_bind_iff.1 hwithin
  have htoldOf : ∀ exchange ∈ sent ++ others, exchange.IsToldOf hosts :=
    fun exchange hexchange => htold exchange (List.mem_append_left _ hexchange)
  cases Session.ends_connect hconnect with
  | unreachable hoff => exact absurd (hweb.symm.trans hoff) (by simp)
  | refused hfails =>
    obtain ⟨id, htells⟩ := htoldOf _ List.mem_cons_self
    exact absurd htells (hfails id)
  | opened _ htells =>
    obtain ⟨asked, last, fetched, rfl, hwork, hlast⟩ := Dialogue.ends_bind_iff.1 hothers
    obtain ⟨fetching, returned, layout, rfl, hlayout, hreturned⟩ := Dialogue.ends_bind_iff.1 hwork
    obtain ⟨rfl, rfl⟩ := Dialogue.ends_done_iff.1 hreturned
    have hzones : layout = .ok (Layout.ofZones zones) := by
      refine ends_fetchLayout rfl ?_ hfetched hlayout fun exchange hexchange => ?_
      · exact hweb
      · exact htoldOf exchange (List.mem_append_right _ (List.mem_append_left _
          (List.mem_append_left _ hexchange)))
    obtain ⟨closing, ended, closed, rfl, -, hended⟩ := Dialogue.ends_bind_iff.1 hlast
    obtain ⟨rfl, rfl⟩ := Dialogue.ends_done_iff.1 hended
    rw [hzones] at hrest
    exact (Dialogue.ends_done_iff.1 hrest).2

theorem report_of_run (hload : Preferences.load surroundings options = .ok preferences)
    (hsession : preferences.session surroundings = .ok session)
    (hweb : session.endpoint.isWeb = true)
    (hfetched : List.Forall₂ (fun hosted zone => hosted.fetched = .ok zone) hosts zones)
    (hends : (run surroundings ⟨options, .pull (hosts.map Hosted.name) sorted⟩).Ends
      exchanges report)
    (htold : ∀ exchange ∈ exchanges, exchange.IsToldOf hosts) :
    report = .ofText options.quiet ((Layout.ofZones zones).shown options.output
      (sorted || preferences.config.sortRecords)) := by
  rw [run, hload] at hends
  exact ends_pull hsession hweb hfetched hends htold

/-- What is shown of the zones in the layout format can be read, and is what was fetched. -/
theorem parse_shown (hnodup : (hosts.map Hosted.name).Nodup)
    (hnamed : ∀ hosted ∈ hosts, hosted.IsNamed)
    (hfetched : List.Forall₂ (fun hosted zone => hosted.fetched = .ok zone) hosts zones) :
    ∃ layout, Layout.parse
        (Report.ofText false ((Layout.ofZones zones).shown .layout sorted)).output = .ok layout ∧
      layout.domains = hosts.map Hosted.name ∧
        ∀ desired ∈ layout.zones, ∃ hosted ∈ hosts, hosted.Meets desired := by
  have hdomains : zones.map Zone.domain = hosts.map Hosted.name := by
    clear hnodup hnamed
    induction hfetched with
    | nil => rfl
    | cons hzone _ ih => rw [List.map_cons, List.map_cons, Hosted.domain_of_fetched hzone, ih]
  have hzones : (Layout.ofZones zones).zones = zones :=
    Layout.zones_ofZones (hdomains.symm ▸ hnodup)
  have hprintable : (Layout.ofZones zones).IsPrintable := by
    intro zone hzone
    rw [hzones] at hzone
    obtain ⟨hosted, hhosted, hconverted⟩ := exists_mem_of_forall₂ hfetched hzone
    exact Hosted.isPrintable_of_fetched (hnamed hosted hhosted) hconverted
  obtain ⟨layout, hparse, hread⟩ := Layout.parse_render hprintable sorted
  rw [hzones] at hread
  refine ⟨layout, ?_, ?_, ?_⟩
  · rw [Report.ofText, Layout.emit_shown hprintable]
    exact hparse
  · rw [Layout.domains, hread, List.map_map, ← hdomains]
    rfl
  · intro desired hdesired
    rw [hread] at hdesired
    obtain ⟨zone, hzone, rfl⟩ := List.mem_map.1 hdesired
    obtain ⟨hosted, hhosted, hconverted⟩ := exists_mem_of_forall₂ hfetched hzone
    exact ⟨hosted, hhosted, (Hosted.domain_of_fetched hconverted).symm, zone, hconverted,
      isNoop_reread sorted zone⟩

/-! ### Pushing -/

theorem decide_zero (mode : PushMode) (answer : Option (Except FileFault Bool)) :
    mode.decide answer 0 = .leave := by
  simp [PushMode.decide]

theorem verdict_of_isNoop {outcomes : List Outcome} (hnoop : ∀ outcome ∈ outcomes, outcome.IsNoop) :
    verdict outcomes = .ok () := by
  rw [verdict]
  refine List.filterMap_eq_nil_iff.2 fun outcome houtcome => ?_
  obtain ⟨delta, hresult, -⟩ := hnoop outcome houtcome
  rw [hresult]

theorem pending_of_isNoop {outcomes : List Outcome} (hnoop : ∀ outcome ∈ outcomes, outcome.IsNoop) :
    pending outcomes = [] := by
  refine List.filterMap_eq_nil_iff.2 fun outcome houtcome => ?_
  obtain ⟨delta, hresult, hdelta⟩ := hnoop outcome houtcome
  rw [Outcome.pending?, hresult]
  exact if_pos hdelta

theorem listing_of_pending_eq_nil (mode : PushMode) {outcomes : List Outcome}
    (hpending : pending outcomes = []) : listing mode outcomes = "" := by
  have hshows := shows_listing mode outcomes
  generalize listing mode outcomes = shown at hshows ⊢
  cases hshows with
  | changes _ _ hnonempty => exact absurd hpending hnonempty
  | nothing => rfl

/-- The command writes nothing either, whatever its options and the operator say. It concludes that
nothing was to be done. -/
theorem readOnly_of_pushLayout {mode : PushMode} {answer : Option (Except FileFault Bool)}
    {layout : Layout} (hweb : session.endpoint.isWeb = true)
    (hmeets : ∀ desired ∈ layout.zones, ∃ hosted ∈ hosts, hosted.Meets desired)
    (hends : (pushLayout session mode answer layout).Ends exchanges report)
    (htold : ∀ exchange ∈ exchanges, exchange.IsToldOf hosts) :
    ReadOnly exchanges ∧ ∃ outcomes : List Outcome, outcomes.map Outcome.domain = layout.domains ∧
      (∀ outcome ∈ outcomes, outcome.IsNoop) ∧
        report = ⟨conclusion mode outcomes false, "", .ok ()⟩ := by
  obtain ⟨first, rest, opened, rfl, hconnect, hrest⟩ := Dialogue.ends_bind_iff.1 hends
  cases Session.ends_connect hconnect with
  | unreachable hoff => exact absurd (hweb.symm.trans hoff) (by simp)
  | refused hfails =>
    obtain ⟨id, htells⟩ := htold _ List.mem_cons_self
    exact absurd htells (hfails id)
  | @opened login id _ htells =>
    have hopened : ({ session with id := some id } : Session).id = some id := rfl
    have hlogin : ReadOnly [session.opening login] := by
      simp [ReadOnly, Session.opening, Exchange.isWrite]
    have hlogout : ∀ logout,
        ReadOnly [({ session with id := some id } : Session).exchange id .logout logout] := by
      simp [ReadOnly, Session.exchange, Exchange.isWrite, Call.isWrite]
    obtain ⟨sent, others, outcomes, rfl, hlayout, hothers⟩ := Dialogue.ends_bind_iff.1 hrest
    have htoldOf : ∀ exchange ∈ sent, exchange.IsToldOf hosts := fun exchange hexchange =>
      htold exchange (List.mem_append_right _ (List.mem_append_left _ hexchange))
    obtain ⟨hdomains, hnoop, hread⟩ := isNoop_of_pushLayout hopened hweb hmeets hlayout htoldOf
    rw [length_pending, pending_of_isNoop hnoop] at hothers
    dsimp only [List.length_nil] at hothers
    rw [decide_zero] at hothers
    obtain ⟨logout, rfl, rfl⟩ := ends_concludePush hopened hweb hothers
    refine ⟨readOnly_append hlogin (readOnly_append hread (hlogout logout)), outcomes, hdomains,
      hnoop, ?_⟩
    rw [listing_of_pending_eq_nil mode (pending_of_isNoop hnoop), verdict_of_isNoop hnoop]
    simp

/-- What a pull shows of the domains that a provider hosts can be read, sorted or not. As long as
the provider hosts the same, pushing that layout finds nothing to do for any of its domains and
writes nothing. -/
theorem pull_then_push {σ : Type} {partner : σ → Request → Reply × σ} {state : σ}
    (hload : Preferences.load surroundings options = .ok preferences)
    (hsession : preferences.session surroundings = .ok session)
    (hweb : session.endpoint.isWeb = true) (hformat : options.output = .layout)
    (hloud : options.quiet = false) (hnodup : (hosts.map Hosted.name).Nodup)
    (hnamed : ∀ hosted ∈ hosts, hosted.IsNamed)
    (hfetched : List.Forall₂ (fun hosted zone => hosted.fetched = .ok zone) hosts zones)
    (htold : ∀ exchange ∈ ((run surroundings ⟨options, .pull (hosts.map Hosted.name) sorted⟩).run
      partner state).1.exchanges, exchange.IsToldOf hosts) :
    let pulled := ((run surroundings ⟨options, .pull (hosts.map Hosted.name) sorted⟩).run
      partner state).1.result
    pulled.result = .ok () ∧ ∃ layout, Layout.parse pulled.output = .ok layout ∧
      layout.domains = hosts.map Hosted.name ∧
        (∀ (session : Session) (τ : Type) (partner : τ → Request → Reply × τ) (state : τ),
          session.isOpen = true → session.endpoint.isWeb = true →
            let pushed := ((session.pushLayout layout true).run partner state).1
            (∀ exchange ∈ pushed.exchanges, exchange.IsToldOf hosts) →
              pushed.result.map Outcome.domain = layout.domains ∧
                (∀ outcome ∈ pushed.result, outcome.IsNoop) ∧ ReadOnly pushed.exchanges) ∧
          ∀ (session : Session) (mode : PushMode) (answer : Option (Except FileFault Bool))
            (τ : Type) (partner : τ → Request → Reply × τ) (state : τ),
            session.endpoint.isWeb = true →
              let pushed := ((pushLayout session mode answer layout).run partner state).1
              (∀ exchange ∈ pushed.exchanges, exchange.IsToldOf hosts) →
                ReadOnly pushed.exchanges ∧ ∃ outcomes : List Outcome,
                  outcomes.map Outcome.domain = layout.domains ∧
                    (∀ outcome ∈ outcomes, outcome.IsNoop) ∧
                      pushed.result = ⟨conclusion mode outcomes false, "", .ok ()⟩ := by
  intro pulled
  have hends := Dialogue.ends_run partner
    (run surroundings ⟨options, .pull (hosts.map Hosted.name) sorted⟩) state
  rw [show pulled = _ from report_of_run hload hsession hweb hfetched hends htold, hformat, hloud]
  obtain ⟨layout, hparse, hdomains, hmeets⟩ := @parse_shown _ _
    (sorted || preferences.config.sortRecords) hnodup hnamed hfetched
  refine ⟨rfl, layout, hparse, hdomains, ?_, ?_⟩
  · intro session τ partner state hopen hreach pushed hanswered
    obtain ⟨id, hid⟩ := Option.isSome_iff_exists.1 hopen
    exact isNoop_of_pushLayout hid hreach hmeets
      (Dialogue.ends_run partner (session.pushLayout layout true) state) hanswered
  · intro session mode answer τ partner state hreach pushed hanswered
    exact readOnly_of_pushLayout hreach hmeets
      (Dialogue.ends_run partner (pushLayout session mode answer layout) state) hanswered

end ZoneSync.Command

/-! ### A domain with a repeated record -/

namespace ZoneSync.Sample

open Command

def options : Options :=
  ⟨some "credentials", some "config", .layout, none, false, none⟩

/-- There is a credentials file and nothing else. -/
def surroundings : Surroundings where
  file path :=
    if path = "credentials" then
      .ok "\x7b\"customer\":\"1\",\"api_key\":\"key\",\"api_password\":\"password\"\x7d".toUTF8
    else .error .missing
  bindings := []
  input := .empty
  screen := false
  answer := none

def preferences : Preferences :=
  ⟨⟨"credentials", 30, none, "auto", false⟩, "config"⟩

def closed : Session :=
  ⟨Connection.defaultEndpoint, ⟨"1", "key", "password"⟩, none⟩

def opened : Session :=
  { closed with id := some "session" }

/-- Two records of one content under one identifier. -/
def hosted : Hosted :=
  ⟨⟨"a.org", 86400, none, 28800, 7200, 1209600, false⟩, [told "1", told "1"]⟩

def loginAnswer : Reply :=
  answer "\x7b\"apisessionid\":\"session\"\x7d"

def repeated : Reply :=
  recordsAnswer ["1", "1"]

/-- The pull of the domain, where the last reply is lost. -/
def pulled : Transcript Report :=
  (run surroundings ⟨options, .pull ([hosted].map Hosted.name) true⟩).replay
    [loginAnswer, zoneAnswer, repeated, .timedOut]

/-- What the pull shows, as a layout. -/
def layout : Layout where
  zones := [⟨"a.org", Settings.default, none, [(entry "1").bare]⟩]
  distinct := by decide

/-- The push of that layout. -/
def pushed : Transcript (List Outcome) :=
  (opened.pushLayout layout true).replay [zoneAnswer, repeated]

theorem isToldOf_zoneAnswer {session : Session} {id : String} :
    (session.exchange id (.zoneInfo "a.org") zoneAnswer).IsToldOf [hosted] := by
  have htells : zoneAnswer.Tells RemoteZone.decode hosted.zone := tells_of_parse? (by decide +kernel)
  rintro other hmem -
  rw [List.mem_singleton.1 hmem]
  exact htells

theorem isToldOf_repeated {session : Session} {id : String} :
    (session.exchange id (.recordInfo "a.org") repeated).IsToldOf [hosted] := by
  have htells : repeated.Tells RemoteRecord.decodeSet hosted.records :=
    tells_of_parse? (by decide +kernel)
  rintro other hmem -
  rw [List.mem_singleton.1 hmem]
  exact htells

theorem isToldOf_loginAnswer {session : Session} :
    (session.opening loginAnswer).IsToldOf [hosted] :=
  ⟨"session", tells_of_parse? (by decide +kernel)⟩

theorem fetched_hosted : hosted.fetched = .ok (zone ["1", "1"]) :=
  RemoteZone.toZone_eq_ok_iff.2
    ⟨rfl, .cons (check_told "1") (.cons (check_told "1") .nil), rfl, rfl⟩

theorem isNamed_hosted : hosted.IsNamed :=
  ⟨by decide, by decide, by decide, by decide⟩

end ZoneSync.Sample

namespace ZoneSync.Command

open Sample

/-- The pull shows the record once, and the push leaves both as they are. -/
theorem pull_then_push_repeated :
    pulled.result.output = "a.org\n\tA\twww\t192.0.2.1\n" ∧
      Layout.parse pulled.result.output = .ok layout ∧
        pushed.result.map Outcome.domain = ["a.org"] ∧
          (∀ outcome ∈ pushed.result, outcome.IsNoop) ∧ ReadOnly pushed.exchanges := by
  obtain ⟨hpulled, houtput⟩ : pulled.exchanges =
      [closed.opening loginAnswer, opened.exchange "session" (.zoneInfo "a.org") zoneAnswer,
        opened.exchange "session" (.recordInfo "a.org") repeated,
        opened.exchange "session" .logout .timedOut] ∧
      pulled.result.output = "a.org\n\tA\twww\t192.0.2.1\n" := by
    decide +kernel
  have hpushed : pushed.exchanges =
      [opened.exchange "session" (.zoneInfo "a.org") zoneAnswer,
        opened.exchange "session" (.recordInfo "a.org") repeated] := by
    decide +kernel
  have hlayout : Layout.parse pulled.result.output = .ok layout := by
    rw [houtput]
    rfl
  have htoldPull : ∀ exchange ∈ pulled.exchanges, exchange.IsToldOf [hosted] := by
    rw [hpulled]
    exact List.forall_mem_cons.2 ⟨isToldOf_loginAnswer, List.forall_mem_cons.2
      ⟨isToldOf_zoneAnswer, List.forall_mem_cons.2 ⟨isToldOf_repeated,
        List.forall_mem_singleton.2 trivial⟩⟩⟩
  have htoldPush : ∀ exchange ∈ pushed.exchanges, exchange.IsToldOf [hosted] := by
    rw [hpushed]
    exact List.forall_mem_cons.2 ⟨isToldOf_zoneAnswer,
      List.forall_mem_singleton.2 isToldOf_repeated⟩
  have hload : Preferences.load surroundings options = .ok preferences := by decide +kernel
  have hsession : preferences.session surroundings = .ok closed := by decide +kernel
  have hnodup : ([hosted].map Hosted.name).Nodup := List.nodup_singleton _
  rw [pulled, Dialogue.replay] at hlayout htoldPull houtput ⊢
  rw [pushed, Dialogue.replay] at htoldPush ⊢
  obtain ⟨-, read, hread, -, hpush, -⟩ := pull_then_push hload hsession (by decide) rfl rfl hnodup
    (List.forall_mem_singleton.2 isNamed_hosted) (.cons fetched_hosted .nil) htoldPull
  obtain rfl := Except.ok.inj (hread.symm.trans hlayout)
  exact ⟨houtput, hlayout, hpush opened (List Reply) Dialogue.script [zoneAnswer, repeated]
    rfl (by decide) htoldPush⟩

end ZoneSync.Command
