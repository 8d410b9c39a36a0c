import ZoneSync.Proofs.Sync.Progress

/-!
# Pushes of one zone at the same time

A push reads twice and writes up to twice, and nothing tells it whether another push has written in
between. So its settings and its records may be those of different moments, and both may be outdated
when it writes. Each of its requests still brings the provider forward, and with its last one all is
as desired. As other pushes only bring the provider forward too, it stays so.
-/

namespace ZoneSync

open Record (content)
open Session (RecordsWritten)

namespace Session

variable {session : Session} {id domain : String} {ledger : Ledger} {desired current : Zone}
  {α : Type}

/-- What holds of a dialogue while other pushes of the zone go on. -/
abbrev Endures (desired : Zone) (dialogue : Dialogue α) (post : Ledger → α → Prop)
    (ledger : Ledger) : Prop :=
  dialogue.Endures (Ledger.Serves desired.domain) (Ledger.Progress desired) post ledger

theorem Endures.bind {β : Type} {dialogue : Dialogue α} {f : α → Dialogue β}
    {post : Ledger → α → Prop} {goal : Ledger → β → Prop}
    (hfirst : Endures desired dialogue post ledger)
    (hrest : ∀ result ledger, post ledger result → Endures desired (f result) goal ledger) :
    Endures desired (dialogue >>= f) goal ledger :=
  Dialogue.Endures.bind Ledger.Progress.refl hfirst hrest

/-- A call meets the ledger as it is then, and others go on after the reply. -/
theorem endures_query {asked : Call} {decode : Json → Except DecodeError α}
    {post : Ledger → Except ApiError α → Prop} (hopen : session.id = some id)
    (hweb : session.endpoint.isWeb = true)
    (hpost : ∀ later reply after, ledger.Progress desired later →
      later.CarriesOut desired.domain asked after → after.held.Accepts asked reply →
        later.Progress desired after ∧ ∀ last, after.Progress desired last →
          post last (read session.endpoint asked decode reply)) :
    Endures desired (session.query asked decode) post ledger := by
  rw [query_eq_ask hopen hweb]
  intro later reply after hlater hserved
  cases hserved with
  | call hcarried haccepted => exact hpost later reply after hlater hcarried haccepted

/-! ### Reading -/

/-- A call that only asks leaves what is held as it is. -/
theorem eq_of_carriesOut_read {held after : Held} {asked : Call} (hread : asked.isWrite = false)
    (hcarried : held.CarriesOut domain asked after) : after = held := by
  cases hcarried with
  | zoneInfo => rfl
  | recordInfo => rfl
  | updateZone => exact absurd hread (by simp [Call.isWrite])
  | updateRecords => exact absurd hread (by simp [Call.isWrite])

theorem progress_of_read {before after : Ledger} {asked : Call} (hread : asked.isWrite = false)
    (hcarried : before.CarriesOut domain asked after) : before.Progress desired after := by
  have hheld := eq_of_carriesOut_read hread hcarried.held
  exact .of_records_eq hcarried.given (congrArg Held.records hheld)
    (Or.inl (congrArg (fun held => held.zone.checkSettings) hheld))

/-- The settings are still those that were read, or they have become the desired ones. -/
def SettingsSeen (desired : Zone) (settings : Settings) (ledger : Ledger) : Prop :=
  ledger.held.zone.checkSettings = .ok settings ∨
    ledger.held.zone.checkSettings = .ok desired.settings

theorem SettingsSeen.advance {settings : Settings} {later : Ledger}
    (hseen : SettingsSeen desired settings ledger) (hprogress : ledger.Progress desired later) :
    SettingsSeen desired settings later := by
  rcases hprogress.settings with hsame | hdesired
  · rw [SettingsSeen, hsame]
    exact hseen
  · exact Or.inr hdesired

theorem endures_zoneInfo (hopen : session.id = some id) (hweb : session.endpoint.isWeb = true)
    (hplain : ledger.IsPlain desired) :
    Endures desired (session.zoneInfo desired.domain) (fun after result =>
      after.IsPlain desired ∧ ∃ told settings, result = .ok told ∧
        told.checkSettings = .ok settings ∧ SettingsSeen desired settings after) ledger := by
  refine endures_query hopen hweb fun later reply after hlater hcarried haccepted => ?_
  have hprogress : later.Progress desired after := progress_of_read rfl hcarried
  have hnow := (hplain.advance hlater).advance hprogress
  have ⟨zone, hzone, _⟩ := hnow
  have hsettings := (Held.fetched_eq_ok_iff.1 hzone).1
  refine ⟨hprogress, fun last hlast => ⟨hnow.advance hlast, after.held.zone, zone.settings, ?_,
    hsettings, SettingsSeen.advance (Or.inl hsettings) hlast⟩⟩
  exact read_of_tells haccepted

theorem endures_recordInfo {settings : Settings} (hopen : session.id = some id)
    (hweb : session.endpoint.isWeb = true) (hplain : ledger.IsPlain desired)
    (hseen : SettingsSeen desired settings ledger) :
    Endures desired (session.recordInfo desired.domain) (fun after result =>
      after.IsPlain desired ∧ SettingsSeen desired settings after ∧
        ∃ (earlier : Ledger) (zone : Zone), result = .ok earlier.held.records ∧
          earlier.Progress desired after ∧ earlier.held.fetched = .ok zone ∧
            zone.IsPlain desired) ledger := by
  refine endures_query hopen hweb fun later reply after hlater hcarried haccepted => ?_
  have hprogress : later.Progress desired after := progress_of_read rfl hcarried
  have hnow := (hplain.advance hlater).advance hprogress
  have ⟨zone, hzone, hsingle⟩ := hnow
  refine ⟨hprogress, fun last hlast => ⟨hnow.advance hlast,
    ((hseen.advance hlater).advance hprogress).advance hlast, after, zone, ?_, hlast, hzone,
    hsingle⟩⟩
  exact read_of_tells haccepted

/-- The zone that is fetched has the settings of one moment and the records of another. -/
theorem endures_fetchZone (hopen : session.id = some id) (hweb : session.endpoint.isWeb = true)
    (hplain : ledger.IsPlain desired) :
    Endures desired (session.fetchZone desired.domain) (fun after result =>
      after.IsPlain desired ∧ ∃ current, result = .ok current ∧
        SettingsSeen desired current.settings after ∧ after.Recalls desired current) ledger := by
  rw [fetchZone]
  apply (endures_zoneInfo hopen hweb hplain).bind
  rintro result middle ⟨hmiddle, told, settings, rfl, hsettings, hseen⟩
  apply (endures_recordInfo hopen hweb hmiddle hseen).bind
  rintro result after ⟨hafter, hseen, earlier, zone, rfl, hearlier, hzone, hsingle⟩
  intro last hlast
  have hchecks := (Held.fetched_eq_ok_iff.1 hzone).2.1
  refine ⟨hafter.advance hlast, ⟨told.name, settings, told.serial, zone.entries⟩, ?_,
    hseen.advance hlast, ?_⟩
  · exact RemoteZone.toZone_eq_ok_iff.2 ⟨hsettings, hchecks, rfl, rfl⟩
  · exact ⟨⟨earlier, zone, hearlier.trans hlast, hzone, rfl⟩, hsingle⟩

/-! ### Writing -/

theorem settings_of_carriesOut {held after : Held} {settings : Settings}
    (hpositive : settings.Positive)
    (hcarried : held.CarriesOut domain (.updateZone domain ⟨domain, settings⟩) after) :
    after.zone.checkSettings = .ok settings ∧ after.records = held.records := by
  cases hcarried with
  | updateZone _ hholds hrecords => exact ⟨hholds.checkSettings hpositive, hrecords⟩

theorem endures_applySettings (hopen : session.id = some id)
    (hweb : session.endpoint.isWeb = true) (hpositive : desired.settings.Positive)
    (hplain : ledger.IsPlain desired) (hseen : SettingsSeen desired current.settings ledger)
    (hrecalls : ledger.Recalls desired current) :
    Endures desired (session.applySettings (reconcile current desired)) (fun after result =>
      result = .ok () ∧ after.IsPlain desired ∧ after.Recalls desired current ∧
        after.held.zone.checkSettings = .ok desired.settings) ledger := by
  rw [applySettings]
  by_cases hsame : current.settings = desired.settings
  · have hnone : (reconcile current desired).zoneUpdate? = none := by
      simp [Delta.zoneUpdate?, reconcile, hsame]
    rw [hnone]
    intro later hlater
    have hsettings : later.held.zone.checkSettings = .ok desired.settings := by
      rcases hseen.advance hlater with hsettings | hsettings
      · rw [hsettings, hsame]
      · exact hsettings
    exact ⟨rfl, hplain.advance hlater, hrecalls.advance hlater, hsettings⟩
  · have hsome : (reconcile current desired).zoneUpdate? =
        some ⟨desired.domain, desired.settings⟩ := by
      simp [Delta.zoneUpdate?, reconcile, hsame]
    rw [hsome]
    have hupdated : Endures desired (session.updateZone desired.domain
        ⟨desired.domain, desired.settings⟩) (fun after result => (∃ told, result = .ok told) ∧
          after.IsPlain desired ∧ after.Recalls desired current ∧
            after.held.zone.checkSettings = .ok desired.settings) ledger := by
      refine endures_query hopen hweb fun later reply after hlater hcarried haccepted => ?_
      obtain ⟨hsettings, hrecords⟩ := settings_of_carriesOut hpositive hcarried.held
      have hprogress : later.Progress desired after :=
        .of_records_eq hcarried.given hrecords (Or.inr hsettings)
      obtain ⟨told, htold⟩ := haccepted
      refine ⟨hprogress, fun last hlast => ⟨⟨told, read_of_tells htold⟩, ?_, ?_, ?_⟩⟩
      · exact ((hplain.advance hlater).advance hprogress).advance hlast
      · exact ((hrecalls.advance hlater).advance hprogress).advance hlast
      · exact hlast.settings_eq hsettings
    apply hupdated.bind
    rintro result middle ⟨⟨told, rfl⟩, hmiddle, hthen, hsettings⟩
    exact fun last hlast =>
      ⟨rfl, hmiddle.advance hlast, hthen.advance hlast, hlast.settings_eq hsettings⟩

theorem endures_applyRecords (hopen : session.id = some id)
    (hweb : session.endpoint.isWeb = true) (hplain : ledger.IsPlain desired)
    (hrecalls : ledger.Recalls desired current)
    (hsettings : ledger.held.zone.checkSettings = .ok desired.settings) :
    Endures desired (session.applyRecords (reconcile current desired)) (fun after result =>
      result = .ok () ∧ after.IsPlain desired ∧ after.held.Meets desired) ledger := by
  rw [applyRecords]
  split
  · next hempty =>
    intro later hlater
    have hnow := hplain.advance hlater
    have hnothing : RecordsWritten (reconcile current desired) later.held later.held := by
      rw [RecordsWritten, if_pos hempty]
    obtain ⟨stored, hstored, hperm, -⟩ := exists_stored_of_recordsWritten hnothing
    exact ⟨rfl, hnow, (hrecalls.advance hlater).meets (.refl later) hnow
      (hlater.settings_eq hsettings) hstored hperm⟩
  · have hupdated : Endures desired (session.updateRecords desired.domain
        (reconcile current desired).batch) (fun after result =>
          (∃ told, result = .ok told) ∧ after.IsPlain desired ∧ after.held.Meets desired)
        ledger := by
      refine endures_query hopen hweb fun later reply after hlater hcarried haccepted => ?_
      obtain ⟨stored, hstored, hperm, hzone⟩ := exists_stored_of_carriesOut hcarried.held
      have hthen := hrecalls.advance hlater
      have hprogress := hthen.progress hcarried.given hcarried.fresh hstored hperm hzone
      have hnow := (hplain.advance hlater).advance hprogress
      have hmeets := hthen.meets hprogress hnow
        (hprogress.settings_eq (hlater.settings_eq hsettings)) hstored hperm
      obtain ⟨told, htold⟩ := haccepted
      exact ⟨hprogress, fun last hlast => ⟨⟨told, read_of_tells htold⟩, hnow.advance hlast,
        Ledger.meets_advance hmeets hlast (hnow.advance hlast)⟩⟩
    apply hupdated.bind
    rintro result middle ⟨⟨told, rfl⟩, hmiddle, hmeets⟩
    exact fun last hlast => ⟨rfl, hmiddle.advance hlast,
      Ledger.meets_advance hmeets hlast (hmiddle.advance hlast)⟩

theorem endures_pushZone (hopen : session.id = some id) (hweb : session.endpoint.isWeb = true)
    (hpositive : desired.settings.Positive) (hplain : ledger.IsPlain desired) :
    Endures desired (session.pushZone desired true) (fun after result =>
      (∃ delta, result = .ok delta) ∧ after.held.Meets desired) ledger := by
  rw [pushZone]
  apply (endures_fetchZone hopen hweb hplain).bind
  rintro result middle ⟨hmiddle, current, rfl, hseen, hrecalls⟩
  have hdelta : Endures desired (session.applyDelta (reconcile current desired)) (fun after result =>
      result = .ok () ∧ after.IsPlain desired ∧ after.held.Meets desired) middle := by
    rw [applyDelta]
    apply (endures_applySettings hopen hweb hpositive hmiddle hseen hrecalls).bind
    rintro result between ⟨rfl, hbetween, hthen, hsettings⟩
    apply (endures_applyRecords hopen hweb hbetween hthen hsettings).bind
    rintro result after ⟨rfl, hafter, hmeets⟩
    exact fun last hlast =>
      ⟨rfl, hafter.advance hlast, Ledger.meets_advance hmeets hlast (hafter.advance hlast)⟩
  apply hdelta.bind
  rintro result after ⟨rfl, hafter, hmeets⟩
  exact fun last hlast =>
    ⟨⟨_, rfl⟩, Ledger.meets_advance hmeets hlast (hafter.advance hlast)⟩

end Session

/-- Clients that push the same zone at the same time, each in a session of its own. However their
requests follow each other, as long as each is carried out and accepted, no record of desired content
is ever deleted, and once one of the pushes has ended the provider holds what is desired. -/
theorem pushZone_side_by_side {sessions : List Session} {text : String} {layout : Layout}
    {desired current : Zone} {start last : Ledger} {moments : List Ledger}
    {left : List (Dialogue (Except SyncError Delta))}
    (hsessions : ∀ session ∈ sessions, session.isOpen = true ∧ session.endpoint.isWeb = true)
    (hparse : Layout.parse text = .ok layout) (hdesired : desired ∈ layout.zones)
    (hfetched : start.held.fetched = .ok current) (hnodup : (current.entries.map content).Nodup)
    (hruns : Interleaves (Ledger.Serves desired.domain) start
      (sessions.map fun session => session.pushZone desired true) moments last left) :
    ((start :: moments).map Ledger.held).Pairwise (Keeps desired) ∧
      ∀ result, .done result ∈ left →
        (∃ delta, result = .ok delta) ∧ last.held.Meets desired := by
  have hpositive : desired.settings.Positive :=
    (Layout.isPrintable_of_parse hparse desired hdesired).positive
  have hplain : start.IsPlain desired := ⟨current, hfetched, Zone.isPlain_of_nodup hnodup⟩
  have hall : ∀ dialogue ∈ sessions.map fun session => session.pushZone desired true,
      Session.Endures desired dialogue (fun after result =>
        (∃ delta, result = .ok delta) ∧ after.held.Meets desired) start := by
    intro dialogue hdialogue
    obtain ⟨session, hsession, rfl⟩ := List.mem_map.1 hdialogue
    obtain ⟨hopen, hweb⟩ := hsessions session hsession
    obtain ⟨id, hid⟩ := Option.isSome_iff_exists.1 hopen
    exact Session.endures_pushZone hid hweb hpositive hplain
  obtain ⟨hchain, hleft⟩ := hruns.endures Ledger.Progress.refl Ledger.Progress.trans hall
  refine ⟨List.pairwise_map.2 (hchain.imp Ledger.Progress.kept), fun result hresult => ?_⟩
  exact hleft _ hresult last (.refl last)

/-! ### Two clients that delete the same record -/

namespace Sample

/-- Another client of the customer. -/
def colleague : Session :=
  { session with id := some "other" }

/-- The provider has given one identifier so far. -/
def ledger (ids : List String) (hids : ids.Nodup) (hgiven : ids ⊆ ["1"]) : Ledger where
  held := holding ids hids
  given := ["1"]
  sound told htold := by
    obtain ⟨id, hid, rfl⟩ := List.mem_map.1 htold
    exact hgiven hid

abbrev occupied : Ledger := ledger ["1"] (List.nodup_singleton _) (List.Subset.refl _)

abbrev cleared : Ledger := ledger [] List.nodup_nil (List.nil_subset _)

/-- What a client asks who finds the record and deletes it. -/
def clearing (client : Session) (id : String) : List Exchange :=
  [client.exchange id (.zoneInfo "a.org") zoneAnswer,
    client.exchange id (.recordInfo "a.org") (recordsAnswer ["1"]),
    client.exchange id (deletion "1") (recordsAnswer [])]

/-- A change that no record comes with is carried out on the ledger as on what is held. -/
theorem serves_ledger {client : Session} {id : String} {asked : Call} {reply : Reply}
    {ids others : List String} {hids : ids.Nodup} {hothers : others.Nodup}
    (hgiven : ids ⊆ ["1"]) (hothersGiven : others ⊆ ["1"]) (hsubset : others ⊆ ids)
    (hcarried : (holding ids hids).CarriesOut "a.org" asked (holding others hothers))
    (haccepted : (holding others hothers).Accepts asked reply) :
    (ledger ids hids hgiven).Serves "a.org" (client.exchange id asked reply).request reply
      (ledger others hothers hothersGiven) :=
  .call ⟨hcarried, List.Subset.refl _, fun _ htold _ => List.map_subset told hsubset htold⟩ haccepted

end Sample

open Sample

/-- Both clients read before either of them writes, so the second deletes a record that is gone. -/
theorem pushZone_side_by_side_pair :
    ∃ first second : Except SyncError Delta,
      Interleaves (Ledger.Serves "a.org") occupied
          ([session, colleague].map fun client => client.pushZone (zone []) true)
          [occupied, occupied, occupied, occupied, cleared, cleared] cleared
          [.done first, .done second] ∧
        ((occupied :: [occupied, occupied, occupied, occupied, cleared, cleared]).map
          Ledger.held).Pairwise (Keeps (zone [])) ∧
          (∃ delta, first = .ok delta) ∧ (∃ delta, second = .ok delta) ∧
            cleared.held.Meets (zone []) := by
  have hone : (recordsAnswer ["1"]).Tells RemoteRecord.decodeSet [told "1"] :=
    tells_of_parse? (by decide +kernel)
  have hnone : (recordsAnswer []).Tells RemoteRecord.decodeSet [] :=
    tells_of_parse? (by decide +kernel)
  have hends : ∀ (client : Session) (id : String),
      ((client.pushZone (zone []) true).replay
        [zoneAnswer, recordsAnswer ["1"], recordsAnswer []]).exchanges = clearing client id →
      ∃ result, (client.pushZone (zone []) true).Ends (clearing client id) result := by
    intro client id hexchanges
    exact ⟨_, hexchanges ▸ Dialogue.ends_run Dialogue.script _ _⟩
  obtain ⟨first, hfirst⟩ := hends session "session" (by decide +kernel)
  obtain ⟨second, hsecond⟩ := hends colleague "other" (by decide +kernel)
  have hzone : ∀ client id, occupied.Serves "a.org"
      (Session.exchange client id (.zoneInfo "a.org") zoneAnswer).request zoneAnswer occupied :=
    fun _ _ => serves_ledger _ _ (List.Subset.refl _) .zoneInfo (tells_zoneAnswer _)
  have hrecords : ∀ client id, occupied.Serves "a.org"
      (Session.exchange client id (.recordInfo "a.org") (recordsAnswer ["1"])).request
      (recordsAnswer ["1"]) occupied :=
    fun _ _ => serves_ledger _ _ (List.Subset.refl _) .recordInfo hone
  have hdeleted : ∀ client id, occupied.Serves "a.org"
      (Session.exchange client id (deletion "1") (recordsAnswer [])).request
      (recordsAnswer []) cleared :=
    fun _ _ => serves_ledger _ _ (by decide) (.updateRecords .nil (by decide) rfl) ⟨_, hnone⟩
  have hgone : ∀ client id, cleared.Serves "a.org"
      (Session.exchange client id (deletion "1") (recordsAnswer [])).request
      (recordsAnswer []) cleared :=
    fun _ _ => serves_ledger _ _ (List.Subset.refl _) (.updateRecords .nil (by decide) rfl)
      ⟨_, hnone⟩
  have hruns : Interleaves (Ledger.Serves "a.org") occupied
      ([session, colleague].map fun client => client.pushZone (zone []) true)
      [occupied, occupied, occupied, occupied, cleared, cleared] cleared
      [.done first, .done second] := by
    refine .ask_of_ends hfirst (hzone _ _) [] fun mine hmine => ?_
    refine .ask_of_ends hsecond (hzone _ _) [mine] fun yours hyours => ?_
    refine .ask_of_ends hmine (hrecords _ _) [] fun mine hmine => ?_
    refine .ask_of_ends hyours (hrecords _ _) [mine] fun yours hyours => ?_
    refine .ask_of_ends hmine (hdeleted _ _) [] fun mine hmine => ?_
    refine .ask_of_ends hyours (hgone _ _) [mine] fun yours hyours => ?_
    exact .done_of_ends hmine [] (.done_of_ends hyours [.done first] .rest)
  have hparse : ∃ layout, Layout.parse "a.org\n" = .ok layout ∧ zone [] ∈ layout.zones :=
    ⟨_, rfl, by decide⟩
  obtain ⟨layout, hparse, hdesired⟩ := hparse
  have hnodup : ((zone ["1"]).entries.map content).Nodup := List.nodup_singleton _
  obtain ⟨hkept, hmeets⟩ := pushZone_side_by_side (by decide) hparse hdesired
    (fetched_holding (by decide)) hnodup hruns
  obtain ⟨hok, hdone⟩ := hmeets first List.mem_cons_self
  exact ⟨first, second, hruns, hkept, hok,
    (hmeets second (List.mem_cons_of_mem _ List.mem_cons_self)).1, hdone⟩

end ZoneSync
