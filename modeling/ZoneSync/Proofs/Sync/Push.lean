import ZoneSync.Proofs.Layout.Reading
import ZoneSync.Proofs.Provider.Held
import ZoneSync.Sync

/-!
# What a push does to the provider

A push asks for the zone and the records, and compares them with what is desired. With the settings
that differ it sends one update of the zone, and with the records that differ one update of the
records. So an accepted push changes what the provider holds by these two updates, as far as they
are not empty, and by nothing else.
-/

namespace ZoneSync

variable {session : Session} {id domain : String} {held : Held}

/-- No exchange asks for a change. -/
def ReadOnly (exchanges : List Exchange) : Prop :=
  ∀ exchange ∈ exchanges, exchange.isWrite = false

theorem readOnly_append {exchanges others : List Exchange} (hexchanges : ReadOnly exchanges)
    (hothers : ReadOnly others) : ReadOnly (exchanges ++ others) := by
  intro exchange hmem
  rcases List.mem_append.1 hmem with hmem | hmem
  · exact hexchanges exchange hmem
  · exact hothers exchange hmem

namespace Session

/-! ### Reading -/

/-- A call that only asks returns what is held and changes nothing. -/
theorem ensures_read {α : Type} {asked : Call} {decode : Json → Except DecodeError α} {data : α}
    (hopen : session.id = some id) (hweb : session.endpoint.isWeb = true)
    (hread : asked.isWrite = false)
    (hcarried : ∀ after, held.CarriesOut domain asked after → after = held)
    (htells : ∀ reply, held.Accepts asked reply → reply.Tells decode data) :
    Ensures domain held (session.query asked decode) fun result exchanges after =>
      result = .ok data ∧ after = held ∧ ReadOnly exchanges := by
  apply ensures_query hopen hweb
  intro reply middle hmiddle haccepted
  have hsame := hcarried middle hmiddle
  subst hsame
  refine ⟨read_of_tells (htells reply haccepted), rfl, ?_⟩
  intro exchange hmem
  rw [List.mem_singleton.1 hmem]
  exact hread

theorem ensures_zoneInfo (hopen : session.id = some id) (hweb : session.endpoint.isWeb = true) :
    Ensures domain held (session.zoneInfo domain) fun result exchanges after =>
      result = .ok held.zone ∧ after = held ∧ ReadOnly exchanges := by
  refine ensures_read hopen hweb rfl ?_ fun reply haccepted => haccepted
  rintro after ⟨⟩
  rfl

theorem ensures_recordInfo (hopen : session.id = some id) (hweb : session.endpoint.isWeb = true) :
    Ensures domain held (session.recordInfo domain) fun result exchanges after =>
      result = .ok held.records ∧ after = held ∧ ReadOnly exchanges := by
  refine ensures_read hopen hweb rfl ?_ fun reply haccepted => haccepted
  rintro after ⟨⟩
  rfl

/-- Fetching gives the zone that is held and changes nothing. -/
theorem ensures_fetchZone (hopen : session.id = some id) (hweb : session.endpoint.isWeb = true) :
    Ensures domain held (session.fetchZone domain) fun result exchanges after =>
      result = held.fetched ∧ after = held ∧ ReadOnly exchanges := by
  rw [fetchZone]
  apply (ensures_zoneInfo hopen hweb).bind
  rintro result exchanges middle ⟨rfl, rfl, hexchanges⟩
  apply (ensures_recordInfo hopen hweb).bind
  rintro result others after ⟨rfl, rfl, hothers⟩
  apply ensures_done
  rw [List.append_nil]
  exact ⟨rfl, rfl, readOnly_append hexchanges hothers⟩

/-! ### Writing -/

/-- What is held after the settings of a change have been written. -/
def SettingsWritten (delta : Delta) (held after : Held) : Prop :=
  match delta.zoneUpdate? with
  | none => after = held
  | some update => held.CarriesOut delta.domain (.updateZone delta.domain update) after

/-- What is held after the records of a change have been written. -/
def RecordsWritten (delta : Delta) (held after : Held) : Prop :=
  if delta.batch.isEmpty then after = held
  else held.CarriesOut delta.domain (.updateRecords delta.domain delta.batch) after

/-- A call that changes something is carried out. -/
theorem ensures_write {α : Type} {asked : Call} {decode : Json → Except DecodeError α}
    (hopen : session.id = some id) (hweb : session.endpoint.isWeb = true)
    (htells : ∀ after reply, Held.Accepts after asked reply → ∃ told, reply.Tells decode told) :
    Ensures domain held (session.query asked decode) fun result _ after =>
      (∃ told, result = .ok told) ∧ held.CarriesOut domain asked after := by
  apply ensures_query hopen hweb
  intro reply middle hcarried haccepted
  obtain ⟨told, htold⟩ := htells middle reply haccepted
  exact ⟨⟨told, read_of_tells htold⟩, hcarried⟩

variable {delta : Delta}

theorem ensures_applySettings (hopen : session.id = some id)
    (hweb : session.endpoint.isWeb = true) :
    Ensures delta.domain held (session.applySettings delta) fun result exchanges after =>
      result = .ok () ∧ SettingsWritten delta held after ∧
        (delta.zoneUpdate? = none → exchanges = []) := by
  rw [applySettings]
  cases hupdate : delta.zoneUpdate? with
  | none =>
    apply ensures_done
    refine ⟨rfl, ?_, fun _ => rfl⟩
    rw [SettingsWritten, hupdate]
  | some update =>
    have hupdated : Ensures delta.domain held (session.updateZone delta.domain update)
        fun result _ after => (∃ told, result = .ok told) ∧
          held.CarriesOut delta.domain (.updateZone delta.domain update) after :=
      ensures_write hopen hweb fun _ _ haccepted => haccepted
    apply hupdated.bind
    rintro result exchanges middle ⟨⟨told, rfl⟩, hcarried⟩
    apply ensures_done
    refine ⟨rfl, ?_, fun h => absurd h (by simp)⟩
    rw [SettingsWritten, hupdate]
    exact hcarried

theorem ensures_applyRecords (hopen : session.id = some id)
    (hweb : session.endpoint.isWeb = true) :
    Ensures delta.domain held (session.applyRecords delta) fun result exchanges after =>
      result = .ok () ∧ RecordsWritten delta held after ∧
        (delta.batch = [] → exchanges = []) := by
  rw [applyRecords]
  split
  · next hempty =>
    apply ensures_done
    refine ⟨rfl, ?_, fun _ => rfl⟩
    rw [RecordsWritten, if_pos hempty]
  · next hnonempty =>
    have hupdated : Ensures delta.domain held (session.updateRecords delta.domain delta.batch)
        fun result _ after => (∃ told, result = .ok told) ∧
          held.CarriesOut delta.domain (.updateRecords delta.domain delta.batch) after :=
      ensures_write hopen hweb fun _ _ haccepted => haccepted
    apply hupdated.bind
    rintro result exchanges middle ⟨⟨told, rfl⟩, hcarried⟩
    apply ensures_done
    refine ⟨rfl, ?_, fun h => absurd (List.isEmpty_iff.2 h) hnonempty⟩
    rw [RecordsWritten, if_neg hnonempty]
    exact hcarried

/-- What is held after a change has been written. -/
def Written (delta : Delta) (held after : Held) : Prop :=
  ∃ middle, SettingsWritten delta held middle ∧ RecordsWritten delta middle after

theorem ensures_applyDelta (hopen : session.id = some id) (hweb : session.endpoint.isWeb = true) :
    Ensures delta.domain held (session.applyDelta delta) fun result exchanges after =>
      result = .ok () ∧ Written delta held after ∧
        (delta.zoneUpdate? = none → delta.batch = [] → exchanges = []) := by
  rw [applyDelta]
  apply (ensures_applySettings hopen hweb).bind
  rintro result exchanges middle ⟨rfl, hsettings, hnone⟩
  apply (ensures_applyRecords hopen hweb).bind
  rintro result others after ⟨rfl, hrecords, hempty⟩
  apply ensures_done
  refine ⟨rfl, ⟨middle, hsettings, hrecords⟩, fun hupdate hbatch => ?_⟩
  rw [hnone hupdate, hempty hbatch]
  rfl

/-- A change of nothing has nothing to write. -/
theorem nothing_of_isNoop (hnoop : delta.isNoop = true) :
    delta.zoneUpdate? = none ∧ delta.batch = [] := by
  simp only [Delta.isNoop, Bool.and_eq_true, Option.isNone_iff_eq_none, List.isEmpty_iff] at hnoop
  obtain ⟨⟨hsettings, hremoved⟩, hadded⟩ := hnoop
  rw [Delta.zoneUpdate?, Delta.batch, hsettings, hremoved, hadded]
  exact ⟨rfl, rfl⟩

/-- An accepted push returns the difference, and the provider has taken it. -/
theorem ensures_pushZone {desired current : Zone} (hopen : session.id = some id)
    (hweb : session.endpoint.isWeb = true) (hfetched : held.fetched = .ok current) :
    Ensures desired.domain held (session.pushZone desired true) fun result exchanges after =>
      result = .ok (reconcile current desired) ∧ Written (reconcile current desired) held after ∧
        ((reconcile current desired).isNoop = true → ReadOnly exchanges) := by
  rw [pushZone]
  apply (ensures_fetchZone hopen hweb).bind
  rintro result exchanges middle ⟨rfl, rfl, hexchanges⟩
  rw [hfetched]
  apply (@ensures_applyDelta session id middle (reconcile current desired) hopen hweb).bind
  rintro result others after ⟨rfl, hwritten, hnothing⟩
  apply ensures_done
  refine ⟨rfl, hwritten, fun hnoop => ?_⟩
  obtain ⟨hupdate, hbatch⟩ := nothing_of_isNoop hnoop
  rw [hnothing hupdate hbatch, List.append_nil, List.append_nil]
  exact hexchanges

end Session

end ZoneSync
