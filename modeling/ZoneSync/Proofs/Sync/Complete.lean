import ZoneSync.Proofs.Command.Print
import ZoneSync.Proofs.Sync.Convergence
import ZoneSync.Proofs.Sync.Exchanges

/-!
# Nothing is lost on the way to the provider

A record without an identifier cannot be deleted, and the batch of a change leaves it out. The
records that a comparison removes were told by the provider, so each of them has the identifier that
it was told with, and the records that it adds have none. So the batch holds one update for each
record of the change. It is sent unless it is empty or the settings before it were not accepted, and
writing the change succeeds exactly if all that had to be sent was accepted.
-/

namespace ZoneSync

open Record (Before)

/-! ### The batch -/

/-- The batch holds an update for each record of a change, if those to delete have identifiers. -/
theorem Delta.batch_eq {delta : Delta}
    (hids : ∀ record ∈ delta.removed, ∃ id, record.id = some id) :
    delta.batch = delta.removed.map (Record.updateWith · true) ++
      delta.added.map (Record.updateWith · false) := by
  have hremoved : delta.removed.filterMap (Record.update? · true) =
      delta.removed.map (Record.updateWith · true) := by
    rw [List.filterMap_eq_map_iff_forall_eq_some]
    intro record hrecord
    obtain ⟨id, hid⟩ := hids record hrecord
    rw [Record.update?_true, hid, Option.map_some]
  have hadded : delta.added.filterMap (Record.update? · false) =
      delta.added.map (Record.updateWith · false) := by
    rw [List.filterMap_eq_map_iff_forall_eq_some]
    exact fun record _ => record.update?_false
  rw [batch, hremoved, hadded]

theorem Delta.isNoop_iff {delta : Delta}
    (hbatch : delta.batch = delta.removed.map (Record.updateWith · true) ++
      delta.added.map (Record.updateWith · false)) :
    delta.isNoop = true ↔ delta.settings = none ∧ delta.batch = [] := by
  rw [hbatch]
  simp [isNoop, and_assoc]

theorem two_le_count_of_ne {α β : Type} [DecidableEq α] [DecidableEq β] {f : α → β} {xs : List α}
    {x y : α} (hx : x ∈ xs) (hy : y ∈ xs) (hne : x ≠ y) (hsame : f x = f y) :
    2 ≤ (xs.map f).count (f y) := by
  have hpair : ({x, y} : Finset α) ⊆ (xs.filter fun z => f z = f y).toFinset := by
    intro z hz
    rw [Finset.mem_insert, Finset.mem_singleton] at hz
    rcases hz with rfl | rfl <;> simp [hx, hy, hsame]
  have hcount : (xs.map f).count (f y) = (xs.filter fun z => f z = f y).length := by
    rw [List.count, List.countP_map, List.countP_eq_length_filter]
    rfl
  rw [hcount, ← Finset.card_pair hne]
  exact (Finset.card_le_card hpair).trans (List.toFinset_card_le _)

/-- What the batch of a change says, if it leads from the zone that the provider told to a declared
one. -/
structure Delta.IsComplete (records : List RemoteRecord) (desired : Zone) (delta : Delta) :
    Prop where
  batch : delta.batch = delta.removed.map (Record.updateWith · true) ++
    delta.added.map (Record.updateWith · false)
  length : delta.batch.length = delta.removed.length + delta.added.length
  removed_before : delta.removed.Pairwise Before
  removed_listed : ∀ record ∈ delta.removed, ∃ told ∈ records, told.deleted = false ∧
    told.check = .ok record ∧ record.id = some told.id
  added_sublist : delta.added.Sublist desired.entries
  added_id : ∀ record ∈ delta.added, record.id = none
  spares : ∀ record ∈ delta.removed, ∀ told ∈ records, record.id = some told.id →
    (∃ entry, told.check = .ok entry ∧ entry.content ∈ contents desired.entries) →
      2 ≤ (records.map RemoteRecord.id).count told.id
  distinct : ((RemoteRecord.kept records).map RemoteRecord.id).Nodup →
    (delta.removed.map Record.id).Nodup

variable {told : RemoteZone} {records : List RemoteRecord} {current desired : Zone}

theorem exists_told_of_mem_removed (hcurrent : told.toZone records = .ok current)
    {record : Record} (hrecord : record ∈ (reconcile current desired).removed) :
    ∃ told ∈ records, told.deleted = false ∧ told.check = .ok record ∧
      record.id = some told.id := by
  obtain ⟨-, hchecks, -⟩ := RemoteZone.toZone_eq_ok_iff.1 hcurrent
  obtain ⟨source, hsource, hcheck⟩ := exists_mem_of_forall₂ hchecks (mem_of_mem_removed hrecord)
  obtain ⟨hmem, hlive⟩ := List.mem_filter.1 hsource
  exact ⟨source, hmem, by simpa using hlive, hcheck, RemoteRecord.id_of_check hcheck⟩

theorem batch_reconcile (hcurrent : told.toZone records = .ok current) (desired : Zone) :
    (reconcile current desired).batch =
      (reconcile current desired).removed.map (Record.updateWith · true) ++
        (reconcile current desired).added.map (Record.updateWith · false) := by
  apply Delta.batch_eq
  intro record hrecord
  obtain ⟨source, -, -, -, hid⟩ := exists_told_of_mem_removed hcurrent hrecord
  exact ⟨source.id, hid⟩

theorem missingFrom_sublist (entries others : List Record) :
    (missingFrom entries others).Sublist entries :=
  List.filter_sublist.trans (Record.distinct_sublist entries)

theorem nodup_id_removed (hcurrent : told.toZone records = .ok current)
    (hnodup : ((RemoteRecord.kept records).map RemoteRecord.id).Nodup) :
    ((reconcile current desired).removed.map Record.id).Nodup := by
  obtain ⟨-, hchecks, -⟩ := RemoteZone.toZone_eq_ok_iff.1 hcurrent
  have hentries : (current.entries.map Record.id).Nodup := by
    rw [map_id_of_checks hchecks, ← Function.comp_def some, ← List.map_map]
    exact hnodup.map (Option.some_injective String)
  rw [reconcile_removed, ((Record.sort_perm _).map Record.id).nodup_iff]
  exact hentries.sublist ((missingFrom_sublist _ _).map Record.id)

/-- The batch loses nothing of the change and adds nothing to it. -/
theorem reconcile_isComplete (hcurrent : told.toZone records = .ok current)
    (hdeclared : desired.IsDeclared) :
    (reconcile current desired).IsComplete records desired where
  batch := batch_reconcile hcurrent desired
  length := by
    rw [batch_reconcile hcurrent desired, List.length_append, List.length_map, List.length_map]
  removed_before := by
    rw [reconcile_removed]
    exact Record.sort_pairwise_before (nodup_content_missingFrom _ _)
  removed_listed _ := exists_told_of_mem_removed hcurrent
  added_sublist := by
    rw [reconcile_added]
    exact missingFrom_sublist _ _
  added_id record hrecord := by
    rw [reconcile_added] at hrecord
    exact hdeclared.id_eq_none record ((missingFrom_sublist _ _).subset hrecord)
  spares record hrecord source hsource hid hdesired := by
    obtain ⟨entry, hentry, hwanted⟩ := hdesired
    obtain ⟨other, hother, -, hcheck, hsame⟩ := exists_told_of_mem_removed hcurrent hrecord
    refine two_le_count_of_ne hother hsource ?_ (Option.some.inj (hsame.symm.trans hid))
    -- One record has two contents, of which only one is desired.
    rintro rfl
    obtain rfl := Except.ok.inj (hcheck.symm.trans hentry)
    have hunwanted : record.content ∈ contents (reconcile current desired).removed := by
      rw [mem_contents]
      exact List.mem_map_of_mem hrecord
    rw [contents_removed, Finset.mem_sdiff] at hunwanted
    exact hunwanted.2 hwanted
  distinct := nodup_id_removed hcurrent

/-! ### Writing a change -/

namespace Session

variable {session : Session} {id : String} {delta : Delta} {exchanges : List Exchange}
  {result : Except SyncError Unit}

/-- The exchanges that write a change, for the replies that there are. -/
def sent (session : Session) (id : String) (delta : Delta) (zone records : Option Reply) :
    List Exchange :=
  (delta.settings.bind fun change => zone.map fun reply =>
      session.exchange id (.updateZone delta.domain ⟨delta.domain, change.new⟩) reply).toList ++
    (records.map (session.exchange id (.updateRecords delta.domain delta.batch))).toList

/-- The settings are sent if they differ. The batch is sent if it is not empty and the settings, if
there were any, were accepted. Writing succeeds if all that was to be sent was accepted. -/
structure IsWritten (delta : Delta) (zone records : Option Reply)
    (result : Except SyncError Unit) : Prop where
  zone_isSome : zone.isSome ↔ delta.settings.isSome
  records_isSome : records.isSome ↔ delta.batch ≠ [] ∧
    ∀ reply, zone = some reply → ∃ told, reply.Tells RemoteZone.decode told
  succeeds : result = .ok () ↔
    (delta.settings.isSome → ∃ reply told, zone = some reply ∧ reply.Tells RemoteZone.decode told) ∧
      (delta.batch ≠ [] →
        ∃ reply told, records = some reply ∧ reply.Tells RemoteRecord.decodeSet told)

/-- How a change is written by a session that is open, and that one which cannot send anything only
succeeds if there is nothing to write. -/
structure Applies (session : Session) (delta : Delta) (exchanges : List Exchange)
    (result : Except SyncError Unit) : Prop where
  silent : ∀ id, session.id = some id → session.endpoint.isWeb = true →
    (exchanges = [] ↔ delta.isNoop = true)
  written : ∀ id, session.id = some id → session.endpoint.isWeb = true →
    ∃ zone records, exchanges = session.sent id delta zone records ∧
      IsWritten delta zone records result
  unsent : session.id = none ∨ session.endpoint.isWeb = false →
    exchanges = [] ∧ (result = .ok () ↔ delta.isNoop = true)

theorem exists_records_of_sendsRecords (hsends : session.SendsRecords id delta exchanges result) :
    ∃ records : Option Reply,
      exchanges =
        (records.map (session.exchange id (.updateRecords delta.domain delta.batch))).toList ∧
      (records.isSome ↔ delta.batch ≠ []) ∧
      (result = .ok () ↔ (delta.batch ≠ [] →
        ∃ reply told, records = some reply ∧ reply.Tells RemoteRecord.decodeSet told)) := by
  cases hsends with
  | nothing hempty => exact ⟨none, rfl, by simp [hempty], by simp [hempty]⟩
  | @accepted reply told hnonempty htells =>
    refine ⟨some reply, rfl, by simp [hnonempty], iff_of_true rfl fun _ => ?_⟩
    exact ⟨reply, told, rfl, htells⟩
  | @refused reply error hnonempty hfails =>
    refine ⟨some reply, rfl, by simp [hnonempty], iff_of_false (by simp) fun hall => ?_⟩
    obtain ⟨_, told, ⟨rfl⟩, htells⟩ := hall hnonempty
    exact hfails told htells

theorem Sends.exists_isWritten (hsends : session.Sends id delta exchanges result) :
    ∃ zone records, exchanges = session.sent id delta zone records ∧
      IsWritten delta zone records result := by
  cases hsends with
  | unchanged hnone hrecords =>
    obtain ⟨records, rfl, hsome, hok⟩ := exists_records_of_sendsRecords hrecords
    refine ⟨none, records, by simp [sent, hnone], by simp [hnone], by simp [hsome], ?_⟩
    simp [hok, hnone]
  | @accepted change reply told _ _ hchange htells hrecords =>
    obtain ⟨records, rfl, hsome, hok⟩ := exists_records_of_sendsRecords hrecords
    have haccepted : ∃ told, reply.Tells RemoteZone.decode told := ⟨told, htells⟩
    refine ⟨some reply, records, by simp [sent, hchange], by simp [hchange], ?_, ?_⟩
    · simp [hsome, haccepted]
    · simp [hok, haccepted]
  | @refused change reply error hchange hfails =>
    have hrefused : ¬∃ told, reply.Tells RemoteZone.decode told := fun ⟨told, htells⟩ =>
      hfails told htells
    refine ⟨some reply, none, by simp [sent, hchange], by simp [hchange], ?_, ?_⟩
    · simp [hrefused]
    · simp [hchange, hrefused]

theorem ends_applyDelta_unsent (hclosed : session.id = none ∨ session.endpoint.isWeb = false)
    (hends : (session.applyDelta delta).Ends exchanges result) :
    exchanges = [] ∧ (result = .ok () ↔ delta.settings = none ∧ delta.batch = []) := by
  obtain ⟨first, rest, answer, rfl, hsettings, hrest⟩ := Dialogue.ends_bind_iff.1 hends
  rw [applySettings] at hsettings
  cases hchange : delta.settings with
  | none =>
    rw [Delta.zoneUpdate?, hchange] at hsettings
    obtain ⟨rfl, rfl⟩ := Dialogue.ends_done_iff.1 hsettings
    obtain ⟨records, last, answer, rfl, hrecords, hlast⟩ := Dialogue.ends_bind_iff.1 hrest
    obtain ⟨rfl, rfl⟩ := Dialogue.ends_done_iff.1 hlast
    rw [applyRecords] at hrecords
    split at hrecords
    · next hempty =>
      obtain ⟨rfl, rfl⟩ := Dialogue.ends_done_iff.1 hrecords
      exact ⟨rfl, iff_of_true rfl ⟨rfl, List.isEmpty_iff.1 hempty⟩⟩
    · next hbatch =>
      obtain ⟨sent, last, answer, rfl, hupdate, hlast⟩ := Dialogue.ends_bind_iff.1 hrecords
      obtain ⟨rfl, rfl⟩ := Dialogue.ends_done_iff.1 hlast
      obtain ⟨rfl, error, rfl⟩ := ends_query_unsent hclosed hupdate
      refine ⟨rfl, iff_of_false (by simp [Except.map, Except.mapError]) ?_⟩
      exact fun hnothing => hbatch (List.isEmpty_iff.2 hnothing.2)
  | some change =>
    rw [Delta.zoneUpdate?, hchange] at hsettings
    obtain ⟨sent, last, answer, rfl, hupdate, hlast⟩ := Dialogue.ends_bind_iff.1 hsettings
    obtain ⟨rfl, rfl⟩ := Dialogue.ends_done_iff.1 hlast
    obtain ⟨rfl, error, rfl⟩ := ends_query_unsent hclosed hupdate
    obtain ⟨rfl, rfl⟩ := Dialogue.ends_done_iff.1 hrest
    exact ⟨rfl, iff_of_false (by simp) (by simp)⟩

theorem IsWritten.sent_eq_nil_iff {zone records : Option Reply}
    (hwritten : IsWritten delta zone records result) :
    session.sent id delta zone records = [] ↔ delta.settings = none ∧ delta.batch = [] := by
  have hzone := hwritten.zone_isSome
  have hrecords := hwritten.records_isSome
  cases hchange : delta.settings with
  | none =>
    obtain rfl : zone = none := by simpa [hchange] using hzone
    cases records with
    | none =>
      have hempty : delta.batch = [] := by simpa using hrecords
      simp [sent, hchange, hempty]
    | some reply => simp [sent, hchange, (hrecords.1 rfl).1]
  | some change =>
    obtain ⟨reply, rfl⟩ := Option.isSome_iff_exists.1 (hzone.2 (by simp [hchange]))
    simp [sent, hchange]

theorem run_applyDelta_applies {σ : Type} {delta : Delta}
    (hbatch : delta.batch = delta.removed.map (Record.updateWith · true) ++
      delta.added.map (Record.updateWith · false))
    (session : Session) (partner : σ → Request → Reply × σ) (state : σ) :
    session.Applies delta ((session.applyDelta delta).run partner state).1.exchanges
      ((session.applyDelta delta).run partner state).1.result where
  silent id hopen hweb := by
    have hends := Dialogue.ends_run partner (session.applyDelta delta) state
    have hsends := ends_applyDelta hopen hweb hends
    obtain ⟨zone, records, hsent, hwritten⟩ := hsends.exists_isWritten
    rw [hsent, hwritten.sent_eq_nil_iff, Delta.isNoop_iff hbatch]
  written id hopen hweb :=
    (ends_applyDelta hopen hweb (Dialogue.ends_run partner _ state)).exists_isWritten
  unsent hclosed := by
    rw [Delta.isNoop_iff hbatch]
    exact ends_applyDelta_unsent hclosed (Dialogue.ends_run partner _ state)

end Session

/-- Whatever the provider told and whatever text declares the zone, the change between the two has a
complete batch, and writing it sends what is due and tells of success only if all was accepted. -/
theorem write_isComplete {told : RemoteZone} {records : List RemoteRecord} {current desired : Zone}
    {text : String} {layout : Layout} (hcurrent : told.toZone records = .ok current)
    (hparse : Layout.parse text = .ok layout) (hdesired : desired ∈ layout.zones) :
    (reconcile current desired).IsComplete records desired ∧
      ∀ (session : Session) (σ : Type) (partner : σ → Request → Reply × σ) (state : σ),
        session.Applies (reconcile current desired)
          ((session.applyDelta (reconcile current desired)).run partner state).1.exchanges
          ((session.applyDelta (reconcile current desired)).run partner state).1.result :=
  ⟨reconcile_isComplete hcurrent ⟨text, layout, hparse, hdesired⟩, fun session _ partner state =>
    Session.run_applyDelta_applies (batch_reconcile hcurrent desired) session partner state⟩

open Sample

/-- One record is held that is not declared, and other settings are. -/
theorem write_isComplete_sample :
    ∃ layout desired, Layout.parse "a.org\n\t.ttl\t300\n\tA\tnew\t192.0.2.7\n" = .ok layout ∧
      desired ∈ layout.zones ∧
        (holding ["1"] (by decide)).zone.toZone [Sample.told "1"] = .ok (zone ["1"]) ∧
          (reconcile (zone ["1"]) desired).IsComplete [Sample.told "1"] desired ∧
            session.Applies (reconcile (zone ["1"]) desired)
              ((session.applyDelta (reconcile (zone ["1"]) desired)).replay
                [zoneAnswer, recordsAnswer ["2"]]).exchanges
              ((session.applyDelta (reconcile (zone ["1"]) desired)).replay
                [zoneAnswer, recordsAnswer ["2"]]).result := by
  have hcurrent : (holding ["1"] (by decide)).fetched = .ok (zone ["1"]) := fetched_holding _
  obtain ⟨layout, hparse, desired, hdesired⟩ : ∃ layout,
      Layout.parse "a.org\n\t.ttl\t300\n\tA\tnew\t192.0.2.7\n" = .ok layout ∧
        ∃ desired, desired ∈ layout.zones := ⟨_, rfl, _, List.mem_cons_self⟩
  obtain ⟨hcomplete, happlies⟩ := write_isComplete hcurrent hparse hdesired
  exact ⟨layout, desired, hparse, hdesired, hcurrent, hcomplete,
    happlies session _ Dialogue.script _⟩

end ZoneSync
