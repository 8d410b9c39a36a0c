import Mathlib.Data.List.Perm.Basic
import ZoneSync.Proofs.Provider.Conversion
import ZoneSync.Proofs.Reconciliation
import ZoneSync.Proofs.Sync.Push

/-!
# What the updates of a difference leave

The batch of a difference flags exactly the removed records for deletion, by their identifiers, and
stores exactly the added ones. Identifiers are held only once, so the records that were removed are
deleted and all others are kept. The zone that is fetched afterwards has the desired settings, and
the contents of the records that were kept and of those that were added.
-/

namespace ZoneSync

open Record (content)
open Session (Written SettingsWritten RecordsWritten)

/-! ### The updates of a difference -/

theorem deletedIds_batch (delta : Delta) :
    deletedIds delta.batch = delta.removed.filterMap Record.id := by
  have hremoved : deletedIds (delta.removed.filterMap (Record.update? · true)) =
      delta.removed.filterMap Record.id := by
    rw [deletedIds]
    induction delta.removed with
    | nil => rfl
    | cons record rest ih =>
      rw [List.filterMap_cons, List.filterMap_cons, Record.update?_true]
      cases hid : record.id with
      | none => exact ih
      | some id =>
        rw [Option.map_some]
        simp only [List.filter_cons_of_pos, Record.updateWith, List.filterMap_cons, hid, ih]
  have hadded : deletedIds (delta.added.filterMap (Record.update? · false)) = [] := by
    rw [deletedIds]
    induction delta.added with
    | nil => rfl
    | cons record rest ih => exact ih
  rw [deletedIds, Delta.batch, List.filter_append, List.filterMap_append, ← deletedIds, hremoved,
    ← deletedIds, hadded, List.append_nil]

theorem stored_batch (delta : Delta) :
    delta.batch.filter (fun update => !update.delete) =
      delta.added.map (Record.updateWith · false) := by
  have hremoved : (delta.removed.filterMap (Record.update? · true)).filter
      (fun update => !update.delete) = [] := by
    rw [List.filter_eq_nil_iff]
    intro update hupdate
    obtain ⟨record, -, hsome⟩ := List.mem_filterMap.1 hupdate
    rw [Record.update?_true] at hsome
    obtain ⟨id, -, rfl⟩ := Option.map_eq_some_iff.1 hsome
    simp [Record.updateWith]
  have hadded : delta.added.filterMap (Record.update? · false) =
      delta.added.map (Record.updateWith · false) := by
    rw [List.filterMap_eq_map_iff_forall_eq_some]
    intro record _
    exact record.update?_false
  have hkept : (delta.added.map (Record.updateWith · false)).filter
      (fun update => !update.delete) = delta.added.map (Record.updateWith · false) := by
    rw [List.filter_eq_self]
    intro update hupdate
    obtain ⟨record, -, rfl⟩ := List.mem_map.1 hupdate
    rfl
  rw [Delta.batch, List.filter_append, hremoved, hadded, hkept, List.nil_append]

/-! ### What the updates leave -/

variable {held middle after : Held} {current desired reached : Zone}

/-- The settings are the desired ones, whether or not they had to be written. -/
theorem checkSettings_of_settingsWritten (hfetched : held.fetched = .ok current)
    (hpositive : desired.settings.Positive)
    (hwritten : SettingsWritten (reconcile current desired) held middle) :
    middle.zone.checkSettings = .ok desired.settings ∧ middle.records = held.records := by
  by_cases hsame : current.settings = desired.settings
  · have hnone : (reconcile current desired).zoneUpdate? = none := by
      simp [Delta.zoneUpdate?, reconcile, hsame]
    rw [SettingsWritten, hnone] at hwritten
    subst hwritten
    rw [← hsame]
    exact ⟨(Held.fetched_eq_ok_iff.1 hfetched).1, rfl⟩
  · have hsome : (reconcile current desired).zoneUpdate? =
        some ⟨desired.domain, desired.settings⟩ := by
      simp [Delta.zoneUpdate?, reconcile, hsame]
    rw [SettingsWritten, hsome] at hwritten
    cases hwritten with
    | updateZone _ hholds hrecords => exact ⟨hholds.checkSettings hpositive, hrecords⟩

theorem exists_stored_of_carriesOut {delta : Delta} {domain : String}
    (hcarried : middle.CarriesOut domain (.updateRecords domain delta.batch) after) :
    ∃ stored, List.Forall₂ RecordUpdate.IsStored
        (delta.added.map (Record.updateWith · false)) stored ∧
      after.records.Perm (middle.records.filter
        (fun record => record.id ∉ delta.removed.filterMap Record.id) ++ stored) ∧
      after.zone = middle.zone := by
  rw [← stored_batch, ← deletedIds_batch]
  cases hcarried with
  | updateRecords hstored hperm hzone => exact ⟨_, hstored, hperm, hzone⟩

/-- Deletions and additions, whether or not there were any to be written. -/
theorem exists_stored_of_recordsWritten {delta : Delta}
    (hwritten : RecordsWritten delta middle after) :
    ∃ stored, List.Forall₂ RecordUpdate.IsStored
        (delta.added.map (Record.updateWith · false)) stored ∧
      after.records.Perm (middle.records.filter
        (fun record => record.id ∉ delta.removed.filterMap Record.id) ++ stored) ∧
      after.zone = middle.zone := by
  rw [RecordsWritten] at hwritten
  split at hwritten
  · next hempty =>
    rw [List.isEmpty_iff] at hempty
    subst hwritten
    rw [← stored_batch, ← deletedIds_batch, hempty]
    refine ⟨[], .nil, ?_, rfl⟩
    rw [List.append_nil, List.filter_eq_self.2]
    intro record _
    rfl
  · exact exists_stored_of_carriesOut hwritten

theorem exists_checks_of_isStored {records : List Record} {stored : List RemoteRecord}
    (hstored : List.Forall₂ RecordUpdate.IsStored
      (records.map (Record.updateWith · false)) stored) :
    ∃ fetched, List.Forall₂ (fun told record => told.check = .ok record) stored fetched ∧
      fetched.map content = records.map content ∧ RemoteRecord.kept stored = stored := by
  induction records generalizing stored with
  | nil =>
    cases hstored with
    | nil => exact ⟨[], .nil, rfl, rfl⟩
  | cons record rest ih =>
    cases hstored with
    | cons hfirst hrest =>
      obtain ⟨others, hchecks, hcontents, hkept⟩ := ih hrest
      obtain ⟨fetched, hcheck, hcontent⟩ := Record.exists_check_of_isStored hfirst
      refine ⟨fetched :: others, .cons hcheck hchecks, ?_, ?_⟩
      · rw [List.map_cons, List.map_cons, hcontent, hcontents]
      · rw [RemoteRecord.kept, List.filter_cons_of_pos (by rw [hfirst.deleted]; rfl),
          ← RemoteRecord.kept, hkept]

/-- What is removed and what is kept make up what there was. -/
theorem removed_append_kept_perm {entries removed : List Record}
    (hids : (entries.map Record.id).Nodup) (hremoved : removed.Nodup)
    (hsubset : ∀ record ∈ removed, record ∈ entries) :
    (removed ++ entries.filter fun record => record.id ∉ removed.map Record.id).Perm entries := by
  have hsplit := List.filter_append_perm (fun record => record.id ∈ removed.map Record.id) entries
  have hnodup : (entries.filter fun record => record.id ∈ removed.map Record.id).Nodup :=
    (List.Nodup.of_map _ hids).filter _
  have hfirst : (entries.filter fun record => record.id ∈ removed.map Record.id).Perm removed := by
    rw [List.perm_ext_iff_of_nodup hnodup hremoved]
    intro record
    rw [List.mem_filter, decide_eq_true_eq, List.mem_map]
    constructor
    · rintro ⟨hrecord, other, hother, heq⟩
      rw [← List.inj_on_of_nodup_map hids (hsubset other hother) hrecord heq]
      exact hother
    · intro hrecord
      exact ⟨hsubset record hrecord, record, hrecord, rfl⟩
  have hrest : (entries.filter fun record => !decide (record.id ∈ removed.map Record.id)) =
      entries.filter fun record => record.id ∉ removed.map Record.id :=
    List.filter_congr fun record _ => (decide_not ..).symm
  rw [hrest] at hsplit
  exact (hfirst.symm.append_right _).trans hsplit

theorem mem_of_mem_removed {record : Record}
    (hrecord : record ∈ (reconcile current desired).removed) : record ∈ current.entries := by
  rw [reconcile_removed, Record.mem_sort] at hrecord
  exact (Record.distinct_sublist _).subset (List.mem_filter.1 hrecord).1

theorem nodup_content_removed (current desired : Zone) :
    ((reconcile current desired).removed.map content).Nodup := by
  rw [reconcile_removed, ((Record.sort_perm _).map content).nodup_iff]
  exact nodup_content_missingFrom _ _

/-- The records that the provider keeps, as entries. -/
theorem checks_filter {told : List RemoteRecord} {entries removed : List Record}
    (hchecks : List.Forall₂ (fun told record => told.check = .ok record)
      (RemoteRecord.kept told) entries) :
    List.Forall₂ (fun told record => told.check = .ok record)
      (RemoteRecord.kept (told.filter fun told => told.id ∉ removed.filterMap Record.id))
      (entries.filter fun record => record.id ∉ removed.map Record.id) := by
  have hcomm : RemoteRecord.kept (told.filter fun told => told.id ∉ removed.filterMap Record.id) =
      (RemoteRecord.kept told).filter fun told => told.id ∉ removed.filterMap Record.id := by
    rw [RemoteRecord.kept, RemoteRecord.kept, List.filter_filter, List.filter_filter]
    exact List.filter_congr fun _ _ => Bool.and_comm _ _
  rw [hcomm]
  refine List.rel_filter ?_ hchecks
  intro told record hcheck
  have hid := RemoteRecord.id_of_check hcheck
  have hiff : told.id ∈ removed.filterMap Record.id ↔ record.id ∈ removed.map Record.id := by
    rw [hid, List.mem_filterMap, List.mem_map]
  simp only [decide_eq_true_eq, hiff]

/-- Deleting some of the records and storing others leaves the entries that were not deleted beside
those that were stored. -/
theorem exists_fetched_of_stored {removed added : List Record} {stored : List RemoteRecord}
    {settings : Settings} (hfetched : held.fetched = .ok current) (hremoved : removed.Nodup)
    (hsubset : ∀ record ∈ removed, record ∈ current.entries)
    (hstored : List.Forall₂ RecordUpdate.IsStored (added.map (Record.updateWith · false)) stored)
    (hperm : after.records.Perm
      (held.records.filter (fun record => record.id ∉ removed.filterMap Record.id) ++ stored))
    (hsettings : after.zone.checkSettings = .ok settings) :
    ∃ reached, after.fetched = .ok reached ∧ reached.settings = settings ∧
      ∃ kept : List Record, (removed ++ kept).Perm current.entries ∧
        (reached.entries.map content).Perm (kept.map content ++ added.map content) := by
  obtain ⟨fetched, hnew, hcontents, hlive⟩ := exists_checks_of_isStored hstored
  obtain ⟨-, hold, -⟩ := Held.fetched_eq_ok_iff.1 hfetched
  have hall := List.rel_append (@checks_filter _ _ removed hold) hnew
  have hkept : (RemoteRecord.kept after.records).Perm
      (RemoteRecord.kept (held.records.filter fun told =>
        told.id ∉ removed.filterMap Record.id) ++ stored) := by
    have hfilter := hperm.filter fun told => !told.deleted
    rw [List.filter_append] at hfilter
    rw [← hlive]
    exact hfilter
  obtain ⟨entries, hchecks, hentries⟩ := List.perm_comp_forall₂ hkept hall
  refine ⟨⟨after.zone.name, settings, after.zone.serial, entries⟩, ?_, rfl, _,
    removed_append_kept_perm (Held.nodup_id hfetched) hremoved hsubset, ?_⟩
  · exact Held.fetched_eq_ok_iff.2 ⟨hsettings, hchecks, rfl, rfl⟩
  · have hmap := hentries.map content
    rw [List.map_append, hcontents] at hmap
    exact hmap

/-- After the updates of a difference the provider holds a zone with the desired settings, and with
the records that were neither removed nor added beside those that were added. -/
theorem exists_fetched_of_written (hfetched : held.fetched = .ok current)
    (hpositive : desired.settings.Positive)
    (hwritten : Written (reconcile current desired) held after) :
    ∃ reached, after.fetched = .ok reached ∧ reached.settings = desired.settings ∧
      ∃ kept : List Record,
        ((reconcile current desired).removed ++ kept).Perm current.entries ∧
          (reached.entries.map content).Perm
            (kept.map content ++ (reconcile current desired).added.map content) := by
  obtain ⟨middle, hsettings, hrecords⟩ := hwritten
  obtain ⟨hcheck, hsame⟩ := checkSettings_of_settingsWritten hfetched hpositive hsettings
  obtain ⟨stored, hstored, hperm, hzone⟩ := exists_stored_of_recordsWritten hrecords
  rw [hsame] at hperm
  exact exists_fetched_of_stored hfetched
    (List.Nodup.of_map content (nodup_content_removed current desired))
    (fun record hrecord => mem_of_mem_removed hrecord) hstored hperm (hzone ▸ hcheck)

end ZoneSync
