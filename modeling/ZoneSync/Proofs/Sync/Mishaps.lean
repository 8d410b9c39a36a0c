import ZoneSync.Proofs.Sync.Exchanges
import ZoneSync.Proofs.Sync.Written

/-!
# What may come of one request

A request may fail although the provider has carried it out, and of a batch the provider may have
carried out any part. Two facts are kept by every request of a push, whatever comes of it: no content
is held twice, as only contents that were not held are stored, and no record of desired content is
deleted, as only records of other contents are flagged.
-/

namespace ZoneSync

open Record (content)

variable {domain : String} {held middle after : Held} {current desired : Zone}

/-! ### What may come of a request -/

/-- The call fails for the reply. -/
def Reply.Refuses (reply : Reply) : Call → Prop
  | .logout => False
  | .zoneInfo _ | .updateZone _ _ => reply.Fails RemoteZone.decode
  | .recordInfo _ | .updateRecords _ _ => reply.Fails RemoteRecord.decodeSet

/-- Carrying out the first call is a part of carrying out the second. -/
inductive Call.IsPartOf : Call → Call → Prop
  | whole {asked : Call} : IsPartOf asked asked
  | batch {domain : String} {part batch : List RecordUpdate} :
    part.Sublist batch → IsPartOf (.updateRecords domain part) (.updateRecords domain batch)

/-- What may be held after a call, and the reply to it. -/
inductive Held.MayBecome (domain : String) (held : Held) : Call → Reply → Held → Prop
  | accepted {asked : Call} {reply : Reply} {after : Held} :
    held.CarriesOut domain asked after → after.Accepts asked reply →
      MayBecome domain held asked reply after
  | rejected {asked : Call} {reply : Reply} :
    reply.Refuses asked → MayBecome domain held asked reply held
  | lost {asked part : Call} {reply : Reply} {after : Held} :
    reply.Refuses asked → part.IsPartOf asked → held.CarriesOut domain part after →
      MayBecome domain held asked reply after

/-- All requests are calls about the domain. The moments are what is held after each of them. -/
inductive Weathers (domain : String) : Held → List Exchange → List Held → Held → Prop
  | nil {held : Held} : Weathers domain held [] [] held
  | cons {held middle after : Held} {endpoint : Url} {account : Account} {id : String}
    {asked : Call} {reply : Reply} {rest : List Exchange} {moments : List Held} :
    held.MayBecome domain asked reply middle → Weathers domain middle rest moments after →
      Weathers domain held (⟨⟨endpoint, .call account id asked⟩, reply⟩ :: rest)
        (middle :: moments) after

theorem weathers_append {exchanges others : List Exchange} {moments : List Held}
    (hweathers : Weathers domain held (exchanges ++ others) moments after) :
    ∃ first last middle, moments = first ++ last ∧ Weathers domain held exchanges first middle ∧
      Weathers domain middle others last after := by
  induction exchanges generalizing held moments with
  | nil => exact ⟨[], moments, held, rfl, .nil, hweathers⟩
  | cons exchange rest ih =>
    cases hweathers with
    | cons hbecome hrest =>
      obtain ⟨first, last, middle, rfl, hfirst, hlast⟩ := ih hrest
      exact ⟨_ :: first, last, middle, rfl, .cons hbecome hfirst, hlast⟩

theorem Weathers.of_exchange {session : Session} {id : String} {asked : Call} {reply : Reply}
    {moments : List Held}
    (hweathers : Weathers domain held [session.exchange id asked reply] moments after) :
    held.MayBecome domain asked reply after ∧ moments = [after] := by
  cases hweathers with
  | cons hbecome hrest =>
    cases hrest with
    | nil => exact ⟨hbecome, rfl⟩

/-! ### What is kept -/

/-- What is held can be fetched, and no content of it is held twice. -/
def Held.IsClean (held : Held) : Prop :=
  ∃ zone, held.fetched = .ok zone ∧ (zone.entries.map content).Nodup

/-- No record of a content that is desired has been deleted. -/
def Keeps (desired : Zone) (before after : Held) : Prop :=
  ∀ told ∈ before.records, ∀ record, told.check = .ok record →
    record.content ∈ contents desired.entries → told ∈ after.records

theorem Keeps.of_records_eq (hrecords : after.records = held.records) :
    Keeps desired held after :=
  fun _ htold _ _ _ => hrecords ▸ htold

theorem Keeps.refl (held : Held) : Keeps desired held held :=
  .of_records_eq rfl

theorem Keeps.trans (hfirst : Keeps desired held middle) (hrest : Keeps desired middle after) :
    Keeps desired held after :=
  fun told htold record hcheck hdesired =>
    hrest told (hfirst told htold record hcheck hdesired) record hcheck hdesired

/-- From what was held to what is held after the moments, nothing was lost or doubled. -/
structure IsSafe (desired : Zone) (held : Held) (moments : List Held) (after : Held) : Prop where
  clean : ∀ moment ∈ held :: moments, moment.IsClean
  kept : (held :: moments).Pairwise (Keeps desired)
  last : ∀ moment ∈ held :: moments, Keeps desired moment after
  reached : after.IsClean

theorem isSafe_nil (hclean : held.IsClean) : IsSafe desired held [] held where
  clean moment hmoment := by
    rw [List.mem_singleton.1 hmoment]
    exact hclean
  kept := List.pairwise_singleton _ _
  last moment hmoment := by
    rw [List.mem_singleton.1 hmoment]
    exact .refl held
  reached := hclean

theorem isSafe_singleton (hclean : held.IsClean) (hafter : after.IsClean)
    (hkeeps : Keeps desired held after) : IsSafe desired held [after] after where
  clean moment hmoment := by
    rcases List.mem_cons.1 hmoment with rfl | hmoment
    · exact hclean
    · rw [List.mem_singleton.1 hmoment]
      exact hafter
  kept := List.pairwise_pair.2 hkeeps
  last moment hmoment := by
    rcases List.mem_cons.1 hmoment with rfl | hmoment
    · exact hkeeps
    · rw [List.mem_singleton.1 hmoment]
      exact .refl after
  reached := hafter

theorem IsSafe.append {moments others : List Held} (hfirst : IsSafe desired held moments middle)
    (hrest : IsSafe desired middle others after) :
    IsSafe desired held (moments ++ others) after := by
  obtain ⟨hmiddle, hothers⟩ := List.pairwise_cons.1 hrest.kept
  refine ⟨fun moment hmoment => ?_, ?_, fun moment hmoment => ?_, hrest.reached⟩
  · rw [← List.cons_append, List.mem_append] at hmoment
    rcases hmoment with hmoment | hmoment
    · exact hfirst.clean moment hmoment
    · exact hrest.clean moment (List.mem_cons_of_mem _ hmoment)
  · rw [← List.cons_append, List.pairwise_append]
    exact ⟨hfirst.kept, hothers, fun moment hmoment other hother =>
      (hfirst.last moment hmoment).trans (hmiddle other hother)⟩
  · rw [← List.cons_append, List.mem_append] at hmoment
    rcases hmoment with hmoment | hmoment
    · exact (hfirst.last moment hmoment).trans (hrest.last middle List.mem_cons_self)
    · exact hrest.last moment (List.mem_cons_of_mem _ hmoment)

/-! ### One request -/

variable {asked : Call} {reply : Reply}

/-- A request that only asks changes nothing, and what it is told is what is held. -/
theorem Held.MayBecome.eq_of_zoneInfo (hbecome : held.MayBecome domain (.zoneInfo domain) reply after) :
    after = held ∧ ∀ told, reply.Tells RemoteZone.decode told → told = held.zone := by
  cases hbecome with
  | accepted hcarried haccepted =>
    cases hcarried with
    | zoneInfo => exact ⟨rfl, fun told htold => Session.tells_unique htold haccepted⟩
  | rejected hrefuses => exact ⟨rfl, fun told htold => absurd htold (hrefuses told)⟩
  | lost hrefuses hpart hcarried =>
    cases hpart with
    | whole =>
      cases hcarried with
      | zoneInfo => exact ⟨rfl, fun told htold => absurd htold (hrefuses told)⟩

theorem Held.MayBecome.eq_of_recordInfo
    (hbecome : held.MayBecome domain (.recordInfo domain) reply after) :
    after = held ∧ ∀ told, reply.Tells RemoteRecord.decodeSet told → told = held.records := by
  cases hbecome with
  | accepted hcarried haccepted =>
    cases hcarried with
    | recordInfo => exact ⟨rfl, fun told htold => Session.tells_unique htold haccepted⟩
  | rejected hrefuses => exact ⟨rfl, fun told htold => absurd htold (hrefuses told)⟩
  | lost hrefuses hpart hcarried =>
    cases hpart with
    | whole =>
      cases hcarried with
      | recordInfo => exact ⟨rfl, fun told htold => absurd htold (hrefuses told)⟩

/-- An update of the zone is carried out or not, and it is if the reply accepts it. -/
theorem Held.MayBecome.of_updateZone {update : ZoneUpdate}
    (hbecome : held.MayBecome domain (.updateZone domain update) reply after) :
    (after = held ∧ reply.Fails RemoteZone.decode) ∨
      held.CarriesOut domain (.updateZone domain update) after := by
  cases hbecome with
  | accepted hcarried _ => exact Or.inr hcarried
  | rejected hrefuses => exact Or.inl ⟨rfl, hrefuses⟩
  | lost _ hpart hcarried =>
    cases hpart with
    | whole => exact Or.inr hcarried

/-- A part of a batch is carried out, and the whole of it if the reply accepts it. -/
theorem Held.MayBecome.of_updateRecords {batch : List RecordUpdate}
    (hbecome : held.MayBecome domain (.updateRecords domain batch) reply after) :
    (after = held ∧ reply.Fails RemoteRecord.decodeSet) ∨
      ∃ part : List RecordUpdate, part.Sublist batch ∧
        held.CarriesOut domain (.updateRecords domain part) after ∧
          (part = batch ∨ reply.Fails RemoteRecord.decodeSet) := by
  cases hbecome with
  | accepted hcarried _ => exact Or.inr ⟨batch, List.Sublist.refl _, hcarried, Or.inl rfl⟩
  | rejected hrefuses => exact Or.inl ⟨rfl, hrefuses⟩
  | lost hrefuses hpart hcarried =>
    cases hpart with
    | whole => exact Or.inr ⟨batch, List.Sublist.refl _, hcarried, Or.inl rfl⟩
    | batch hsublist => exact Or.inr ⟨_, hsublist, hcarried, Or.inr hrefuses⟩

/-- A part of the batch of a change is the batch of a part of the change. -/
theorem exists_batch_of_sublist {delta : Delta} {part : List RecordUpdate}
    (hpart : part.Sublist delta.batch) :
    ∃ removed added, removed.Sublist delta.removed ∧ added.Sublist delta.added ∧
      part = { delta with removed := removed, added := added : Delta }.batch := by
  obtain ⟨deletions, additions, rfl, hdeletions, hadditions⟩ := List.sublist_append_iff.1 hpart
  obtain ⟨removed, hremoved, rfl⟩ := List.sublist_filterMap_iff.1 hdeletions
  obtain ⟨added, hadded, rfl⟩ := List.sublist_filterMap_iff.1 hadditions
  exact ⟨removed, added, hremoved, hadded, rfl⟩

/-- Replacing the settings keeps the entries. -/
theorem exists_fetched_of_updateZone {settings : Settings} (hfetched : held.fetched = .ok current)
    (hpositive : settings.Positive)
    (hcarried : held.CarriesOut domain (.updateZone domain ⟨domain, settings⟩) after) :
    ∃ zone, after.fetched = .ok zone ∧ zone.entries = current.entries := by
  cases hcarried with
  | updateZone _ hholds hrecords =>
    obtain ⟨-, hchecks, -⟩ := Held.fetched_eq_ok_iff.1 hfetched
    refine ⟨⟨after.zone.name, settings, after.zone.serial, current.entries⟩, ?_, rfl⟩
    refine Held.fetched_eq_ok_iff.2 ⟨hholds.checkSettings hpositive, ?_, rfl, rfl⟩
    rw [hrecords]
    exact hchecks

/-- A record with the identifier of an entry is the record that the entry stands for. -/
theorem Held.eq_of_id {told : RemoteRecord} {record entry : Record}
    (hfetched : held.fetched = .ok current) (htold : told ∈ held.records)
    (hcheck : told.check = .ok record) (hentry : entry ∈ current.entries)
    (hid : entry.id = some told.id) : entry = record := by
  obtain ⟨-, hchecks, -⟩ := Held.fetched_eq_ok_iff.1 hfetched
  obtain ⟨other, hother, hstands⟩ := exists_mem_of_forall₂ hchecks hentry
  have hsame : other.id = told.id := by
    rw [RemoteRecord.id_of_check hstands] at hid
    exact Option.some.inj hid
  have heq : other = told :=
    List.inj_on_of_nodup_map held.distinct (List.mem_filter.1 hother).1 htold hsame
  rw [heq, hcheck] at hstands
  exact (Except.ok.inj hstands).symm

theorem keeps_of_filter {removed : List Record} {stored : List RemoteRecord}
    (hfetched : held.fetched = .ok current) (hsubset : ∀ record ∈ removed, record ∈ current.entries)
    (hundesired : ∀ record ∈ removed, record.content ∉ contents desired.entries)
    (hperm : after.records.Perm
      (held.records.filter (fun told => told.id ∉ removed.filterMap Record.id) ++ stored)) :
    Keeps desired held after := by
  intro told htold record hcheck hdesired
  refine hperm.mem_iff.2 (List.mem_append_left _ (List.mem_filter.2 ⟨htold, decide_eq_true ?_⟩))
  intro hid
  obtain ⟨entry, hentry, hsome⟩ := List.mem_filterMap.1 hid
  have heq := Held.eq_of_id hfetched htold hcheck (hsubset entry hentry) hsome
  rw [← heq] at hdesired
  exact hundesired entry hentry hdesired

/-- Contents that are kept were held, and contents that are added were not. -/
theorem nodup_of_perm {removed kept added : List Record} {reached : Zone}
    (hnodup : (current.entries.map content).Nodup)
    (hcurrent : (removed ++ kept).Perm current.entries)
    (hadded : added.Sublist (reconcile current desired).added)
    (hreached : (reached.entries.map content).Perm (kept.map content ++ added.map content)) :
    (reached.entries.map content).Nodup := by
  have hsplit : (removed.map content ++ kept.map content).Nodup := by
    rw [← List.map_append]
    exact (hcurrent.map content).nodup_iff.2 hnodup
  have hnew : ((reconcile current desired).added.map content).Nodup := by
    rw [reconcile_added]
    exact nodup_content_missingFrom _ _
  rw [hreached.nodup_iff, List.nodup_append]
  refine ⟨(List.nodup_append.1 hsplit).2.1, hnew.sublist (hadded.map content), ?_⟩
  rintro c hkept _ hfresh rfl
  have hheld : c ∈ contents current.entries := by
    rw [mem_contents, ← (hcurrent.map content).mem_iff, List.map_append]
    exact List.mem_append_right _ hkept
  have hlacking : c ∈ contents (reconcile current desired).added :=
    mem_contents.2 ((hadded.map content).subset hfresh)
  rw [contents_added, Finset.mem_sdiff] at hlacking
  exact hlacking.2 hheld

/-- Whatever part of the batch of a difference is carried out, no content is doubled and nothing
that is desired is deleted. -/
theorem isClean_and_keeps_of_part {zone : Zone} {part : List RecordUpdate}
    (hfetched : held.fetched = .ok zone) (hentries : zone.entries = current.entries)
    (hnodup : (current.entries.map content).Nodup)
    (hpart : part.Sublist (reconcile current desired).batch)
    (hcarried : held.CarriesOut domain (.updateRecords domain part) after) :
    after.IsClean ∧ Keeps desired held after := by
  obtain ⟨removed, added, hremoved, hadded, rfl⟩ := exists_batch_of_sublist hpart
  obtain ⟨stored, hstored, hperm, hzone⟩ := exists_stored_of_carriesOut hcarried
  have hsettings : after.zone.checkSettings = .ok zone.settings := by
    rw [hzone]
    exact (Held.fetched_eq_ok_iff.1 hfetched).1
  have hdistinct : removed.Nodup :=
    (List.Nodup.of_map content (nodup_content_removed current desired)).sublist hremoved
  have hsubset : ∀ record ∈ removed, record ∈ zone.entries := fun record hrecord =>
    hentries ▸ mem_of_mem_removed (hremoved.subset hrecord)
  have hundesired : ∀ record ∈ removed, record.content ∉ contents desired.entries := by
    intro record hrecord
    have hmem : record.content ∈ contents (reconcile current desired).removed :=
      mem_contents.2 (List.mem_map_of_mem (hremoved.subset hrecord))
    rw [contents_removed, Finset.mem_sdiff] at hmem
    exact hmem.2
  obtain ⟨reached, hreached, -, kept, hcurrent, hcontents⟩ :=
    exists_fetched_of_stored hfetched hdistinct hsubset hstored hperm hsettings
  rw [hentries] at hcurrent
  exact ⟨⟨reached, hreached, nodup_of_perm hnodup hcurrent hadded hcontents⟩,
    keeps_of_filter hfetched hsubset hundesired hperm⟩

theorem settings_of_reconcile {change : SettingsChange}
    (hchange : (reconcile current desired).settings = some change) :
    change.new = desired.settings := by
  rw [reconcile] at hchange
  split at hchange
  · exact absurd hchange (by simp)
  · exact congrArg SettingsChange.new (Option.some.inj hchange).symm

/-- An update of the settings may be carried out or not; the entries stay. -/
theorem isSafe_of_updateZone {settings : Settings} (hfetched : held.fetched = .ok current)
    (hnodup : (current.entries.map content).Nodup) (hpositive : settings.Positive)
    (hbecome : held.MayBecome domain (.updateZone domain ⟨domain, settings⟩) reply after) :
    IsSafe desired held [after] after ∧
      ∃ zone, after.fetched = .ok zone ∧ zone.entries = current.entries := by
  have hclean : held.IsClean := ⟨current, hfetched, hnodup⟩
  rcases hbecome.of_updateZone with ⟨rfl, -⟩ | hcarried
  · exact ⟨isSafe_singleton hclean hclean (.refl _), current, hfetched, rfl⟩
  · obtain ⟨zone, hzone, hentries⟩ := exists_fetched_of_updateZone hfetched hpositive hcarried
    have hkeeps : Keeps desired held after := by
      cases hcarried with
      | updateZone _ _ hrecords => exact .of_records_eq hrecords
    exact ⟨isSafe_singleton hclean ⟨zone, hzone, hentries ▸ hnodup⟩ hkeeps, zone, hzone, hentries⟩

end ZoneSync
