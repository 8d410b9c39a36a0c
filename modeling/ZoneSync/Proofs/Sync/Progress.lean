import ZoneSync.Proofs.Interleaving
import ZoneSync.Proofs.Sync.Retries

/-!
# What pushes of one zone leave to each other

While a push compares and writes, other pushes of the same zone may write too. Whatever they do, they
bring the provider forward: records of desired content stay, records that come have desired content
and an identifier that no record had before, and once the settings are the desired ones they stay so.
That is enough for a change to be right although it was computed from what was held some time ago. A
record that is to be deleted is still the one that was read or is gone, and no other record has come
that would have to be deleted. Were an identifier given again, such a deletion could hit a record
that another push has just added.
-/

namespace ZoneSync

open Record (content)

/-! ### Identifiers that are given once -/

/-- What the provider holds, and the identifiers that it has given to records so far. -/
structure Ledger where
  held : Held
  given : List String
  sound : ∀ told ∈ held.records, told.id ∈ given

namespace Ledger

/-- What may be in the ledger after a call. A record that comes has an identifier not given before. -/
structure CarriesOut (domain : String) (ledger : Ledger) (asked : Call) (after : Ledger) : Prop where
  held : ledger.held.CarriesOut domain asked after.held
  given : ledger.given ⊆ after.given
  fresh : ∀ told ∈ after.held.records, told.id ∈ ledger.given → told ∈ ledger.held.records

/-- The request is a call about the domain. It is carried out and accepted. -/
inductive Serves (domain : String) (ledger : Ledger) : Request → Reply → Ledger → Prop
  | call {endpoint : Url} {account : Account} {id : String} {asked : Call} {reply : Reply}
    {after : Ledger} :
    ledger.CarriesOut domain asked after → after.held.Accepts asked reply →
      Serves domain ledger ⟨endpoint, .call account id asked⟩ reply after

/-! ### Progress -/

/-- What other pushes of the zone may have done. -/
structure Progress (desired : Zone) (before after : Ledger) : Prop where
  given : before.given ⊆ after.given
  settings : after.held.zone.checkSettings = before.held.zone.checkSettings ∨
    after.held.zone.checkSettings = .ok desired.settings
  kept : Keeps desired before.held after.held
  old : ∀ told ∈ after.held.records, told.id ∈ before.given → told ∈ before.held.records
  new : ∀ told ∈ after.held.records, told ∈ before.held.records ∨
    ∃ record, told.check = .ok record ∧ record.content ∈ contents desired.entries

variable {desired current : Zone} {earlier before middle after : Ledger}

theorem Progress.of_records_eq (hgiven : before.given ⊆ after.given)
    (hrecords : after.held.records = before.held.records)
    (hsettings : after.held.zone.checkSettings = before.held.zone.checkSettings ∨
      after.held.zone.checkSettings = .ok desired.settings) : before.Progress desired after where
  given := hgiven
  settings := hsettings
  kept := .of_records_eq hrecords
  old _ htold _ := hrecords ▸ htold
  new _ htold := Or.inl (hrecords ▸ htold)

theorem Progress.refl (ledger : Ledger) : ledger.Progress desired ledger :=
  .of_records_eq (List.Subset.refl _) rfl (Or.inl rfl)

theorem Progress.trans (hfirst : before.Progress desired middle)
    (hrest : middle.Progress desired after) : before.Progress desired after where
  given := List.Subset.trans hfirst.given hrest.given
  settings := by
    rcases hrest.settings with hsame | hdesired
    · rw [hsame]
      exact hfirst.settings
    · exact Or.inr hdesired
  kept := hfirst.kept.trans hrest.kept
  old told htold hid := hfirst.old told (hrest.old told htold (hfirst.given hid)) hid
  new told htold := by
    rcases hrest.new told htold with hmem | hdesired
    · exact hfirst.new told hmem
    · exact Or.inr hdesired

/-- Once the settings are the desired ones they stay so. -/
theorem Progress.settings_eq (hprogress : before.Progress desired after)
    (hbefore : before.held.zone.checkSettings = .ok desired.settings) :
    after.held.zone.checkSettings = .ok desired.settings :=
  hprogress.settings.elim (fun hsame => hsame.trans hbefore) fun hdesired => hdesired

end Ledger

/-! ### The entries that are fetched -/

theorem exists_of_mem_of_forall₂ {α β : Type} {R : α → β → Prop} {xs : List α} {ys : List β}
    (hall : List.Forall₂ R xs ys) {x : α} (hx : x ∈ xs) : ∃ y ∈ ys, R x y :=
  exists_mem_of_forall₂ hall.flip hx

/-- Each entry stands for a record that is not about to be deleted. -/
theorem Held.mem_entries_iff {held : Held} {zone : Zone} (hfetched : held.fetched = .ok zone)
    {record : Record} :
    record ∈ zone.entries ↔
      ∃ told ∈ held.records, told.deleted = false ∧ told.check = .ok record := by
  obtain ⟨-, hchecks, -⟩ := fetched_eq_ok_iff.1 hfetched
  constructor
  · intro hrecord
    obtain ⟨told, htold, hcheck⟩ := exists_mem_of_forall₂ hchecks hrecord
    obtain ⟨hmem, hlive⟩ := List.mem_filter.1 htold
    exact ⟨told, hmem, by simpa using hlive, hcheck⟩
  · rintro ⟨told, htold, hlive, hcheck⟩
    have hkept : told ∈ RemoteRecord.kept held.records :=
      List.mem_filter.2 ⟨htold, by rw [hlive]; rfl⟩
    obtain ⟨other, hother, hstands⟩ := exists_of_mem_of_forall₂ hchecks hkept
    rw [hcheck] at hstands
    rwa [Except.ok.inj hstands]

/-- What is held can be fetched if the settings and each record can be read. -/
theorem Held.exists_fetched {held : Held} {settings : Settings}
    (hsettings : held.zone.checkSettings = .ok settings)
    (hchecks : ∀ told ∈ held.records, told.deleted = false → ∃ record, told.check = .ok record) :
    ∃ zone, held.fetched = .ok zone ∧ zone.settings = settings := by
  have hentries : ∃ entries, List.Forall₂ (fun told record => told.check = .ok record)
      (RemoteRecord.kept held.records) entries := by
    have hlive : ∀ told ∈ RemoteRecord.kept held.records, ∃ record, told.check = .ok record := by
      intro told htold
      obtain ⟨hmem, hkept⟩ := List.mem_filter.1 htold
      exact hchecks told hmem (by simpa using hkept)
    generalize RemoteRecord.kept held.records = kept at hlive
    induction kept with
    | nil => exact ⟨[], .nil⟩
    | cons told rest ih =>
      obtain ⟨record, hcheck⟩ := hlive told List.mem_cons_self
      obtain ⟨entries, hentries⟩ := ih fun other hother => hlive other (List.mem_cons_of_mem _ hother)
      exact ⟨record :: entries, .cons hcheck hentries⟩
  obtain ⟨entries, hentries⟩ := hentries
  exact ⟨⟨held.zone.name, settings, held.zone.serial, entries⟩,
    fetched_eq_ok_iff.2 ⟨hsettings, hentries, rfl, rfl⟩, rfl⟩

theorem Held.settings_of_fetched {held : Held} {zone : Zone} {settings : Settings}
    (hfetched : held.fetched = .ok zone) (hsettings : held.zone.checkSettings = .ok settings) :
    zone.settings = settings := by
  rw [(fetched_eq_ok_iff.1 hfetched).1] at hsettings
  exact Except.ok.inj hsettings

/-- No two records of the zone have one content, unless it is desired. -/
def Zone.IsPlain (zone desired : Zone) : Prop :=
  ∀ record ∈ zone.entries, ∀ other ∈ zone.entries, record.content = other.content →
    record.content ∉ contents desired.entries → record = other

theorem Zone.isPlain_of_nodup {desired zone : Zone} (hnodup : (zone.entries.map content).Nodup) :
    zone.IsPlain desired :=
  fun _ hrecord _ hother hsame _ => List.inj_on_of_nodup_map hnodup hrecord hother hsame

namespace Ledger

variable {desired current zone reached : Zone} {earlier before after : Ledger}

/-- An entry of undesired content was there before. -/
theorem Progress.mem_of_undesired (hprogress : before.Progress desired after)
    (hbefore : before.held.fetched = .ok zone) (hafter : after.held.fetched = .ok reached)
    {record : Record} (hrecord : record ∈ reached.entries)
    (hundesired : record.content ∉ contents desired.entries) : record ∈ zone.entries := by
  obtain ⟨told, htold, hlive, hcheck⟩ := (Held.mem_entries_iff hafter).1 hrecord
  refine (Held.mem_entries_iff hbefore).2 ⟨told, ?_, hlive, hcheck⟩
  refine (hprogress.new told htold).resolve_right fun ⟨other, hother, hdesired⟩ => hundesired ?_
  rw [hcheck] at hother
  rwa [Except.ok.inj hother]

/-- An entry of desired content stays. -/
theorem Progress.mem_of_desired (hprogress : before.Progress desired after)
    (hbefore : before.held.fetched = .ok zone) (hafter : after.held.fetched = .ok reached)
    {record : Record} (hrecord : record ∈ zone.entries)
    (hdesired : record.content ∈ contents desired.entries) : record ∈ reached.entries := by
  obtain ⟨told, htold, hlive, hcheck⟩ := (Held.mem_entries_iff hbefore).1 hrecord
  exact (Held.mem_entries_iff hafter).2
    ⟨told, hprogress.kept told htold record hcheck hdesired, hlive, hcheck⟩

theorem Progress.contents_of_undesired (hprogress : before.Progress desired after)
    (hbefore : before.held.fetched = .ok zone) (hafter : after.held.fetched = .ok reached)
    {c : Content} (hreached : c ∈ contents reached.entries)
    (hundesired : c ∉ contents desired.entries) : c ∈ contents zone.entries := by
  obtain ⟨record, hrecord, rfl⟩ := List.mem_map.1 (mem_contents.1 hreached)
  exact mem_contents.2 (List.mem_map_of_mem
    (hprogress.mem_of_undesired hbefore hafter hrecord hundesired))

theorem Progress.contents_of_desired (hprogress : before.Progress desired after)
    (hbefore : before.held.fetched = .ok zone) (hafter : after.held.fetched = .ok reached)
    {c : Content} (hheld : c ∈ contents zone.entries)
    (hdesired : c ∈ contents desired.entries) : c ∈ contents reached.entries := by
  obtain ⟨record, hrecord, rfl⟩ := List.mem_map.1 (mem_contents.1 hheld)
  exact mem_contents.2 (List.mem_map_of_mem
    (hprogress.mem_of_desired hbefore hafter hrecord hdesired))

/-- The ledger holds a zone that can be fetched, without a surplus of undesired records. -/
def IsPlain (desired : Zone) (ledger : Ledger) : Prop :=
  ∃ zone, ledger.held.fetched = .ok zone ∧ zone.IsPlain desired

theorem IsPlain.advance (hplain : before.IsPlain desired)
    (hprogress : before.Progress desired after) : after.IsPlain desired := by
  obtain ⟨zone, hzone, hsingle⟩ := hplain
  have hsettings : ∃ settings, after.held.zone.checkSettings = .ok settings := by
    rcases hprogress.settings with hsame | hdesired
    · exact ⟨_, hsame.trans (Held.fetched_eq_ok_iff.1 hzone).1⟩
    · exact ⟨_, hdesired⟩
  obtain ⟨settings, hsettings⟩ := hsettings
  have hchecks : ∀ told ∈ after.held.records, told.deleted = false →
      ∃ record, told.check = .ok record := by
    intro told htold hlive
    rcases hprogress.new told htold with hmem | ⟨record, hcheck, -⟩
    · obtain ⟨-, hentries, -⟩ := Held.fetched_eq_ok_iff.1 hzone
      have hkept : told ∈ RemoteRecord.kept before.held.records :=
        List.mem_filter.2 ⟨hmem, by rw [hlive]; rfl⟩
      obtain ⟨record, -, hcheck⟩ := exists_of_mem_of_forall₂ hentries hkept
      exact ⟨record, hcheck⟩
    · exact ⟨record, hcheck⟩
  obtain ⟨reached, hreached, -⟩ := Held.exists_fetched hsettings hchecks
  refine ⟨reached, hreached, fun record hrecord other hother hsame hundesired => ?_⟩
  exact hsingle record (hprogress.mem_of_undesired hzone hreached hrecord hundesired) other
    (hprogress.mem_of_undesired hzone hreached hother (hsame ▸ hundesired)) hsame hundesired

/-- What is as desired stays as desired. -/
theorem meets_advance (hmeets : before.held.Meets desired) (hprogress : before.Progress desired after)
    (hplain : after.IsPlain desired) : after.held.Meets desired := by
  obtain ⟨zone, hzone, hsettings, hcontents⟩ := hmeets
  obtain ⟨reached, hreached, -⟩ := hplain
  have hdesired : after.held.zone.checkSettings = .ok desired.settings :=
    hprogress.settings_eq (hsettings ▸ (Held.fetched_eq_ok_iff.1 hzone).1)
  refine ⟨reached, hreached, Held.settings_of_fetched hreached hdesired, ?_⟩
  refine Finset.Subset.antisymm (fun c hc => ?_) fun c hc => ?_
  · by_contra hundesired
    exact hundesired (hcontents ▸ hprogress.contents_of_undesired hzone hreached hc hundesired)
  · exact hprogress.contents_of_desired hzone hreached (hcontents.symm ▸ hc) hc

/-! ### Changes that were computed some time ago -/

/-- The entries of the zone are those that were held at some time. -/
structure Recalls (desired : Zone) (current : Zone) (ledger : Ledger) : Prop where
  seen : ∃ (earlier : Ledger) (zone : Zone), earlier.Progress desired ledger ∧
    earlier.held.fetched = .ok zone ∧ zone.entries = current.entries
  plain : current.IsPlain desired

theorem Recalls.advance (hrecalls : before.Recalls desired current)
    (hprogress : before.Progress desired after) : after.Recalls desired current := by
  obtain ⟨⟨earlier, zone, hearlier, hzone, hentries⟩, hplain⟩ := hrecalls
  exact ⟨⟨earlier, zone, hearlier.trans hprogress, hzone, hentries⟩, hplain⟩

theorem undesired_of_mem_removed {record : Record}
    (hrecord : record ∈ (reconcile current desired).removed) :
    record.content ∉ contents desired.entries := by
  have hmem := mem_contents.2 (List.mem_map_of_mem (f := content) hrecord)
  rw [contents_removed, Finset.mem_sdiff] at hmem
  exact hmem.2

/-- Of a plain zone every undesired record is removed. -/
theorem mem_removed_of_undesired (hplain : current.IsPlain desired) {record : Record}
    (hrecord : record ∈ current.entries) (hundesired : record.content ∉ contents desired.entries) :
    record ∈ (reconcile current desired).removed := by
  have hmem : record.content ∈ contents (reconcile current desired).removed := by
    rw [contents_removed, Finset.mem_sdiff]
    exact ⟨mem_contents.2 (List.mem_map_of_mem hrecord), hundesired⟩
  obtain ⟨other, hother, hsame⟩ := List.mem_map.1 (mem_contents.1 hmem)
  rwa [hplain record hrecord other (mem_of_mem_removed hother) hsame.symm hundesired]

/-- A record that was stored for a difference has desired content. -/
theorem exists_check_of_mem_stored {stored : List RemoteRecord} {told : RemoteRecord}
    (hstored : List.Forall₂ RecordUpdate.IsStored
      ((reconcile current desired).added.map (Record.updateWith · false)) stored)
    (htold : told ∈ stored) :
    ∃ record, told.check = .ok record ∧ record.content ∈ contents desired.entries := by
  obtain ⟨update, hupdate, hheld⟩ := exists_mem_of_forall₂ hstored htold
  obtain ⟨added, hadded, rfl⟩ := List.mem_map.1 hupdate
  obtain ⟨record, hcheck, hcontent⟩ := Record.exists_check_of_isStored hheld
  have hmissing := mem_contents.2 (List.mem_map_of_mem (f := content) hadded)
  rw [contents_added, Finset.mem_sdiff] at hmissing
  exact ⟨record, hcheck, hcontent ▸ hmissing.1⟩

/-- Writing the records of a difference brings the provider forward, although it was computed from
what was held some time ago. -/
theorem Recalls.progress {stored : List RemoteRecord} (hrecalls : before.Recalls desired current)
    (hgiven : before.given ⊆ after.given)
    (hfresh : ∀ told ∈ after.held.records, told.id ∈ before.given → told ∈ before.held.records)
    (hstored : List.Forall₂ RecordUpdate.IsStored
      ((reconcile current desired).added.map (Record.updateWith · false)) stored)
    (hperm : after.held.records.Perm (before.held.records.filter (fun record =>
      record.id ∉ (reconcile current desired).removed.filterMap Record.id) ++ stored))
    (hzone : after.held.zone = before.held.zone) : before.Progress desired after where
  given := hgiven
  settings := Or.inl (congrArg RemoteZone.checkSettings hzone)
  old := hfresh
  kept := by
    obtain ⟨⟨earlier, zone, hearlier, hfetched, hentries⟩, -⟩ := hrecalls
    intro told htold record hcheck hdesired
    refine hperm.mem_iff.2 (List.mem_append_left _ (List.mem_filter.2 ⟨htold, decide_eq_true ?_⟩))
    intro hid
    obtain ⟨entry, hentry, hsome⟩ := List.mem_filterMap.1 hid
    have hmem : entry ∈ zone.entries := hentries ▸ mem_of_mem_removed hentry
    obtain ⟨other, hother, -, hstands⟩ := (Held.mem_entries_iff hfetched).1 hmem
    -- The identifier was given when the entry was read, so the record is the one that was read.
    have hsame : other.id = told.id := by
      rw [RemoteRecord.id_of_check hstands] at hsome
      exact Option.some.inj hsome
    have hold := hearlier.old told htold (hsame ▸ earlier.sound other hother)
    have heq := Held.eq_of_id hfetched hold hcheck hmem hsome
    exact undesired_of_mem_removed hentry (heq ▸ hdesired)
  new told htold := by
    rcases List.mem_append.1 (hperm.mem_iff.1 htold) with hmem | hmem
    · exact Or.inl (List.mem_filter.1 hmem).1
    · exact Or.inr (exists_check_of_mem_stored hstored hmem)

/-- Once its records have been written no undesired record is left. -/
theorem Recalls.desired_of_mem {stored : List RemoteRecord} (hrecalls : before.Recalls desired current)
    (hprogress : before.Progress desired after) (hreached : after.held.fetched = .ok reached)
    (hstored : List.Forall₂ RecordUpdate.IsStored
      ((reconcile current desired).added.map (Record.updateWith · false)) stored)
    (hperm : after.held.records.Perm (before.held.records.filter (fun record =>
      record.id ∉ (reconcile current desired).removed.filterMap Record.id) ++ stored))
    {record : Record} (hrecord : record ∈ reached.entries) :
    record.content ∈ contents desired.entries := by
  obtain ⟨⟨earlier, zone, hearlier, hfetched, hentries⟩, hsingle⟩ := hrecalls
  by_contra hundesired
  have hmem : record ∈ current.entries := hentries ▸
    (hearlier.trans hprogress).mem_of_undesired hfetched hreached hrecord hundesired
  have hremoved := mem_removed_of_undesired hsingle hmem hundesired
  obtain ⟨told, htold, -, hcheck⟩ := (Held.mem_entries_iff hreached).1 hrecord
  rcases List.mem_append.1 (hperm.mem_iff.1 htold) with hkept | hadded
  · exact of_decide_eq_true (List.mem_filter.1 hkept).2
      (List.mem_filterMap.2 ⟨record, hremoved, RemoteRecord.id_of_check hcheck⟩)
  · obtain ⟨other, hother, hdesired⟩ := exists_check_of_mem_stored hstored hadded
    rw [hcheck] at hother
    exact hundesired (Except.ok.inj hother ▸ hdesired)

/-- What is added for a difference is there once it has been stored. -/
theorem contents_of_added {stored : List RemoteRecord} (hreached : after.held.fetched = .ok reached)
    (hstored : List.Forall₂ RecordUpdate.IsStored
      ((reconcile current desired).added.map (Record.updateWith · false)) stored)
    (hheld : stored ⊆ after.held.records) :
    contents (reconcile current desired).added ⊆ contents reached.entries := by
  intro c hc
  obtain ⟨added, hmem, rfl⟩ := List.mem_map.1 (mem_contents.1 hc)
  obtain ⟨told, htold, hkept⟩ :=
    exists_of_mem_of_forall₂ hstored (List.mem_map_of_mem (f := (Record.updateWith · false)) hmem)
  obtain ⟨record, hcheck, hcontent⟩ := Record.exists_check_of_isStored hkept
  have hentry : record ∈ reached.entries :=
    (Held.mem_entries_iff hreached).2 ⟨told, hheld htold, hkept.deleted, hcheck⟩
  exact mem_contents.2 (hcontent ▸ List.mem_map_of_mem hentry)

/-- Once its records have been written, and the settings before, all is as desired. -/
theorem Recalls.meets {stored : List RemoteRecord} (hrecalls : before.Recalls desired current)
    (hprogress : before.Progress desired after) (hplain : after.IsPlain desired)
    (hsettings : after.held.zone.checkSettings = .ok desired.settings)
    (hstored : List.Forall₂ RecordUpdate.IsStored
      ((reconcile current desired).added.map (Record.updateWith · false)) stored)
    (hperm : after.held.records.Perm (before.held.records.filter (fun record =>
      record.id ∉ (reconcile current desired).removed.filterMap Record.id) ++ stored)) :
    after.held.Meets desired := by
  obtain ⟨reached, hreached, -⟩ := hplain
  refine ⟨reached, hreached, Held.settings_of_fetched hreached hsettings, ?_⟩
  refine Finset.Subset.antisymm (fun c hc => ?_) fun c hc => ?_
  · obtain ⟨record, hrecord, rfl⟩ := List.mem_map.1 (mem_contents.1 hc)
    exact hrecalls.desired_of_mem hprogress hreached hstored hperm hrecord
  · by_cases hheld : c ∈ contents current.entries
    · obtain ⟨⟨earlier, zone, hearlier, hfetched, hentries⟩, -⟩ := hrecalls
      exact (hearlier.trans hprogress).contents_of_desired hfetched hreached (hentries ▸ hheld) hc
    · have hadded : c ∈ contents (reconcile current desired).added := by
        rw [contents_added, Finset.mem_sdiff]
        exact ⟨hc, hheld⟩
      have hthere : stored ⊆ after.held.records :=
        fun _ htold => hperm.mem_iff.2 (List.mem_append_right _ htold)
      exact contents_of_added hreached hstored hthere hadded

end Ledger

end ZoneSync
