import ZoneSync.Proofs.Layout.Writing
import ZoneSync.Proofs.Provider.Held

/-!
# What is fetched from what is held

A zone is fetched if its timers are positive numbers of 32 bits and every record that is not about
to be deleted passes the rules. The entries then stand for these records one by one, under their
identifiers. Settings and records that were written by an update are fetched as they were meant.
-/

namespace ZoneSync

theorem mapM_eq_ok_iff {ε α β : Type} {f : α → Except ε β} {xs : List α} {ys : List β} :
    xs.mapM f = .ok ys ↔ List.Forall₂ (fun x y => f x = .ok y) xs ys := by
  induction xs generalizing ys with
  | nil =>
    rw [List.mapM_nil, List.forall₂_nil_left_iff]
    exact ⟨fun h => (Except.ok.inj h).symm, fun h => h ▸ rfl⟩
  | cons x rest ih =>
    rw [List.mapM_cons, bind_eq_ok_iff, List.forall₂_cons_left_iff]
    constructor
    · rintro ⟨y, hy, hrest⟩
      obtain ⟨others, hothers, heq⟩ := bind_eq_ok_iff.1 hrest
      exact ⟨y, others, hy, ih.1 hothers, (Except.ok.inj heq).symm⟩
    · rintro ⟨y, others, hy, hothers, rfl⟩
      exact ⟨y, hy, bind_eq_ok_iff.2 ⟨others, ih.2 hothers, rfl⟩⟩

theorem exists_mapM_iff {ε α β : Type} {f : α → Except ε β} {xs : List α} :
    (∃ ys, xs.mapM f = .ok ys) ↔ ∀ x ∈ xs, ∃ y, f x = .ok y := by
  induction xs with
  | nil => simp [pure, Except.pure]
  | cons x rest ih =>
    simp only [List.mapM_cons, bind_eq_ok_iff, List.forall_mem_cons, ← ih]
    constructor
    · rintro ⟨_, y, hy, others, hothers, -⟩
      exact ⟨⟨y, hy⟩, others, hothers⟩
    · rintro ⟨⟨y, hy⟩, others, hothers⟩
      exact ⟨_, y, hy, others, hothers, rfl⟩

/-- The first item that cannot be read is the one that is reported. -/
theorem exists_of_mapM_eq_error {ε α β : Type} {f : α → Except ε β} {xs : List α} {error : ε}
    (herror : xs.mapM f = .error error) :
    ∃ before x after, xs = before ++ x :: after ∧ (∀ y ∈ before, ∃ z, f y = .ok z) ∧
      f x = .error error := by
  induction xs with
  | nil => exact absurd herror (by simp [pure, Except.pure])
  | cons x rest ih =>
    rw [List.mapM_cons, bind_eq_error_iff] at herror
    rcases herror with hx | ⟨y, hy, herror⟩
    · exact ⟨[], x, rest, rfl, by simp, hx⟩
    · rcases bind_eq_error_iff.1 herror with hrest | ⟨ys, -, herror⟩
      · obtain ⟨before, z, after, rfl, hbefore, hz⟩ := ih hrest
        exact ⟨x :: before, z, after, rfl, List.forall_mem_cons.2 ⟨⟨y, hy⟩, hbefore⟩, hz⟩
      · exact absurd herror (by simp [pure, Except.pure])

theorem exists_mem_of_forall₂ {α β : Type} {R : α → β → Prop} {xs : List α} {ys : List β}
    (hall : List.Forall₂ R xs ys) {y : β} (hy : y ∈ ys) : ∃ x ∈ xs, R x y := by
  induction hall with
  | nil => exact absurd hy List.not_mem_nil
  | cons hfirst _ ih =>
    rcases List.mem_cons.1 hy with rfl | hy
    · exact ⟨_, List.mem_cons_self, hfirst⟩
    · obtain ⟨x, hx, hrel⟩ := ih hy
      exact ⟨x, List.mem_cons_of_mem _ hx, hrel⟩

/-! ### Records -/

namespace RemoteRecord

theorem id_of_check {told : RemoteRecord} {record : Record} (hcheck : told.check = .ok record) :
    record.id = some told.id := by
  rw [check] at hcheck
  split at hcheck
  · obtain ⟨type, -, hcheck⟩ := bind_eq_ok_iff.1 hcheck
    obtain ⟨priority, -, hcheck⟩ := bind_eq_ok_iff.1 hcheck
    split at hcheck
    · rw [← Except.ok.inj hcheck]
      rfl
    · exact absurd hcheck (by simp [throw, throwThe, MonadExceptOf.throw])
  · obtain ⟨type, hthrow, -⟩ := bind_eq_ok_iff.1 hcheck
    exact absurd hthrow (by simp [throw, throwThe, MonadExceptOf.throw])

end RemoteRecord

namespace Content

theorem priorityFault?_eq_none (content : Content) :
    priorityFault? content.type content.priority = none := by
  have hsound := content.sound
  rw [fault?, Record.isToken_hostname, Record.isToken_destination] at hsound
  exact (Option.or_eq_none_iff.1 hsound).1

theorem exists_priority {content : Content} (htype : content.type = .mx) :
    ∃ priority, content.priority = some priority := by
  have hfault := content.priorityFault?_eq_none
  rw [htype] at hfault
  cases hpriority : content.priority with
  | none =>
    rw [hpriority] at hfault
    exact absurd hfault (by simp [priorityFault?])
  | some priority => exact ⟨priority, rfl⟩

theorem priority_eq_none {content : Content} (htype : content.type ≠ .mx) :
    content.priority = none := by
  have hfault := content.priorityFault?_eq_none
  cases hpriority : content.priority with
  | none => rfl
  | some priority =>
    rw [hpriority] at hfault
    cases hmx : content.type with
    | mx => exact absurd hmx htype
    | _ =>
      rw [hmx] at hfault
      exact absurd hfault (by simp [priorityFault?])

end Content

namespace Record

/-- The update that deletes or stores the record. -/
def updateWith (record : Record) (delete : Bool) : RecordUpdate where
  id := record.id
  type := record.type.name
  hostname := record.hostname
  destination := record.destination
  delete := delete
  state := none
  priority := record.priority

theorem update?_false (record : Record) : record.update? false = some (record.updateWith false) :=
  rfl

theorem update?_true (record : Record) :
    record.update? true = record.id.map fun _ => record.updateWith true := by
  rw [update?]
  cases hid : record.id <;> simp [updateWith, hid]

/-- The priority of a record is read as it was; what the provider puts in its place if there is none
does not count. -/
theorem priorityFor_eq (record : Record) {told : RemoteRecord}
    (htold : ∀ priority, record.priority = some priority →
      told.priority = some priority.toUInt64) :
    RemoteRecord.priorityFor record.type told = .ok record.priority := by
  rw [RemoteRecord.priorityFor]
  by_cases hmx : record.type = .mx
  · obtain ⟨priority, hsome⟩ := Content.exists_priority hmx
    have hsize : priority.toUInt64.toNat < UInt16.size := by
      rw [UInt16.toNat_toUInt64]
      exact priority.toNat_lt_size
    rw [if_pos hmx, htold priority hsome, Option.getD_some]
    simp only [if_pos hsize, hsome, UInt16.toUInt16_toUInt64]
  · rw [if_neg hmx, Content.priority_eq_none hmx]

/-- A stored record has the content that was to be stored. -/
theorem exists_check_of_isStored {record : Record} {told : RemoteRecord}
    (hstored : (record.updateWith false).IsStored told) :
    ∃ fetched : Record, told.check = .ok fetched ∧ fetched.content = record.content := by
  have htype : RecordType.ofName? told.type = some record.type := by
    rw [hstored.type]
    exact ofName?_name record.type
  have hpriority : RemoteRecord.priorityFor record.type told = .ok record.priority :=
    record.priorityFor_eq hstored.priority
  refine ⟨record.bare.withId told.id, ?_, rfl⟩
  rw [RemoteRecord.check, htype]
  refine bind_eq_ok_iff.2 ⟨record.type, rfl, bind_eq_ok_iff.2 ⟨record.priority, hpriority, ?_⟩⟩
  have hhostname : told.hostname = record.hostname := hstored.hostname
  have hdestination : told.destination = record.destination := hstored.destination
  rw [hhostname, hdestination, record.new_content]
  rfl

end Record

/-! ### Zones -/

theorem timer_toUInt64 {seconds : UInt32} (domain field : String) (hpositive : 0 < seconds.toNat) :
    RemoteZone.timer domain field seconds.toUInt64 = .ok seconds := by
  have hsize : seconds.toUInt64.toNat < UInt32.size := by
    rw [UInt32.toNat_toUInt64]
    exact seconds.toNat_lt_size
  rw [RemoteZone.timer, if_pos, UInt32.toUInt32_toUInt64]
  rw [decide_eq_true hsize, UInt32.toNat_toUInt64, decide_eq_true hpositive]
  rfl

theorem RemoteZone.Holds.checkSettings {zone : RemoteZone} {settings : Settings}
    (hholds : zone.Holds settings) (hpositive : settings.Positive) :
    zone.checkSettings = .ok settings := by
  rw [RemoteZone.checkSettings, hholds.ttl, hholds.refresh, hholds.retry, hholds.expire,
    hholds.dnssec, timer_toUInt64 _ _ hpositive.ttl, timer_toUInt64 _ _ hpositive.refresh,
    timer_toUInt64 _ _ hpositive.retry, timer_toUInt64 _ _ hpositive.expire]
  rfl

/-- The records that are not about to be deleted. -/
def RemoteRecord.kept (records : List RemoteRecord) : List RemoteRecord :=
  records.filter fun record => !record.deleted

theorem RemoteZone.toZone_eq_ok_iff {told : RemoteZone} {records : List RemoteRecord}
    {zone : Zone} :
    told.toZone records = .ok zone ↔
      told.checkSettings = .ok zone.settings ∧
        List.Forall₂ (fun told record => told.check = .ok record)
          (RemoteRecord.kept records) zone.entries ∧
          zone.domain = told.name ∧ zone.serial = told.serial := by
  have hchecks : ∀ entries : List Record,
      (RemoteRecord.kept records).mapM (RemoteRecord.toRecord told.name) = .ok entries ↔
        List.Forall₂ (fun told record => told.check = .ok record)
          (RemoteRecord.kept records) entries := by
    intro entries
    rw [mapM_eq_ok_iff]
    simp only [RemoteRecord.toRecord, mapError_eq_ok_iff]
  rw [RemoteZone.toZone, bind_eq_ok_iff]
  constructor
  · rintro ⟨settings, hsettings, hentries⟩
    obtain ⟨entries, hentries, hzone⟩ := bind_eq_ok_iff.1 hentries
    rw [← Except.ok.inj hzone]
    exact ⟨hsettings, (hchecks entries).1 hentries, rfl, rfl⟩
  · rintro ⟨hsettings, hentries, hdomain, hserial⟩
    refine ⟨zone.settings, hsettings, bind_eq_ok_iff.2 ⟨zone.entries, (hchecks _).2 hentries, ?_⟩⟩
    rw [← hdomain, ← hserial]
    rfl

theorem Held.fetched_eq_ok_iff {held : Held} {zone : Zone} :
    held.fetched = .ok zone ↔
      held.zone.checkSettings = .ok zone.settings ∧
        List.Forall₂ (fun told record => told.check = .ok record)
          (RemoteRecord.kept held.records) zone.entries ∧
          zone.domain = held.zone.name ∧ zone.serial = held.zone.serial :=
  RemoteZone.toZone_eq_ok_iff

theorem RemoteZone.timer_positive {domain field : String} {value : UInt64} {seconds : UInt32}
    (htimer : timer domain field value = .ok seconds) : 0 < seconds.toNat := by
  rw [timer] at htimer
  split at htimer
  · next hrange =>
    rw [Bool.and_eq_true, decide_eq_true_eq, decide_eq_true_eq] at hrange
    rw [← Except.ok.inj htimer, UInt64.toNat_toUInt32, Nat.mod_eq_of_lt hrange.2]
    exact hrange.1
  · exact absurd htimer (by simp)

theorem RemoteZone.positive_of_checkSettings {told : RemoteZone} {settings : Settings}
    (hcheck : told.checkSettings = .ok settings) : settings.Positive := by
  obtain ⟨ttl, httl, hcheck⟩ := bind_eq_ok_iff.1 hcheck
  obtain ⟨refresh, hrefresh, hcheck⟩ := bind_eq_ok_iff.1 hcheck
  obtain ⟨retry, hretry, hcheck⟩ := bind_eq_ok_iff.1 hcheck
  obtain ⟨expire, hexpire, hcheck⟩ := bind_eq_ok_iff.1 hcheck
  rw [← Except.ok.inj hcheck]
  exact ⟨timer_positive httl, timer_positive hrefresh, timer_positive hretry,
    timer_positive hexpire⟩

/-- The entries have the identifiers of the records. -/
theorem map_id_of_checks {told : List RemoteRecord} {entries : List Record}
    (hchecks : List.Forall₂ (fun told record => told.check = .ok record) told entries) :
    entries.map Record.id = told.map fun record => some record.id := by
  induction hchecks with
  | nil => rfl
  | cons hcheck _ ih => rw [List.map_cons, List.map_cons, RemoteRecord.id_of_check hcheck, ih]

/-- No two entries have one identifier. -/
theorem Held.nodup_id {held : Held} {zone : Zone} (hfetched : held.fetched = .ok zone) :
    (zone.entries.map Record.id).Nodup := by
  obtain ⟨-, hchecks, -⟩ := fetched_eq_ok_iff.1 hfetched
  have hkept : ((RemoteRecord.kept held.records).map RemoteRecord.id).Nodup :=
    held.distinct.sublist (List.filter_sublist.map _)
  have hsome : ((RemoteRecord.kept held.records).map fun record => some record.id) =
      ((RemoteRecord.kept held.records).map RemoteRecord.id).map some := by
    rw [List.map_map]
    rfl
  rw [map_id_of_checks hchecks, hsome]
  exact List.pairwise_map.2 (hkept.imp fun hne heq => hne (Option.some.inj heq))

end ZoneSync
