import ZoneSync.Proofs.Layout.Grammar
import ZoneSync.Proofs.Provider.Conversion
import ZoneSync.Proofs.Text.Words

/-!
# Which data of the provider are usable

The timers of a zone have to be positive numbers of 32 bits. A record that is not about to be
deleted has to name a type, its hostname and destination have to be words that a layout can hold,
an address has to be of its family, and the priority of a mail exchanger has to fit 16 bits. Data
that keep these rules become a zone, record by record. Data that break one are refused as a whole,
and the first breach is told: the timers come first, then the records in their order. Records that
are about to be deleted are never looked at.
-/

namespace ZoneSync

/-! ### Contents -/

namespace Content

variable {type : RecordType} {hostname destination : String} {priority : Option UInt16}

theorem priorityFault?_of_counted (hmx : type = .mx → ∃ counted, priority = some counted)
    (hothers : type ≠ .mx → priority = none) : priorityFault? type priority = none := by
  by_cases htype : type = .mx
  · obtain ⟨counted, rfl⟩ := hmx htype
    rw [htype]
    rfl
  · rw [hothers htype]
    cases type <;> first | rfl | exact absurd rfl htype

theorem familyFault?_cases (type : RecordType) (destination : String) :
    (familyFault? type destination = none ∧
        (type = .a → Address.isIPv4 destination.toList = true) ∧
          (type = .aaaa → Address.isIPv6 destination.toList = true)) ∨
      (type = .a ∧ ¬Address.isIPv4 destination.toList = true ∧
        familyFault? type destination = some (.addressFamily .a destination)) ∨
      (type = .aaaa ∧ ¬Address.isIPv6 destination.toList = true ∧
        familyFault? type destination = some (.addressFamily .aaaa destination)) := by
  cases type with
  | a => by_cases hfamily : Address.isIPv4 destination.toList <;> simp [familyFault?, hfamily]
  | aaaa => by_cases hfamily : Address.isIPv6 destination.toList <;> simp [familyFault?, hfamily]
  | _ => simp [familyFault?]

theorem fault?_of_words (hpriority : priorityFault? type priority = none)
    (hhostname : Text.IsWord hostname) (hdestination : Text.IsWord destination) :
    fault? type hostname destination priority = familyFault? type destination := by
  simp [fault?, Text.isToken_iff_isWord.2 hhostname, Text.isToken_iff_isWord.2 hdestination,
    hpriority]

theorem fault?_of_hostname (hhostname : ¬Text.IsWord hostname) :
    fault? type hostname destination priority = some (.notAToken .hostname hostname) := by
  rw [← Text.isToken_iff_isWord, Bool.not_eq_true] at hhostname
  simp [fault?, hhostname]

theorem fault?_of_destination (hhostname : Text.IsWord hostname)
    (hdestination : ¬Text.IsWord destination) :
    fault? type hostname destination priority = some (.notAToken .destination destination) := by
  rw [← Text.isToken_iff_isWord, Bool.not_eq_true] at hdestination
  simp [fault?, Text.isToken_iff_isWord.2 hhostname, hdestination]

end Content

namespace Record

variable {type : RecordType} {hostname destination : String} {priority : Option UInt16}

theorem new_of_fault? {fault : RecordError}
    (hfault : Content.fault? type hostname destination priority = some fault) :
    Record.new type hostname destination priority = .error fault := by
  have hcontent : Content.new type hostname destination priority = .error fault := by
    rw [Content.new]
    split
    · next hnone => exact absurd (hnone.symm.trans hfault) (by simp)
    · next other hother => rw [Option.some.inj (hother.symm.trans hfault)]
  rw [Record.new, hcontent]
  rfl

theorem new_of_sound (hsound : Content.fault? type hostname destination priority = none) :
    Record.new type hostname destination priority =
      .ok ⟨⟨type, hostname, destination, priority, hsound⟩, none⟩ :=
  new_content ⟨⟨type, hostname, destination, priority, hsound⟩, none⟩

end Record

/-! ### Records -/

namespace RemoteRecord

/-- The priority counts only for mail exchangers, and has 16 bits there. -/
def PriorityFits (told : RemoteRecord) : Prop :=
  RecordType.IsName told.type .mx →
    ∀ priority, told.priority = some priority → priority.toNat < UInt16.size

/-- The rules for a record that is not about to be deleted. -/
structure IsUsable (told : RemoteRecord) : Prop where
  type : ∃ type, RecordType.IsName told.type type
  priority : told.PriorityFits
  hostname : Text.IsWord told.hostname
  destination : Text.IsWord told.destination
  ipv4 : RecordType.IsName told.type .a → Address.isIPv4 told.destination.toList = true
  ipv6 : RecordType.IsName told.type .aaaa → Address.isIPv6 told.destination.toList = true

/-- What is told of a record that breaks a rule, where it keeps the rules before that one. -/
inductive IsRefused (told : RemoteRecord) : String → Prop
  | type : (∀ type, ¬RecordType.IsName told.type type) →
    IsRefused told (RecordError.unknownType told.type).message
  | priority {priority : UInt64} : RecordType.IsName told.type .mx →
    told.priority = some priority → ¬priority.toNat < UInt16.size →
      IsRefused told s!"priority {priority.toNat} out of range"
  | hostname {type : RecordType} : RecordType.IsName told.type type → told.PriorityFits →
    ¬Text.IsWord told.hostname →
      IsRefused told (RecordError.notAToken .hostname told.hostname).message
  | destination {type : RecordType} : RecordType.IsName told.type type → told.PriorityFits →
    Text.IsWord told.hostname → ¬Text.IsWord told.destination →
      IsRefused told (RecordError.notAToken .destination told.destination).message
  | ipv4 : RecordType.IsName told.type .a → Text.IsWord told.hostname →
    Text.IsWord told.destination → ¬Address.isIPv4 told.destination.toList = true →
      IsRefused told (RecordError.addressFamily .a told.destination).message
  | ipv6 : RecordType.IsName told.type .aaaa → Text.IsWord told.hostname →
    Text.IsWord told.destination → ¬Address.isIPv6 told.destination.toList = true →
      IsRefused told (RecordError.addressFamily .aaaa told.destination).message

/-- The entry says what was told of the record. Only mail exchangers keep a priority. -/
structure Becomes (told : RemoteRecord) (record : Record) : Prop where
  id : record.id = some told.id
  type : RecordType.IsName told.type record.type
  hostname : record.hostname = told.hostname
  destination : record.destination = told.destination
  mx : record.type = .mx → ∃ priority, record.priority = some priority ∧
    priority.toNat = (told.priority.getD 0).toNat
  others : record.type ≠ .mx → record.priority = none

variable {told : RemoteRecord} {message : String}

/-- A record that is refused breaks a rule. -/
theorem IsRefused.not_isUsable (hrefused : told.IsRefused message) : ¬told.IsUsable := by
  intro husable
  cases hrefused with
  | type hunknown =>
    obtain ⟨type, hname⟩ := husable.type
    exact hunknown type hname
  | priority hmx hsome hlarge => exact hlarge (husable.priority hmx _ hsome)
  | hostname _ _ hword => exact hword husable.hostname
  | destination _ _ _ hword => exact hword husable.destination
  | ipv4 hname _ _ hfamily => exact hfamily (husable.ipv4 hname)
  | ipv6 hname _ _ hfamily => exact hfamily (husable.ipv6 hname)

theorem isName_unique {name : String} {type other : RecordType}
    (htype : RecordType.IsName name type) (hother : RecordType.IsName name other) :
    type = other := by
  rw [← RecordType.ofName?_eq_some_iff] at htype hother
  exact Option.some.inj (htype.symm.trans hother)

/-- The priority of a record that names that type: it counts for mail exchangers only. -/
theorem priorityFor_cases {type : RecordType} (hname : RecordType.IsName told.type type) :
    (∃ priority, priorityFor type told = .ok priority ∧ told.PriorityFits ∧
      (type = .mx → ∃ counted, priority = some counted ∧
        counted.toNat = (told.priority.getD 0).toNat) ∧ (type ≠ .mx → priority = none)) ∨
      ∃ message, priorityFor type told = .error message ∧ told.IsRefused message := by
  by_cases hmx : type = .mx
  · subst hmx
    rw [priorityFor, if_pos rfl]
    by_cases hfits : (told.priority.getD 0).toNat < UInt16.size
    · left
      refine ⟨_, if_pos hfits, ?_, fun _ => ⟨_, rfl, ?_⟩, fun hne => absurd rfl hne⟩
      · intro _ priority hsome
        rwa [hsome] at hfits
      · rw [UInt64.toNat_toUInt16]
        exact Nat.mod_eq_of_lt hfits
    · right
      refine ⟨_, if_neg hfits, ?_⟩
      cases hpriority : told.priority with
      | none =>
        rw [hpriority] at hfits
        exact absurd (by decide) hfits
      | some priority =>
        rw [hpriority] at hfits
        exact .priority hname hpriority hfits
  · left
    refine ⟨none, if_neg hmx, ?_, fun heq => absurd heq hmx, fun _ => rfl⟩
    intro hother
    exact absurd (isName_unique hname hother) hmx

/-- What becomes of a record depends on the first rule that its content breaks. -/
theorem check_of_fault? {type : RecordType} {priority : Option UInt16}
    (hname : RecordType.IsName told.type type) (hpriority : priorityFor type told = .ok priority) :
    (∀ fault, Content.fault? type told.hostname told.destination priority = some fault →
        told.check = .error fault.message) ∧
      ∀ hsound : Content.fault? type told.hostname told.destination priority = none,
        told.check = .ok ⟨⟨type, told.hostname, told.destination, priority, hsound⟩,
          some told.id⟩ := by
  constructor
  · intro fault hfault
    simp only [check, RecordType.ofName?_eq_some_iff.2 hname, hpriority,
      Record.new_of_fault? hfault, bind, Except.bind, pure, Except.pure]
    rfl
  · intro hsound
    simp only [check, RecordType.ofName?_eq_some_iff.2 hname, hpriority,
      Record.new_of_sound hsound, bind, Except.bind, pure, Except.pure]
    rfl

/-- A record keeps the rules and becomes an entry, or it is refused. -/
theorem check_cases (told : RemoteRecord) :
    (told.IsUsable ∧ ∃ record, told.check = .ok record ∧ told.Becomes record) ∨
      ∃ message, told.check = .error message ∧ told.IsRefused message := by
  -- The cases follow the order of the checks: type, priority, hostname, destination, family.
  by_cases hknown : ∃ type, RecordType.IsName told.type type
  · obtain ⟨type, hname⟩ := hknown
    rcases priorityFor_cases hname with
      ⟨priority, hpriority, hfits, hmx, hothers⟩ | ⟨message, hpriority, hrefused⟩
    · obtain ⟨hfault, hsound⟩ := check_of_fault? hname hpriority
      have hcounted : Content.priorityFault? type priority = none :=
        Content.priorityFault?_of_counted (fun h => (hmx h).imp fun _ hcounted => hcounted.1)
          hothers
      by_cases hhostname : Text.IsWord told.hostname
      · by_cases hdestination : Text.IsWord told.destination
        · have hfamily := Content.fault?_of_words hcounted hhostname hdestination
          rcases Content.familyFault?_cases type told.destination with
            ⟨hnone, hipv4, hipv6⟩ | ⟨rfl, hbad, hsome⟩ | ⟨rfl, hbad, hsome⟩
          · refine Or.inl ⟨⟨⟨type, hname⟩, hfits, hhostname, hdestination,
              fun h => hipv4 (isName_unique hname h), fun h => hipv6 (isName_unique hname h)⟩,
                _, hsound (hfamily.trans hnone), rfl, hname, rfl, rfl, hmx, hothers⟩
          · exact Or.inr ⟨_, hfault _ (hfamily.trans hsome),
              .ipv4 hname hhostname hdestination hbad⟩
          · exact Or.inr ⟨_, hfault _ (hfamily.trans hsome),
              .ipv6 hname hhostname hdestination hbad⟩
        · exact Or.inr ⟨_, hfault _ (Content.fault?_of_destination hhostname hdestination),
            .destination hname hfits hhostname hdestination⟩
      · exact Or.inr ⟨_, hfault _ (Content.fault?_of_hostname hhostname),
          .hostname hname hfits hhostname⟩
    · refine Or.inr ⟨message, ?_, hrefused⟩
      simp only [check, RecordType.ofName?_eq_some_iff.2 hname, hpriority, bind, Except.bind, pure,
        Except.pure]
  · rw [not_exists] at hknown
    refine Or.inr ⟨_, ?_, .type hknown⟩
    have hnone : RecordType.ofName? told.type = none := by
      apply Option.eq_none_iff_forall_ne_some.2
      intro type hsome
      exact hknown type (RecordType.ofName?_eq_some_iff.1 hsome)
    rw [check, hnone]
    rfl

theorem exists_check_iff : (∃ record, told.check = .ok record) ↔ told.IsUsable := by
  rcases told.check_cases with ⟨husable, record, hcheck, -⟩ | ⟨message, hcheck, hrefused⟩
  · exact ⟨fun _ => husable, fun _ => ⟨record, hcheck⟩⟩
  · refine ⟨fun ⟨record, hrecord⟩ => ?_, fun husable => absurd husable hrefused.not_isUsable⟩
    exact absurd (hcheck.symm.trans hrecord) (by simp)

theorem becomes_of_check {record : Record} (hcheck : told.check = .ok record) :
    told.Becomes record := by
  rcases told.check_cases with ⟨-, other, hother, hbecomes⟩ | ⟨message, herror, -⟩
  · rwa [Except.ok.inj (hcheck.symm.trans hother)]
  · exact absurd (hcheck.symm.trans herror) (by simp)

theorem isRefused_of_check (hcheck : told.check = .error message) : told.IsRefused message := by
  rcases told.check_cases with ⟨-, record, hrecord, -⟩ | ⟨other, hother, hrefused⟩
  · exact absurd (hcheck.symm.trans hrecord) (by simp)
  · rwa [Except.error.inj (hcheck.symm.trans hother)]

end RemoteRecord

/-! ### Zones -/

/-- The four timers, in the order in which they are checked. -/
def Settings.timers (settings : Settings) : List UInt32 :=
  [settings.ttl, settings.refresh, settings.retry, settings.expire]

namespace RemoteZone

/-- The timers under their names, in the order in which they are checked. -/
def timers (told : RemoteZone) : List (String × UInt64) :=
  [("ttl", told.ttl), ("refresh", told.refresh), ("retry", told.retry), ("expire", told.expire)]

/-- A positive number of 32 bits. -/
def IsTimer (value : UInt64) : Prop :=
  0 < value.toNat ∧ value.toNat < UInt32.size

/-- What is told of the first breach of a rule. -/
inductive FirstBreach (told : RemoteZone) (records : List RemoteRecord) : String → Prop
  | timer {before after : List (String × UInt64)} {field : String} {value : UInt64} :
    told.timers = before ++ (field, value) :: after → (∀ timer ∈ before, IsTimer timer.2) →
      ¬IsTimer value →
        FirstBreach told records
          s!"zone {field} {value.toNat} is not a positive 32-bit integer"
  | record {before after : List RemoteRecord} {record : RemoteRecord} {message : String} :
    (∀ timer ∈ told.timers, IsTimer timer.2) → records = before ++ record :: after →
      (∀ other ∈ before, other.deleted = false → other.IsUsable) → record.deleted = false →
        record.IsRefused message →
          FirstBreach told records s!"record {record.id} ({record.hostname}): {message}"

/-- The zone says what was told, with an entry for each record that is not about to be deleted. -/
structure Becomes (told : RemoteZone) (records : List RemoteRecord) (zone : Zone) : Prop where
  domain : zone.domain = told.name
  serial : zone.serial = told.serial
  timers : zone.settings.timers.map UInt32.toNat = told.timers.map fun timer => timer.2.toNat
  dnssec : zone.settings.dnssec = told.dnssec
  entries : List.Forall₂ RemoteRecord.Becomes (records.filter fun record => !record.deleted)
    zone.entries

/-- Data are converted as a whole or refused for their first breach of a rule. -/
structure IsConverted (told : RemoteZone) (records : List RemoteRecord) : Prop where
  succeeds : (∃ zone, told.toZone records = .ok zone) ↔
    (∀ timer ∈ told.timers, IsTimer timer.2) ∧
      ∀ record ∈ records, record.deleted = false → record.IsUsable
  faithful : ∀ zone, told.toZone records = .ok zone → told.Becomes records zone
  reports : ∀ error, told.toZone records = .error error →
    ∃ message, error = .conversion told.name message ∧ told.FirstBreach records message
  unmoved : ∀ others : List RemoteRecord,
    (others.filter fun record => !record.deleted) = (records.filter fun record => !record.deleted) →
      told.toZone others = told.toZone records

variable {told : RemoteZone} {records : List RemoteRecord}

theorem timer_cases (domain field : String) (value : UInt64) :
    (IsTimer value ∧ ∃ seconds, timer domain field value = .ok seconds ∧
        seconds.toNat = value.toNat) ∨
      ¬IsTimer value ∧ timer domain field value = .error (.conversion domain
        s!"zone {field} {value.toNat} is not a positive 32-bit integer") := by
  by_cases hrange : IsTimer value
  · left
    refine ⟨hrange, value.toUInt32, ?_, ?_⟩
    · simp [timer, hrange.1, hrange.2]
    · rw [UInt64.toNat_toUInt32]
      exact Nat.mod_eq_of_lt hrange.2
  · right
    refine ⟨hrange, if_neg ?_⟩
    simpa [IsTimer] using hrange

/-- The settings are the timers, read one after the other. -/
theorem map_timers_checkSettings (told : RemoteZone) :
    told.checkSettings.map Settings.timers =
      told.timers.mapM fun (field, value) => timer told.name field value := by
  simp only [checkSettings, timers, List.mapM_cons, List.mapM_nil]
  cases timer told.name "ttl" told.ttl with
  | error => rfl
  | ok ttl =>
    cases timer told.name "refresh" told.refresh with
    | error => rfl
    | ok refresh =>
      cases timer told.name "retry" told.retry with
      | error => rfl
      | ok retry => cases timer told.name "expire" told.expire <;> rfl

theorem exists_timer_iff {domain field : String} {value : UInt64} :
    (∃ seconds, timer domain field value = .ok seconds) ↔ IsTimer value := by
  rcases timer_cases domain field value with ⟨hrange, seconds, hok, -⟩ | ⟨hrange, herror⟩
  · exact ⟨fun _ => hrange, fun _ => ⟨seconds, hok⟩⟩
  · simp [hrange, herror]

theorem exists_checkSettings_iff :
    (∃ settings, told.checkSettings = .ok settings) ↔ ∀ timer ∈ told.timers, IsTimer timer.2 := by
  have hread : (∃ settings, told.checkSettings = .ok settings) ↔
      ∃ timers, told.checkSettings.map Settings.timers = .ok timers := by
    simp [map_eq_ok_iff]
  rw [hread, map_timers_checkSettings, exists_mapM_iff]
  simp only [exists_timer_iff]

theorem timers_of_checkSettings {settings : Settings}
    (hcheck : told.checkSettings = .ok settings) :
    settings.timers.map UInt32.toNat = told.timers.map fun timer => timer.2.toNat := by
  have hread : told.checkSettings.map Settings.timers = .ok settings.timers :=
    map_eq_ok_iff.2 ⟨settings, hcheck, rfl⟩
  rw [map_timers_checkSettings, mapM_eq_ok_iff] at hread
  have hsame : List.Forall₂ (fun (timer : String × UInt64) (seconds : UInt32) =>
      timer.2.toNat = seconds.toNat) told.timers settings.timers := by
    refine hread.imp fun timer seconds hseconds => ?_
    rcases timer_cases told.name timer.1 timer.2 with ⟨-, other, hother, hvalue⟩ | ⟨-, herror⟩
    · rw [← hvalue, Except.ok.inj (hother.symm.trans hseconds)]
    · exact absurd (herror.symm.trans hseconds) (by simp)
  rw [← List.forall₂_eq_eq_eq, List.forall₂_map_left_iff, List.forall₂_map_right_iff]
  exact (List.Forall₂.flip hsame).imp fun seconds timer heq => heq.symm

theorem dnssec_of_checkSettings {settings : Settings}
    (hcheck : told.checkSettings = .ok settings) : settings.dnssec = told.dnssec := by
  obtain ⟨ttl, -, hcheck⟩ := bind_eq_ok_iff.1 hcheck
  obtain ⟨refresh, -, hcheck⟩ := bind_eq_ok_iff.1 hcheck
  obtain ⟨retry, -, hcheck⟩ := bind_eq_ok_iff.1 hcheck
  obtain ⟨expire, -, hcheck⟩ := bind_eq_ok_iff.1 hcheck
  rw [← Except.ok.inj hcheck]

/-- The first timer out of range is the one that is reported. -/
theorem firstBreach_of_checkSettings {error : SyncError}
    (herror : told.checkSettings = .error error) :
    ∃ message, error = .conversion told.name message ∧ told.FirstBreach records message := by
  have hread : told.checkSettings.map Settings.timers = .error error := map_eq_error_iff.2 herror
  rw [map_timers_checkSettings] at hread
  obtain ⟨before, ⟨field, value⟩, after, hsplit, hbefore, hvalue⟩ := exists_of_mapM_eq_error hread
  rcases timer_cases told.name field value with ⟨-, seconds, hok, -⟩ | ⟨hrange, hrefused⟩
  · exact absurd (hok.symm.trans hvalue) (by simp)
  · refine ⟨_, (Except.error.inj (hrefused.symm.trans hvalue)).symm, .timer hsplit ?_ hrange⟩
    intro timer htimer
    exact exists_timer_iff.1 (hbefore timer htimer)

/-- Of the records that are looked at the first that is refused is the one that is reported. -/
theorem firstBreach_of_mapM {error : SyncError}
    (htimers : ∀ timer ∈ told.timers, IsTimer timer.2)
    (herror : (RemoteRecord.kept records).mapM (RemoteRecord.toRecord told.name) = .error error) :
    ∃ message, error = .conversion told.name message ∧ told.FirstBreach records message := by
  obtain ⟨before, record, after, hsplit, hbefore, hrecord⟩ := exists_of_mapM_eq_error herror
  obtain ⟨message, hcheck, rfl⟩ := mapError_eq_error_iff.1 hrecord
  obtain ⟨first, rest, rfl, hfirst, hrest⟩ := List.filter_eq_append_iff.1 hsplit
  obtain ⟨skipped, last, rfl, hskipped, hkept, -⟩ := List.filter_eq_cons_iff.1 hrest
  refine ⟨_, rfl, .record htimers (List.append_assoc ..).symm ?_ (by simpa using hkept)
    (RemoteRecord.isRefused_of_check hcheck)⟩
  intro other hother hlive
  rcases List.mem_append.1 hother with hother | hother
  · have hmem : other ∈ before := by
      rw [← hfirst]
      exact List.mem_filter.2 ⟨hother, by simp [hlive]⟩
    obtain ⟨entry, hentry⟩ := hbefore other hmem
    exact RemoteRecord.exists_check_iff.1 ⟨entry, mapError_eq_ok_iff.1 hentry⟩
  · exact absurd (hskipped other hother) (by simp [hlive])

/-- Whatever the provider tells is converted as a whole, or refused for its first breach. -/
theorem toZone_isConverted (told : RemoteZone) (records : List RemoteRecord) :
    told.IsConverted records where
  succeeds := by
    rw [← exists_checkSettings_iff]
    constructor
    · rintro ⟨zone, hzone⟩
      obtain ⟨hsettings, hentries, -⟩ := toZone_eq_ok_iff.1 hzone
      refine ⟨⟨_, hsettings⟩, fun record hrecord hlive => ?_⟩
      have hmem : record ∈ RemoteRecord.kept records :=
        List.mem_filter.2 ⟨hrecord, by simp [hlive]⟩
      exact RemoteRecord.exists_check_iff.1
        (exists_mapM_iff.1 ⟨_, mapM_eq_ok_iff.2 hentries⟩ record hmem)
    · rintro ⟨⟨settings, hsettings⟩, husable⟩
      have hall : ∀ record ∈ RemoteRecord.kept records, ∃ entry, record.check = .ok entry := by
        intro record hrecord
        obtain ⟨hmem, hlive⟩ := List.mem_filter.1 hrecord
        exact RemoteRecord.exists_check_iff.2 (husable record hmem (by simpa using hlive))
      obtain ⟨entries, hentries⟩ := exists_mapM_iff.2 hall
      exact ⟨⟨told.name, settings, told.serial, entries⟩,
        toZone_eq_ok_iff.2 ⟨hsettings, mapM_eq_ok_iff.1 hentries, rfl, rfl⟩⟩
  faithful zone hzone := by
    obtain ⟨hsettings, hentries, hdomain, hserial⟩ := toZone_eq_ok_iff.1 hzone
    exact ⟨hdomain, hserial, timers_of_checkSettings hsettings, dnssec_of_checkSettings hsettings,
      hentries.imp fun _ _ hcheck => RemoteRecord.becomes_of_check hcheck⟩
  reports error herror := by
    rcases bind_eq_error_iff.1 herror with hsettings | ⟨settings, hsettings, herror⟩
    · exact firstBreach_of_checkSettings hsettings
    · rcases bind_eq_error_iff.1 herror with hentries | ⟨entries, -, hdone⟩
      · exact firstBreach_of_mapM (exists_checkSettings_iff.1 ⟨settings, hsettings⟩) hentries
      · exact absurd hdone (by simp [pure, Except.pure])
  unmoved others hsame := by
    rw [toZone, toZone, hsame]

/-- Two timers and a record are bad; the first of the three is told. -/
example : (⟨"a.org", 86400, none, 0, 0, 1209600, false⟩ : RemoteZone).toZone
    [⟨"1", "", "A", none, "192.0.2.1", false, none⟩] =
      .error (.conversion "a.org" "zone refresh 0 is not a positive 32-bit integer") := by
  rfl

end RemoteZone

end ZoneSync
