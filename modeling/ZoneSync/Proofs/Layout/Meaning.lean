import Mathlib.Data.List.Induction
import ZoneSync.Proofs.Layout.Grammar

/-!
# What a layout text means

The settings of a domain are the default ones, overwritten by what is written about them, and its
records are what its own records and directives leave. The reader works line by line instead. After
any number of lines it holds, for each domain named so far, what these lines mean for it: a line in
a zone changes the meaning of that zone only, and a zone line gives a new domain the defaults that
stand above it. Therefore every setting of a domain has the value that was written last.
-/

namespace ZoneSync.Layout

variable {before : List Line} {line : Line} {domain : String}

/-! ### The invariant -/

/-- A reading holds what the lines read so far mean. -/
structure Reading.Means (lines : List Line) (reading : Reading) : Prop where
  current : reading.current = openAfter lines
  defaults : overwrite Settings.default (lines.filterMap Line.default?) = .ok reading.defaults
  domains : reading.drafts.map Draft.domain = (lines.filterMap Line.zone?).eraseDups
  nodup : (reading.drafts.map Draft.domain).Nodup
  solid : ∀ domain ∈ reading.drafts.map Draft.domain, domain.toList.any Text.isBlank = false
  settings : ∀ draft ∈ reading.drafts,
    overwrite Settings.default (settingsOf lines draft.domain) = .ok draft.settings
  entries : ∀ draft ∈ reading.drafts,
    entriesOf lines draft.domain = draft.entries.map .ok

namespace Reading

variable {reading next : Reading} {draft : Draft}

theorem means_start : start.Means [] where
  current := rfl
  defaults := rfl
  domains := rfl
  nodup := List.nodup_nil
  solid _ h := absurd h List.not_mem_nil
  settings _ h := absurd h List.not_mem_nil
  entries _ h := absurd h List.not_mem_nil

theorem Means.domain_mem (hmeans : reading.Means before) :
    domain ∈ reading.drafts.map Draft.domain ↔ domain ∈ before.filterMap Line.zone? := by
  rw [hmeans.domains, List.mem_eraseDups]

theorem Means.seen (hmeans : reading.Means before) (hdraft : draft ∈ reading.drafts) :
    draft.domain ∈ before.filterMap Line.zone? :=
  hmeans.domain_mem.1 (List.mem_map_of_mem hdraft)

/-- A line that changes no zone leaves the meaning of all zones as it was. -/
theorem Means.keep (hmeans : reading.Means before) (hdrafts : next.drafts = reading.drafts)
    (hcurrent : next.current = reading.current) (hzone : line.zone? = none)
    (hoverride : line.override? = none) (hentry : line.entry? = none)
    (hdefaults : overwrite Settings.default ((before ++ [line]).filterMap Line.default?) =
      .ok next.defaults) : next.Means (before ++ [line]) where
  current := by rw [hcurrent, openAfter_append, hzone, hmeans.current, Option.none_or]
  defaults := hdefaults
  domains := by
    rw [hdrafts, filterMap_append_singleton, hzone, Option.toList_none, List.append_nil,
      hmeans.domains]
  nodup := hdrafts ▸ hmeans.nodup
  solid := hdrafts ▸ hmeans.solid
  settings draft hdraft := by
    rw [hdrafts] at hdraft
    rw [settingsOf_append (hmeans.seen hdraft), hoverride, Option.toList_none, ite_self,
      List.append_nil, hmeans.settings draft hdraft]
  entries draft hdraft := by
    rw [hdrafts] at hdraft
    rw [entriesOf_append, hentry, Option.toList_none, ite_self, List.append_nil,
      hmeans.entries draft hdraft]

/-- A line in the open zone changes the meaning of that zone only. -/
theorem Means.change (hmeans : reading.Means before) (hopen : reading.openDraft? = some draft)
    {changed : Draft} (hdomain : changed.domain = draft.domain) (hzone : line.zone? = none)
    (hdefault : line.default? = none)
    (hsettings : overwrite Settings.default
      (settingsOf before draft.domain ++ line.override?.toList) = .ok changed.settings)
    (hentries : entriesOf before draft.domain ++ line.entry?.toList = changed.entries.map .ok) :
    (reading.update changed).Means (before ++ [line]) := by
  have hcurrent : openAfter before = some draft.domain := by
    rw [← hmeans.current]
    exact current_of_openDraft? hopen
  have hother : ∀ other : Draft, other.domain ≠ changed.domain →
      openAfter before ≠ some other.domain := fun other hne heq =>
    hne (hdomain ▸ Option.some.inj (heq.symm.trans hcurrent))
  refine ⟨?_, ?_, ?_, ?_, ?_, fun other hmem => ?_, fun other hmem => ?_⟩
  · rw [openAfter_append, hzone, Option.none_or]
    exact hmeans.current
  · rw [filterMap_append_singleton, hdefault, Option.toList_none, List.append_nil]
    exact hmeans.defaults
  · rw [domains_update, filterMap_append_singleton, hzone, Option.toList_none, List.append_nil,
      hmeans.domains]
  · rw [domains_update]
    exact hmeans.nodup
  · rw [domains_update]
    exact hmeans.solid
  · rcases mem_update hmem with rfl | ⟨hmem, hne⟩
    · rw [hdomain, settingsOf_append (hmeans.seen (mem_of_openDraft? hopen)), if_pos hcurrent,
        hsettings]
    · rw [settingsOf_append (hmeans.seen hmem), if_neg (hother other hne), List.append_nil,
        hmeans.settings other hmem]
  · rcases mem_update hmem with rfl | ⟨hmem, hne⟩
    · rw [hdomain, entriesOf_append, if_pos hcurrent, hentries]
    · rw [entriesOf_append, if_neg (hother other hne), List.append_nil, hmeans.entries other hmem]

/-- A zone line opens its zone; a new zone gets the defaults that stand above the line. -/
theorem Means.openZone (hmeans : reading.Means before) (hzone : line.zone? = some domain)
    (hdefault : line.default? = none) (hoverride : line.override? = none)
    (hentry : line.entry? = none) (hsolid : domain.toList.any Text.isBlank = false) :
    (reading.openZone domain).Means (before ++ [line]) := by
  have hdomains : ((before ++ [line]).filterMap Line.zone?).eraseDups =
      reading.drafts.map Draft.domain ++
        if domain ∈ reading.drafts.map Draft.domain then [] else [domain] := by
    rw [filterMap_append_singleton, hzone, Option.toList_some, List.eraseDups_append,
      hmeans.domains]
    congr 1
    by_cases hseen : domain ∈ before.filterMap Line.zone?
    · rw [List.removeAll, List.filter_cons_of_neg (by simpa using hseen),
        if_pos (List.mem_eraseDups.2 hseen)]
      rfl
    · rw [List.removeAll, List.filter_cons_of_pos (by simpa using hseen),
        if_neg fun hmem => hseen (List.mem_eraseDups.1 hmem)]
      rfl
  refine ⟨?_, ?_, ?_, ?_, ?_, fun other hmem => ?_, fun other hmem => ?_⟩
  · rw [openAfter_append, hzone, Option.some_or]
    rfl
  · rw [filterMap_append_singleton, hdefault, Option.toList_none, List.append_nil]
    exact hmeans.defaults
  · rw [domains_openZone, hdomains]
  · rw [domains_openZone]
    split
    · rw [List.append_nil]
      exact hmeans.nodup
    · next hnew => exact List.nodup_append.2 ⟨hmeans.nodup, by simp, by simpa using hnew⟩
  · rw [domains_openZone]
    intro other hmem
    rcases List.mem_append.1 hmem with hmem | hmem
    · exact hmeans.solid other hmem
    · split at hmem
      · exact absurd hmem List.not_mem_nil
      · rwa [List.mem_singleton.1 hmem]
  · rcases mem_openZone hmem with hmem | ⟨hnew, rfl⟩
    · rw [settingsOf_append (hmeans.seen hmem), hoverride, Option.toList_none, ite_self,
        List.append_nil, hmeans.settings other hmem]
    · rw [hmeans.domain_mem] at hnew
      rw [settingsOf_of_not_mem hnew hzone]
      exact hmeans.defaults
  · rcases mem_openZone hmem with hmem | ⟨hnew, rfl⟩
    · rw [entriesOf_append, hentry, Option.toList_none, ite_self, List.append_nil,
        hmeans.entries other hmem]
    · rw [hmeans.domain_mem] at hnew
      exact entriesOf_of_not_mem hnew

theorem Means.effect (hmeans : reading.Means before) {shape : Shape}
    (hshape : line.shape? = some shape) (heffect : reading.Effect shape next) :
    next.Means (before ++ [line]) := by
  obtain ⟨hzone, hdefault, hoverride⟩ := Line.parts_of_shape? hshape
  have hentry : line.entry? = shape.entry? := by rw [Line.entry?, hshape, Option.bind_some]
  cases heffect with
  | nothing =>
    refine hmeans.keep rfl rfl hzone hoverride hentry ?_
    rw [filterMap_append_singleton, hdefault]
    simpa [Shape.default?] using hmeans.defaults
  | default hassign =>
    refine hmeans.keep rfl rfl hzone hoverride hentry ?_
    rw [filterMap_append_singleton, hdefault]
    exact (overwrite_append hmeans.defaults).trans hassign
  | zone hsolid => exact hmeans.openZone hzone hdefault hoverride hentry hsolid
  | @override name value draft settings hopen hassign =>
    have hdraft := mem_of_openDraft? hopen
    refine hmeans.change hopen rfl hzone hdefault ?_ ?_
    · rw [hoverride]
      exact (overwrite_append (hmeans.settings draft hdraft)).trans hassign
    · rw [hentry, hmeans.entries draft hdraft]
      exact List.append_nil _
  | @entry _ draft entry hopen hdeclared =>
    have hdraft := mem_of_openDraft? hopen
    obtain ⟨hnoZone, hnoDefault, hnoOverride⟩ := Shape.parts_of_entry? hdeclared
    refine hmeans.change hopen rfl (hzone.trans hnoZone) (hdefault.trans hnoDefault) ?_ ?_
    · rw [hoverride, hnoOverride, Option.toList_none, List.append_nil,
        hmeans.settings draft hdraft]
    · rw [hentry, hdeclared, hmeans.entries draft hdraft, List.map_append]
      rfl

end Reading

/-! ### The last value of a setting -/

/-- The setting has the value that was written last under its name, and the default one if none
was. -/
inductive IsLastWritten (written : List (String × String)) (settings : Settings)
    (setting : Setting) : Prop
  | named {before after : List (String × String)} {value : String} :
    written = before ++ (setting.name, value) :: after → setting.name ∉ after.map Prod.fst →
      settings.IsSpelledBy value setting → IsLastWritten written settings setting
  | unnamed : setting.name ∉ written.map Prod.fst →
    settings = Settings.default.adopt settings setting → IsLastWritten written settings setting

variable {written : List (String × String)} {settings next : Settings} {setting : Setting}
  {name value : String}

theorem isLastWritten_nil (setting : Setting) : IsLastWritten [] Settings.default setting :=
  .unnamed List.not_mem_nil (by cases setting <;> rfl)

/-- One more assignment is the last one of its setting, and the others stay as they are. -/
theorem IsLastWritten.assign (hlast : IsLastWritten written settings setting)
    (hassign : Reading.assign settings name value = .ok next) :
    IsLastWritten (written ++ [(name, value)]) next setting := by
  obtain ⟨assigned, rfl, hspelled, hsame⟩ := Reading.assign_eq_ok_iff.1 hassign
  by_cases hassigned : setting = assigned
  · subst hassigned
    exact .named rfl List.not_mem_nil hspelled
  · have hname : setting.name ∉ [(assigned.name, value)].map Prod.fst := by
      rw [List.map_singleton, List.mem_singleton]
      exact fun heq => hassigned (Setting.name_injective heq)
    rw [hsame]
    cases hlast with
    | named hwritten hafter hvalue =>
      rw [hwritten, List.append_assoc, List.cons_append]
      refine .named rfl ?_ ((Settings.isSpelledBy_adopt_iff hassigned).2 hvalue)
      rw [List.map_append, List.mem_append, not_or]
      exact ⟨hafter, hname⟩
    | unnamed hwritten hdefault =>
      refine .unnamed ?_ ?_
      · rw [List.map_append, List.mem_append, not_or]
        exact ⟨hwritten, hname⟩
      · rw [Settings.adopt_comm (Ne.symm hassigned), ← hdefault]

theorem isLastWritten_of_overwrite (hwritten : overwrite Settings.default written = .ok settings)
    (setting : Setting) : IsLastWritten written settings setting := by
  induction written using List.reverseRecOn generalizing settings with
  | nil =>
    rw [← Except.ok.inj hwritten]
    exact isLastWritten_nil setting
  | append_singleton before last ih =>
    obtain ⟨middle, hbefore, -⟩ := bind_eq_ok_iff.1 (List.foldlM_append.symm.trans hwritten)
    exact (ih hbefore).assign ((overwrite_append hbefore).symm.trans hwritten)

/-! ### The layout -/

theorem mem_foldl_apply {record : Record} {records : List Record} {entries : List Entry}
    (hmem : record ∈ entries.foldl Entry.apply records) :
    record ∈ records ∨ .record record ∈ entries := by
  induction entries generalizing records with
  | nil => exact Or.inl hmem
  | cons entry rest ih =>
    rcases ih hmem with hnext | hrest
    · cases entry with
      | record added =>
        rcases List.mem_append.1 hnext with hbefore | hadded
        · exact Or.inl hbefore
        · rw [List.mem_singleton.1 hadded]
          exact Or.inr List.mem_cons_self
      | directive edit => exact Or.inl (List.mem_filter.1 hnext).1
    · exact Or.inr (List.mem_cons_of_mem _ hrest)

/-- Directives make no records of their own. -/
theorem mem_resolve {record : Record} {entries : List Entry} (hmem : record ∈ resolve entries) :
    .record record ∈ entries :=
  (mem_foldl_apply hmem).resolve_left List.not_mem_nil

theorem id_of_new {type : RecordType} {hostname destination : String}
    {priority : Option UInt16} {record : Record}
    (hnew : Record.new type hostname destination priority = .ok record) : record.id = none := by
  obtain ⟨content, -, hrecord⟩ := bind_eq_ok_iff.1 hnew
  rw [← Except.ok.inj hrecord]

theorem id_of_readRecord {type hostname destination : String} {priority : Option String}
    {record : Record} (hread : Reading.readRecord type hostname destination priority = .ok record) :
    record.id = none := by
  rw [Reading.readRecord] at hread
  split at hread
  · exact absurd hread (by simp)
  · obtain ⟨number, -, hnew⟩ := bind_eq_ok_iff.1 hread
    exact id_of_new (mapError_eq_ok_iff.1 hnew)

theorem id_of_entry? {shape : Shape} {record : Record}
    (hentry : shape.entry? = some (.ok (.record record))) : record.id = none := by
  cases shape with
  | directive action filters =>
    obtain ⟨directive, -, hdirective⟩ := map_eq_ok_iff.1 (Option.some.inj hentry)
    exact absurd hdirective (by simp)
  | record type hostname destination priority =>
    obtain ⟨read, hread, hrecord⟩ := map_eq_ok_iff.1 (Option.some.inj hentry)
    rw [← Entry.record.inj hrecord]
    exact id_of_readRecord hread
  | _ => exact absurd hentry (by simp [Shape.entry?])

/-- The layout holds what the lines mean. -/
structure IsMeaning (lines : List Line) (layout : Layout) : Prop where
  domains : layout.domains = (lines.filterMap Line.zone?).eraseDups
  settings : ∀ zone ∈ layout.zones,
    overwrite Settings.default (settingsOf lines zone.domain) = .ok zone.settings
  values : ∀ zone ∈ layout.zones, ∀ setting,
    IsLastWritten (settingsOf lines zone.domain) zone.settings setting
  entries : ∀ zone ∈ layout.zones, ∃ entries,
    entriesOf lines zone.domain = entries.map .ok ∧ zone.entries = resolve entries
  serial : ∀ zone ∈ layout.zones, zone.serial = none
  ids : ∀ zone ∈ layout.zones, ∀ record ∈ zone.entries, record.id = none

theorem id_of_mem_entriesOf {lines : List Line} {record : Record}
    (hmem : .ok (.record record) ∈ entriesOf lines domain) : record.id = none := by
  obtain ⟨line, -, hentry⟩ := List.mem_filterMap.1 hmem
  obtain ⟨shape, -, hentry⟩ := Option.bind_eq_some_iff.1 hentry
  exact id_of_entry? hentry

theorem Reading.Means.isMeaning {lines : List Line} {reading : Reading}
    (hmeans : reading.Means lines) : IsMeaning lines reading.finish := by
  have hzones := zones_finish hmeans.nodup
  have hdraft : ∀ zone ∈ reading.finish.zones, ∃ draft ∈ reading.drafts, draft.zone = zone :=
    fun zone hzone => List.mem_map.1 (hzones ▸ hzone)
  refine ⟨?_, fun zone hzone => ?_, fun zone hzone setting => ?_, fun zone hzone => ?_,
    fun zone hzone => ?_, fun zone hzone record hrecord => ?_⟩
  · rw [Layout.domains, hzones, List.map_map]
    exact hmeans.domains
  all_goals obtain ⟨draft, hmem, rfl⟩ := hdraft zone hzone
  · exact hmeans.settings draft hmem
  · exact isLastWritten_of_overwrite (hmeans.settings draft hmem) setting
  · exact ⟨draft.entries, hmeans.entries draft hmem, rfl⟩
  · rfl
  · have hdeclared : .ok (.record record) ∈ entriesOf lines draft.domain := by
      rw [hmeans.entries draft hmem]
      exact List.mem_map_of_mem (mem_resolve hrecord)
    exact id_of_mem_entriesOf hdeclared

variable {text : String} {layout : Layout}

theorem parse_means (hparse : parse text = .ok layout) :
    ∃ reading : Reading, reading.Means (Line.ofText text) ∧ reading.finish = layout :=
  parse_invariant Reading.means_start
    (fun _ _ _ _ _ hmeans hshape heffect => hmeans.effect hshape heffect) hparse

/-- Every text that is read means what the layout says. -/
theorem parse_isMeaning (hparse : parse text = .ok layout) :
    IsMeaning (Line.ofText text) layout := by
  obtain ⟨reading, hmeans, rfl⟩ := parse_means hparse
  exact hmeans.isMeaning

/-- A zone that is opened twice, with a default between and a directive after both. -/
def reopened : String :=
  ".ttl\t60\na.org\n\tA\twww\t192.0.2.1\n.ttl\t90\nb.org\n\t.dnssec\tyes\n" ++
    "a.org\n\tA\tftp\t192.0.2.1\n\t!remove-record\thostname=www\n"

theorem parse_isMeaning_reopened :
    ∃ layout, parse reopened = .ok layout ∧
      layout.zones.map (fun zone => (zone.domain, zone.settings)) =
        [("a.org", { Settings.default with ttl := 60 }),
          ("b.org", { Settings.default with ttl := 90, dnssec := true })] ∧
        IsMeaning (Line.ofText reopened) layout :=
  ⟨_, rfl, rfl, parse_isMeaning rfl⟩

end ZoneSync.Layout
