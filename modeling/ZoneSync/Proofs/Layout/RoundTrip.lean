import Mathlib.Data.List.Forall2
import ZoneSync.Proofs.Layout.Meaning
import ZoneSync.Proofs.Layout.Writing
import ZoneSync.Proofs.Record.Distinct

/-!
# Writing a layout and reading it back

What is read can always be written, and what can be written is read back: the same domains, the same
settings, and the records of different content, without what only the provider knows. The lines of a
zone extend the reading by that zone and touch no zone before it, so the zones of a layout are read
one after the other. Writing what was read back gives the same text again, as nothing is left to be
dropped or sorted.
-/

namespace ZoneSync

open Record (content listed firsts Before)

/-- Every zone can be written so that it is read back. -/
def Layout.IsPrintable (layout : Layout) : Prop :=
  ∀ zone ∈ layout.zones, zone.IsPrintable

instance (layout : Layout) : Decidable layout.IsPrintable :=
  decidable_of_iff ((layout.zones.all fun zone => decide zone.IsPrintable) = true)
    (by simp [Layout.IsPrintable])

/-! ### What is read can be written -/

namespace Layout

theorem positive_of_assign {settings next : Settings} {name value : String}
    (hpositive : settings.Positive) (hassign : Reading.assign settings name value = .ok next) :
    next.Positive := by
  rw [Reading.assign] at hassign
  split at hassign
  · exact absurd hassign (by simp)
  · exact hpositive.set (mapError_eq_ok_iff.1 hassign)

theorem positive_of_overwrite {settings next : Settings} {written : List (String × String)}
    (hpositive : settings.Positive) (hnext : overwrite settings written = .ok next) :
    next.Positive := by
  induction written generalizing settings with
  | nil => exact Except.ok.inj hnext ▸ hpositive
  | cons first rest ih =>
    obtain ⟨middle, hassign, hrest⟩ := bind_eq_ok_iff.1 hnext
    exact ih (positive_of_assign hpositive hassign) hrest

/-- The domain of a zone line begins with none of the marks that other lines begin with. -/
theorem domain_of_zone? {line : Line} {domain : String} (hzone : line.zone? = some domain) :
    domain ≠ "" ∧ domain.toList.head? ≠ some '.' ∧ domain.toList.head? ≠ some '#' := by
  rw [Line.zone?] at hzone
  split at hzone
  · exact absurd hzone (by simp)
  · next hline =>
    rw [Bool.or_eq_true, not_or, Line.isComment_eq] at hline
    split at hzone
    · next token htokens =>
      split at hzone
      · exact absurd hzone (by simp)
      · next hmarked =>
        rw [← Option.some.inj hzone]
        refine ⟨Line.ne_empty_of_mem_tokens (htokens ▸ List.mem_singleton_self token), ?_, ?_⟩
        · exact fun hhead => hmarked (beq_iff_eq.2 hhead)
        · rw [htokens] at hline
          exact fun hhead => hline.1 (beq_iff_eq.2 hhead)
    · exact absurd hzone (by simp)

theorem isPrintable_of_parse {text : String} {layout : Layout} (hparse : parse text = .ok layout) :
    layout.IsPrintable := by
  obtain ⟨reading, hmeans, rfl⟩ := parse_means hparse
  intro zone hzone
  rw [Reading.zones_finish hmeans.nodup] at hzone
  obtain ⟨draft, hdraft, rfl⟩ := List.mem_map.1 hzone
  obtain ⟨line, -, hnamed⟩ := List.mem_filterMap.1 (hmeans.seen hdraft)
  obtain ⟨hnonempty, hunmarked, huncommented⟩ := domain_of_zone? hnamed
  have hsolid := hmeans.solid draft.domain (List.mem_map_of_mem hdraft)
  exact ⟨hnonempty, fun c hc => eq_false_of_ne_true (List.any_eq_false.1 hsolid c hc), hunmarked,
    huncommented, positive_of_overwrite Settings.default_positive (hmeans.settings draft hdraft)⟩

end Layout

/-! ### Reading written lines one after the other -/

namespace Layout

/-- Reading the lines leads from one reading to the other. -/
def Reads (reading : Reading) (lines : List (List Char)) (next : Reading) : Prop :=
  (lines.map (Line.mk 0)).foldlM Reading.step reading = .ok next

variable {reading middle next : Reading} {lines others : List (List Char)}

theorem Reads.append (hlines : Reads reading lines middle) (hothers : Reads middle others next) :
    Reads reading (lines ++ others) next := by
  rw [Reads, List.map_append, List.foldlM_append, bind_eq_ok_iff]
  exact ⟨middle, hlines, hothers⟩

theorem reads_nil (reading : Reading) : Reads reading [] reading :=
  rfl

theorem reads_cons {line : List Char} {shape : Shape}
    (hshape : (Line.mk 0 line).shape? = some shape) (heffect : reading.Effect shape middle)
    (hothers : Reads middle others next) : Reads reading (line :: others) next := by
  rw [Reads, List.map_cons, List.foldlM_cons, bind_eq_ok_iff]
  exact ⟨middle, Reading.step_eq_ok_iff.2 ⟨shape, hshape, heffect⟩, hothers⟩

/-- The lines of a text can be read one after the other. -/
theorem parse_of_reads {text : String} (htext : text.toList = Text.unlines lines)
    (hlines : ∀ line ∈ lines, '\n' ∉ line ∧ '\r' ∉ line) (hreads : Reads Reading.start lines next) :
    parse text = .ok next.finish := by
  obtain ⟨shapes, hshapes, happly⟩ := Reading.foldlM_step_eq_ok_iff.1 hreads
  refine parse_eq_ok_iff.2 ⟨shapes, next, ?_, happly, rfl⟩
  rw [Line.map_shape?_ofText htext hlines, ← hshapes, List.map_map]
  rfl

/-! ### The lines of one zone -/

/-- A reading in which `draft` is the last zone and open. -/
def Reading.opened (drafts : List Draft) (draft : Draft) : Reading :=
  ⟨Settings.default, some draft.domain, drafts ++ [draft]⟩

variable {drafts : List Draft} {draft changed : Draft}

theorem Reading.openDraft?_opened (hnew : draft.domain ∉ drafts.map Draft.domain) :
    (opened drafts draft).openDraft? = some draft := by
  have hnone : drafts.find? (fun other => other.domain = draft.domain) = none :=
    List.find?_eq_none.2 fun other hother hsame =>
      hnew (List.mem_map.2 ⟨other, hother, of_decide_eq_true hsame⟩)
  rw [openDraft?, opened, Option.bind_some, List.find?_append, hnone, Option.none_or,
    List.find?_singleton, decide_eq_true rfl]
  rfl

theorem Reading.update_opened (hnew : draft.domain ∉ drafts.map Draft.domain)
    (hdomain : changed.domain = draft.domain) :
    (opened drafts draft).update changed = opened drafts changed := by
  have hkept : drafts.map (fun other => if other.domain = changed.domain then changed else other) =
      drafts := by
    refine (List.map_congr_left fun other hother => if_neg fun hsame => ?_).trans (List.map_id _)
    exact hnew (List.mem_map.2 ⟨other, hother, hsame.trans hdomain⟩)
  rw [update, opened, opened, List.map_append, hkept, List.map_singleton,
    if_pos hdomain.symm, hdomain]

/-- An effect on the open zone, where that is the last one. -/
theorem Reading.Effect.opened {shape : Shape}
    (heffect : (opened drafts draft).Effect shape ((opened drafts draft).update changed))
    (hnew : draft.domain ∉ drafts.map Draft.domain) (hdomain : changed.domain = draft.domain) :
    (Reading.opened drafts draft).Effect shape (Reading.opened drafts changed) :=
  update_opened hnew hdomain ▸ heffect

theorem Reading.openZone_new {domain : String} {current : Option String}
    (hnew : domain ∉ drafts.map Draft.domain) :
    (Reading.mk Settings.default current drafts).openZone domain =
      opened drafts ⟨domain, Settings.default, []⟩ := by
  have hany : ¬(drafts.any fun draft => draft.domain = domain) = true := fun h =>
    hnew (@any_domain_iff ⟨Settings.default, current, drafts⟩ domain |>.1 h)
  rw [openZone, opened, if_neg hany]

theorem reads_settings {source : Settings} (hpositive : source.Positive)
    (hnew : draft.domain ∉ drafts.map Draft.domain) (settings : List Setting) :
    Reads (Reading.opened drafts draft)
      (settings.map fun setting => (source.layoutLine setting).toList)
      (Reading.opened drafts
        { draft with settings := settings.foldl source.adopt draft.settings }) := by
  induction settings generalizing draft with
  | nil => exact reads_nil _
  | cons setting rest ih =>
    rw [List.map_cons, source.toList_layoutLine]
    have heffect := Reading.Effect.override (Reading.openDraft?_opened hnew)
      (source.assign_value hpositive draft.settings setting)
    exact reads_cons (source.shape?_pieces setting) (heffect.opened hnew rfl) (ih hnew)

theorem reads_records (hnew : draft.domain ∉ drafts.map Draft.domain) (records : List Record) :
    Reads (Reading.opened drafts draft) (records.map fun record => record.layoutLine.toList)
      (Reading.opened drafts { draft with
        entries := draft.entries ++ records.map fun record => .record record.bare }) := by
  induction records generalizing draft with
  | nil =>
    rw [List.map_nil, List.map_nil, List.append_nil]
    exact reads_nil _
  | cons record rest ih =>
    rw [List.map_cons, record.toList_layoutLine]
    have heffect := Reading.Effect.entry (Reading.openDraft?_opened hnew) record.entry?_shape
    have hrest := @ih { draft with entries := draft.entries ++ [.record record.bare] } hnew
    rw [List.append_assoc] at hrest
    exact reads_cons record.shape?_pieces (heffect.opened hnew rfl) hrest

/-- What reading the lines of a zone puts together. -/
def draftOf (sorted : Bool) (zone : Zone) : Draft where
  domain := zone.domain
  settings := zone.settings
  entries := (listed sorted zone.entries).map fun record => .record record.bare

variable {zone : Zone} {zones : List Zone} {sorted : Bool}

theorem reads_zone (hprintable : zone.IsPrintable) (hnew : zone.domain ∉ drafts.map Draft.domain)
    (current : Option String) :
    Reads ⟨Settings.default, current, drafts⟩ ((zone.layoutLines sorted).map String.toList)
      (Reading.opened drafts (draftOf sorted zone)) := by
  have hopen : (Reading.mk Settings.default current drafts).Effect (.zone zone.domain)
      (Reading.opened drafts ⟨zone.domain, Settings.default, []⟩) := by
    rw [← Reading.openZone_new hnew]
    exact .zone (List.any_eq_false.2 fun c hc => by simp [hprintable.solid c hc])
  have hsettings := @reads_settings drafts ⟨zone.domain, Settings.default, []⟩ zone.settings
    hprintable.positive hnew zone.settings.nonDefault
  have hrecords := @reads_records drafts ⟨zone.domain, zone.settings, []⟩ hnew
    (listed sorted zone.entries)
  rw [Settings.foldl_adopt_nonDefault] at hsettings
  rw [Zone.layoutLines, List.cons_append, List.map_cons, List.map_append, List.map_map,
    List.map_map]
  exact reads_cons hprintable.shape?_domain hopen (hsettings.append hrecords)

/-! ### The lines of all zones -/

/-- The lines of the zones, with an empty line between two of them. -/
def linesOfZones (sorted : Bool) (zones : List Zone) : List (List Char) :=
  [[]].intercalate (zones.map fun zone => (zone.layoutLines sorted).map String.toList)

theorem linesOfZones_cons_cons (sorted : Bool) (zone other : Zone) (zones : List Zone) :
    linesOfZones sorted (zone :: other :: zones) =
      (zone.layoutLines sorted).map String.toList ++
        [] :: linesOfZones sorted (other :: zones) := by
  simp [linesOfZones, List.intercalate_cons_cons]

theorem linesOfZones_singleton (sorted : Bool) (zone : Zone) :
    linesOfZones sorted [zone] = (zone.layoutLines sorted).map String.toList :=
  List.intercalate_singleton

/-- The zones are read one after the other. -/
theorem reads_zones (hprintable : ∀ zone ∈ zones, zone.IsPrintable)
    (hnodup : (drafts.map Draft.domain ++ zones.map Zone.domain).Nodup) (current : Option String) :
    ∃ last, Reads ⟨Settings.default, current, drafts⟩ (linesOfZones sorted zones)
      ⟨Settings.default, last, drafts ++ zones.map (draftOf sorted)⟩ := by
  induction zones generalizing drafts current with
  | nil =>
    rw [List.map_nil, List.append_nil]
    exact ⟨current, reads_nil _⟩
  | cons zone rest ih =>
    have hnew : zone.domain ∉ drafts.map Draft.domain := fun hmem =>
      (List.nodup_append.1 hnodup).2.2 _ hmem _ List.mem_cons_self rfl
    have hzone := @reads_zone drafts zone sorted (hprintable zone List.mem_cons_self) hnew current
    cases rest with
    | nil =>
      rw [linesOfZones_singleton]
      exact ⟨some zone.domain, hzone⟩
    | cons other zones =>
      have hnext : ((drafts ++ [draftOf sorted zone]).map Draft.domain ++
          (other :: zones).map Zone.domain).Nodup := by
        rw [List.map_append, List.append_assoc]
        exact hnodup
      obtain ⟨last, hrest⟩ := ih (fun zone hmem => hprintable zone (List.mem_cons_of_mem _ hmem))
        hnext (some zone.domain)
      rw [List.append_assoc] at hrest
      rw [linesOfZones_cons_cons]
      exact ⟨last, hzone.append (reads_cons Line.shape?_empty .nothing hrest)⟩

theorem toList_render_zone (zone : Zone) (sorted : Bool) :
    (zone.render sorted).toList = Text.unlines ((zone.layoutLines sorted).map String.toList) := by
  rw [Zone.render, String.toList_join, Text.unlines, List.flatMap_map, List.flatMap_map]
  simp

theorem toList_render (layout : Layout) (sorted : Bool) :
    (layout.render sorted).toList = Text.unlines (linesOfZones sorted layout.zones) := by
  rw [Layout.render, String.toList_intercalate, List.map_map]
  induction layout.zones with
  | nil => rfl
  | cons zone rest ih =>
    cases rest with
    | nil =>
      rw [linesOfZones_singleton, ← toList_render_zone]
      exact List.intercalate_singleton
    | cons other zones =>
      rw [linesOfZones_cons_cons, List.map_cons, List.map_cons, List.intercalate_cons_cons,
        ← List.map_cons, ih, Function.comp_apply, toList_render_zone]
      simp [Text.unlines]

/-- No line that is written holds the end of a line. -/
theorem not_mem_linesOfZones (hprintable : ∀ zone ∈ zones, zone.IsPrintable) :
    ∀ line ∈ linesOfZones sorted zones, '\n' ∉ line ∧ '\r' ∉ line := by
  have hzone : ∀ zone ∈ zones, ∀ line ∈ (zone.layoutLines sorted).map String.toList,
      '\n' ∉ line ∧ '\r' ∉ line := by
    intro zone hmem line hline
    rw [Zone.layoutLines, List.cons_append, List.map_cons, List.map_append, List.map_map,
      List.map_map, List.mem_cons, List.mem_append, List.mem_map, List.mem_map] at hline
    rcases hline with rfl | ⟨setting, -, rfl⟩ | ⟨record, -, rfl⟩
    · obtain ⟨-, -, -, hreturn, hfeed⟩ := isToken_iff.1 (hprintable zone hmem).isToken_domain
      exact ⟨hfeed, hreturn⟩
    · exact zone.settings.not_mem_layoutLine setting
    · exact record.not_mem_layoutLine
  induction zones with
  | nil => exact fun line hline => absurd hline List.not_mem_nil
  | cons zone rest ih =>
    cases rest with
    | nil =>
      rw [linesOfZones_singleton]
      exact hzone zone List.mem_cons_self
    | cons other zones =>
      rw [linesOfZones_cons_cons]
      intro line hline
      rcases List.mem_append.1 hline with hline | hline
      · exact hzone zone List.mem_cons_self line hline
      rcases List.mem_cons.1 hline with rfl | hline
      · exact ⟨List.not_mem_nil, List.not_mem_nil⟩
      · exact ih (fun zone hmem => hprintable zone (List.mem_cons_of_mem _ hmem))
          (fun zone hmem => hzone zone (List.mem_cons_of_mem _ hmem)) line hline

end Layout

/-! ### What is read back -/

namespace Zone

/-- How a zone that was read back is related to the one that was written. -/
structure Reread (sorted : Bool) (zone read : Zone) : Prop where
  domain : read.domain = zone.domain
  settings : read.settings = zone.settings
  serial : read.serial = none
  ids : ∀ record ∈ read.entries, record.id = none
  declared : sorted = false → read.entries.map content = (firsts zone.entries).map content
  ordered : sorted = true → read.entries.Pairwise Before ∧
    (read.entries.map content).Perm ((firsts zone.entries).map content)

end Zone

namespace Record

theorem content_bare (records : List Record) :
    (records.map bare).map content = records.map content := by
  rw [List.map_map]
  rfl

theorem before_bare {records : List Record} (hbefore : records.Pairwise Before) :
    (records.map bare).Pairwise Before :=
  List.pairwise_map.2 hbefore

theorem sort_eq_self {records : List Record} (hnodup : (records.map content).Nodup)
    (hbefore : records.Pairwise Before) : sort records = records :=
  eq_of_perm_of_before (sort_perm records) (sort_pairwise_before hnodup) hbefore

/-- What was listed once is listed as it is. -/
theorem listed_bare (sorted : Bool) (records : List Record) :
    listed sorted ((listed sorted records).map bare) = (listed sorted records).map bare := by
  have hnodup : (((listed sorted records).map bare).map content).Nodup := by
    rw [content_bare]
    exact nodup_content_distinct _
  cases sorted with
  | false => exact distinct_eq_self hnodup
  | true =>
    have hsort := sort_eq_self hnodup (before_bare (distinct_sort_pairwise records))
    have hlisted : ∀ xs, listed true xs = distinct (sort xs) := fun _ => rfl
    rw [hlisted] at hnodup hsort
    rw [hlisted, hlisted, hsort, distinct_eq_self hnodup]

end Record

namespace Layout

variable {sorted : Bool}

theorem foldl_apply_record (records before : List Record) :
    (records.map Entry.record).foldl Entry.apply before = before ++ records := by
  induction records generalizing before with
  | nil => exact (List.append_nil _).symm
  | cons record rest ih =>
    rw [List.map_cons, List.foldl_cons, ih, Entry.apply, List.append_assoc]
    rfl

theorem entries_draftOf (sorted : Bool) (zone : Zone) :
    (draftOf sorted zone).zone.entries = (listed sorted zone.entries).map Record.bare := by
  have hrecords : (draftOf sorted zone).entries =
      ((listed sorted zone.entries).map Record.bare).map Entry.record :=
    (List.map_map ..).symm
  rw [Draft.zone, resolve, hrecords, foldl_apply_record, List.nil_append]

theorem reread_draftOf (sorted : Bool) (zone : Zone) :
    Zone.Reread sorted zone (draftOf sorted zone).zone := by
  refine ⟨rfl, rfl, rfl, ?_, ?_, ?_⟩
  all_goals rw [entries_draftOf]
  · intro record hrecord
    obtain ⟨written, -, rfl⟩ := List.mem_map.1 hrecord
    rfl
  · rintro rfl
    rw [Record.content_bare, ← Record.distinct_eq_firsts]
    rfl
  · rintro rfl
    rw [Record.content_bare, ← Record.distinct_eq_firsts]
    exact ⟨Record.before_bare (Record.distinct_sort_pairwise _),
      Record.content_distinct_sort_perm _⟩

theorem render_draftOf (sorted : Bool) (zone : Zone) :
    (draftOf sorted zone).zone.render sorted = zone.render sorted := by
  have hlines : ((listed sorted zone.entries).map Record.bare).map Record.layoutLine =
      (listed sorted zone.entries).map Record.layoutLine := by
    rw [List.map_map]
    rfl
  rw [Zone.render, Zone.layoutLines, entries_draftOf, Record.listed_bare, hlines, Zone.render,
    Zone.layoutLines]
  rfl

theorem parse_render {layout : Layout} (hprintable : layout.IsPrintable) (sorted : Bool) :
    ∃ read, parse (layout.render sorted) = .ok read ∧
      read.zones = layout.zones.map fun zone => (draftOf sorted zone).zone := by
  obtain ⟨last, hreads⟩ := @reads_zones [] layout.zones sorted hprintable layout.distinct none
  refine ⟨_, parse_of_reads (toList_render layout sorted) (not_mem_linesOfZones hprintable) hreads,
    ?_⟩
  rw [List.nil_append, Reading.zones_finish, List.map_map]
  · rfl
  · rw [List.map_map]
    exact layout.distinct

/-- What is read can be written, and what can be written is read back and then written again. -/
theorem parse_and_render :
    (∀ text layout, parse text = .ok layout → layout.IsPrintable) ∧
      ∀ layout : Layout, layout.IsPrintable → ∀ sorted, ∃ read,
        parse (layout.render sorted) = .ok read ∧
          List.Forall₂ (Zone.Reread sorted) layout.zones read.zones ∧
            read.render sorted = layout.render sorted := by
  refine ⟨fun text layout hparse => isPrintable_of_parse hparse,
    fun layout hprintable sorted => ?_⟩
  obtain ⟨read, hparse, hzones⟩ := parse_render hprintable sorted
  refine ⟨read, hparse, ?_, ?_⟩
  · rw [hzones, List.forall₂_map_right_iff]
    exact List.forall₂_same.2 fun zone _ => reread_draftOf sorted zone
  · rw [Layout.render, Layout.render, hzones, List.map_map]
    exact congrArg _ (List.map_congr_left fun zone _ => render_draftOf sorted zone)

/-- A layout as the provider may hold it, with a repeated content and identifiers. -/
def stored : Layout where
  zones := [
    { domain := "a.org"
      settings := { Settings.default with ttl := 60, dnssec := true }
      serial := some 7
      entries := [
        ⟨⟨.mx, "@", "mx.a.org", some 10, by decide⟩, some "1"⟩,
        ⟨⟨.a, "www", "192.0.2.1", none, by decide⟩, some "2"⟩,
        ⟨⟨.mx, "@", "mx.a.org", some 10, by decide⟩, none⟩] },
    { domain := "b.org", settings := Settings.default, serial := none, entries := [] }]
  distinct := by decide

theorem parse_and_render_stored :
    (∃ layout, parse reopened = .ok layout ∧ layout.IsPrintable) ∧ stored.IsPrintable ∧
      ∀ sorted, ∃ read, parse (stored.render sorted) = .ok read ∧
        List.Forall₂ (Zone.Reread sorted) stored.zones read.zones ∧
          read.render sorted = stored.render sorted :=
  ⟨⟨_, rfl, parse_and_render.1 reopened _ rfl⟩, by decide,
    parse_and_render.2 stored (by decide)⟩

end Layout

end ZoneSync
