import ZoneSync.Command.Run
import ZoneSync.Proofs.Dialogue
import ZoneSync.Proofs.Layout.Sameness
import ZoneSync.Proofs.Layout.Shown

/-!
# Printing a layout and loading it again

Whatever files a layout comes from, each of its zones was declared by one of their texts: a later
declaration takes the place of an earlier one as a whole, and the filter drops whole zones. So every
zone can be written, and none of its records has an identifier. What is written leaves out repeated
records, and a reconciliation skips those too. Therefore the layout that is printed and the layout
that is read back change any current zone in the same way.
-/

namespace ZoneSync

open Record (content distinct listed sort bare Before)

/-! ### Where the zones of a layout come from -/

namespace Layout

variable {zone other : Zone}

theorem mem_of_mem_place {zones : List Zone} (hmem : zone ∈ place other zones) :
    zone = other ∨ zone ∈ zones := by
  induction zones with
  | nil => exact Or.inl (List.mem_singleton.1 hmem)
  | cons first rest ih =>
    rw [place] at hmem
    split at hmem
    · exact (List.mem_cons.1 hmem).imp_right (List.mem_cons_of_mem _)
    · rcases List.mem_cons.1 hmem with rfl | hmem
      · exact Or.inr List.mem_cons_self
      · exact (ih hmem).imp_right (List.mem_cons_of_mem _)

theorem mem_of_mem_insertAll {layout : Layout} {zones : List Zone}
    (hmem : zone ∈ (layout.insertAll zones).zones) : zone ∈ layout.zones ∨ zone ∈ zones := by
  induction zones generalizing layout with
  | nil => exact Or.inl hmem
  | cons first rest ih =>
    rcases @ih (layout.insert first) hmem with hmem | hmem
    · rcases mem_of_mem_place hmem with rfl | hmem
      · exact Or.inr List.mem_cons_self
      · exact Or.inl hmem
    · exact Or.inr (List.mem_cons_of_mem _ hmem)

theorem mem_of_mem_filter {layout : Layout} {keep : List String}
    (hmem : zone ∈ (layout.filter keep).zones) : zone ∈ layout.zones := by
  rw [filter] at hmem
  split at hmem
  · exact hmem
  · exact List.mem_of_mem_filter hmem

theorem ofZones_zones (layout : Layout) : ofZones layout.zones = layout :=
  (Layout.mk.injEq ..).mpr (zones_ofZones layout.distinct)

end Layout

/-- Some layout text declares the zone. -/
def Zone.IsDeclared (zone : Zone) : Prop :=
  ∃ text layout, Layout.parse text = .ok layout ∧ zone ∈ layout.zones

namespace Zone.IsDeclared

variable {zone : Zone}

theorem isPrintable (hdeclared : zone.IsDeclared) : zone.IsPrintable := by
  obtain ⟨text, layout, hparse, hmem⟩ := hdeclared
  exact Layout.isPrintable_of_parse hparse zone hmem

theorem id_eq_none (hdeclared : zone.IsDeclared) : ∀ record ∈ zone.entries, record.id = none := by
  obtain ⟨text, layout, hparse, hmem⟩ := hdeclared
  obtain ⟨reading, hmeans, rfl⟩ := Layout.parse_means hparse
  exact hmeans.isMeaning.ids zone hmem

end Zone.IsDeclared

/-! ### What a zone that is read back changes -/

namespace Record

theorem map_bare_eq_self {records : List Record} (hids : ∀ record ∈ records, record.id = none) :
    records.map bare = records := by
  refine (List.map_congr_left fun record hrecord => ?_).trans (List.map_id records)
  rw [bare, ← hids record hrecord]
  rfl

theorem mem_of_mem_listed {sorted : Bool} {record : Record} {records : List Record}
    (hmem : record ∈ listed sorted records) : record ∈ records := by
  have hkept := (distinct_sublist _).mem hmem
  cases sorted with
  | false => exact hkept
  | true => exact mem_sort.1 hkept

end Record

/-- What is missing depends on the contents of the other side only. -/
theorem missingFrom_congr {xs ys : List Record} (hcontents : contents xs = contents ys)
    (records : List Record) : missingFrom records xs = missingFrom records ys := by
  refine List.filter_congr fun record _ => ?_
  simp only [← mem_contents, hcontents]

/-- Of records that are listed the missing ones are listed too. -/
theorem missingFrom_listed {records : List Record} (hids : ∀ record ∈ records, record.id = none)
    (sorted : Bool) (others : List Record) :
    missingFrom (listed sorted records) others =
      if sorted then sort (missingFrom records others) else missingFrom records others := by
  have hdistinct : distinct (listed sorted records) = listed sorted records :=
    Record.distinct_eq_self (Record.nodup_content_distinct _)
  rw [missingFrom, hdistinct]
  cases sorted with
  | false => rfl
  | true =>
    -- Both sides are in record order, so it is enough that they hold the same records.
    have hsame : (listed true records).Perm (distinct records) := by
      have hbare : ∀ xs : List Record, (∀ record ∈ xs, record.id = none) →
          xs = (xs.map content).map fun c => ⟨c, none⟩ := by
        intro xs hxs
        rw [List.map_map]
        exact (Record.map_bare_eq_self hxs).symm
      rw [hbare _ fun record hrecord => hids record (Record.mem_of_mem_listed hrecord),
        hbare _ fun record hrecord => hids record ((Record.distinct_sublist records).mem hrecord)]
      exact (Record.content_distinct_sort_perm records).map _
    refine Record.eq_of_perm_of_before ?_ ?_ ?_
    · exact (hsame.filter _).trans (Record.sort_perm _).symm
    · exact (Record.distinct_sort_pairwise records).sublist List.filter_sublist
    · exact Record.sort_pairwise_before (nodup_content_missingFrom _ _)

/-- The change with its additions in record order, if `sorted`. -/
def Delta.arranged (sorted : Bool) (delta : Delta) : Delta :=
  { delta with added := if sorted then sort delta.added else delta.added }

/-- A zone without identifiers that was written and read back changes what it changed before. -/
theorem reconcile_draftOf {zone : Zone} (hids : ∀ record ∈ zone.entries, record.id = none)
    (sorted : Bool) (current : Zone) :
    reconcile current (Layout.draftOf sorted zone).zone =
      (reconcile current zone).arranged sorted := by
  have hentries : (Layout.draftOf sorted zone).zone.entries = listed sorted zone.entries := by
    rw [Layout.entries_draftOf]
    exact Record.map_bare_eq_self fun record hrecord =>
      hids record (Record.mem_of_mem_listed hrecord)
  have hremoved : (reconcile current (Layout.draftOf sorted zone).zone).removed =
      (reconcile current zone).removed := by
    rw [reconcile_removed, reconcile_removed, hentries,
      missingFrom_congr (contents_listed sorted zone.entries)]
  have hadded : (reconcile current (Layout.draftOf sorted zone).zone).added =
      ((reconcile current zone).arranged sorted).added := by
    rw [reconcile_added, hentries, missingFrom_listed hids, Delta.arranged, reconcile_added]
  rw [reconcile, Delta.mk.injEq]
  exact ⟨rfl, rfl, hremoved, hadded⟩

/-! ### Loading -/

namespace Command

variable {surroundings : Surroundings} {sources : Sources} {layout : Layout}

/-- Every zone that is loaded was there before or is declared by one of the files. -/
theorem isDeclared_of_loadInto {inputRead : Bool} {before : Layout} {files : List String}
    (hbefore : ∀ zone ∈ before.zones, zone.IsDeclared)
    (hload : (loadInto surroundings inputRead before files).2 = .ok layout) :
    ∀ zone ∈ layout.zones, zone.IsDeclared := by
  induction files generalizing inputRead before with
  | nil => exact Except.ok.inj hload ▸ hbefore
  | cons path rest ih =>
    rw [loadInto] at hload
    split at hload
    · exact absurd hload (by simp)
    · next next hfile =>
      obtain ⟨text, -, hparse⟩ := bind_eq_ok_iff.1 hfile
      refine ih (fun zone hzone => ?_) hload
      rcases Layout.mem_of_mem_insertAll hzone with hzone | hzone
      · exact hbefore zone hzone
      · exact ⟨text, next, mapError_eq_ok_iff.1 hparse, hzone⟩

theorem isDeclared_of_load (hload : (sources.load surroundings).2 = .ok layout) :
    ∀ zone ∈ layout.zones, zone.IsDeclared := by
  obtain ⟨loaded, hloaded, rfl⟩ := map_eq_ok_iff.1 hload
  exact fun zone hzone => isDeclared_of_loadInto (fun _ h => absurd h List.not_mem_nil) hloaded zone
    (Layout.mem_of_mem_filter hzone)

theorem fromUTF8?_toUTF8 (text : String) : String.fromUTF8? text.toUTF8 = some text :=
  dif_pos text.isValidUTF8

/-- A text that is stored in a file of its own is loaded as it is. -/
theorem load_stored {path text : String} (hpath : isInput path = false)
    (hstored : surroundings.file path = .ok text.toUTF8) (hparse : Layout.parse text = .ok layout) :
    (Sources.mk [path] []).load surroundings = ([], .ok layout) := by
  have hsource : readSource surroundings false path = .ok text := by
    rw [readSource, if_neg (Bool.eq_false_iff.1 hpath), Surroundings.readText, hstored]
    simp only [Surroundings.decodeText, fromUTF8?_toUTF8]
  have hfile : loadFile surroundings false path = .ok layout := by
    rw [loadFile, hsource]
    exact mapError_eq_ok_iff.2 hparse
  have hagain : declaredAgain Layout.empty path layout = [] := by
    rw [declaredAgain, List.filter_eq_nil_iff.2 fun domain _ => by simp [Layout.get?, Layout.empty]]
    rfl
  have hload : loadInto surroundings false Layout.empty [path] =
      ([], .ok (Layout.empty.extend layout)) := by
    rw [loadInto, hfile]
    simp only [loadInto, hagain, List.append_nil]
  rw [Sources.load, hload]
  exact congrArg (fun loaded => ([], Except.ok loaded)) (Layout.ofZones_zones layout)

/-- The command sends nothing and shows what the files declare. -/
theorem ends_print {options : Options} {preferences : Preferences} {sorted : Bool}
    {exchanges : List Exchange} {report : Report}
    (hload : (sources.load surroundings).2 = .ok layout)
    (hends : (print surroundings options preferences sources sorted).Ends exchanges report) :
    exchanges = [] ∧ report = .ofText options.quiet
      (layout.shown options.output (sorted || preferences.config.sortRecords)) := by
  obtain ⟨first, rest, told, rfl, hfirst, hrest⟩ := Dialogue.ends_bind_iff.1 hends
  rw [show Except.map _ _ = Except.ok layout from hload] at hrest
  obtain ⟨rfl, rfl⟩ := Dialogue.ends_done_iff.1 hrest
  exact ⟨by rw [Dialogue.ends_tell hfirst, List.append_nil], rfl⟩

/-- What is printed of some files can be stored and loaded again. The layout has the same domains,
and each of its zones changes whatever the provider holds as the zone in the files does. -/
theorem print_then_load {options : Options} {sorted : Bool}
    (hload : (sources.load surroundings).2 = .ok layout) (hformat : options.output = .layout)
    (hloud : options.quiet = false) (preferences : Preferences) {σ : Type}
    (partner : σ → Request → Reply × σ) (state : σ) :
    let printed := ((print surroundings options preferences sources sorted).run partner state).1
    printed.exchanges = [] ∧ printed.result.result = .ok () ∧
      ∀ (elsewhere : Surroundings) (path : String), isInput path = false →
        elsewhere.file path = .ok printed.result.output.toUTF8 →
          ∃ reloaded, (Sources.mk [path] []).load elsewhere = ([], .ok reloaded) ∧
            reloaded.domains = layout.domains ∧
              List.Forall₂ (fun zone read => ∀ current, reconcile current read =
                (reconcile current zone).arranged (sorted || preferences.config.sortRecords))
                layout.zones reloaded.zones := by
  intro printed
  have hdeclared := isDeclared_of_load hload
  have hprintable : layout.IsPrintable := fun zone hzone => (hdeclared zone hzone).isPrintable
  obtain ⟨hsilent, hreport⟩ := ends_print hload
    (Dialogue.ends_run partner (print surroundings options preferences sources sorted) state)
  rw [hformat, hloud] at hreport
  have houtput : printed.result.output =
      layout.render (sorted || preferences.config.sortRecords) := by
    rw [show printed.result = _ from hreport, Report.ofText, Layout.emit_shown hprintable]
  refine ⟨hsilent, by rw [show printed.result = _ from hreport]; rfl, ?_⟩
  intro elsewhere path hpath hstored
  obtain ⟨reloaded, hparse, hzones⟩ :=
    Layout.parse_render hprintable (sorted || preferences.config.sortRecords)
  refine ⟨reloaded, load_stored hpath hstored (houtput ▸ hparse), ?_, ?_⟩
  · rw [Layout.domains, hzones, List.map_map]
    rfl
  · rw [hzones, List.forall₂_map_right_iff, List.forall₂_same]
    exact fun zone hzone => reconcile_draftOf (hdeclared zone hzone).id_eq_none _

end Command

/-! ### Two files with a repeated record -/

namespace Sample

/-- The second file declares a domain of the first one again. -/
def declared : Surroundings where
  file path :=
    if path = "first" then
      .ok ("a.org\n\tA\twww\t192.0.2.1\nb.org\n\tMX\t@\tmail.b.org\t10\n" ++
        "\tA\t@\t192.0.2.2\n\tMX\t@\tmail.b.org\t10\n").toUTF8
    else if path = "second" then .ok "a.org\n\t.ttl\t60\n".toUTF8
    else .error .missing
  bindings := []
  input := .empty
  screen := false
  answer := none

/-- What is printed of both files. -/
def printedText : String :=
  "a.org\n\t.ttl\t60\n\nb.org\n\tA\t@\t192.0.2.2\n\tMX\t@\tmail.b.org\t10\n"

/-- That text, stored. -/
def reprinted : Surroundings :=
  { declared with file := fun _ => .ok printedText.toUTF8 }

end Sample

namespace Command

open Sample

theorem print_then_load_again :
    let sources : Sources := ⟨["first", "second"], []⟩
    let options : Options := ⟨none, none, .layout, none, false, none⟩
    let preferences : Preferences := ⟨⟨"credentials", 30, none, "auto", false⟩, "config"⟩
    ((print declared options preferences sources true).replay []).result.output = printedText ∧
      ∃ layout reloaded, (sources.load declared).2 = .ok layout ∧
        layout.domains = ["a.org", "b.org"] ∧
          (Sources.mk ["printed"] []).load reprinted = ([], .ok reloaded) ∧
            reloaded.domains = ["a.org", "b.org"] ∧
              List.Forall₂ (fun zone read => ∀ current,
                reconcile current read = (reconcile current zone).arranged true)
                layout.zones reloaded.zones := by
  intro sources options preferences
  have houtput : ((print declared options preferences sources true).replay []).result.output =
      printedText := by
    decide +kernel
  obtain ⟨layout, hload, hdomains⟩ : ∃ layout, (sources.load declared).2 = .ok layout ∧
      layout.domains = ["a.org", "b.org"] :=
    ⟨_, rfl, rfl⟩
  obtain ⟨-, -, hagain⟩ := @print_then_load declared sources layout options true hload rfl rfl
    preferences _ Dialogue.script []
  obtain ⟨reloaded, hreload, hsame, hchanges⟩ := hagain reprinted "printed" (by decide)
    (congrArg (fun text : String => Except.ok text.toUTF8) houtput.symm)
  exact ⟨houtput, layout, reloaded, hload, hdomains, hreload, hsame.trans hdomains, hchanges⟩

end Command

end ZoneSync
