import ZoneSync.Command.Run
import ZoneSync.Proofs.Record.Distinct

/-!
# Sorted output

Records of different contents can be listed in record order in one way only. So in layout text that
is sorted nothing is left of the order in which the entries of a zone stood. Structured data know no
sorting: whatever is asked for, by an option or in the configuration, the records stand as in the
zone, and layouts whose entries stand in different orders are different data.
-/

namespace ZoneSync

open Record (content listed sort Before)

/-! ### Record order -/

namespace Record

variable {xs ys : List Record}

theorem listed_true_eq_sort (hnodup : (xs.map content).Nodup) : listed true xs = sort xs :=
  distinct_eq_self (((sort_perm xs).map content).nodup_iff.2 hnodup)

/-- Records of different contents come out in one order, whichever they came in. -/
theorem sort_eq_of_perm (hnodup : (xs.map content).Nodup) (hperm : xs.Perm ys) :
    sort xs = sort ys := by
  apply eq_of_perm_of_before
  · exact (sort_perm xs).trans (hperm.trans (sort_perm ys).symm)
  · exact sort_pairwise_before hnodup
  · exact sort_pairwise_before ((hperm.map content).nodup_iff.1 hnodup)

end Record

/-- The same zone but for the order of its entries. -/
structure Zone.Shuffles (zone other : Zone) : Prop where
  domain : zone.domain = other.domain
  settings : zone.settings = other.settings
  serial : zone.serial = other.serial
  entries : zone.entries.Perm other.entries

/-- The lines of a zone that holds no content twice, its records in record order. -/
theorem Zone.layoutLines_true {zone : Zone} (hnodup : (zone.entries.map content).Nodup) :
    zone.layoutLines true = zone.domain :: zone.settings.nonDefault.map zone.settings.layoutLine ++
      (sort zone.entries).map Record.layoutLine := by
  rw [Zone.layoutLines, Record.listed_true_eq_sort hnodup]

theorem Zone.Shuffles.render_true {zone other : Zone} (hshuffles : zone.Shuffles other)
    (hnodup : (zone.entries.map content).Nodup) : zone.render true = other.render true := by
  have hother : (other.entries.map content).Nodup :=
    (hshuffles.entries.map content).nodup_iff.1 hnodup
  rw [Zone.render, Zone.render, layoutLines_true hnodup, layoutLines_true hother,
    hshuffles.domain, hshuffles.settings, Record.sort_eq_of_perm hnodup hshuffles.entries]

namespace Layout

variable {layout other : Layout}

/-- The same zones in the same order, but for the order of their entries. -/
def Shuffles (layout other : Layout) : Prop :=
  List.Forall₂ Zone.Shuffles layout.zones other.zones

/-- No zone holds a content twice. -/
def HasDistinct (layout : Layout) : Prop :=
  ∀ zone ∈ layout.zones, (zone.entries.map content).Nodup

theorem map_render_true {zones others : List Zone}
    (hshuffles : List.Forall₂ Zone.Shuffles zones others)
    (hdistinct : ∀ zone ∈ zones, (zone.entries.map content).Nodup) :
    zones.map (Zone.render · true) = others.map (Zone.render · true) := by
  induction hshuffles with
  | nil => rfl
  | cons hzone _ ih =>
    obtain ⟨hhead, htail⟩ := List.forall_mem_cons.1 hdistinct
    rw [List.map_cons, List.map_cons, hzone.render_true hhead, ih htail]

theorem render_true_of_shuffles (hdistinct : layout.HasDistinct)
    (hshuffles : layout.Shuffles other) : layout.render true = other.render true := by
  rw [render, render, map_render_true hshuffles hdistinct]

end Layout

/-! ### Structured data -/

theorem Json.nat_inj {m n : Nat} : nat m = nat n ↔ m = n := by
  rw [nat, nat, Json.int.injEq]
  omega

theorem RecordType.name_injective : Function.Injective RecordType.name := by
  intro type other
  cases type <;> cases other <;> decide

theorem Settings.json_injective : Function.Injective Settings.json := by
  rintro ⟨ttl, refresh, retry, expire, dnssec⟩ ⟨_, _, _, _, _⟩ hjson
  simpa [Json.nat_inj, UInt32.toNat_inj] using Json.object.inj hjson

theorem Record.json_injective : Function.Injective Record.json := by
  rintro ⟨⟨type, hostname, destination, priority, _⟩, id⟩
    ⟨⟨otherType, otherHostname, otherDestination, otherPriority, _⟩, otherId⟩ hjson
  have hparts : type = otherType ∧ hostname = otherHostname ∧ destination = otherDestination ∧
      priority = otherPriority ∧ id = otherId := by
    have hmembers := Json.object.inj hjson
    clear hjson
    cases priority <;> cases otherPriority <;> cases id <;> cases otherId <;>
      simp_all [Json.nat_inj, RecordType.name_injective.eq_iff, UInt16.toNat_inj]
  obtain ⟨rfl, rfl, rfl, rfl, rfl⟩ := hparts
  rfl

theorem Zone.json_injective : Function.Injective Zone.json := by
  rintro ⟨domain, settings, serial, entries⟩ ⟨otherDomain, otherSettings, otherSerial, others⟩ hjson
  have hentries : entries.map Record.json = others.map Record.json ↔ entries = others :=
    (List.map_injective_iff.2 Record.json_injective).eq_iff
  have hparts : domain = otherDomain ∧ settings = otherSettings ∧ serial = otherSerial ∧
      entries = others := by
    have hmembers := Json.object.inj hjson
    clear hjson
    cases serial <;> cases otherSerial <;>
      simp_all [Json.nat_inj, UInt64.toNat_inj, Settings.json_injective.eq_iff]
  obtain ⟨rfl, rfl, rfl, rfl⟩ := hparts
  rfl

/-- A layout can be told from its data, the order of all entries included. -/
theorem Layout.json_injective : Function.Injective Layout.json := by
  rintro ⟨zones, _⟩ ⟨others, _⟩ hjson
  have hmember : Function.Injective fun zone : Zone => (zone.domain, zone.json) :=
    fun _ _ heq => Zone.json_injective (Prod.mk.inj heq).2
  exact Layout.mk.injEq .. ▸ List.map_injective_iff.2 hmember (Json.object.inj hjson)

/-! ### Formats -/

/-- Only layout text has a text of its own. -/
theorem Format.structured_eq_of_ne {format : Format} (hformat : format ≠ .layout)
    (text other : String) (data : Json) :
    format.structured text data = format.structured other data := by
  cases format with
  | layout => exact absurd rfl hformat
  | json | yaml => rfl

/-- Whether to sort is a question of layout text alone. -/
theorem Layout.shown_eq_and (layout : Layout) (format : Format) (sorted : Bool) :
    layout.shown format sorted =
      layout.shown format (decide (format = .layout) && sorted) := by
  by_cases hformat : format = .layout
  · rw [decide_eq_true hformat, Bool.true_and]
  · exact Format.structured_eq_of_ne hformat _ _ _

/-! ### The commands -/

namespace Command

/-- The same preferences but for the key that asks for sorting. -/
def Preferences.sorting (preferences : Preferences) (sorted : Bool) : Preferences :=
  { preferences with config := { preferences.config with sortRecords := sorted } }

/-- Sorted layout text does not know in which order the entries of a zone came: they stand in record
order. In structured data they stand as they came, since layouts that differ in anything, and be it
the order of two entries, are different data. So where a command shows structured data, neither the
option nor the key that asks for sorting changes anything, while in layout text both do the same. -/
theorem shown_sorted {layout other : Layout} (hdistinct : layout.HasDistinct)
    (hshuffles : layout.Shuffles other) (format : Format) (sorted : Bool) :
    (format = .layout → layout.shown format true = other.shown format true ∧
      ∀ zone ∈ layout.zones,
        (sort zone.entries).Perm zone.entries ∧ (sort zone.entries).Pairwise Before ∧
          zone.layoutLines true =
            zone.domain :: zone.settings.nonDefault.map zone.settings.layoutLine ++
              (sort zone.entries).map Record.layoutLine) ∧
    (format ≠ .layout → layout.shown format sorted = format.structured "" layout.json) ∧
    (layout.json = other.json ↔ layout = other) ∧
    ∀ (surroundings : Surroundings) (options : Options) (preferences : Preferences),
      let asked := sorted || preferences.config.sortRecords
      let effective := decide (options.output = .layout) && asked
      (∀ sources : Sources, print surroundings options preferences sources sorted =
        print surroundings options (preferences.sorting effective) sources false) ∧
      ∀ domains : List String, pull surroundings options preferences domains sorted =
        pull surroundings options (preferences.sorting effective) domains false := by
  refine ⟨fun hformat => ⟨?_, fun zone hmem => ?_⟩, fun hformat => ?_,
    Layout.json_injective.eq_iff, fun surroundings options preferences => ?_⟩
  · rw [hformat, Layout.shown, Layout.shown, Layout.render_true_of_shuffles hdistinct hshuffles]
    rfl
  · exact ⟨Record.sort_perm _, Record.sort_pairwise_before (hdistinct zone hmem),
      Zone.layoutLines_true (hdistinct zone hmem)⟩
  · exact Format.structured_eq_of_ne hformat _ _ _
  · -- Both commands show a layout in the same way, and nothing else depends on the key.
    have hshown := fun shown : Layout =>
      shown.shown_eq_and options.output (sorted || preferences.config.sortRecords)
    have hsession : ∀ effective, (preferences.sorting effective).session surroundings =
        preferences.session surroundings := fun _ => rfl
    refine ⟨fun sources => ?_, fun domains => ?_⟩
    · simp only [print, hshown]
      rfl
    · simp only [pull, hsession, hshown]
      rfl

end Command

/-! ### Two orders of the same records -/

namespace Sample

def greeting : Record :=
  ⟨⟨.txt, "@", "hello", none, rfl⟩, none⟩

def webServer : Record :=
  ⟨⟨.a, "www", "192.0.2.2", none, rfl⟩, none⟩

/-- A layout of one zone with these records. -/
def layoutOf (records : List Record) : Layout where
  zones := [⟨"a.org", Settings.default, none, records⟩]
  distinct := List.pairwise_singleton _ _

end Sample

namespace Command

open Sample

/-- The two orders give one sorted text. -/
theorem shown_sorted_swapped :
    (layoutOf [greeting, webServer]).shown .layout true =
        "a.org\n\tA\twww\t192.0.2.2\n\tTXT\t@\thello" ∧
      (layoutOf [greeting, webServer]).shown .layout true =
        (layoutOf [webServer, greeting]).shown .layout true := by
  have hdistinct : (layoutOf [greeting, webServer]).HasDistinct :=
    List.forall_mem_singleton.2 (by decide)
  have hshuffles : (layoutOf [greeting, webServer]).Shuffles (layoutOf [webServer, greeting]) :=
    .cons ⟨rfl, rfl, rfl, .swap ..⟩ .nil
  exact ⟨by decide +kernel, ((shown_sorted hdistinct hshuffles .layout true).1 rfl).1⟩

/-- In structured data the two orders stay apart, although sorting is asked for. -/
theorem shown_unsorted :
    (layoutOf [greeting, webServer]).HasDistinct ∧
      (layoutOf [greeting, webServer]).Shuffles (layoutOf [webServer, greeting]) ∧
      (layoutOf [greeting, webServer]).shown .json true ≠
        (layoutOf [webServer, greeting]).shown .json true ∧
      (layoutOf [greeting, webServer]).shown .yaml true ≠
        (layoutOf [webServer, greeting]).shown .yaml true :=
  ⟨List.forall_mem_singleton.2 (by decide), .cons ⟨rfl, rfl, rfl, .swap ..⟩ .nil,
    by decide +kernel, by decide +kernel⟩

end Command

end ZoneSync
