import ZoneSync.Proofs.Layout.RoundTrip
import ZoneSync.Proofs.Reconciliation
import ZoneSync.Proofs.Record.Canonical

/-!
# When two zones are written alike

Reading the lines below a domain gives back the settings that are not the default ones, and the
records, even where the domain or a timer could not be read. So the text determines the settings and
the contents. In record order it depends on nothing else, since different contents can be listed in
record order in one way only. Hence two zones of one domain are written alike exactly if comparing
them finds nothing to do. The domain stands in a line of its own, so two domains without a line feed
are told apart as well.
-/

namespace ZoneSync

open Record (content listed)

variable {zone other : Zone} {sorted : Bool}

namespace Zone

/-! ### The lines below the domain -/

def bodyLines (zone : Zone) (sorted : Bool) : List (List Char) :=
  (zone.settings.nonDefault.map fun setting => (zone.settings.layoutLine setting).toList) ++
    (listed sorted zone.entries).map fun record => record.layoutLine.toList

/-- What the lines below the domain are read as. -/
def bodyShapes (zone : Zone) (sorted : Bool) : List Layout.Shape :=
  (zone.settings.nonDefault.map fun setting =>
      .override setting.name (zone.settings.value setting)) ++
    (listed sorted zone.entries).map Record.shape

theorem toList_render (zone : Zone) (sorted : Bool) :
    (zone.render sorted).toList =
      Text.unlines (zone.domain.toList :: zone.bodyLines sorted) := by
  rw [Layout.toList_render_zone, layoutLines, bodyLines, List.cons_append, List.map_cons,
    List.map_append, List.map_map, List.map_map]
  rfl

theorem not_mem_bodyLines (zone : Zone) (sorted : Bool) :
    ∀ line ∈ zone.bodyLines sorted, '\n' ∉ line := by
  intro line hline
  rcases List.mem_append.1 hline with hline | hline
  · obtain ⟨setting, -, rfl⟩ := List.mem_map.1 hline
    exact (zone.settings.not_mem_layoutLine setting).1
  · obtain ⟨record, -, rfl⟩ := List.mem_map.1 hline
    exact record.not_mem_layoutLine.1

theorem map_shape?_bodyLines (zone : Zone) (sorted : Bool) :
    ((zone.bodyLines sorted).map fun line => (Layout.Line.mk 0 line).shape?) =
      (zone.bodyShapes sorted).map some := by
  have hsetting : ∀ setting,
      (Layout.Line.mk 0 (zone.settings.layoutLine setting).toList).shape? =
        some (.override setting.name (zone.settings.value setting)) := by
    intro setting
    rw [Settings.toList_layoutLine]
    exact zone.settings.shape?_pieces setting
  have hrecord : ∀ record : Record,
      (Layout.Line.mk 0 record.layoutLine.toList).shape? = some record.shape := by
    intro record
    rw [Record.toList_layoutLine]
    exact record.shape?_pieces
  rw [bodyLines, bodyShapes, List.map_append, List.map_append]
  simp only [List.map_map, Function.comp_def, hsetting, hrecord]

theorem bodyShapes_eq_of_bodyLines_eq (hlines : zone.bodyLines sorted = other.bodyLines sorted) :
    zone.bodyShapes sorted = other.bodyShapes sorted := by
  apply List.map_injective_iff.2 (Option.some_injective _)
  rw [← map_shape?_bodyLines, hlines, map_shape?_bodyLines]

end Zone

/-! ### What the shapes tell -/

/-- The name and the value that a line inside a zone gives a setting. -/
def Layout.Shape.assignment? : Layout.Shape → Option (String × String)
  | .override name value => some (name, value)
  | _ => none

theorem contents_listed (sorted : Bool) (records : List Record) :
    contents (listed sorted records) = contents records := by
  ext c
  rw [mem_contents, mem_contents, listed, Record.mem_content_distinct]
  cases sorted with
  | false => exact Iff.rfl
  | true => exact ((Record.sort_perm records).map content).mem_iff

namespace Zone

theorem filterMap_assignment?_bodyShapes (zone : Zone) (sorted : Bool) :
    (zone.bodyShapes sorted).filterMap Layout.Shape.assignment? =
      zone.settings.nonDefault.map fun setting =>
        (setting.name, zone.settings.value setting) := by
  have hrecords : (listed sorted zone.entries).filterMap
      (Layout.Shape.assignment? ∘ Record.shape) = [] :=
    List.filterMap_eq_nil_iff.2 fun _ _ => rfl
  rw [bodyShapes, List.filterMap_append, List.filterMap_map, List.filterMap_map, hrecords,
    List.append_nil]
  exact congrFun List.filterMap_eq_map _

theorem filterMap_entry?_bodyShapes (zone : Zone) (sorted : Bool) :
    (zone.bodyShapes sorted).filterMap Layout.Shape.entry? =
      (listed sorted zone.entries).map fun record => .ok (.record record.bare) := by
  have hsettings : zone.settings.nonDefault.filterMap (Layout.Shape.entry? ∘ fun setting =>
      .override setting.name (zone.settings.value setting)) = [] :=
    List.filterMap_eq_nil_iff.2 fun _ _ => rfl
  rw [bodyShapes, List.filterMap_append, List.filterMap_map, List.filterMap_map, hsettings,
    List.nil_append]
  exact List.filterMap_eq_map_iff_forall_eq_some.2 fun record _ => record.entry?_shape

theorem contents_eq_of_bodyShapes_eq (hshapes : zone.bodyShapes sorted = other.bodyShapes sorted) :
    contents zone.entries = contents other.entries := by
  -- Identifiers are not written, so only the bare records can be read off.
  have hentries := congrArg (List.filterMap Layout.Shape.entry?) hshapes
  rw [filterMap_entry?_bodyShapes, filterMap_entry?_bodyShapes] at hentries
  have hbare : (listed sorted zone.entries).map Record.bare =
      (listed sorted other.entries).map Record.bare := by
    have hinjective : Function.Injective fun record : Record =>
        (Except.ok (.record record) : Except Layout.Fault Layout.Entry) := by
      intro first second heq
      exact Layout.Entry.record.inj (Except.ok.inj heq)
    apply List.map_injective_iff.2 hinjective
    rw [List.map_map, List.map_map]
    exact hentries
  rw [← contents_listed sorted zone.entries, ← contents_listed sorted other.entries, contents,
    contents, ← Record.content_bare, hbare, Record.content_bare]

theorem eq_of_bodyLines_eq (hlines : zone.bodyLines sorted = other.bodyLines sorted) :
    zone.settings = other.settings ∧ contents zone.entries = contents other.entries := by
  have hshapes := bodyShapes_eq_of_bodyLines_eq hlines
  have hassigned := congrArg (List.filterMap Layout.Shape.assignment?) hshapes
  rw [filterMap_assignment?_bodyShapes, filterMap_assignment?_bodyShapes] at hassigned
  exact ⟨Settings.eq_of_map_nonDefault_eq hassigned, contents_eq_of_bodyShapes_eq hshapes⟩

/-! ### What the text tells -/

theorem bodyLines_eq_of_render_eq (hdomain : zone.domain = other.domain)
    (hrender : zone.render sorted = other.render sorted) :
    zone.bodyLines sorted = other.bodyLines sorted := by
  have htext := congrArg String.toList hrender
  have hsplit : ∀ domain lines, Text.unlines (domain :: lines) =
      (domain ++ ['\n']) ++ Text.unlines lines := fun _ _ => rfl
  rw [toList_render, toList_render, hdomain, hsplit, hsplit] at htext
  exact Text.unlines_injective (not_mem_bodyLines zone sorted) (not_mem_bodyLines other sorted)
    (List.append_cancel_left htext)

theorem domain_eq_of_render_eq (hzone : '\n' ∉ zone.domain.toList)
    (hother : '\n' ∉ other.domain.toList) (hrender : zone.render sorted = other.render sorted) :
    zone.domain = other.domain := by
  have htext := congrArg String.toList hrender
  rw [toList_render, toList_render] at htext
  have hlines := Text.unlines_injective
    (List.forall_mem_cons.2 ⟨hzone, not_mem_bodyLines zone sorted⟩)
    (List.forall_mem_cons.2 ⟨hother, not_mem_bodyLines other sorted⟩) htext
  exact String.toList_inj.1 (List.cons.inj hlines).1

end Zone

/-! ### Record order -/

/-- There is one way to list some contents in record order. -/
theorem Record.map_bare_listed_eq {xs ys : List Record} (hcontents : contents xs = contents ys) :
    (listed true xs).map bare = (listed true ys).map bare := by
  have hlisted : (listed true xs).map content = (listed true ys).map content :=
    (isCanonical_distinct_sort xs).unique (isCanonical_distinct_sort ys) fun c => by
      rw [← mem_contents, ← mem_contents, hcontents]
  have hbare : ∀ records : List Record,
      records.map bare = (records.map content).map fun c => ⟨c, none⟩ := by
    intro records
    rw [List.map_map]
    rfl
  rw [hbare, hbare, hlisted]

namespace Zone

theorem render_true_eq (hdomain : zone.domain = other.domain)
    (hsettings : zone.settings = other.settings)
    (hcontents : contents zone.entries = contents other.entries) :
    zone.render true = other.render true := by
  have hbare : ∀ records : List Record,
      records.map Record.layoutLine = (records.map Record.bare).map Record.layoutLine := by
    intro records
    rw [List.map_map]
    rfl
  rw [render, render, layoutLines, layoutLines, hdomain, hsettings, hbare,
    Record.map_bare_listed_eq hcontents, ← hbare]

theorem render_ofZones (zone : Zone) (sorted : Bool) :
    (Layout.ofZones [zone]).render sorted = zone.render sorted := by
  have hdomains : ([zone].map Zone.domain).Nodup := List.nodup_singleton zone.domain
  rw [Layout.render, Layout.zones_ofZones hdomains]
  exact String.intercalate_singleton

/-- Comparing two zones of one domain finds nothing to do exactly if their sorted texts are the same
text. The sorted text depends on nothing but the domain, the settings and the set of contents, and
tells them apart; of two domains a line feed may hide the difference. -/
theorem isNoop_iff_render_eq :
    (∀ zone other : Zone, zone.domain = other.domain →
      ((reconcile zone other).isNoop = true ↔
        (Layout.ofZones [zone]).render true = (Layout.ofZones [other]).render true)) ∧
      ∀ zone other : Zone,
        zone.domain = other.domain ∨ '\n' ∉ zone.domain.toList ∧ '\n' ∉ other.domain.toList →
          ((Layout.ofZones [zone]).render true = (Layout.ofZones [other]).render true ↔
            zone.domain = other.domain ∧ zone.settings = other.settings ∧
              contents zone.entries = contents other.entries) := by
  have hsame : ∀ zone other : Zone, zone.domain = other.domain →
      (zone.render true = other.render true ↔
        zone.settings = other.settings ∧ contents zone.entries = contents other.entries) := by
    intro zone other hdomain
    constructor
    · exact fun hrender => eq_of_bodyLines_eq (bodyLines_eq_of_render_eq hdomain hrender)
    · exact fun hequal => render_true_eq hdomain hequal.1 hequal.2
  constructor
  · intro zone other hdomain
    rw [render_ofZones, render_ofZones, isNoop_reconcile_iff, hsame zone other hdomain]
  · intro zone other hdomains
    rw [render_ofZones, render_ofZones]
    constructor
    · intro hrender
      have hdomain : zone.domain = other.domain := by
        rcases hdomains with hdomain | ⟨hzone, hother⟩
        · exact hdomain
        · exact domain_eq_of_render_eq hzone hother hrender
      exact ⟨hdomain, (hsame zone other hdomain).1 hrender⟩
    · rintro ⟨hdomain, hequal⟩
      exact (hsame zone other hdomain).2 hequal

/-- A zone as the provider may hold it, with a repeated content. -/
def crowded : Zone where
  domain := "a.org"
  settings := { Settings.default with ttl := 60 }
  serial := some 7
  entries := [
    ⟨⟨.mx, "@", "mail.a.org", some 10, by decide⟩, some "1"⟩,
    ⟨⟨.a, "mail", "192.0.2.2", none, by decide⟩, some "2"⟩,
    ⟨⟨.mx, "@", "mail.a.org", some 10, by decide⟩, none⟩]

/-- The same zone as it is written in a layout. -/
def tidy : Zone where
  domain := "a.org"
  settings := { Settings.default with ttl := 60 }
  serial := none
  entries := [
    ⟨⟨.a, "mail", "192.0.2.2", none, by decide⟩, none⟩,
    ⟨⟨.mx, "@", "mail.a.org", some 10, by decide⟩, none⟩]

theorem isNoop_iff_render_eq_crowded :
    (Layout.ofZones [crowded]).render true = (Layout.ofZones [tidy]).render true ∧
      (Layout.ofZones [tidy]).render true ≠
        (Layout.ofZones [{ tidy with domain := "b.org" }]).render true := by
  constructor
  · exact (isNoop_iff_render_eq.1 crowded tidy rfl).1 (by decide)
  · intro hrender
    have hequal := (isNoop_iff_render_eq.2 tidy { tidy with domain := "b.org" }
      (.inr ⟨by decide, by decide⟩)).1 hrender
    exact absurd hequal.1 (by decide)

end Zone

end ZoneSync
