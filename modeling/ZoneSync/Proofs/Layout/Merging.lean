import Mathlib.Data.List.Induction
import Mathlib.Data.List.Nodup
import ZoneSync.Layout

/-!
# Merging layouts

A layout is known by its domains in order and by the zone that it has under each of them. Putting in
a zone decides the zone under its domain and adds the domain at the end if it is new. Hence a merge
of layouts has their domains in the order in which they first appear, and under each of them the
zone of the last layout that has one. Merging may be grouped in any way, and a filter may be applied
before it or after it.
-/

namespace ZoneSync.Layout

variable {layout other : Layout} {zone : Zone} {zones : List Zone} {domain : String}

/-! ### Zones by their domains -/

theorem nodup_domains (layout : Layout) : layout.domains.Nodup :=
  layout.distinct

theorem get?_eq_some_iff :
    layout.get? domain = some zone ↔ zone ∈ layout.zones ∧ zone.domain = domain := by
  constructor
  · intro hget
    exact ⟨List.mem_of_find?_eq_some hget, by simpa using List.find?_some hget⟩
  · rintro ⟨hzone, hdomain⟩
    have hsome : (layout.get? domain).isSome :=
      List.find?_isSome.2 ⟨zone, hzone, decide_eq_true hdomain⟩
    obtain ⟨found, hfound⟩ := Option.isSome_iff_exists.1 hsome
    have hsame : found.domain = zone.domain := by simpa [hdomain] using List.find?_some hfound
    rw [hfound, List.inj_on_of_nodup_map layout.distinct (List.mem_of_find?_eq_some hfound) hzone
      hsame]

theorem exists_get?_iff : (∃ zone, layout.get? domain = some zone) ↔ domain ∈ layout.domains := by
  simp only [get?_eq_some_iff, domains, List.mem_map]

theorem get?_eq_none_iff : layout.get? domain = none ↔ domain ∉ layout.domains := by
  rw [← exists_get?_iff, Option.eq_none_iff_forall_ne_some, not_exists]

/-- The zones are those under the domains. -/
theorem zones_eq (layout : Layout) : layout.zones = layout.domains.filterMap layout.get? := by
  rw [domains, List.filterMap_map]
  have hown : ∀ zone ∈ layout.zones, (layout.get? ∘ Zone.domain) zone = some zone :=
    fun zone hzone => get?_eq_some_iff.2 ⟨hzone, rfl⟩
  rw [List.filterMap_congr hown, List.filterMap_some]

/-- A layout is known by its domains and the zones under them. -/
theorem eq_of_get?_eq (hdomains : layout.domains = other.domains)
    (hget : ∀ domain, layout.get? domain = other.get? domain) : layout = other := by
  have hzones : layout.zones = other.zones := by
    rw [zones_eq, zones_eq, hdomains, funext hget]
  exact (Layout.mk.injEq ..).mpr hzones

/-! ### One more zone -/

theorem domains_insert (layout : Layout) (zone : Zone) :
    (layout.insert zone).domains =
      layout.domains ++ if zone.domain ∈ layout.domains then [] else [zone.domain] := by
  have hplace : ∀ zones : List Zone, (place zone zones).map Zone.domain =
      zones.map Zone.domain ++ if zone.domain ∈ zones.map Zone.domain then [] else [zone.domain] := by
    intro zones
    induction zones with
    | nil => rfl
    | cons first rest ih =>
      rw [place]
      split
      · next hsame => simp [hsame]
      · next hother =>
        rw [List.map_cons, List.map_cons, ih, List.cons_append]
        simp only [List.mem_cons, Ne.symm hother, false_or]
  exact hplace layout.zones

theorem get?_insert (layout : Layout) (zone : Zone) (domain : String) :
    (layout.insert zone).get? domain =
      if zone.domain = domain then some zone else layout.get? domain := by
  have hplace : ∀ zones : List Zone, (place zone zones).find? (fun other => other.domain = domain) =
      if zone.domain = domain then some zone
      else zones.find? fun other => other.domain = domain := by
    intro zones
    induction zones with
    | nil => by_cases h : zone.domain = domain <;> simp [place, h]
    | cons first rest ih =>
      rw [place]
      split
      · next hsame => by_cases h : zone.domain = domain <;> simp [hsame, h]
      · next hother =>
        rw [List.find?_cons, List.find?_cons, ih]
        by_cases h : zone.domain = domain
        · have hfirst : first.domain ≠ domain := fun hdomain => hother (hdomain.trans h.symm)
          simp [h, hfirst]
        · simp only [h, if_false]
  exact hplace layout.zones

/-! ### Many zones -/

theorem domains_insertAll (hnodup : (zones.map Zone.domain).Nodup) :
    (layout.insertAll zones).domains =
      layout.domains ++ (zones.map Zone.domain).filter fun domain => domain ∉ layout.domains := by
  induction zones generalizing layout with
  | nil => exact (List.append_nil _).symm
  | cons zone rest ih =>
    rw [List.map_cons, List.nodup_cons] at hnodup
    rw [insertAll, List.foldl_cons, ← insertAll, ih hnodup.2, domains_insert, List.map_cons]
    by_cases hmem : zone.domain ∈ layout.domains
    · rw [if_pos hmem, List.append_nil, List.filter_cons_of_neg (by simpa using hmem)]
    · rw [if_neg hmem, List.filter_cons_of_pos (by simpa using hmem), List.append_assoc,
        List.singleton_append]
      congr 2
      refine List.filter_congr fun domain hdomain => ?_
      have hne : domain ≠ zone.domain := fun heq => hnodup.1 (heq ▸ hdomain)
      simp [hne]

theorem get?_insertAll (hnodup : (zones.map Zone.domain).Nodup) (domain : String) :
    (layout.insertAll zones).get? domain =
      (zones.find? fun zone => zone.domain = domain).or (layout.get? domain) := by
  induction zones generalizing layout with
  | nil => rfl
  | cons zone rest ih =>
    rw [List.map_cons, List.nodup_cons] at hnodup
    rw [insertAll, List.foldl_cons, ← insertAll, ih hnodup.2, get?_insert, List.find?_cons]
    by_cases hdomain : zone.domain = domain
    · have hrest : (rest.find? fun other => other.domain = domain) = none :=
        List.find?_eq_none.2 fun other hother heq =>
          hnodup.1 (List.mem_map.2 ⟨other, hother, by simpa [hdomain] using heq⟩)
      simp [hdomain, hrest]
    · simp [hdomain]

theorem domains_extend (layout other : Layout) :
    (layout.extend other).domains =
      layout.domains ++ other.domains.filter fun domain => domain ∉ layout.domains :=
  domains_insertAll other.distinct

theorem get?_extend (layout other : Layout) (domain : String) :
    (layout.extend other).get? domain = (other.get? domain).or (layout.get? domain) :=
  get?_insertAll other.distinct domain

theorem extend_assoc (first second third : Layout) :
    (first.extend second).extend third = first.extend (second.extend third) := by
  refine eq_of_get?_eq ?_ fun domain => ?_
  · simp only [domains_extend, List.filter_append, List.append_assoc, List.filter_filter]
    congr 2
    refine List.filter_congr fun domain _ => ?_
    by_cases hfirst : domain ∈ first.domains <;> simp [hfirst]
  · simp only [get?_extend, Option.or_assoc]

/-! ### Filters -/

/-- A filter that names no domain keeps all of them. -/
def Keeps (keep : List String) (domain : String) : Prop :=
  keep = [] ∨ domain ∈ keep

instance (keep : List String) (domain : String) : Decidable (Keeps keep domain) :=
  inferInstanceAs (Decidable (_ ∨ _))

theorem zones_filter (layout : Layout) (keep : List String) :
    (layout.filter keep).zones = layout.zones.filter fun zone => Keeps keep zone.domain := by
  rw [filter]
  cases keep with
  | nil => simp [Keeps]
  | cons name names => simp [Keeps]

theorem domains_filter (layout : Layout) (keep : List String) :
    (layout.filter keep).domains = layout.domains.filter (Keeps keep ·) := by
  rw [domains, zones_filter, domains, List.filter_map]
  rfl

theorem get?_filter (layout : Layout) (keep : List String) (domain : String) :
    (layout.filter keep).get? domain =
      if Keeps keep domain then layout.get? domain else none := by
  ext zone
  rw [get?_eq_some_iff, zones_filter, List.mem_filter, decide_eq_true_eq]
  constructor
  · rintro ⟨⟨hzone, hkept⟩, rfl⟩
    rw [if_pos hkept]
    exact get?_eq_some_iff.2 ⟨hzone, rfl⟩
  · intro hget
    split at hget
    · next hkept =>
      obtain ⟨hzone, rfl⟩ := get?_eq_some_iff.1 hget
      exact ⟨⟨hzone, hkept⟩, rfl⟩
    · exact absurd hget (by simp)

theorem filter_extend (layout other : Layout) (keep : List String) :
    (layout.extend other).filter keep = (layout.filter keep).extend (other.filter keep) := by
  refine eq_of_get?_eq ?_ fun domain => ?_
  · simp only [domains_filter, domains_extend, List.filter_append, List.filter_filter]
    congr 1
    refine List.filter_congr fun domain _ => ?_
    by_cases hkept : Keeps keep domain <;> simp [hkept]
  · simp only [get?_filter, get?_extend]
    by_cases hkept : Keeps keep domain <;> simp [hkept]

/-! ### Many layouts -/

/-- All layouts as one, the later ones over the earlier ones. -/
def merge (layouts : List Layout) : Layout :=
  layouts.foldl extend empty

variable {layouts : List Layout}

theorem merge_concat (layouts : List Layout) (last : Layout) :
    merge (layouts ++ [last]) = (merge layouts).extend last :=
  List.foldl_concat ..

theorem filter_merge (layouts : List Layout) (keep : List String) :
    (merge layouts).filter keep = merge (layouts.map (·.filter keep)) := by
  induction layouts using List.reverseRecOn with
  | nil =>
    exact eq_of_get?_eq (domains_filter _ _) fun domain => by rw [get?_filter]; exact ite_self _
  | append_singleton layouts last ih =>
    rw [merge_concat, filter_extend, ih, List.map_append, List.map_singleton, merge_concat]

theorem eraseDups_of_nodup {names : List String} (hnodup : names.Nodup) :
    names.eraseDups = names := by
  induction names with
  | nil => rfl
  | cons name rest ih =>
    rw [List.nodup_cons] at hnodup
    have hrest : rest.filter (fun other => !other == name) = rest :=
      List.filter_eq_self.2 fun other hother => by
        simpa using fun heq : other = name => hnodup.1 (heq ▸ hother)
    rw [List.eraseDups_cons, hrest, ih hnodup.2]

/-- Domains keep the place where they first appear. -/
theorem domains_merge (layouts : List Layout) :
    (merge layouts).domains = (layouts.flatMap domains).eraseDups := by
  induction layouts using List.reverseRecOn with
  | nil => rfl
  | append_singleton layouts last ih =>
    have hlast : last.domains.removeAll (layouts.flatMap domains) =
        last.domains.filter fun domain => domain ∉ (merge layouts).domains := by
      refine List.filter_congr fun domain _ => ?_
      simp only [ih, List.mem_eraseDups, decide_not, List.elem_eq_mem]
    rw [merge_concat, domains_extend, List.flatMap_append, List.flatMap_singleton,
      List.eraseDups_append, ← ih, hlast, eraseDups_of_nodup (last.nodup_domains.filter _)]

/-- The last zone of a domain is the one that counts. -/
theorem get?_merge_eq_some_iff :
    (merge layouts).get? domain = some zone ↔
      ∃ before layout after, layouts = before ++ layout :: after ∧
        layout.get? domain = some zone ∧ ∀ later ∈ after, domain ∉ later.domains := by
  induction layouts using List.reverseRecOn with
  | nil => simp [merge, get?, empty]
  | append_singleton layouts last ih =>
    rw [merge_concat, get?_extend]
    constructor
    · intro hget
      cases hlast : last.get? domain with
      | some found =>
        rw [hlast, Option.some_or] at hget
        exact ⟨layouts, last, [], rfl, hlast.trans hget, fun _ hmem => absurd hmem List.not_mem_nil⟩
      | none =>
        rw [hlast, Option.none_or] at hget
        obtain ⟨before, layout, after, rfl, hzone, hafter⟩ := ih.1 hget
        refine ⟨before, layout, after ++ [last], by simp, hzone, ?_⟩
        exact List.forall_mem_append.2
          ⟨hafter, List.forall_mem_singleton.2 (get?_eq_none_iff.1 hlast)⟩
    · rintro ⟨before, layout, after, hlayouts, hzone, hafter⟩
      rcases List.eq_nil_or_concat after with rfl | ⟨rest, final, rfl⟩
      · obtain ⟨rfl, hlast⟩ := List.append_inj' hlayouts rfl
        rw [List.singleton_inj.1 hlast, hzone, Option.some_or]
      · rw [List.concat_eq_append, ← List.cons_append, ← List.append_assoc] at hlayouts
        obtain ⟨hsame, hlast⟩ := List.append_inj' hlayouts rfl
        obtain ⟨hrest, hfinal⟩ := List.forall_mem_append.1 (List.concat_eq_append ▸ hafter)
        have hnone : last.get? domain = none := by
          rw [List.singleton_inj.1 hlast]
          exact get?_eq_none_iff.2 (hfinal final (List.mem_singleton_self final))
        rw [hnone, Option.none_or]
        exact ih.2 ⟨before, layout, rest, hsame, hzone, hrest⟩

/-- The zone alone. -/
def alone (zone : Zone) : Layout :=
  ⟨[zone], List.nodup_singleton _⟩

theorem ofZones_eq_merge (zones : List Zone) : ofZones zones = merge (zones.map alone) :=
  (List.foldl_map (f := alone) (g := extend)).symm

theorem get?_ofZones_eq_some_iff :
    (ofZones zones).get? domain = some zone ↔
      ∃ before after, zones = before ++ zone :: after ∧ zone.domain = domain ∧
        ∀ later ∈ after, later.domain ≠ domain := by
  rw [ofZones_eq_merge, get?_merge_eq_some_iff]
  constructor
  · rintro ⟨_, layout, _, hzones, hzone, hafter⟩
    obtain ⟨before, rest, rfl, rfl, hrest⟩ := List.map_eq_append_iff.1 hzones
    obtain ⟨first, after, rfl, rfl, rfl⟩ := List.map_eq_cons_iff.1 hrest
    obtain ⟨hmem, hdomain⟩ := get?_eq_some_iff.1 hzone
    obtain rfl := List.mem_singleton.1 hmem
    refine ⟨before, after, rfl, hdomain, fun later hlater hsame => ?_⟩
    exact hafter (alone later) (List.mem_map_of_mem hlater) (hsame ▸ List.mem_singleton_self _)
  · rintro ⟨before, after, rfl, hdomain, hafter⟩
    refine ⟨before.map alone, alone zone, after.map alone, by simp,
      get?_eq_some_iff.2 ⟨List.mem_singleton_self zone, hdomain⟩, ?_⟩
    refine List.forall_mem_map.2 fun later hlater hmem => hafter later hlater ?_
    exact (List.mem_singleton.1 hmem).symm

theorem domains_ofZones (zones : List Zone) :
    (ofZones zones).domains = (zones.map Zone.domain).eraseDups := by
  rw [ofZones_eq_merge, domains_merge, List.flatMap_map]
  exact congrArg List.eraseDups List.map_eq_flatMap.symm

end ZoneSync.Layout
