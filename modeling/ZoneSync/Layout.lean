import ZoneSync.Zone

/-!
# Layouts

A layout is a list of zones with distinct domains, in the order of their declaration. Putting in a
zone whose domain is already there replaces that zone where it stands.
-/

namespace ZoneSync

structure Layout where
  zones : List Zone
  distinct : (zones.map Zone.domain).Nodup
  deriving DecidableEq

namespace Layout

def empty : Layout :=
  ⟨[], List.nodup_nil⟩

/-- Replaces the zone of that domain, or adds one at the end. -/
def place (zone : Zone) : List Zone → List Zone
  | [] => [zone]
  | other :: rest =>
    if other.domain = zone.domain then zone :: rest else other :: place zone rest

/-- Only a new domain joins the domains. -/
theorem domain_mem_place {zone : Zone} {zones : List Zone} {domain : String} :
    domain ∈ (place zone zones).map Zone.domain ↔
      domain = zone.domain ∨ domain ∈ zones.map Zone.domain := by
  induction zones with
  | nil => simp [place]
  | cons other rest ih =>
    rw [place]
    split
    · next same => simp [same]
    · simp only [List.map_cons, List.mem_cons, ih]
      exact or_left_comm

theorem nodup_place {zone : Zone} {zones : List Zone} (distinct : (zones.map Zone.domain).Nodup) :
    ((place zone zones).map Zone.domain).Nodup := by
  induction zones with
  | nil => simp [place]
  | cons other rest ih =>
    rw [List.map_cons, List.nodup_cons] at distinct
    rw [place]
    split
    · next same => simpa [← same] using distinct
    · next other_ne =>
      rw [List.map_cons, List.nodup_cons]
      refine ⟨fun member => ?_, ih distinct.2⟩
      rcases domain_mem_place.1 member with same | member
      · exact other_ne same
      · exact distinct.1 member

def insert (layout : Layout) (zone : Zone) : Layout :=
  ⟨place zone layout.zones, nodup_place layout.distinct⟩

/-- Puts in the zones one after the other. -/
def insertAll (layout : Layout) (zones : List Zone) : Layout :=
  zones.foldl insert layout

def ofZones (zones : List Zone) : Layout :=
  empty.insertAll zones

/-- Takes over the zones of `other`. -/
def extend (layout other : Layout) : Layout :=
  layout.insertAll other.zones

def domains (layout : Layout) : List String :=
  layout.zones.map Zone.domain

def get? (layout : Layout) (domain : String) : Option Zone :=
  layout.zones.find? fun zone => zone.domain = domain

/-- Keeps the zones of the listed domains; an empty list keeps all zones. -/
def filter (layout : Layout) (keep : List String) : Layout where
  zones := if keep.isEmpty then layout.zones else layout.zones.filter fun zone => zone.domain ∈ keep
  distinct := by
    split
    · exact layout.distinct
    · exact layout.distinct.sublist (List.filter_sublist.map _)

end Layout

end ZoneSync
