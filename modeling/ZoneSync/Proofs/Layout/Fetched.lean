import Mathlib.Data.List.Nodup
import ZoneSync.Proofs.Layout.RoundTrip
import ZoneSync.Proofs.Provider.Conversion

/-!
# Writing what was fetched

The records and the settings of a zone that was fetched have passed the rules of a layout, so their
lines can be read back. Its name has passed no rule: the provider may tell any text. So a zone that
was fetched is read back from its text exactly if its name can stand in a zone line, and a name with
a space in it gives a text that nobody can read.
-/

namespace ZoneSync

open Text

/-- The name can stand in a zone line: it has no blank, and none of the marks in front that other
lines begin with. -/
structure Layout.IsZoneName (name : String) : Prop where
  nonempty : name ≠ ""
  solid : IsSolid name.toList
  unmarked : name.toList.head? ≠ some '.'
  uncommented : name.toList.head? ≠ some '#'

namespace RemoteZone

variable {told : RemoteZone} {records : List RemoteRecord} {zone : Zone}

theorem isPrintable_iff (hzone : told.toZone records = .ok zone) :
    zone.IsPrintable ↔ Layout.IsZoneName told.name := by
  obtain ⟨hsettings, -, hdomain, -⟩ := toZone_eq_ok_iff.1 hzone
  rw [← hdomain]
  constructor
  · intro hprintable
    exact ⟨hprintable.nonempty, hprintable.solid, hprintable.unmarked, hprintable.uncommented⟩
  · intro hname
    exact ⟨hname.nonempty, hname.solid, hname.unmarked, hname.uncommented,
      positive_of_checkSettings hsettings⟩

/-- A zone that was fetched is read back from its text if its name allows it, and in no other
case. -/
theorem reread_iff_isZoneName (hzone : told.toZone records = .ok zone) (sorted : Bool) :
    (∃ layout read, Layout.parse ((Layout.ofZones [zone]).render sorted) = .ok layout ∧
      layout.zones = [read] ∧ Zone.Reread sorted zone read) ↔ Layout.IsZoneName told.name := by
  have hdomain : zone.domain = told.name := (toZone_eq_ok_iff.1 hzone).2.2.1
  constructor
  · rintro ⟨layout, read, hparse, hzones, hreread⟩
    have hread : read ∈ layout.zones := by
      rw [hzones]
      exact List.mem_singleton_self read
    have hprintable := Layout.isPrintable_of_parse hparse read hread
    rw [← hdomain, ← hreread.domain]
    exact ⟨hprintable.nonempty, hprintable.solid, hprintable.unmarked, hprintable.uncommented⟩
  · intro hname
    have hwritten : (Layout.ofZones [zone]).zones = [zone] :=
      Layout.zones_ofZones (List.nodup_singleton zone.domain)
    have hprintable : (Layout.ofZones [zone]).IsPrintable := by
      intro other hother
      rw [hwritten, List.mem_singleton] at hother
      rw [hother]
      exact (isPrintable_iff hzone).2 hname
    obtain ⟨layout, hparse, hzones⟩ := Layout.parse_render hprintable sorted
    rw [hwritten, List.map_singleton] at hzones
    exact ⟨layout, _, hparse, hzones, Layout.reread_draftOf sorted zone⟩

/-- A signed zone with a timer of its own. -/
def signed : RemoteZone :=
  ⟨"b.org", 600, some 7, 28800, 7200, 1209600, true⟩

/-- Two of the records have one content, and one is about to be deleted. -/
def repeated : List RemoteRecord :=
  [⟨"4", "@", "mx", some 10, "mail.b.org", false, none⟩,
    ⟨"5", "shop", "A", some 0, "192.0.2.1", false, none⟩,
    ⟨"6", "old", "A", none, "192.0.2.9", true, none⟩,
    ⟨"7", "shop", "a", none, "192.0.2.1", false, none⟩]

/-- The zone that is told of. -/
def signedZone : Zone :=
  ⟨"b.org", ⟨600, 28800, 7200, 1209600, true⟩, some 7,
    [⟨⟨.mx, "@", "mail.b.org", some 10, rfl⟩, some "4"⟩,
      ⟨⟨.a, "shop", "192.0.2.1", none, rfl⟩, some "5"⟩,
      ⟨⟨.a, "shop", "192.0.2.1", none, rfl⟩, some "7"⟩]⟩

/-- The content that is repeated is written once, and the text is read back. -/
theorem reread_iff_isZoneName_repeated :
    signed.toZone repeated = .ok signedZone ∧ Layout.IsZoneName "b.org" ∧
      (Layout.ofZones [signedZone]).render true =
        "b.org\n\t.ttl\t600\n\t.dnssec\tyes\n" ++
          "\tA\tshop\t192.0.2.1\n\tMX\t@\tmail.b.org\t10\n" ∧
        ∀ sorted, ∃ layout read,
          Layout.parse ((Layout.ofZones [signedZone]).render sorted) = .ok layout ∧
            layout.zones = [read] ∧ Zone.Reread sorted signedZone read := by
  have hzone : signed.toZone repeated = .ok signedZone := rfl
  have hname : Layout.IsZoneName "b.org" := ⟨by decide, by decide, by decide, by decide⟩
  exact ⟨hzone, hname, by decide +kernel,
    fun sorted => (reread_iff_isZoneName hzone sorted).2 hname⟩

/-- A zone without records, under that name. -/
def plain (name : String) : RemoteZone :=
  ⟨name, 86400, none, 28800, 7200, 1209600, false⟩

/-- A name with a space is no reason to refuse the zone, but its text cannot be read. -/
theorem toZone_spaced :
    ∃ zone, (plain "a b.org").toZone [] = .ok zone ∧
      ∀ sorted layout, Layout.parse ((Layout.ofZones [zone]).render sorted) ≠ .ok layout := by
  refine ⟨⟨"a b.org", Settings.default, none, []⟩, rfl, fun sorted layout hparse => ?_⟩
  have hrefused : ∀ sorted, (Layout.parse ((Layout.ofZones
      [⟨"a b.org", Settings.default, none, []⟩]).render sorted)).toOption = none := by
    decide +kernel
  have hnone := hrefused sorted
  rw [hparse] at hnone
  exact absurd hnone (by simp [Except.toOption])

end RemoteZone

end ZoneSync
