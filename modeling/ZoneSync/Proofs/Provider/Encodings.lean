import ZoneSync.Proofs.Json.Forms
import ZoneSync.Proofs.Json.Members
import ZoneSync.Proofs.Provider.Conversion
import ZoneSync.Proofs.Provider.Usable

/-!
# What comes back from the provider

Settings and records come back with their members in any order and form, and with members that were
not sent: a serial number, a priority where there was none, and whatever else the provider adds. It
gives an identifier and a state of its own to a record, and writes the name of its type in letters
of either case. All of that is read as it was sent.
-/

namespace ZoneSync

/-! ### Zones -/

/-- What may come back for the settings that were sent: their members in any form and order, a
serial number, and other members that are not known. -/
inductive ZoneUpdate.ReturnsAs (update : ZoneUpdate) (serial : Option UInt64) : Json → Prop
  | object {sent returned extra members : List (String × Json)} : update.json = .object sent →
    List.Forall₂ (Json.SameMember fun _ => Json.ComesAs) sent returned →
      Json.MayTell "serial" serial extra →
        (members.filter fun member => RemoteZone.shape.knows member.1).Perm (returned ++ extra) →
          update.ReturnsAs serial (.object members)

namespace RemoteZone

theorem decode_object {told : RemoteZone} {name ttl refresh retry expire dnssec : Json}
    {members extra : List (String × Json)} (hname : Decode.string name = .ok told.name)
    (httl : Decode.integer ttl = .ok told.ttl)
    (hrefresh : Decode.integer refresh = .ok told.refresh)
    (hretry : Decode.integer retry = .ok told.retry)
    (hexpire : Decode.integer expire = .ok told.expire)
    (hdnssec : Decode.boolean dnssec = .ok told.dnssec)
    (hserial : Json.MayTell "serial" told.serial extra)
    (hperm : (members.filter fun member => shape.knows member.1).Perm
      ([("name", name), ("ttl", ttl), ("refresh", refresh), ("retry", retry), ("expire", expire),
        ("dnssecstatus", dnssec)] ++ extra)) :
    decode (.object members) = .ok told := by
  rcases Decode.mayTell_cases hserial with ⟨hnone, rfl⟩ | ⟨serial, rfl, hnumber⟩
  · refine Decode.Shape.decode_object [("dnssecstatus", dnssec), ("expire", expire), ("name", name),
      ("refresh", refresh), ("retry", retry), ("ttl", ttl)] hperm (by simp) ?_ ?_ ?_
        (by simp [shape])
    · intro member
      simp only [List.append_nil, List.mem_cons]
      exact iff_of_eq (by ac_rfl)
    · simp only [List.map_cons, List.map_nil]
      decide
    · simp [Decode.Shape.putMember, shape, hname, httl, hrefresh, hretry, hexpire, hdnssec, ← hnone,
        bind, Except.bind, pure, Except.pure]
  · refine Decode.Shape.decode_object [("dnssecstatus", dnssec), ("expire", expire), ("name", name),
      ("refresh", refresh), ("retry", retry), ("serial", serial), ("ttl", ttl)] hperm (by simp) ?_
        ?_ ?_ (by simp [shape])
    · intro member
      simp only [List.cons_append, List.nil_append, List.mem_cons]
      exact iff_of_eq (by ac_rfl)
    · simp only [List.map_cons, List.map_nil]
      decide
    · simp [Decode.Shape.putMember, shape, hname, httl, hrefresh, hretry, hexpire, hdnssec, hnumber,
        bind, Except.bind, pure, Except.pure]

end RemoteZone

/-! ### Records -/

/-- The forms of a member of a record. The provider gives an identifier and a state of its own, and
the name of the type in letters of either case. -/
def RecordUpdate.HasForm (id : String) : String → Json → Json → Prop
  | "id", _, value => value.Identifies id
  | "type", sent, value => ∃ name other, sent = .string name ∧ value = .string other ∧
    other.toList.map Char.toUpper = name.toList.map Char.toUpper
  | "state", _, value => value = .null ∨ ∃ text, value = .string text
  | _, sent, value => sent.ComesAs value

/-- What may come back for a record that was sent. If that has no priority, the provider puts one
in its place. -/
inductive RecordUpdate.ReturnsAs (update : RecordUpdate) (id : String) : Json → Prop
  | object {sent returned extra members : List (String × Json)} : update.json = .object sent →
    List.Forall₂ (Json.SameMember (RecordUpdate.HasForm id)) sent returned →
      (extra = [] ∨ update.priority = none ∧ ∃ priority, Json.MayTell "priority" priority extra) →
        (members.filter fun member => RemoteRecord.shape.knows member.1).Perm (returned ++ extra) →
          update.ReturnsAs id (.object members)

namespace RemoteRecord

theorem decode_object {told : RemoteRecord}
    {id type hostname destination deleted state : Json} {members extra : List (String × Json)}
    (hid : Decode.identifier id = .ok told.id) (htype : Decode.string type = .ok told.type)
    (hhostname : Decode.string hostname = .ok told.hostname)
    (hdestination : Decode.string destination = .ok told.destination)
    (hdeleted : Decode.boolean deleted = .ok told.deleted)
    (hstate : Decode.optionalString state = .ok told.state)
    (hpriority : Json.MayTell "priority" told.priority extra)
    (hperm : (members.filter fun member => shape.knows member.1).Perm
      ([("id", id), ("type", type), ("hostname", hostname), ("destination", destination),
        ("deleterecord", deleted), ("state", state)] ++ extra)) :
    decode (.object members) = .ok told := by
  rcases Decode.mayTell_cases hpriority with ⟨hnone, rfl⟩ | ⟨priority, rfl, hnumber⟩
  · refine Decode.Shape.decode_object [("deleterecord", deleted), ("destination", destination),
      ("hostname", hostname), ("id", id), ("state", state), ("type", type)] hperm (by simp) ?_ ?_ ?_
        (by simp [shape])
    · intro member
      simp only [List.append_nil, List.mem_cons]
      exact iff_of_eq (by ac_rfl)
    · simp only [List.map_cons, List.map_nil]
      decide
    · simp [Decode.Shape.putMember, shape, hid, htype, hhostname, hdestination, hdeleted, hstate,
        ← hnone, bind, Except.bind, pure, Except.pure]
  · refine Decode.Shape.decode_object [("deleterecord", deleted), ("destination", destination),
      ("hostname", hostname), ("id", id), ("priority", priority), ("state", state), ("type", type)]
        hperm (by simp) ?_ ?_ ?_ (by simp [shape])
    · intro member
      simp only [List.cons_append, List.nil_append, List.mem_cons]
      exact iff_of_eq (by ac_rfl)
    · simp only [List.map_cons, List.map_nil]
      decide
    · simp [Decode.Shape.putMember, shape, hid, htype, hhostname, hdestination, hdeleted, hstate,
        hnumber, bind, Except.bind, pure, Except.pure]

end RemoteRecord

namespace Sample

/-- A record that the provider does not hold yet. -/
def address : Record :=
  ⟨⟨.a, "new", "192.0.2.7", none, rfl⟩, none⟩

end Sample

end ZoneSync
