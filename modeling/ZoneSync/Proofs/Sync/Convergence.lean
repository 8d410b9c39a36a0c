import ZoneSync.Proofs.Layout.RoundTrip
import ZoneSync.Proofs.Sync.Written

/-!
# How far one push brings the provider

An accepted push deletes, of each content that is held but not desired, the first record, and stores
one record of each content that is desired but not held. All other records stay. So afterwards each
desired content is held, and of an undesired one there is one record fewer than before. If no
undesired content was held more than once, then the provider holds what is desired and the next push
has nothing to do; otherwise something is left for it.
-/

namespace ZoneSync

open Record (content)
open Session (Written SettingsWritten RecordsWritten)

variable {held after : Held} {current desired reached : Zone}

/-! ### How many records are left -/

/-- How many records of a content the zone has. -/
def Zone.count (zone : Zone) (c : Content) : Nat :=
  (zone.entries.map content).count c

theorem Zone.count_pos {zone : Zone} {c : Content} :
    0 < zone.count c ↔ c ∈ contents zone.entries := by
  rw [count, List.count_pos_iff, mem_contents]

/-- No content that is not desired is held more than once. -/
def NoSurplus (current desired : Zone) : Prop :=
  ∀ c, c ∉ contents desired.entries → current.count c ≤ 1

/-- What an accepted push makes of the zone that was held. -/
structure Pushed (current desired reached : Zone) : Prop where
  settings : reached.settings = desired.settings
  count : ∀ c, reached.count c =
    if c ∈ contents desired.entries then max 1 (current.count c) else current.count c - 1

theorem count_removed (current desired : Zone) (c : Content) :
    ((reconcile current desired).removed.map content).count c =
      if c ∈ contents current.entries ∧ c ∉ contents desired.entries then 1 else 0 := by
  have hmem : c ∈ (reconcile current desired).removed.map content ↔
      c ∈ contents current.entries ∧ c ∉ contents desired.entries := by
    rw [← mem_contents, contents_removed, Finset.mem_sdiff]
  rw [(nodup_content_removed current desired).count]
  exact if_congr hmem rfl rfl

theorem count_added (current desired : Zone) (c : Content) :
    ((reconcile current desired).added.map content).count c =
      if c ∈ contents desired.entries ∧ c ∉ contents current.entries then 1 else 0 := by
  have hmem : c ∈ (reconcile current desired).added.map content ↔
      c ∈ contents desired.entries ∧ c ∉ contents current.entries := by
    rw [← mem_contents, contents_added, Finset.mem_sdiff]
  have hnodup : ((reconcile current desired).added.map content).Nodup := by
    rw [reconcile_added]
    exact nodup_content_missingFrom _ _
  rw [hnodup.count]
  exact if_congr hmem rfl rfl

theorem pushed_of_perm {kept : List Record} (hsettings : reached.settings = desired.settings)
    (hcurrent : ((reconcile current desired).removed ++ kept).Perm current.entries)
    (hreached : (reached.entries.map content).Perm
      (kept.map content ++ (reconcile current desired).added.map content)) :
    Pushed current desired reached := by
  refine ⟨hsettings, fun c => ?_⟩
  have hbefore : current.count c =
      ((reconcile current desired).removed.map content).count c + (kept.map content).count c := by
    rw [Zone.count, ← (hcurrent.map content).count_eq, List.map_append, List.count_append]
  have hafter : reached.count c =
      (kept.map content).count c + ((reconcile current desired).added.map content).count c := by
    rw [Zone.count, hreached.count_eq, List.count_append]
  have hheld : c ∈ contents current.entries ↔ 0 < current.count c := Zone.count_pos.symm
  rw [count_removed] at hbefore
  rw [count_added] at hafter
  by_cases hdesired : c ∈ contents desired.entries
  · rw [if_neg fun h => h.2 hdesired] at hbefore
    rw [if_pos hdesired]
    by_cases hmem : c ∈ contents current.entries
    · rw [if_neg fun h => h.2 hmem] at hafter
      rw [hheld] at hmem
      omega
    · rw [if_pos ⟨hdesired, hmem⟩] at hafter
      rw [hheld] at hmem
      omega
  · rw [if_neg fun h => hdesired h.1] at hafter
    rw [if_neg hdesired]
    by_cases hmem : c ∈ contents current.entries
    · rw [if_pos ⟨hmem, hdesired⟩] at hbefore
      omega
    · rw [if_neg fun h => hmem h.1] at hbefore
      rw [hheld] at hmem
      omega

/-- All that is desired is held, and nothing else unless there was a surplus. -/
theorem Pushed.contents_eq_iff (hpushed : Pushed current desired reached) :
    contents reached.entries = contents desired.entries ↔ NoSurplus current desired := by
  have hmem : ∀ c, c ∈ contents reached.entries ↔
      c ∈ contents desired.entries ∨ 1 < current.count c := by
    intro c
    rw [← Zone.count_pos, hpushed.count]
    by_cases hdesired : c ∈ contents desired.entries
    · rw [if_pos hdesired]
      simp only [hdesired, true_or, iff_true]
      omega
    · rw [if_neg hdesired]
      simp only [hdesired, false_or]
      omega
  constructor
  · intro heq c hdesired
    have hreached : c ∉ contents reached.entries := by rwa [heq]
    rw [hmem, not_or] at hreached
    omega
  · intro hsurplus
    ext c
    rw [hmem]
    constructor
    · rintro (hdesired | hcount)
      · exact hdesired
      · by_contra hdesired
        have hle := hsurplus c hdesired
        omega
    · exact Or.inl

theorem eq_of_written_of_isNoop {delta : Delta} (hnoop : delta.isNoop = true)
    (hwritten : Written delta held after) : after = held := by
  obtain ⟨hupdate, hbatch⟩ := Session.nothing_of_isNoop hnoop
  obtain ⟨middle, hsettings, hrecords⟩ := hwritten
  rw [SettingsWritten, hupdate] at hsettings
  rw [RecordsWritten, hbatch] at hrecords
  exact hrecords.trans hsettings

/-- One accepted push of a zone that was read from a layout text, and the push right after it. -/
theorem pushZone_converges {session : Session} {id text : String} {layout : Layout}
    (hopen : session.id = some id) (hweb : session.endpoint.isWeb = true)
    (hparse : Layout.parse text = .ok layout) (hdesired : desired ∈ layout.zones)
    (hfetched : held.fetched = .ok current) :
    Ensures desired.domain held (session.pushZone desired true) fun result _ after =>
      result = .ok (reconcile current desired) ∧
        ∃ reached, after.fetched = .ok reached ∧ Pushed current desired reached ∧
          (contents reached.entries = contents desired.entries ↔ NoSurplus current desired) ∧
            Ensures desired.domain after (session.pushZone desired true) fun again exchanges last =>
              again = .ok (reconcile reached desired) ∧
                ((reconcile reached desired).isNoop = true ↔ NoSurplus current desired) ∧
                  (NoSurplus current desired → ReadOnly exchanges ∧ last = after) := by
  have hpositive : desired.settings.Positive :=
    (Layout.isPrintable_of_parse hparse desired hdesired).positive
  constructor
  intro σ partner state after hserves
  obtain ⟨hresult, hwritten, -⟩ :=
    (Session.ensures_pushZone hopen hweb hfetched).run σ partner state after hserves
  obtain ⟨reached, hreached, hsettings, kept, hcurrent, hperm⟩ :=
    exists_fetched_of_written hfetched hpositive hwritten
  have hpushed := pushed_of_perm hsettings hcurrent hperm
  have hnoop : (reconcile reached desired).isNoop = true ↔ NoSurplus current desired := by
    rw [isNoop_reconcile_iff, ← hpushed.contents_eq_iff]
    exact and_iff_right hsettings
  refine ⟨hresult, reached, hreached, hpushed, hpushed.contents_eq_iff, ?_⟩
  constructor
  intro σ partner state last hserves
  obtain ⟨hagain, hrewritten, hread⟩ :=
    (Session.ensures_pushZone hopen hweb hreached).run σ partner state last hserves
  exact ⟨hagain, hnoop, fun hsurplus => ⟨hread (hnoop.2 hsurplus),
    eq_of_written_of_isNoop (hnoop.2 hsurplus) hrewritten⟩⟩

/-! ### A domain with one content -/

namespace Sample

def session : Session where
  endpoint := ⟨['h', 't', 't', 'p', 's'], some ⟨[], none, ['a'], none⟩, ['/'], none, none⟩
  account := ⟨"1", "key", "password"⟩
  id := some "session"

/-- The record that is held, in the provider's words. -/
def told (id : String) : RemoteRecord :=
  ⟨id, "www", "A", none, "192.0.2.1", false, none⟩

def entry (id : String) : Record :=
  ⟨⟨.a, "www", "192.0.2.1", none, rfl⟩, some id⟩

/-- The provider with that record under each of the identifiers. -/
def holding (ids : List String) (hids : ids.Nodup) : Held where
  zone := ⟨"a.org", 86400, none, 28800, 7200, 1209600, false⟩
  records := ids.map told
  distinct := by
    rw [List.map_map]
    exact (List.map_id ids).symm ▸ hids

def zone (ids : List String) : Zone :=
  ⟨"a.org", Settings.default, none, ids.map entry⟩

theorem check_told (id : String) : (told id).check = .ok (entry id) := by
  have htype : RecordType.ofName? "A" = some .a := by decide
  have hnew : Record.new .a (told id).hostname (told id).destination none = .ok (entry id).bare :=
    (entry id).new_content
  rw [RemoteRecord.check, show (told id).type = "A" from rfl, htype]
  refine bind_eq_ok_iff.2 ⟨.a, rfl, bind_eq_ok_iff.2 ⟨none, rfl, ?_⟩⟩
  rw [hnew]
  rfl

theorem fetched_holding {ids : List String} (hids : ids.Nodup) :
    (holding ids hids).fetched = .ok (zone ids) := by
  have hchecks : List.Forall₂ (fun told record => told.check = .ok record)
      (RemoteRecord.kept (ids.map told)) (ids.map entry) := by
    clear hids
    induction ids with
    | nil => exact .nil
    | cons id rest ih => exact .cons (check_told id) ih
  exact Held.fetched_eq_ok_iff.2 ⟨rfl, hchecks, rfl, rfl⟩

theorem tells_of_parse? {α : Type} {decode : Json → Except DecodeError α} {data : α}
    {body : String}
    (hbody : ((Envelope.parse? body).bind fun envelope =>
      if envelope.succeeded then (decode envelope.data).toOption else none) = some data) :
    (Reply.answered 200 body).Tells decode data := by
  obtain ⟨envelope, hparse, hdata⟩ := Option.bind_eq_some_iff.1 hbody
  split at hdata
  · next hsucceeded =>
    refine ⟨200, body, envelope, rfl, rfl, rfl, hparse, hsucceeded, ?_⟩
    cases hdecode : decode envelope.data with
    | error error =>
      rw [hdecode] at hdata
      exact absurd hdata (by simp [Except.toOption])
    | ok read =>
      rw [hdecode] at hdata
      exact congrArg Except.ok (Option.some.inj hdata)
  · exact absurd hdata (by simp)

/-- An answer of success. -/
def answer (data : String) : Reply :=
  .answered 200 ("[\"success\",2000,null,null," ++ data ++ "]")

def zoneAnswer : Reply :=
  answer "[\"a.org\",86400,null,28800,7200,1209600]"

def recordsAnswer (ids : List String) : Reply :=
  answer ("[[" ++ ",".intercalate
    (ids.map fun id => "[\"" ++ id ++ "\",\"www\",\"A\",null,\"192.0.2.1\"]") ++ "]]")

/-- The push of the domain without records, against these replies. -/
def push (replies : List Reply) : Transcript (Except SyncError Delta) :=
  (session.pushZone (zone []) true).replay replies

/-- A call of the session, and its reply. -/
def exchange (asked : Call) (reply : Reply) : Exchange :=
  ⟨⟨session.endpoint, .call session.account "session" asked⟩, reply⟩

/-- The deletion of the record under that identifier. -/
def deletion (id : String) : Call :=
  .updateRecords "a.org" [⟨some id, "A", "www", "192.0.2.1", true, none, none⟩]

theorem push_of_ensures {held : Held}
    {post : Except SyncError Delta → List Exchange → Held → Prop}
    (hensures : Ensures "a.org" held (session.pushZone (zone []) true) post) (replies : List Reply)
    {after : Held} (hserves : Serves "a.org" held (push replies).exchanges after) :
    post (push replies).result (push replies).exchanges after :=
  hensures.run _ Dialogue.script replies after hserves

theorem tells_zoneAnswer {ids : List String} (hids : ids.Nodup) :
    zoneAnswer.Tells RemoteZone.decode (holding ids hids).zone := by
  have hzone : zoneAnswer.Tells RemoteZone.decode (holding [] List.nodup_nil).zone :=
    tells_of_parse? (by decide +kernel)
  exact hzone

end Sample

open Sample

/-- Two records of one content that is not desired: the push deletes the first and keeps the
second, although all its requests are accepted. -/
theorem pushZone_keeps_repeated :
    ∃ (layout : Layout) (after : Held) (reached : Zone),
      Layout.parse "a.org\n" = .ok layout ∧ zone [] ∈ layout.zones ∧
        (holding ["1", "2"] (by decide)).fetched = .ok (zone ["1", "2"]) ∧
          Serves "a.org" (holding ["1", "2"] (by decide))
            (push [zoneAnswer, recordsAnswer ["1", "2"], recordsAnswer ["2"]]).exchanges after ∧
              after.fetched = .ok reached ∧
                contents reached.entries ≠ contents (zone []).entries ∧
                  (reconcile reached (zone [])).isNoop = false := by
  have hexchanges : (push [zoneAnswer, recordsAnswer ["1", "2"], recordsAnswer ["2"]]).exchanges =
      [exchange (.zoneInfo "a.org") zoneAnswer,
        exchange (.recordInfo "a.org") (recordsAnswer ["1", "2"]),
        exchange (deletion "1") (recordsAnswer ["2"])] := by
    decide +kernel
  have hboth : (recordsAnswer ["1", "2"]).Tells RemoteRecord.decodeSet [told "1", told "2"] :=
    tells_of_parse? (by decide +kernel)
  have hlast : (recordsAnswer ["2"]).Tells RemoteRecord.decodeSet [told "2"] :=
    tells_of_parse? (by decide +kernel)
  have hdeleted : (holding ["1", "2"] (by decide)).CarriesOut "a.org" (deletion "1")
      (holding ["2"] (by decide)) :=
    .updateRecords .nil (by decide) rfl
  refine ⟨_, holding ["2"] (by decide), zone ["2"], rfl, by decide, fetched_holding _, ?_,
    fetched_holding _, by decide, by decide⟩
  rw [hexchanges]
  exact .cons .zoneInfo (tells_zoneAnswer _) (.cons .recordInfo hboth
    (.cons hdeleted ⟨_, hlast⟩ .nil))

/-- Where the record is held once the push deletes it, and the next push has nothing to do. -/
theorem pushZone_converges_once :
    ∃ (after last : Held) (reached : Zone),
      (push [zoneAnswer, recordsAnswer ["1"], recordsAnswer []]).result =
        .ok (reconcile (zone ["1"]) (zone [])) ∧
          after.fetched = .ok reached ∧ contents reached.entries = contents (zone []).entries ∧
            (push [zoneAnswer, recordsAnswer []]).result = .ok (reconcile reached (zone [])) ∧
              (reconcile reached (zone [])).isNoop = true ∧
                ReadOnly (push [zoneAnswer, recordsAnswer []]).exchanges ∧ last = after := by
  have hfirst : (push [zoneAnswer, recordsAnswer ["1"], recordsAnswer []]).exchanges =
      [exchange (.zoneInfo "a.org") zoneAnswer,
        exchange (.recordInfo "a.org") (recordsAnswer ["1"]),
        exchange (deletion "1") (recordsAnswer [])] := by
    decide +kernel
  have hsecond : (push [zoneAnswer, recordsAnswer []]).exchanges =
      [exchange (.zoneInfo "a.org") zoneAnswer,
        exchange (.recordInfo "a.org") (recordsAnswer [])] := by
    decide +kernel
  have hone : (recordsAnswer ["1"]).Tells RemoteRecord.decodeSet [told "1"] :=
    tells_of_parse? (by decide +kernel)
  have hnone : (recordsAnswer []).Tells RemoteRecord.decodeSet [] :=
    tells_of_parse? (by decide +kernel)
  have hdeleted : (holding ["1"] (by decide)).CarriesOut "a.org" (deletion "1")
      (holding [] (by decide)) :=
    .updateRecords .nil (by decide) rfl
  have hsurplus : NoSurplus (zone ["1"]) (zone []) := by
    intro c _
    exact List.count_le_length
  have hparse : ∃ layout, Layout.parse "a.org\n" = .ok layout ∧ zone [] ∈ layout.zones :=
    ⟨_, rfl, by decide⟩
  obtain ⟨layout, hparse, hdesired⟩ := hparse
  have hserves : Serves "a.org" (holding ["1"] (by decide))
      (push [zoneAnswer, recordsAnswer ["1"], recordsAnswer []]).exchanges
      (holding [] (by decide)) := by
    rw [hfirst]
    exact .cons .zoneInfo (tells_zoneAnswer _) (.cons .recordInfo hone
      (.cons hdeleted ⟨_, hnone⟩ .nil))
  have hagain : Serves "a.org" (holding [] (by decide))
      (push [zoneAnswer, recordsAnswer []]).exchanges (holding [] (by decide)) := by
    rw [hsecond]
    exact .cons .zoneInfo (tells_zoneAnswer _) (.cons .recordInfo hnone .nil)
  have hpush := @pushZone_converges (holding ["1"] (by decide)) (zone ["1"]) (zone []) session
    "session" "a.org\n" layout rfl (by decide) hparse hdesired (fetched_holding (by decide))
  obtain ⟨hresult, reached, hreached, -, hcontents, hnext⟩ := push_of_ensures hpush _ hserves
  obtain ⟨hrepeat, hnoop, hread⟩ := push_of_ensures hnext _ hagain
  exact ⟨_, _, reached, hresult, hreached, hcontents.2 hsurplus, hrepeat, hnoop.2 hsurplus,
    (hread hsurplus).1, (hread hsurplus).2⟩

end ZoneSync
