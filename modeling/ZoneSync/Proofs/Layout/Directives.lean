import Mathlib.Data.List.Forall2
import ZoneSync.Layout.Directive

/-!
# What directives leave

A directive edits what stands above it and nothing below. So a record is left if no directive below
it matches, whatever else stands between them, and the records of two parts of a zone are those that
the directives of the second part leave of the first, followed by those of the second. What is said
here of many directives comes from that one equation.
-/

namespace ZoneSync.Layout

/-- What the pattern sets, the record has; what it leaves open may be anything. -/
structure Pattern.Covers (pattern : Pattern) (record : Record) : Prop where
  type : ∀ type, pattern.type = some type → type = record.type
  hostname : ∀ hostname, pattern.hostname = some hostname → hostname = record.hostname
  destination : ∀ destination, pattern.destination = some destination →
    destination = record.destination

theorem Pattern.isMatch_iff_covers {pattern : Pattern} {record : Record} :
    pattern.isMatch record = true ↔ pattern.Covers record := by
  simp only [isMatch, Bool.and_eq_true, Option.all_eq_true, beq_iff_eq]
  constructor
  · rintro ⟨⟨htype, hhostname⟩, hdestination⟩
    exact ⟨htype, hhostname, hdestination⟩
  · rintro ⟨htype, hhostname, hdestination⟩
    exact ⟨⟨htype, hhostname⟩, hdestination⟩

instance (pattern : Pattern) (record : Record) : Decidable (pattern.Covers record) :=
  decidable_of_iff _ Pattern.isMatch_iff_covers

/-- The entry is a directive that matches the record. -/
inductive Entry.Drops (record : Record) : Entry → Prop
  | directive {edit : Directive} : edit.pattern.Covers record → Drops record (.directive edit)

theorem Entry.drops_directive_iff {record : Record} {edit : Directive} :
    (Entry.directive edit).Drops record ↔ edit.pattern.Covers record :=
  ⟨fun ⟨hcovers⟩ => hcovers, .directive⟩

instance (record : Record) : (entry : Entry) → Decidable (entry.Drops record)
  | .record _ => .isFalse nofun
  | .directive _ => decidable_of_iff _ Entry.drops_directive_iff.symm

/-- The records that none of the entries drops. -/
def leave (entries : List Entry) (records : List Record) : List Record :=
  records.filter fun record => ∀ entry ∈ entries, ¬entry.Drops record

variable {entry : Entry} {edit other : Directive} {added record : Record} {records : List Record}
  {entries above below : List Entry} {place : Nat}

theorem Entry.not_drops_record : ¬(Entry.record added).Drops record :=
  nofun

theorem Directive.apply_eq (edit : Directive) (records : List Record) :
    edit.apply records = records.filter fun record => ¬edit.pattern.Covers record := by
  obtain ⟨action, pattern⟩ := edit
  cases action
  refine List.filter_congr fun record _ => ?_
  have hdecide : pattern.isMatch record = decide (pattern.Covers record) :=
    Bool.eq_iff_iff.2 (Pattern.isMatch_iff_covers.trans decide_eq_true_iff.symm)
  rw [hdecide, decide_not]

/-! ### One more entry -/

theorem leave_nil : leave [] records = records :=
  List.filter_eq_self.2 fun record _ => by simp

theorem leave_record_cons : leave (.record added :: entries) records = leave entries records := by
  refine List.filter_congr fun record _ => ?_
  simp only [List.forall_mem_cons, Entry.not_drops_record, not_false_eq_true, true_and]

theorem leave_directive_cons :
    leave (.directive edit :: entries) records = leave entries (edit.apply records) := by
  rw [edit.apply_eq, leave, leave, List.filter_filter]
  refine List.filter_congr fun record _ => ?_
  simp only [List.forall_mem_cons, Entry.drops_directive_iff, Bool.decide_and, Bool.and_comm]

/-- What stood there before the entries meets all of them. -/
theorem foldl_apply (entries : List Entry) (records : List Record) :
    entries.foldl Entry.apply records = leave entries records ++ resolve entries := by
  induction entries generalizing records with
  | nil => rw [leave_nil, resolve, List.foldl_nil, List.foldl_nil, List.append_nil]
  | cons entry rest ih =>
    rw [resolve, List.foldl_cons, List.foldl_cons, ih, ih]
    cases entry with
    | record added =>
      rw [leave_record_cons, Entry.apply, Entry.apply, leave, leave, leave, List.filter_append,
        List.append_assoc, List.nil_append]
    | directive edit =>
      have hnothing : edit.apply [] = [] := edit.apply_eq []
      rw [leave_directive_cons, Entry.apply, Entry.apply, hnothing]
      rfl

/-- The directives of the second part leave some of the first part; the second part is as it would
be alone. -/
theorem resolve_append (above below : List Entry) :
    resolve (above ++ below) = leave below (resolve above) ++ resolve below := by
  rw [resolve, List.foldl_append, foldl_apply, ← resolve]

theorem resolve_record_cons (record : Record) (below : List Entry) :
    resolve (.record record :: below) = leave below [record] ++ resolve below :=
  resolve_append [.record record] below

/-- A directive does nothing to what stands below it. -/
theorem resolve_directive_cons (edit : Directive) (below : List Entry) :
    resolve (.directive edit :: below) = resolve below := by
  have hnothing : resolve [.directive edit] = [] := edit.apply_eq []
  rw [← List.singleton_append, resolve_append, hnothing]
  rfl

/-! ### Every place -/

/-- The record stands at that place, and no directive below it matches. -/
structure Remains (entries : List Entry) (place : Nat) (record : Record) : Prop where
  stands : entries[place]? = some (.record record)
  kept : ∀ entry ∈ entries.drop (place + 1), ¬entry.Drops record

/-- The records are those that remain, in the order of their places. -/
def AreRemaining (entries : List Entry) (records : List Record) : Prop :=
  ∃ places : List Nat, places.Pairwise (· < ·) ∧ List.Forall₂ (Remains entries) places records ∧
    ∀ place record, Remains entries place record → place ∈ places

theorem remains_succ_iff :
    Remains (entry :: entries) (place + 1) record ↔ Remains entries place record :=
  ⟨fun ⟨hstands, hkept⟩ => ⟨hstands, hkept⟩, fun ⟨hstands, hkept⟩ => ⟨hstands, hkept⟩⟩

theorem remains_zero_iff :
    Remains (entry :: entries) 0 record ↔
      entry = .record record ∧ ∀ later ∈ entries, ¬later.Drops record :=
  ⟨fun ⟨hstands, hkept⟩ => ⟨Option.some.inj hstands, hkept⟩,
    fun ⟨hstands, hkept⟩ => ⟨congrArg some hstands, hkept⟩⟩

/-- If the first entry does not remain, the others are at the next places. -/
theorem AreRemaining.skip (hremaining : AreRemaining entries records)
    (hfirst : ∀ record, ¬Remains (entry :: entries) 0 record) :
    AreRemaining (entry :: entries) records := by
  obtain ⟨places, hplaces, hrecords, hall⟩ := hremaining
  refine ⟨places.map (· + 1), hplaces.map _ fun _ _ => Nat.succ_lt_succ, ?_, ?_⟩
  · rw [List.forall₂_map_left_iff]
    exact hrecords.imp fun _ _ => remains_succ_iff.2
  · rintro (_ | place) record hremains
    · exact absurd hremains (hfirst record)
    · exact List.mem_map_of_mem (hall place record (remains_succ_iff.1 hremains))

/-- If it does, it comes before the others. -/
theorem AreRemaining.cons (hremaining : AreRemaining entries records)
    (hfirst : Remains (entry :: entries) 0 record) :
    AreRemaining (entry :: entries) (record :: records) := by
  obtain ⟨places, hplaces, hrecords, hall⟩ := hremaining
  refine ⟨0 :: places.map (· + 1), ?_, .cons hfirst ?_, ?_⟩
  · refine List.pairwise_cons.2 ⟨fun place hplace => ?_, hplaces.map _ fun _ _ => Nat.succ_lt_succ⟩
    obtain ⟨before, -, rfl⟩ := List.mem_map.1 hplace
    exact Nat.succ_pos before
  · rw [List.forall₂_map_left_iff]
    exact hrecords.imp fun _ _ => remains_succ_iff.2
  · rintro (_ | place) record hremains
    · exact List.mem_cons_self
    · exact List.mem_cons_of_mem _
        (List.mem_map_of_mem (hall place record (remains_succ_iff.1 hremains)))

/-- The induction is on the entries from the first one on, since what happens to it is decided by
all that follow. -/
theorem areRemaining_resolve (entries : List Entry) : AreRemaining entries (resolve entries) := by
  induction entries with
  | nil => exact ⟨[], .nil, .nil, fun _ _ hremains => absurd hremains.stands (by simp)⟩
  | cons entry rest ih =>
    cases entry with
    | directive edit =>
      rw [resolve_directive_cons]
      exact ih.skip fun _ hremains => absurd (remains_zero_iff.1 hremains).1 (by simp)
    | record record =>
      rw [resolve_record_cons]
      by_cases hkept : ∀ later ∈ rest, ¬later.Drops record
      · have hleft : leave rest [record] = [record] := List.filter_eq_self.2 (by simpa using hkept)
        rw [hleft]
        exact ih.cons (remains_zero_iff.2 ⟨rfl, hkept⟩)
      · have hleft : leave rest [record] = [] := List.filter_eq_nil_iff.2 (by simpa using hkept)
        rw [hleft]
        refine ih.skip fun other hremains => hkept ?_
        obtain ⟨hsame, hother⟩ := remains_zero_iff.1 hremains
        rwa [Entry.record.inj hsame]

/-! ### Directives side by side -/

theorem apply_comm (edit other : Directive) (records : List Record) :
    edit.apply (other.apply records) = other.apply (edit.apply records) := by
  rw [other.apply_eq, edit.apply_eq, edit.apply_eq, other.apply_eq]
  exact List.filter_comm ..

theorem apply_self (edit : Directive) (records : List Record) :
    edit.apply (edit.apply records) = edit.apply records := by
  rw [edit.apply_eq, edit.apply_eq, List.filter_filter]
  exact List.filter_congr fun record _ => Bool.and_self _

/-- Only what all directives do together counts. -/
theorem resolve_insert {edits others : List Entry}
    (hsame : ∀ records, edits.foldl Entry.apply records = others.foldl Entry.apply records)
    (above below : List Entry) :
    resolve (above ++ edits ++ below) = resolve (above ++ others ++ below) := by
  simp only [resolve, List.foldl_append, hsame]

theorem resolve_directive (above : List Entry) (edit : Directive) (below : List Entry) :
    resolve (above ++ [.directive edit] ++ below) =
      leave below (edit.apply (resolve above)) ++ resolve below := by
  have habove : resolve (above ++ [.directive edit]) = edit.apply (resolve above) := by
    rw [resolve, List.foldl_append]
    rfl
  rw [resolve_append, habove]

/-- Directives leave the records that no directive below them matches. Hence they do the same to the
first of two parts wherever that stands, may change places or be repeated, and never reach a record
below them. -/
theorem resolve_edits_above (entries above below : List Entry) (edit other : Directive) :
    (∀ record, edit.pattern.isMatch record = true ↔ edit.pattern.Covers record) ∧
      AreRemaining entries (resolve entries) ∧
      resolve (above ++ below) = leave below (resolve above) ++ resolve below ∧
      resolve (above ++ [.directive edit, .directive other] ++ below) =
        resolve (above ++ [.directive other, .directive edit] ++ below) ∧
      resolve (above ++ [.directive edit, .directive edit] ++ below) =
        resolve (above ++ [.directive edit] ++ below) ∧
      resolve (above ++ [.directive edit] ++ below) =
        leave below (edit.apply (resolve above)) ++ resolve below := by
  refine ⟨fun record => Pattern.isMatch_iff_covers, areRemaining_resolve entries,
    resolve_append above below, resolve_insert (fun records => ?_) above below,
    resolve_insert (fun records => ?_) above below, resolve_directive above edit below⟩
  · exact apply_comm other edit records
  · exact apply_self edit records

end ZoneSync.Layout
