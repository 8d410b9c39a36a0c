import Mathlib.Data.Finset.Card
import Mathlib.Data.Finset.Dedup
import ZoneSync.Delta
import ZoneSync.Proofs.Record.Distinct

/-!
# What a reconciliation changes

The walk over the desired records claims a current record for each content that both sides have.
After any part of the desired records, what remains of the current side are the first records of the
contents not asked for so far, and what is to be added are the first records of the contents that
the current side lacks. At the end that is the difference of the two sets of contents, in both
directions, and no smaller change leads from the one set to the other.
-/

namespace ZoneSync

open Record (content distinct sort firsts Before)

/-- The contents of some records, as a set. -/
def contents (records : List Record) : Finset Content :=
  (records.map content).toFinset

@[simp] theorem mem_contents {c : Content} {records : List Record} :
    c ∈ contents records ↔ c ∈ records.map content :=
  List.mem_toFinset

theorem card_contents {records : List Record} (hnodup : (records.map content).Nodup) :
    (contents records).card = records.length := by
  rw [contents, List.toFinset_card_of_nodup hnodup, List.length_map]

/-- The first records of the contents in `records` that `others` lacks, in order. -/
def missingFrom (records others : List Record) : List Record :=
  (distinct records).filter fun record => record.content ∉ others.map content

/-! ### The walk -/

/-- The state of the walk after the desired records `visited`. -/
structure Matching.Sound (current visited : List Record) (matching : Matching) : Prop where
  remaining : matching.remaining = missingFrom current visited
  seen : ∀ c, c ∈ matching.seen ↔ c ∈ visited.map content
  added : matching.added = missingFrom visited current

namespace Matching

theorem sound_start (current : List Record) : (start current).Sound current [] where
  remaining := by simp [start, missingFrom]
  seen _ := Iff.rfl
  added := rfl

theorem missingFrom_append_self (current visited : List Record) (record : Record) :
    missingFrom current (visited ++ [record]) =
      (missingFrom current visited).filter fun other => other.content ≠ record.content := by
  rw [missingFrom, missingFrom, List.filter_filter]
  refine List.filter_congr fun other _ => ?_
  by_cases heq : other.content = record.content <;> simp [heq]

theorem missingFrom_append_of_mem {current visited : List Record} {record : Record}
    (hmem : record.content ∈ visited.map content) :
    missingFrom (visited ++ [record]) current = missingFrom visited current := by
  rw [missingFrom, Record.distinct_append_singleton, if_pos hmem, List.append_nil, missingFrom]

theorem missingFrom_append_of_not_mem {current visited : List Record} {record : Record}
    (hmem : record.content ∉ visited.map content) :
    missingFrom (visited ++ [record]) current =
      missingFrom visited current ++
        if record.content ∈ current.map content then [] else [record] := by
  rw [missingFrom, Record.distinct_append_singleton, if_neg hmem, List.filter_append, missingFrom,
    List.filter_singleton]
  by_cases hcurrent : record.content ∈ current.map content
  · rw [if_pos hcurrent, decide_eq_false (not_not_intro hcurrent), cond_false]
  · rw [if_neg hcurrent, decide_eq_true hcurrent, cond_true]

/-- A content not met before remains on the current side exactly if the current side has it. -/
theorem Sound.mem_remaining {current visited : List Record} {matching : Matching}
    (hsound : matching.Sound current visited) {c : Content} (hnew : c ∉ visited.map content) :
    c ∈ matching.remaining.map content ↔ c ∈ current.map content := by
  rw [hsound.remaining, missingFrom, List.mem_map]
  constructor
  · rintro ⟨record, hmem, rfl⟩
    exact Record.mem_content_distinct.1 (List.mem_map_of_mem (List.mem_of_mem_filter hmem))
  · intro hmem
    obtain ⟨record, hrecord, rfl⟩ := List.mem_map.1 (Record.mem_content_distinct.2 hmem)
    exact ⟨record, List.mem_filter.2 ⟨hrecord, decide_eq_true hnew⟩, rfl⟩

theorem Sound.visit {current visited : List Record} {matching : Matching}
    (hsound : matching.Sound current visited) (record : Record) :
    (matching.visit record).Sound current (visited ++ [record]) := by
  have hseen : ∀ c, c ∈ record.content :: matching.seen ↔
      c ∈ (visited ++ [record]).map content := by
    intro c
    rw [List.mem_cons, hsound.seen, List.map_append, List.mem_append, List.map_singleton,
      List.mem_singleton]
    exact or_comm
  rw [Matching.visit]
  by_cases hmet : record.content ∈ matching.seen
  · -- A repeated content: nothing remains of it, and nothing is added for it.
    have hvisited := (hsound.seen _).1 hmet
    rw [if_pos hmet]
    refine ⟨?_, fun c => ?_, ?_⟩
    · rw [missingFrom_append_self, ← hsound.remaining, List.filter_eq_self.2]
      intro other hother
      rw [hsound.remaining, missingFrom, List.mem_filter, decide_eq_true_eq] at hother
      exact decide_eq_true fun heq => hother.2 (heq ▸ hvisited)
    · rw [← hseen, List.mem_cons]
      exact ⟨Or.inr, fun h => h.elim (fun heq => heq ▸ hmet) fun hmem => hmem⟩
    · rw [hsound.added, missingFrom_append_of_mem hvisited]
  · have hvisited : record.content ∉ visited.map content := fun h => hmet ((hsound.seen _).2 h)
    rw [if_neg hmet]
    by_cases hremaining : record.content ∈ matching.remaining.map content
    · have hcurrent := (hsound.mem_remaining hvisited).1 hremaining
      rw [if_pos hremaining]
      refine ⟨?_, hseen, ?_⟩
      · rw [missingFrom_append_self, ← hsound.remaining]
      · rw [hsound.added, missingFrom_append_of_not_mem hvisited, if_pos hcurrent,
          List.append_nil]
    · have hcurrent : record.content ∉ current.map content := fun h =>
        hremaining ((hsound.mem_remaining hvisited).2 h)
      rw [if_neg hremaining]
      refine ⟨?_, hseen, ?_⟩
      · rw [missingFrom_append_self, ← hsound.remaining, List.filter_eq_self.2]
        intro other hother
        exact decide_eq_true fun heq => hremaining (heq ▸ List.mem_map_of_mem hother)
      · rw [hsound.added, missingFrom_append_of_not_mem hvisited, if_neg hcurrent]

theorem Sound.foldl {current visited : List Record} {matching : Matching}
    (hsound : matching.Sound current visited) (records : List Record) :
    (records.foldl Matching.visit matching).Sound current (visited ++ records) := by
  induction records generalizing visited matching with
  | nil => simpa using hsound
  | cons record rest ih => simpa using ih (hsound.visit record)

end Matching

/-! ### The difference -/

theorem reconcile_sound (current desired : Zone) :
    (desired.entries.foldl Matching.visit (Matching.start current.entries)).Sound
      current.entries desired.entries := by
  simpa using (Matching.sound_start current.entries).foldl desired.entries

theorem reconcile_removed (current desired : Zone) :
    (reconcile current desired).removed = sort (missingFrom current.entries desired.entries) :=
  congrArg sort (reconcile_sound current desired).remaining

theorem reconcile_added (current desired : Zone) :
    (reconcile current desired).added = missingFrom desired.entries current.entries :=
  (reconcile_sound current desired).added

theorem nodup_content_missingFrom (records others : List Record) :
    ((missingFrom records others).map content).Nodup :=
  (Record.nodup_content_distinct records).sublist (List.filter_sublist.map content)

theorem mem_content_missingFrom {c : Content} {records others : List Record} :
    c ∈ (missingFrom records others).map content ↔
      c ∈ records.map content ∧ c ∉ others.map content := by
  rw [← @Record.mem_content_distinct c records, missingFrom]
  constructor
  · intro hmem
    obtain ⟨record, hrecord, rfl⟩ := List.mem_map.1 hmem
    rw [List.mem_filter, decide_eq_true_eq] at hrecord
    exact ⟨List.mem_map_of_mem hrecord.1, hrecord.2⟩
  · rintro ⟨hmem, hothers⟩
    obtain ⟨record, hrecord, rfl⟩ := List.mem_map.1 hmem
    exact List.mem_map_of_mem (List.mem_filter.2 ⟨hrecord, decide_eq_true hothers⟩)

theorem contents_missingFrom (records others : List Record) :
    contents (missingFrom records others) = contents records \ contents others := by
  ext c
  rw [Finset.mem_sdiff, mem_contents, mem_contents, mem_contents, mem_content_missingFrom]

theorem contents_perm {xs ys : List Record} (hperm : xs.Perm ys) : contents xs = contents ys :=
  List.toFinset_eq_of_perm _ _ (hperm.map content)

theorem contents_removed (current desired : Zone) :
    contents (reconcile current desired).removed =
      contents current.entries \ contents desired.entries := by
  rw [reconcile_removed, contents_perm (Record.sort_perm _), contents_missingFrom]

theorem contents_added (current desired : Zone) :
    contents (reconcile current desired).added =
      contents desired.entries \ contents current.entries := by
  rw [reconcile_added, contents_missingFrom]

theorem length_removed (current desired : Zone) :
    (reconcile current desired).removed.length =
      (contents current.entries \ contents desired.entries).card := by
  rw [reconcile_removed, (Record.sort_perm _).length_eq,
    ← card_contents (nodup_content_missingFrom _ _), contents_missingFrom]

theorem length_added (current desired : Zone) :
    (reconcile current desired).added.length =
      (contents desired.entries \ contents current.entries).card := by
  rw [reconcile_added, ← card_contents (nodup_content_missingFrom _ _), contents_missingFrom]

/-- Nothing is left to be done exactly if settings and contents agree. -/
theorem isNoop_reconcile_iff (current desired : Zone) :
    (reconcile current desired).isNoop = true ↔
      current.settings = desired.settings ∧
        contents current.entries = contents desired.entries := by
  have hsettings : (reconcile current desired).settings = none ↔
      current.settings = desired.settings := by
    simp [reconcile]
  have hremoved : (reconcile current desired).removed = [] ↔
      contents current.entries ⊆ contents desired.entries := by
    rw [← List.length_eq_zero_iff, length_removed, Finset.card_eq_zero,
      Finset.sdiff_eq_empty_iff_subset]
  have hadded : (reconcile current desired).added = [] ↔
      contents desired.entries ⊆ contents current.entries := by
    rw [← List.length_eq_zero_iff, length_added, Finset.card_eq_zero,
      Finset.sdiff_eq_empty_iff_subset]
  rw [Delta.isNoop, Bool.and_eq_true, Bool.and_eq_true, Option.isNone_iff_eq_none,
    List.isEmpty_iff, List.isEmpty_iff, hsettings, hremoved, hadded, and_assoc]
  exact and_congr_right fun _ => Finset.Subset.antisymm_iff.symm

/-- A change of records that leads from the contents of one side to those of the other. -/
def Leads (current desired : Zone) (dropped gained : Finset Content) : Prop :=
  contents current.entries \ dropped ∪ gained = contents desired.entries

theorem Leads.sdiff_subset {current desired : Zone} {dropped gained : Finset Content}
    (hleads : Leads current desired dropped gained) :
    contents current.entries \ contents desired.entries ⊆ dropped := by
  intro c hc
  rw [Finset.mem_sdiff] at hc
  by_contra hkept
  refine hc.2 ?_
  rw [← hleads, Finset.mem_union, Finset.mem_sdiff]
  exact Or.inl ⟨hc.1, hkept⟩

theorem Leads.subset_gained {current desired : Zone} {dropped gained : Finset Content}
    (hleads : Leads current desired dropped gained) :
    contents desired.entries \ contents current.entries ⊆ gained := by
  intro c hc
  rw [Finset.mem_sdiff, ← hleads, Finset.mem_union, Finset.mem_sdiff] at hc
  exact hc.1.resolve_left fun h => hc.2 h.1

theorem reconcile_leads (current desired : Zone) :
    Leads current desired (contents (reconcile current desired).removed)
      (contents (reconcile current desired).added) := by
  rw [Leads, contents_removed, contents_added]
  ext c
  simp only [Finset.mem_union, Finset.mem_sdiff]
  tauto

/-- What a delta has to be: which records it removes, with which identifiers and in which order,
which it adds, when it changes the settings, and that no other change of records is smaller. -/
structure Delta.IsExact (current desired : Zone) (delta : Delta) : Prop where
  domain : delta.domain = desired.domain
  removed_before : delta.removed.Pairwise Before
  removed_contents : contents delta.removed = contents current.entries \ contents desired.entries
  removed_first : ∀ record ∈ delta.removed,
    current.entries.find? (fun other => other.content = record.content) = some record
  added : delta.added =
    (firsts desired.entries).filter fun record => record.content ∉ contents current.entries
  settings_isSome : delta.settings.isSome ↔ current.settings ≠ desired.settings
  settings_change : ∀ change, delta.settings = some change →
    change.old = current.settings ∧ change.new = desired.settings
  leads : Leads current desired (contents delta.removed) (contents delta.added)
  minimal : ∀ dropped gained, Leads current desired dropped gained →
    contents delta.removed ⊆ dropped ∧ delta.removed.length ≤ dropped.card ∧
      contents delta.added ⊆ gained ∧ delta.added.length ≤ gained.card

/-- The delta of two zones is exact, whatever they hold. -/
theorem reconcile_isExact (current desired : Zone) :
    (reconcile current desired).IsExact current desired where
  domain := rfl
  removed_before := by
    rw [reconcile_removed]
    exact Record.sort_pairwise_before (nodup_content_missingFrom _ _)
  removed_contents := contents_removed current desired
  removed_first record hrecord := by
    rw [reconcile_removed, Record.mem_sort] at hrecord
    exact Record.mem_distinct_iff.1 (List.mem_of_mem_filter hrecord)
  added := by
    rw [reconcile_added, missingFrom, Record.distinct_eq_firsts]
    simp only [mem_contents]
  settings_isSome := by
    simp only [reconcile]
    by_cases hsame : current.settings = desired.settings <;> simp [hsame]
  settings_change change hchange := by
    simp only [reconcile] at hchange
    split at hchange
    · exact absurd hchange (by simp)
    · rw [← Option.some.inj hchange]
      exact ⟨rfl, rfl⟩
  leads := reconcile_leads current desired
  minimal dropped gained hleads := by
    rw [contents_removed, contents_added, length_removed, length_added]
    exact ⟨hleads.sdiff_subset, Finset.card_le_card hleads.sdiff_subset,
      hleads.subset_gained, Finset.card_le_card hleads.subset_gained⟩

end ZoneSync
