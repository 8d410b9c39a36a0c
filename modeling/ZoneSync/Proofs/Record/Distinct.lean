import ZoneSync.Proofs.Record.Order

/-!
# The records of different content

Dropping repetitions keeps exactly the records whose content no earlier record has. What is kept is
a part of the list in the same order, holds each content once, and holds every content there was.
-/

namespace ZoneSync.Record

/-- The records whose content no earlier record has. -/
def firsts (records : List Record) : List Record :=
  (records.zipIdx.filter fun (record, place) =>
    record.content ∉ (records.take place).map content).map Prod.fst

/-- In the middle of the list, where `seen` are the contents of the records before. -/
theorem distinctFrom_eq_filter {seen : List Content} {before : List Record}
    (hseen : ∀ c, c ∈ seen ↔ c ∈ before.map content) (rest : List Record) :
    distinctFrom seen rest =
      ((rest.zipIdx before.length).filter fun (record, place) =>
        record.content ∉ ((before ++ rest).take place).map content).map Prod.fst := by
  induction rest generalizing seen before with
  | nil => rfl
  | cons record rest ih =>
    -- One more record stands before the rest, whether or not it is kept.
    have hsplit : before ++ record :: rest = (before ++ [record]) ++ rest := by simp
    have hlength : (before ++ [record]).length = before.length + 1 := by simp
    have htake : (before ++ record :: rest).take before.length = before := by simp
    rw [distinctFrom, List.zipIdx_cons, List.filter_cons]
    simp only [htake, ← hseen, decide_not, Bool.not_eq_true', decide_eq_false_iff_not]
    split
    · next hmem =>
      rw [hsplit, ← hlength]
      have hnext : ∀ c, c ∈ seen ↔ c ∈ (before ++ [record]).map content := by
        intro c
        rw [List.map_append, List.mem_append, ← hseen]
        refine ⟨Or.inl, fun h => ?_⟩
        rcases h with hc | hc
        · exact hc
        · rw [List.map_singleton, List.mem_singleton] at hc
          exact hc ▸ hmem
      simpa only [decide_not] using ih hnext
    · next hmem =>
      rw [List.map_cons, hsplit, ← hlength]
      have hnext : ∀ c, c ∈ record.content :: seen ↔ c ∈ (before ++ [record]).map content := by
        intro c
        rw [List.map_append, List.mem_append, ← hseen, List.map_singleton, List.mem_singleton,
          List.mem_cons]
        exact or_comm
      simpa only [decide_not] using congrArg (record :: ·) (ih hnext)

theorem distinct_eq_firsts (records : List Record) : distinct records = firsts records :=
  @distinctFrom_eq_filter [] [] (fun _ => Iff.rfl) records

theorem distinctFrom_sublist (seen : List Content) (records : List Record) :
    (distinctFrom seen records).Sublist records := by
  induction records generalizing seen with
  | nil => exact List.Sublist.slnil
  | cons record rest ih =>
    rw [distinctFrom]
    split
    · exact (ih seen).cons record
    · exact (ih _).cons_cons record

theorem distinct_sublist (records : List Record) : (distinct records).Sublist records :=
  distinctFrom_sublist [] records

theorem mem_content_distinctFrom {c : Content} {seen : List Content} {records : List Record} :
    c ∈ (distinctFrom seen records).map content ↔ c ∈ records.map content ∧ c ∉ seen := by
  induction records generalizing seen with
  | nil => simp [distinctFrom]
  | cons record rest ih =>
    rw [distinctFrom]
    split
    · next hmem =>
      rw [ih, List.map_cons, List.mem_cons]
      refine ⟨fun h => ⟨Or.inr h.1, h.2⟩, fun h => ⟨h.1.resolve_left fun hc => ?_, h.2⟩⟩
      exact h.2 (hc ▸ hmem)
    · next hmem =>
      rw [List.map_cons, List.mem_cons, ih, List.map_cons, List.mem_cons, List.mem_cons]
      by_cases hc : c = record.content
      · simp [hc, hmem]
      · simp [hc]

@[simp] theorem mem_content_distinct {c : Content} {records : List Record} :
    c ∈ (distinct records).map content ↔ c ∈ records.map content := by
  simp [distinct, mem_content_distinctFrom]

theorem nodup_content_distinctFrom (seen : List Content) (records : List Record) :
    ((distinctFrom seen records).map content).Nodup := by
  induction records generalizing seen with
  | nil => exact List.nodup_nil
  | cons record rest ih =>
    rw [distinctFrom]
    split
    · exact ih seen
    · rw [List.map_cons, List.nodup_cons]
      refine ⟨fun hmem => ?_, ih _⟩
      exact (mem_content_distinctFrom.1 hmem).2 List.mem_cons_self

theorem nodup_content_distinct (records : List Record) : ((distinct records).map content).Nodup :=
  nodup_content_distinctFrom [] records

/-- A record at the end is kept if its content is new. -/
theorem distinctFrom_append_singleton (seen : List Content) (records : List Record)
    (record : Record) :
    distinctFrom seen (records ++ [record]) =
      distinctFrom seen records ++
        if record.content ∈ seen ∨ record.content ∈ records.map content then [] else [record] := by
  induction records generalizing seen with
  | nil => by_cases hmem : record.content ∈ seen <;> simp [distinctFrom, hmem]
  | cons first rest ih =>
    rw [List.cons_append, distinctFrom, distinctFrom]
    by_cases hfirst : first.content ∈ seen
    · rw [if_pos hfirst, if_pos hfirst, ih]
      have hiff : (record.content ∈ seen ∨ record.content ∈ rest.map content) ↔
          (record.content ∈ seen ∨ record.content ∈ (first :: rest).map content) := by
        rw [List.map_cons, List.mem_cons]
        refine ⟨fun h => h.imp_right Or.inr, fun h => ?_⟩
        rcases h with hseen | heq | hrest
        · exact Or.inl hseen
        · exact Or.inl (heq ▸ hfirst)
        · exact Or.inr hrest
      simp only [hiff]
    · rw [if_neg hfirst, if_neg hfirst, ih, List.cons_append]
      simp only [List.map_cons, List.mem_cons, or_assoc, or_left_comm]

theorem distinct_append_singleton (records : List Record) (record : Record) :
    distinct (records ++ [record]) =
      distinct records ++ if record.content ∈ records.map content then [] else [record] := by
  simpa [distinct] using distinctFrom_append_singleton [] records record

/-- What is kept of a content is its first record, with the identifier of that one. -/
theorem mem_distinctFrom_iff {record : Record} {seen : List Content} {records : List Record} :
    record ∈ distinctFrom seen records ↔
      record.content ∉ seen ∧
        records.find? (fun other => other.content = record.content) = some record := by
  induction records generalizing seen with
  | nil => simp [distinctFrom]
  | cons first rest ih =>
    rw [distinctFrom, List.find?_cons]
    by_cases hfirst : first.content = record.content
    · rw [decide_eq_true hfirst, hfirst]
      split
      · next hmem => simp [ih, hmem]
      · next hmem =>
        rw [List.mem_cons, ih]
        simp [hmem, eq_comm]
    · rw [decide_eq_false hfirst]
      split
      · exact ih
      · have hne : record ≠ first := fun h => hfirst (h ▸ rfl)
        rw [List.mem_cons, ih, List.mem_cons, not_or]
        simp [hne, Ne.symm hfirst]

theorem mem_distinct_iff {record : Record} {records : List Record} :
    record ∈ distinct records ↔
      records.find? (fun other => other.content = record.content) = some record := by
  simp [distinct, mem_distinctFrom_iff]

/-- Nothing is dropped where nothing is repeated. -/
theorem distinctFrom_eq_self {seen : List Content} {records : List Record}
    (hnodup : (records.map content).Nodup) (hseen : ∀ record ∈ records, record.content ∉ seen) :
    distinctFrom seen records = records := by
  induction records generalizing seen with
  | nil => rfl
  | cons record rest ih =>
    rw [List.map_cons, List.nodup_cons] at hnodup
    rw [distinctFrom, if_neg (hseen record List.mem_cons_self), ih hnodup.2]
    intro other hother hmem
    rcases List.mem_cons.1 hmem with heq | hmem
    · exact hnodup.1 (heq ▸ List.mem_map_of_mem hother)
    · exact hseen other (List.mem_cons_of_mem _ hother) hmem

theorem distinct_eq_self {records : List Record} (hnodup : (records.map content).Nodup) :
    distinct records = records :=
  distinctFrom_eq_self hnodup fun _ _ => List.not_mem_nil

/-! ### Repetitions in a sorted list -/

theorem distinct_sort_pairwise (records : List Record) :
    (distinct (sort records)).Pairwise Before := by
  have hordered : (distinct (sort records)).Pairwise Ordered :=
    (sort_pairwise records).sublist (distinct_sublist _)
  have hne : (distinct (sort records)).Pairwise fun x y => x.content ≠ y.content :=
    List.pairwise_map.1 (nodup_content_distinct _)
  exact hordered.imp₂ (fun _ _ => Ordered.before) hne

/-- Sorting first makes no difference to which contents are kept. -/
theorem content_distinct_sort_perm (records : List Record) :
    ((distinct (sort records)).map content).Perm ((distinct records).map content) := by
  refine (List.perm_ext_iff_of_nodup (nodup_content_distinct _) (nodup_content_distinct _)).2
    fun c => ?_
  rw [mem_content_distinct, mem_content_distinct]
  exact ((sort_perm records).map content).mem_iff

end ZoneSync.Record
