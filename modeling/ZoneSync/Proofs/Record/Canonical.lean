import ZoneSync.Proofs.Record.Distinct
import ZoneSync.Proofs.Text.Bytes

/-!
# The canonical list of contents

Contents are in a total order, in which types come as they are declared, texts as their bytes, and a
missing priority before all others. So there is one list that holds each content of some records
once and in increasing order. Sorting the records and dropping what is repeated gives that list, and
so does dropping before sorting: neither the order in which the records came nor what identifiers
they carry is left in it.
-/

namespace ZoneSync

open Std
open Text (bytes codePoints)

/-! ### The order part by part -/

theorem Text.compare_bytes_eq (x y : String) :
    compare (bytes x) (bytes y) = compare (codePoints x) (codePoints y) := by
  rw [← compareTexts_eq_compare_bytes, compareTexts, compareChars_eq_compare]
  rfl

theorem RecordType.rank_eq_ctorIdx (type : RecordType) : type.rank = type.ctorIdx := by
  cases type <;> rfl

namespace Content

theorem comparePriority_eq (p q : Option UInt16) :
    comparePriority p q = Ord.compare p q := by
  cases p with
  | none => cases q <;> rfl
  | some p =>
    cases q with
    | none => rfl
    | some q => exact (UInt16.compare_eq_toNat_compare_toNat p q).symm

theorem compare_eq_parts (x y : Content) :
    x.compare y =
      (Ord.compare x.type.ctorIdx y.type.ctorIdx).then
        ((Ord.compare (bytes x.hostname) (bytes y.hostname)).then
          ((Ord.compare (bytes x.destination) (bytes y.destination)).then
            (Ord.compare x.priority y.priority))) := by
  rw [compare, RecordType.rank_eq_ctorIdx, RecordType.rank_eq_ctorIdx,
    Text.compareTexts_eq_compare_bytes, Text.compareTexts_eq_compare_bytes, comparePriority_eq]

theorem eq_iff_parts (x y : Content) :
    x = y ↔ x.type = y.type ∧ x.hostname = y.hostname ∧ x.destination = y.destination ∧
      x.priority = y.priority := by
  cases x
  cases y
  simp

end Content

namespace Record

/-- The comparison is a total order of contents: it finds equal just the records of one content,
whatever their identifiers, and one of any two others before the other. -/
structure OrdersContents (cmp : Record → Record → Ordering) : Prop where
  eq_iff : ∀ r s, cmp r s = .eq ↔ r.content = s.content
  identifier : ∀ r s id other, cmp { r with id := id } { s with id := other } = cmp r s
  swap : ∀ r s, cmp s r = (cmp r s).swap
  lt_trans : ∀ r s t, cmp r s = .lt → cmp s t = .lt → cmp r t = .lt
  le_trans : ∀ r s t, cmp r s ≠ .gt → cmp s t ≠ .gt → cmp r t ≠ .gt

theorem ordersContents_compare :
    OrdersContents fun r s => r.content.compare s.content where
  eq_iff _ _ := LawfulEqCmp.compare_eq_iff_eq
  identifier _ _ _ _ := rfl
  swap _ _ := Content.compare_swap _ _
  lt_trans _ _ _ := TransCmp.lt_trans
  le_trans _ _ _ := Ordered.trans

/-! ### Contents in increasing order -/

/-- The contents of the records, each of them once and in increasing order. -/
structure IsCanonical (records : List Record) (contents : List Content) : Prop where
  increasing : contents.Pairwise fun x y => x.compare y = .lt
  mem_iff : ∀ c, c ∈ contents ↔ c ∈ records.map content

variable {records others : List Record} {contents : List Content}

theorem IsCanonical.nodup (hcontents : IsCanonical records contents) : contents.Nodup :=
  hcontents.increasing.imp fun hlt heq => by
    subst heq
    exact Content.lt_asymm hlt hlt

theorem IsCanonical.unique {found : List Content} (hcontents : IsCanonical records contents)
    (hfound : IsCanonical others found)
    (hsame : ∀ c, c ∈ records.map content ↔ c ∈ others.map content) : contents = found := by
  have hperm : contents.Perm found := by
    apply (List.perm_ext_iff_of_nodup hcontents.nodup hfound.nodup).2
    intro c
    rw [hcontents.mem_iff, hfound.mem_iff, hsame]
  exact hperm.eq_of_pairwise (fun _ _ _ _ hxy hyx => absurd hyx (Content.lt_asymm hxy))
    hcontents.increasing hfound.increasing

theorem isCanonical_distinct_sort (records : List Record) :
    IsCanonical records ((distinct (sort records)).map content) where
  increasing := List.pairwise_map.2 (distinct_sort_pairwise records)
  mem_iff c := by
    rw [mem_content_distinct]
    exact ((sort_perm records).map content).mem_iff

theorem isCanonical_sort_distinct (records : List Record) :
    IsCanonical records ((sort (distinct records)).map content) where
  increasing := List.pairwise_map.2 (sort_pairwise_before (nodup_content_distinct records))
  mem_iff c := by
    rw [((sort_perm (distinct records)).map content).mem_iff, mem_content_distinct]

/-- The order of records is total on contents. It is lexicographic: types come as they are declared,
texts as their bytes or, what is the same, as their code points, and a missing priority before any
other. Hence records that differ in their order and their identifiers only are sorted and stripped
of repetitions to one list of contents, whichever is done first. -/
theorem order_isCanonical :
    OrdersContents (fun r s => r.content.compare s.content) ∧
      (∀ r s : Record, r.content = s.content ↔
        r.type = s.type ∧ r.hostname = s.hostname ∧ r.destination = s.destination ∧
          r.priority = s.priority) ∧
      (∀ r s : Record, r.content.compare s.content =
        (compare r.type.ctorIdx s.type.ctorIdx).then
          ((compare (bytes r.hostname) (bytes s.hostname)).then
            ((compare (bytes r.destination) (bytes s.destination)).then
              (compare r.priority s.priority)))) ∧
      (∀ x y : String, compare (bytes x) (bytes y) = compare (codePoints x) (codePoints y)) ∧
      (∀ p : UInt16, compare none (some p) = .lt) ∧
      ∀ records others : List Record, (records.map content).Perm (others.map content) →
        ∃ contents, IsCanonical records contents ∧
          (distinct (sort others)).map content = contents ∧
            (sort (distinct others)).map content = contents := by
  refine ⟨ordersContents_compare, fun r s => Content.eq_iff_parts r.content s.content,
    fun r s => Content.compare_eq_parts r.content s.content, Text.compare_bytes_eq,
    fun _ => rfl, fun records others hperm => ?_⟩
  have hcanonical := isCanonical_distinct_sort records
  have hsame : ∀ c, c ∈ records.map content ↔ c ∈ others.map content := fun _ => hperm.mem_iff
  exact ⟨_, hcanonical, (hcanonical.unique (isCanonical_distinct_sort others) hsame).symm,
    (hcanonical.unique (isCanonical_sort_distinct others) hsame).symm⟩

/-! ### A character of four bytes -/

namespace Sample

/-- At a hostname of one character, which takes three bytes. -/
def threeBytes (id : Option String) : Record :=
  ⟨⟨.a, "\uffee", "192.0.2.1", none, rfl⟩, id⟩

/-- At a hostname of one character, which takes four bytes. -/
def fourBytes (id : Option String) : Record :=
  ⟨⟨.a, "😀", "192.0.2.1", none, rfl⟩, id⟩

def exchanger (id : Option String) : Record :=
  ⟨⟨.mx, "@", "mail.a.org", some 10, rfl⟩, id⟩

end Sample

open Sample

/-- A character of four bytes comes after all those of fewer, and the type before both. -/
theorem order_isCanonical_wide :
    let records := [exchanger none, fourBytes (some "1"), threeBytes none, fourBytes (some "2")]
    let others := [fourBytes none, threeBytes (some "7"), fourBytes none, exchanger (some "7")]
    (records.map content).Perm (others.map content) ∧
      (∃ contents, IsCanonical records contents ∧
        (distinct (sort others)).map content = contents ∧
          (sort (distinct others)).map content = contents) ∧
      (distinct (sort others)).map content =
        [(threeBytes none).content, (fourBytes none).content, (exchanger none).content] := by
  intro records others
  have hperm : (records.map content).Perm (others.map content) := by decide
  exact ⟨hperm, order_isCanonical.2.2.2.2.2 records others hperm, by decide⟩

end Record

end ZoneSync
