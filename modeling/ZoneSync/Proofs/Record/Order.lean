import Mathlib.Data.List.Basic
import ZoneSync.Record

/-!
# The order of records

Contents are compared part by part, so their order is a lexicographic combination of orders that are
total on the parts: ranks of types, rows of code points, optional numbers. That makes it total on
contents, and two contents are equal in it only if they are the same. Sorting by insertion keeps the
records and puts them in that order; records without a repeated content come out strictly
increasing.
-/

namespace ZoneSync

open Std

namespace Text

/-- Texts are compared as the rows of their code points. -/
theorem compareChars_eq_compare (s t : List Char) :
    compareChars s t = compare (s.map Char.toNat) (t.map Char.toNat) := by
  induction s generalizing t with
  | nil => cases t <;> rfl
  | cons c s ih =>
    cases t with
    | nil => rfl
    | cons d t =>
      rw [compareChars, ih, List.map_cons, List.map_cons, List.compare_cons_cons]

/-- The code points of a text. -/
def codePoints (text : String) : List Nat :=
  text.toList.map Char.toNat

theorem codePoints_injective : Function.Injective codePoints := by
  intro s t hcodes
  have hchars : Function.Injective Char.toNat := fun c d hcd => Char.toNat_inj.1 hcd
  exact String.toList_inj.1 (List.map_injective_iff.2 hchars hcodes)

end Text

theorem RecordType.rank_injective : Function.Injective RecordType.rank := by
  intro s t
  cases s <;> cases t <;> decide

namespace Content

/-- A priority as a number. -/
def priorityCode (content : Content) : Option Nat :=
  content.priority.map UInt16.toNat

theorem comparePriority_eq_compare (p q : Option UInt16) :
    comparePriority p q = Ord.compare (p.map UInt16.toNat) (q.map UInt16.toNat) := by
  cases p <;> cases q <;> rfl

/-- The order of contents, put together from the orders of the parts. -/
theorem compare_eq_compareLex :
    Content.compare =
      compareLex (compareOn fun x => x.type.rank)
        (compareLex (compareOn fun x => Text.codePoints x.hostname)
          (compareLex (compareOn fun x => Text.codePoints x.destination)
            (compareOn priorityCode))) := by
  funext x y
  rw [Content.compare, Text.compareTexts, Text.compareTexts, Text.compareChars_eq_compare,
    Text.compareChars_eq_compare, comparePriority_eq_compare]
  rfl

instance : TransCmp Content.compare := by
  rw [compare_eq_compareLex]
  infer_instance

theorem eq_of_compare_eq {x y : Content} (heq : x.compare y = .eq) : x = y := by
  rw [compare_eq_compareLex] at heq
  simp only [compareLex_eq_eq, compareOn, LawfulEqCmp.compare_eq_iff_eq] at heq
  obtain ⟨htype, hhostname, hdestination, hpriority⟩ := heq
  obtain ⟨_, _, _, _, _⟩ := x
  obtain ⟨_, _, _, _, _⟩ := y
  have hnumber : Function.Injective UInt16.toNat := fun p q hpq => UInt16.toNat_inj.1 hpq
  simp only [mk.injEq]
  exact ⟨RecordType.rank_injective htype, Text.codePoints_injective hhostname,
    Text.codePoints_injective hdestination, Option.map_injective hnumber hpriority⟩

theorem compare_self (x : Content) : x.compare x = .eq :=
  ReflCmp.compare_self

theorem compare_swap (x y : Content) : x.compare y = (y.compare x).swap :=
  OrientedCmp.eq_swap

theorem lt_asymm {x y : Content} (hlt : x.compare y = .lt) : y.compare x ≠ .lt := by
  rw [compare_swap, hlt]
  decide

instance : LawfulEqCmp Content.compare where
  compare_self := compare_self _
  eq_of_compare := eq_of_compare_eq

end Content

namespace Record

/-- Not after the other in record order. -/
def Ordered (x y : Record) : Prop :=
  x.content.compare y.content ≠ .gt

/-- Before the other in record order. -/
def Before (x y : Record) : Prop :=
  x.content.compare y.content = .lt

theorem Ordered.trans {x y z : Record} (hxy : Ordered x y) (hyz : Ordered y z) : Ordered x z := by
  rw [Ordered, ne_eq, ← Ordering.isLE_iff_ne_gt] at hxy hyz ⊢
  exact TransCmp.isLE_trans hxy hyz

/-! ### Sorting -/

theorem insertSorted_perm (record : Record) (records : List Record) :
    (insertSorted record records).Perm (record :: records) := by
  induction records with
  | nil => exact List.Perm.refl _
  | cons other rest ih =>
    rw [insertSorted]
    split
    · exact (ih.cons other).trans (List.Perm.swap record other rest)
    · exact List.Perm.refl _

theorem sort_perm (records : List Record) : (sort records).Perm records := by
  induction records with
  | nil => exact List.Perm.refl _
  | cons record rest ih =>
    exact (insertSorted_perm record _).trans (ih.cons record)

@[simp] theorem mem_sort {record : Record} {records : List Record} :
    record ∈ sort records ↔ record ∈ records :=
  (sort_perm records).mem_iff

theorem insertSorted_pairwise {record : Record} {records : List Record}
    (hsorted : records.Pairwise Ordered) : (insertSorted record records).Pairwise Ordered := by
  induction records with
  | nil => exact List.pairwise_singleton _ _
  | cons other rest ih =>
    rw [List.pairwise_cons] at hsorted
    obtain ⟨hhead, htail⟩ := hsorted
    rw [insertSorted]
    split
    · next hgt =>
      have hother : Ordered other record := by
        rw [Ordered, Content.compare_swap, hgt]
        decide
      refine List.pairwise_cons.2 ⟨fun x hx => ?_, ih htail⟩
      rcases List.mem_cons.1 ((insertSorted_perm record rest).mem_iff.1 hx) with rfl | hx
      · exact hother
      · exact hhead x hx
    · next hle =>
      refine List.pairwise_cons.2 ⟨fun x hx => ?_, List.pairwise_cons.2 ⟨hhead, htail⟩⟩
      rcases List.mem_cons.1 hx with rfl | hx
      · exact hle
      · exact Ordered.trans hle (hhead x hx)

theorem sort_pairwise (records : List Record) : (sort records).Pairwise Ordered := by
  induction records with
  | nil => exact List.Pairwise.nil
  | cons record rest ih => exact insertSorted_pairwise ih

/-- Of different contents one comes first. -/
theorem Ordered.before {x y : Record} (hle : Ordered x y) (hne : x.content ≠ y.content) :
    Before x y := by
  rw [Before]
  cases hcompare : x.content.compare y.content with
  | lt => rfl
  | eq => exact absurd (Content.eq_of_compare_eq hcompare) hne
  | gt => exact absurd hcompare hle

theorem sort_pairwise_before {records : List Record} (hnodup : (records.map content).Nodup) :
    (sort records).Pairwise Before := by
  have hsorted : ((sort records).map content).Nodup :=
    ((sort_perm records).map content).nodup_iff.2 hnodup
  have hne : (sort records).Pairwise fun x y => x.content ≠ y.content :=
    List.pairwise_map.1 hsorted
  exact (sort_pairwise records).imp₂ (fun _ _ => Ordered.before) hne

/-- There is only one way to list records of different contents in record order. -/
theorem eq_of_perm_of_before {xs ys : List Record} (hperm : xs.Perm ys)
    (hxs : xs.Pairwise Before) (hys : ys.Pairwise Before) : xs = ys :=
  hperm.eq_of_pairwise (fun _ _ _ _ hxy hyx => absurd hyx (Content.lt_asymm hxy)) hxs hys

end Record

end ZoneSync
