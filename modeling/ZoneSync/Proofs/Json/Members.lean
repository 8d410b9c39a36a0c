import ZoneSync.Decoding
import ZoneSync.Proofs.Record.Order

/-!
# Members in any order

Before an object is read its members are put in ascending order of their keys, and members that the
structure does not know are skipped. So an object is read by its known members alone, whatever
stands between them and in whatever order they come.
-/

namespace ZoneSync

open Std

namespace Text

theorem compareTexts_eq_compareOn : compareTexts = compareOn codePoints := by
  funext s t
  rw [compareTexts, compareChars_eq_compare]
  rfl

instance : TransCmp compareTexts := by
  rw [compareTexts_eq_compareOn]
  infer_instance

instance : LawfulEqCmp compareTexts where
  compare_self := ReflCmp.compare_self
  eq_of_compare heq := by
    rw [compareTexts_eq_compareOn] at heq
    exact codePoints_injective (LawfulEqCmp.compare_eq_iff_eq.1 heq)

end Text

namespace Json

variable {key : String} {value : Json} {members others sorted : List (String × Json)}

/-- The key comes before that of the other member. -/
def KeyBefore (member other : String × Json) : Prop :=
  Text.compareTexts member.1 other.1 = .lt

theorem not_keyBefore_self {member : String × Json} : ¬KeyBefore member member := by
  intro hbefore
  have hself : Text.compareTexts member.1 member.1 = .eq :=
    @ReflCmp.compare_self _ Text.compareTexts _ _
  exact absurd (hself.symm.trans hbefore) (by decide)

theorem mem_putSorted {member : String × Json} (hmem : member ∈ putSorted key value sorted) :
    member = (key, value) ∨ member ∈ sorted := by
  induction sorted with
  | nil => simpa [putSorted] using hmem
  | cons first rest ih =>
    rw [putSorted] at hmem
    split at hmem
    · simpa using hmem
    · rcases List.mem_cons.1 hmem with rfl | hrest
      · simp
      · simp [hrest]
    · rcases List.mem_cons.1 hmem with rfl | hrest
      · simp
      · rcases ih hrest with rfl | hrest
        · simp
        · simp [hrest]

theorem putSorted_pairwise (hsorted : sorted.Pairwise KeyBefore) :
    (putSorted key value sorted).Pairwise KeyBefore := by
  induction sorted with
  | nil => simp [putSorted]
  | cons first rest ih =>
    obtain ⟨hfirst, hrest⟩ := List.pairwise_cons.1 hsorted
    rw [putSorted]
    split
    · next hlt =>
      refine List.pairwise_cons.2 ⟨?_, hsorted⟩
      intro other hother
      rcases List.mem_cons.1 hother with rfl | hother
      · exact hlt
      · exact TransCmp.lt_trans hlt (hfirst other hother)
    · next heq =>
      obtain rfl := LawfulEqCmp.compare_eq_iff_eq.1 heq
      exact List.pairwise_cons.2 ⟨hfirst, hrest⟩
    · next hgt =>
      refine List.pairwise_cons.2 ⟨?_, ih hrest⟩
      intro other hother
      rcases mem_putSorted hother with rfl | hother
      · exact OrientedCmp.lt_of_gt hgt
      · exact hfirst other hother

theorem putSorted_of_before (hbefore : ∀ member ∈ sorted, KeyBefore (key, value) member) :
    putSorted key value sorted = (key, value) :: sorted := by
  cases sorted with
  | nil => rfl
  | cons first rest =>
    have hlt : Text.compareTexts key first.1 = .lt := hbefore first List.mem_cons_self
    rw [putSorted, hlt]

/-- What is kept of the members does not depend on when the others are dropped. -/
theorem filter_putSorted (keep : String → Bool) (hsorted : sorted.Pairwise KeyBefore) :
    (putSorted key value sorted).filter (fun member => keep member.1) =
      if keep key then putSorted key value (sorted.filter fun member => keep member.1)
      else sorted.filter fun member => keep member.1 := by
  induction sorted with
  | nil => by_cases hkeep : keep key <;> simp [putSorted, hkeep]
  | cons first rest ih =>
    obtain ⟨hfirst, hrest⟩ := List.pairwise_cons.1 hsorted
    rw [putSorted]
    split
    · next hlt =>
      -- The first member may be dropped; the new one comes before all that are left as well.
      have hbefore : ∀ member ∈ (first :: rest).filter fun member => keep member.1,
          KeyBefore (key, value) member := by
        intro member hmember
        rcases List.mem_cons.1 (List.mem_of_mem_filter hmember) with rfl | hmember
        · exact hlt
        · exact TransCmp.lt_trans hlt (hfirst member hmember)
      rw [putSorted_of_before hbefore, List.filter_cons]
    · next heq =>
      obtain rfl := LawfulEqCmp.compare_eq_iff_eq.1 heq
      by_cases hkeep : keep first.1
      · simp [hkeep, putSorted, heq]
      · simp [hkeep]
    · next hgt =>
      by_cases hkeep : keep first.1
      · by_cases hkey : keep key <;> simp [hkeep, hkey, putSorted, hgt, ih hrest]
      · simp [hkeep, ih hrest]

theorem foldl_putSorted_pairwise (hsorted : sorted.Pairwise KeyBefore) :
    (members.foldl (fun sorted member => putSorted member.1 member.2 sorted) sorted).Pairwise
      KeyBefore := by
  induction members generalizing sorted with
  | nil => exact hsorted
  | cons member rest ih => exact ih (putSorted_pairwise hsorted)

theorem sortMembers_pairwise (members : List (String × Json)) :
    (sortMembers members).Pairwise KeyBefore :=
  foldl_putSorted_pairwise .nil

theorem filter_foldl_putSorted (keep : String → Bool) (hsorted : sorted.Pairwise KeyBefore) :
    (members.foldl (fun sorted member => putSorted member.1 member.2 sorted) sorted).filter
        (fun member => keep member.1) =
      (members.filter fun member => keep member.1).foldl
        (fun sorted member => putSorted member.1 member.2 sorted)
        (sorted.filter fun member => keep member.1) := by
  induction members generalizing sorted with
  | nil => rfl
  | cons member rest ih =>
    rw [List.foldl_cons, ih (putSorted_pairwise hsorted), filter_putSorted keep hsorted,
      List.filter_cons]
    by_cases hkeep : keep member.1 <;> simp [hkeep]

/-- Some members can be dropped before the others are put in order. -/
theorem filter_sortMembers (keep : String → Bool) (members : List (String × Json)) :
    (sortMembers members).filter (fun member => keep member.1) =
      sortMembers (members.filter fun member => keep member.1) :=
  filter_foldl_putSorted keep .nil

theorem putSorted_perm (hnew : key ∉ sorted.map Prod.fst) :
    (putSorted key value sorted).Perm ((key, value) :: sorted) := by
  induction sorted with
  | nil => exact .refl _
  | cons first rest ih =>
    rw [List.map_cons, List.mem_cons, not_or] at hnew
    rw [putSorted]
    split
    · exact .refl _
    · next heq => exact absurd (LawfulEqCmp.compare_eq_iff_eq.1 heq) hnew.1
    · exact ((ih hnew.2).cons first).trans (.swap ..)

theorem foldl_putSorted_perm (hnodup : (sorted.map Prod.fst ++ members.map Prod.fst).Nodup) :
    (members.foldl (fun sorted member => putSorted member.1 member.2 sorted) sorted).Perm
      (sorted ++ members) := by
  induction members generalizing sorted with
  | nil => simp
  | cons member rest ih =>
    have hnew : member.1 ∉ sorted.map Prod.fst := by
      intro hmem
      exact (List.nodup_append.1 hnodup).2.2 _ hmem _ List.mem_cons_self rfl
    have hput : (putSorted member.1 member.2 sorted).Perm (member :: sorted) :=
      putSorted_perm hnew
    have hmove : (member :: sorted ++ rest).Perm (sorted ++ member :: rest) :=
      List.perm_middle.symm
    have hnext :
        ((putSorted member.1 member.2 sorted).map Prod.fst ++ rest.map Prod.fst).Nodup := by
      rw [← List.map_append] at hnodup ⊢
      exact (((hput.append_right rest).trans hmove).map Prod.fst).nodup_iff.2 hnodup
    exact (ih hnext).trans ((hput.append_right rest).trans hmove)

theorem sortMembers_perm (hnodup : (members.map Prod.fst).Nodup) :
    (sortMembers members).Perm members := by
  have hall : (([] : List (String × Json)).map Prod.fst ++ members.map Prod.fst).Nodup := hnodup
  exact foldl_putSorted_perm hall

/-- Members of different keys come out in their only ascending order. -/
theorem sortMembers_eq_of_perm (hperm : members.Perm sorted) (hsorted : sorted.Pairwise KeyBefore) :
    sortMembers members = sorted := by
  have hnodup : (members.map Prod.fst).Nodup := by
    rw [(hperm.map Prod.fst).nodup_iff]
    refine List.pairwise_map.2 (hsorted.imp fun hbefore heq => ?_)
    rw [KeyBefore, heq] at hbefore
    exact not_keyBefore_self hbefore
  refine List.Perm.eq_of_pairwise (fun x y _ _ hxy hyx => ?_) (sortMembers_pairwise members) hsorted
    ((sortMembers_perm hnodup).trans hperm)
  exact absurd (TransCmp.lt_trans hxy hyx) not_keyBefore_self

/-- Members of different keys that are the same in both lists. -/
theorem perm_of_mem_iff (hnodup : (members.map Prod.fst).Nodup)
    (hsorted : sorted.Pairwise KeyBefore)
    (hmem : ∀ member, member ∈ members ↔ member ∈ sorted) : members.Perm sorted := by
  have hdistinct : sorted.Nodup := by
    refine hsorted.imp fun hbefore heq => ?_
    rw [heq] at hbefore
    exact not_keyBefore_self hbefore
  have hmembers : members.Nodup :=
    (List.pairwise_map.1 hnodup).imp fun hne heq => hne (congrArg Prod.fst heq)
  exact (List.perm_ext_iff_of_nodup hmembers hdistinct).2 hmem

theorem isSome_lookup?_iff : (lookup? members key).isSome = true ↔ key ∈ members.map Prod.fst := by
  rw [lookup?, Option.isSome_map, List.find?_isSome]
  simp only [List.mem_map, beq_iff_eq]

end Json

namespace Decode.Shape

variable {σ : Type} {shape : Shape σ} {members known : List (String × Json)}

/-- Whether the structure has a field of that key. -/
def knows (shape : Shape σ) (key : String) : Bool :=
  shape.fields.any fun field => field.key == key

theorem putMember_of_unknown {member : String × Json} (hunknown : shape.knows member.1 = false)
    (filled : σ) : shape.putMember filled member = .ok filled := by
  have hnone : shape.fields.find? (fun field => field.key == member.1) = none := by
    rw [List.find?_eq_none]
    rw [knows, List.any_eq_false] at hunknown
    exact hunknown
  rw [putMember, hnone]

theorem foldlM_putMember_filter (members : List (String × Json)) (filled : σ) :
    members.foldlM shape.putMember filled =
      (members.filter fun member => shape.knows member.1).foldlM shape.putMember filled := by
  induction members generalizing filled with
  | nil => rfl
  | cons member rest ih =>
    cases hknows : shape.knows member.1 with
    | false =>
      rw [List.foldlM_cons, putMember_of_unknown hknows, List.filter_cons_of_neg (by simp [hknows])]
      exact ih filled
    | true =>
      rw [List.filter_cons_of_pos (by exact hknows), List.foldlM_cons, List.foldlM_cons]
      exact bind_congr ih

/-- An object is read by its known members in ascending order, however they come and whatever else
there is. -/
theorem decode_object (sorted : List (String × Json)) {filled : σ}
    (hperm : (members.filter fun member => shape.knows member.1).Perm known)
    (hnodup : (known.map Prod.fst).Nodup) (hmem : ∀ member, member ∈ known ↔ member ∈ sorted)
    (hsorted : (sorted.map Prod.fst).Pairwise fun key other => Text.compareTexts key other = .lt)
    (hfold : sorted.foldlM shape.putMember shape.blank = .ok filled)
    (hrequired : ∀ field ∈ shape.fields, field.required = true → field.key ∈ sorted.map Prod.fst) :
    shape.decode (.object members) = .ok filled := by
  rw [List.pairwise_map] at hsorted
  have hknown := hperm.trans (Json.perm_of_mem_iff hnodup hsorted hmem)
  have hread : (Json.sortMembers members).foldlM shape.putMember shape.blank = .ok filled := by
    rw [foldlM_putMember_filter, Json.filter_sortMembers,
      Json.sortMembers_eq_of_perm hknown hsorted, hfold]
  have hpresent : (shape.fields.find? fun field =>
      field.required && (Json.lookup? members field.key).isNone) = none := by
    rw [List.find?_eq_none]
    intro field hfield hmissing
    rw [Bool.and_eq_true, ← Option.not_isSome, Bool.not_eq_true'] at hmissing
    obtain ⟨member, hmember, hkey⟩ := List.mem_map.1 (hrequired field hfield hmissing.1)
    have hmem : member ∈ members := (List.mem_filter.1 (hknown.mem_iff.2 hmember)).1
    have hsome := Json.isSome_lookup?_iff.2 (List.mem_map.2 ⟨member, hmem, hkey⟩)
    exact absurd (hsome.symm.trans hmissing.2) (by decide)
  simp only [decode, ofMembers, hread, hpresent, bind, Except.bind, pure, Except.pure]

end Decode.Shape

end ZoneSync
