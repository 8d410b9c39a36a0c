import Mathlib.Data.List.DropRight
import ZoneSync.Proofs.Text.Token

/-!
# Words

Trimming takes the blanks from both ends of a text, so it keeps a text just if that has no blank at
its ends, and takes the padding from any such text. The tokens that a layout can hold are these
texts, if they are not empty and hold no character that ends a token or its line.
-/

namespace ZoneSync.Text

theorem trimEnd_eq_rdropWhile (text : List Char) : trimEnd text = text.rdropWhile isBlank :=
  rfl

theorem trimStart_eq_self_iff {text : List Char} :
    trimStart text = text ↔ ∀ c, text.head? = some c → isBlank c = false := by
  rw [trimStart, List.dropWhile_eq_self_iff]
  cases text with
  | nil => simp
  | cons c rest => simp

theorem trimEnd_eq_self_iff {text : List Char} :
    trimEnd text = text ↔ ∀ c, text.getLast? = some c → isBlank c = false := by
  rw [trimEnd_eq_rdropWhile, List.rdropWhile_eq_self_iff]
  constructor
  · intro hsolid c hlast
    have hne : text ≠ [] := by
      rintro rfl
      exact absurd hlast (by simp)
    rw [List.getLast?_eq_some_getLast hne, Option.some.injEq] at hlast
    simpa [hlast] using hsolid hne
  · intro hlast hne
    simp [hlast _ (List.getLast?_eq_some_getLast hne)]

theorem trim_eq_self_iff {text : List Char} :
    trim text = text ↔
      (∀ c, text.head? = some c → isBlank c = false) ∧
        ∀ c, text.getLast? = some c → isBlank c = false := by
  rw [← trimStart_eq_self_iff, ← trimEnd_eq_self_iff]
  constructor
  · intro htrim
    constructor
    · cases text with
      | nil => rfl
      | cons c rest =>
        rw [trimStart, List.dropWhile_cons_of_neg]
        simp [head_of_trim_eq_self htrim]
    · rw [← htrim]
      exact List.rdropWhile_idempotent isBlank (trimStart text)
  · rintro ⟨hstart, hend⟩
    rw [trim, hstart, hend]

theorem trim_blanks {text : List Char} (hblank : ∀ c ∈ text, isBlank c = true) :
    trim text = [] := by
  have hstart : trimStart text = [] := List.dropWhile_eq_nil_iff.2 hblank
  rw [trim, hstart]
  rfl

theorem trim_append_blanks (text : List Char) {after : List Char}
    (hafter : ∀ c ∈ after, isBlank c = true) : trim (text ++ after) = trim text := by
  by_cases hblank : ∀ c ∈ text, isBlank c = true
  · rw [trim_blanks hblank, trim_blanks (List.forall_mem_append.2 ⟨hblank, hafter⟩)]
  · have hstart : trimStart text ≠ [] := fun hnil => hblank (List.dropWhile_eq_nil_iff.1 hnil)
    have hsplit : trimStart (text ++ after) = trimStart text ++ after := by
      rw [trimStart, List.dropWhile_append, ← trimStart, if_neg (by simpa using hstart)]
    rw [trim, hsplit, trimEnd, List.reverse_append,
      List.dropWhile_append_of_pos fun c hc => hafter c (List.mem_reverse.1 hc)]
    rfl

theorem trim_padded {before text after : List Char} (htrim : trim text = text)
    (hbefore : ∀ c ∈ before, isBlank c = true) (hafter : ∀ c ∈ after, isBlank c = true) :
    trim (before ++ text ++ after) = text := by
  rw [trim_append_blanks _ hafter, trim, trimStart, List.dropWhile_append_of_pos hbefore]
  exact htrim

/-- The text is not empty, has no blank at its ends, and holds no tab and no end of a line. -/
structure IsWord (text : String) : Prop where
  nonempty : text ≠ ""
  head : ∀ c, text.toList.head? = some c → isBlank c = false
  last : ∀ c, text.toList.getLast? = some c → isBlank c = false
  noTab : '\t' ∉ text.toList
  noReturn : '\r' ∉ text.toList
  noFeed : '\n' ∉ text.toList

theorem isToken_iff_isWord {text : String} : isToken text.toList = true ↔ IsWord text := by
  rw [isToken_iff, trim_eq_self_iff]
  constructor
  · rintro ⟨hne, ⟨hhead, hlast⟩, htab, hreturn, hfeed⟩
    exact ⟨fun h => hne (String.toList_eq_nil_iff.2 h), hhead, hlast, htab, hreturn, hfeed⟩
  · rintro ⟨hne, hhead, hlast, htab, hreturn, hfeed⟩
    exact ⟨fun h => hne (String.toList_eq_nil_iff.1 h), ⟨hhead, hlast⟩, htab, hreturn, hfeed⟩

end ZoneSync.Text
