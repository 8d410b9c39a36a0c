import ZoneSync.Record
import ZoneSync.Text.Numeral

/-!
# Texts that are tokens

A text without blanks is a token, unless it is empty, and a numeral is such a text. A token begins
with a character that is not blank, and holds nothing that would end it or its line.
-/

namespace ZoneSync

namespace Text

/-- No character of the text is blank. -/
def IsSolid (text : List Char) : Prop :=
  ∀ c ∈ text, isBlank c = false

instance (text : List Char) : Decidable (IsSolid text) :=
  decidable_of_iff ((text.all fun c => !isBlank c) = true) (by simp [IsSolid])

theorem trimStart_eq_self {text : List Char} (hsolid : IsSolid text) : trimStart text = text := by
  cases text with
  | nil => rfl
  | cons c rest =>
    rw [trimStart, List.dropWhile_cons_of_neg]
    simp [hsolid c List.mem_cons_self]

theorem trim_eq_self {text : List Char} (hsolid : IsSolid text) : trim text = text := by
  have hreverse : IsSolid text.reverse := fun c hc => hsolid c (List.mem_reverse.1 hc)
  rw [trim, trimStart_eq_self hsolid, trimEnd, ← trimStart, trimStart_eq_self hreverse,
    List.reverse_reverse]

theorem trim_cons_of_isBlank {c : Char} (hblank : isBlank c = true) (text : List Char) :
    trim (c :: text) = trim text := by
  rw [trim, trimStart, List.dropWhile_cons_of_pos hblank, ← trimStart, ← trim]

theorem length_trimEnd_le (text : List Char) : (trimEnd text).length ≤ text.length := by
  have hdrop := (List.dropWhile_sublist isBlank (l := text.reverse)).length_le
  rw [List.length_reverse] at hdrop
  rwa [trimEnd, List.length_reverse]

/-- A text that is trimmed already does not begin with a blank. -/
theorem head_of_trim_eq_self {c : Char} {rest : List Char} (htrim : trim (c :: rest) = c :: rest) :
    isBlank c = false := by
  cases hblank : isBlank c with
  | false => rfl
  | true =>
    have hdrop : trimStart (c :: rest) = trimStart rest := List.dropWhile_cons_of_pos hblank
    have hshort : (trim (c :: rest)).length ≤ rest.length := by
      rw [trim, hdrop]
      exact Nat.le_trans (length_trimEnd_le _) (List.dropWhile_sublist _).length_le
    rw [htrim, List.length_cons] at hshort
    omega

/-! ### Numerals -/

theorem digits?_toDigits (n : Nat) : digits? (Nat.toDigits 10 n) = some n := by
  have hdigits : (Nat.toDigits 10 n).all Char.isDigit = true :=
    List.all_eq_true.2 fun c hc => Nat.isDigit_of_mem_toDigits (by decide) (by decide) hc
  have hvalue : digitsValue (Nat.toDigits 10 n) = n := Nat.ofDigitChars_ten_toDigits
  rw [digits?, if_neg, hvalue]
  rw [hdigits]
  simp [Nat.toDigits_ne_nil]

/-- A number below the bound is read from its digits. -/
theorem numeral?_toDigits {bound n : Nat} (hn : n < bound) :
    numeral? bound (Nat.toDigits 10 n) = some n := by
  have hplus : ∀ rest, Nat.toDigits 10 n ≠ '+' :: rest := by
    intro rest heq
    have hdigit : ('+' : Char).isDigit = true :=
      Nat.isDigit_of_mem_toDigits (by decide) (by decide) (heq ▸ List.mem_cons_self)
    exact absurd hdigit (by decide)
  have hbound : decide (n < bound) = true := decide_eq_true hn
  rw [numeral?.eq_2 _ _ hplus, digits?_toDigits, Option.filter_some, hbound, if_pos rfl]

theorem isBlank_of_isDigit {c : Char} (hdigit : c.isDigit = true) : isBlank c = false := by
  have hrange : 48 ≤ c.toNat ∧ c.toNat ≤ 57 := by
    simpa [Char.isDigit, UInt32.le_iff_toNat_le] using hdigit
  simp only [isBlank, Ranges.contains, blankRanges, List.any_cons, List.any_nil, Bool.or_false,
    Bool.or_eq_false_iff, Bool.and_eq_false_iff, decide_eq_false_iff_not]
  omega

theorem isSolid_toDigits (n : Nat) : IsSolid (Nat.toDigits 10 n) := fun _ hc =>
  isBlank_of_isDigit (Nat.isDigit_of_mem_toDigits (by decide) (by decide) hc)

end Text

open Text

/-! ### Tokens -/

theorem isToken_iff {text : List Char} :
    isToken text = true ↔
      text ≠ [] ∧ trim text = text ∧ '\t' ∉ text ∧ '\r' ∉ text ∧ '\n' ∉ text := by
  simp only [isToken, Bool.and_eq_true, Bool.not_eq_true', List.isEmpty_eq_false_iff, beq_iff_eq,
    List.all_eq_true, bne_iff_ne, and_assoc]
  refine and_congr_right fun _ => and_congr_right fun _ => ⟨fun h => ?_, fun h c hc => ?_⟩
  · exact ⟨fun hc => (h _ hc).1 rfl, fun hc => (h _ hc).2.1 rfl, fun hc => (h _ hc).2.2 rfl⟩
  · exact ⟨fun heq => h.1 (heq ▸ hc), fun heq => h.2.1 (heq ▸ hc), fun heq => h.2.2 (heq ▸ hc)⟩

theorem isToken_of_isSolid {text : List Char} (hne : text ≠ []) (hsolid : IsSolid text) :
    isToken text = true := by
  have hmem : ∀ c, isBlank c = true → c ∉ text := fun c hblank hc => by
    rw [hsolid c hc] at hblank
    exact absurd hblank (by decide)
  exact isToken_iff.2 ⟨hne, trim_eq_self hsolid, hmem _ (by decide), hmem _ (by decide),
    hmem _ (by decide)⟩

theorem isToken_toDigits (n : Nat) : isToken (Nat.toDigits 10 n) = true :=
  isToken_of_isSolid Nat.toDigits_ne_nil (isSolid_toDigits n)

/-- A token begins with a character that is not blank. -/
theorem exists_head_of_isToken {text : List Char} (htoken : isToken text = true) :
    ∃ c rest, text = c :: rest ∧ isBlank c = false := by
  obtain ⟨hne, htrim, -⟩ := isToken_iff.1 htoken
  cases text with
  | nil => exact absurd rfl hne
  | cons c rest => exact ⟨c, rest, rfl, head_of_trim_eq_self htrim⟩

end ZoneSync
