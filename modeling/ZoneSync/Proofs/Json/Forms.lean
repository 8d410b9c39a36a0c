import Mathlib.Data.List.Forall2
import ZoneSync.Decoding
import ZoneSync.Proofs.Layout.Grammar
import ZoneSync.Proofs.Text.Words

/-!
# The forms of a value

The provider does not keep the form of what it was sent. A number may come back as a text with
blanks around a numeral, and a switch as a word for it. The careless readers take all of these forms
for the value that was sent.
-/

namespace ZoneSync

/-! ### Texts -/

namespace Text

/-- The text is a numeral of that value with blanks around it. -/
def IsPadded (text : String) (n : Nat) : Prop :=
  ∃ before numeral after, text.toList = before ++ numeral ++ after ∧
    (∀ c ∈ before, isBlank c = true) ∧ (∀ c ∈ after, isBlank c = true) ∧ IsNumeral numeral n

/-- The text is a word for the position of a switch, in letters of either case. -/
def IsSwitchWord (text : String) (on : Bool) : Prop :=
  ∃ word ∈ if on then ["true", "yes", "1"] else ["false", "no", "0", ""],
    text.toList.map Char.toLower = word.toList

theorem IsNumeral.isSolid {text : List Char} {n : Nat} (hnumeral : IsNumeral text n) :
    text ≠ [] ∧ IsSolid text := by
  obtain ⟨digits, hdigits, hne, hall, -⟩ := hnumeral
  have hsolid : IsSolid digits := fun c hc => isBlank_of_isDigit (hall c hc)
  rcases hdigits with rfl | rfl
  · exact ⟨hne, hsolid⟩
  · refine ⟨List.cons_ne_nil _ _, fun c hc => ?_⟩
    rcases List.mem_cons.1 hc with rfl | hc
    · decide
    · exact hsolid c hc

theorem IsPadded.isNumeral_trim {text : String} {n : Nat} (hpadded : IsPadded text n) :
    IsNumeral (trim text.toList) n := by
  obtain ⟨before, numeral, after, htext, hbefore, hafter, hnumeral⟩ := hpadded
  obtain ⟨-, hsolid⟩ := hnumeral.isSolid
  rwa [htext, trim_padded (trim_eq_self hsolid) hbefore hafter]

end Text

/-! ### Values -/

namespace Json

/-- The forms in which a value that was sent may come back. -/
inductive ComesAs : Json → Json → Prop
  | same {value : Json} : ComesAs value value
  | numeral {n : Nat} {text : String} : Text.IsPadded text n → ComesAs (.int n) (.string text)
  | word {on : Bool} {text : String} : Text.IsSwitchWord text on → ComesAs (.bool on) (.string text)

/-- The forms of an identifier: a text, or a number with these digits. -/
inductive Identifies : String → Json → Prop
  | text {id : String} : Identifies id (.string id)
  | number (n : UInt64) : Identifies (toString n.toNat) (.nat n.toNat)

/-- The member by which a number of 64 bits is told, or that it is not known. -/
inductive MayTell (key : String) : Option UInt64 → List (String × Json) → Prop
  | absent : MayTell key none []
  | null : MayTell key none [(key, .null)]
  | blank {text : String} : (∀ c ∈ text.toList, Text.isBlank c = true) →
    MayTell key none [(key, .string text)]
  | number {n : UInt64} {value : Json} : (Json.nat n.toNat).ComesAs value →
    MayTell key (some n) [(key, value)]

/-- The member has the key of the one that was sent, and a form of its value. -/
def SameMember (HasForm : String → Json → Json → Prop) (sent returned : String × Json) : Prop :=
  returned.1 = sent.1 ∧ HasForm sent.1 sent.2 returned.2

end Json

namespace Decode

variable {value : Json}

theorem integerText_of_isPadded {text : String} {n : UInt64}
    (hpadded : Text.IsPadded text n.toNat) : integerText text = .ok n := by
  have hread : Text.numeral? UInt64.size (Text.trim text.toList) = some n.toNat :=
    Text.numeral?_eq_some_iff.2 ⟨hpadded.isNumeral_trim, n.toNat_lt_size⟩
  simp only [integerText, hread, UInt64.ofNat_toNat]

theorem optionalInteger_of_comesAs {n : UInt64} (hcomes : (Json.nat n.toNat).ComesAs value) :
    optionalInteger value = .ok (some n) := by
  cases hcomes with
  | same => exact congrArg (fun n => Except.ok (some n)) UInt64.ofNat_toNat
  | @numeral _ text hpadded =>
    have hne := hpadded.isNumeral_trim.isSolid.1
    rw [optionalInteger, if_neg (by simpa using hne), integerText_of_isPadded hpadded]
    rfl

theorem mayTell_cases {key : String} {n : Option UInt64} {extra : List (String × Json)}
    (htells : Json.MayTell key n extra) :
    n = none ∧ extra = [] ∨ ∃ value, extra = [(key, value)] ∧ optionalInteger value = .ok n := by
  cases htells with
  | absent => exact Or.inl ⟨rfl, rfl⟩
  | null => exact Or.inr ⟨_, rfl, rfl⟩
  | @blank text hblank =>
    refine Or.inr ⟨_, rfl, ?_⟩
    rw [optionalInteger, Text.trim_blanks hblank]
    rfl
  | number hcomes => exact Or.inr ⟨_, rfl, optionalInteger_of_comesAs hcomes⟩

end Decode

end ZoneSync
