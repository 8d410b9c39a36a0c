import Mathlib.Data.UInt
import ZoneSync.Text.Basic

/-!
# The order of texts and of their bytes

UTF-8 writes a character as its digits in base 64, the highest ones in the first byte and one more in
each byte that follows. Numbers are compared digit by digit, so characters of equally many bytes are
in the order of their bytes. A first byte also tells how many follow it: the more there are, the
greater it is, and so is the character. Hence the bytes of two characters differ before either of
them ends, and whole texts are in the order of their bytes as well.
-/

namespace ZoneSync.Text

open Std
open String (utf8EncodeChar utf8EncodeChar_ne_nil)

/-! ### Digits -/

theorem compare_add_left (k m n : Nat) : compare (k + m) (k + n) = compare m n := by
  rw [Nat.compare_eq_ite_lt, Nat.compare_eq_ite_lt]
  simp only [Nat.add_lt_add_iff_left]

/-- Numbers are compared by their quotients, and by their remainders where these are the same. -/
theorem compare_div_mod (m n base : Nat) :
    compare m n = (compare (m / base) (n / base)).then (compare (m % base) (n % base)) := by
  rcases Nat.lt_trichotomy (m / base) (n / base) with hlt | heq | hgt
  · rw [Nat.compare_eq_lt.2 hlt]
    exact Nat.compare_eq_lt.2 (Nat.lt_of_div_lt_div hlt)
  · rw [heq, Nat.compare_eq_eq.2 rfl, Ordering.eq_then]
    calc compare m n
        = compare (base * (m / base) + m % base) (base * (n / base) + n % base) := by
          rw [Nat.div_add_mod, Nat.div_add_mod]
      _ = compare (m % base) (n % base) := by rw [heq, compare_add_left]
  · rw [Nat.compare_eq_gt.2 hgt]
    exact Nat.compare_eq_gt.2 (Nat.lt_of_div_lt_div hgt)

theorem compare_byte_cons {m n : Nat} (hm : m < 256) (hn : n < 256) (xs ys : List UInt8) :
    compare (UInt8.ofNat m :: xs) (UInt8.ofNat n :: ys) =
      (compare m n).then (compare xs ys) := by
  rw [List.compare_cons_cons, UInt8.compare_eq_toNat_compare_toNat, UInt8.toNat_ofNat_of_lt' hm,
    UInt8.toNat_ofNat_of_lt' hn]

/-- The first byte holds the highest digits, above the mark of its kind. -/
theorem compare_lead {m n bound : Nat} (hm : m < bound) (hn : n < bound) {mark : Nat}
    (hmark : bound + mark ≤ 256) (xs ys : List UInt8) :
    compare (UInt8.ofNat (m % bound + mark) :: xs) (UInt8.ofNat (n % bound + mark) :: ys) =
      (compare m n).then (compare xs ys) := by
  rw [Nat.mod_eq_of_lt hm, Nat.mod_eq_of_lt hn, compare_byte_cons (by omega) (by omega),
    Nat.add_comm m, Nat.add_comm n, compare_add_left]

/-- Each byte after the first holds one more digit. -/
theorem compare_trail (m n : Nat) (xs ys : List UInt8) :
    (compare (m / 64) (n / 64)).then
        (compare (UInt8.ofNat (m % 64 + 128) :: xs) (UInt8.ofNat (n % 64 + 128) :: ys)) =
      (compare m n).then (compare xs ys) := by
  rw [compare_byte_cons (by omega) (by omega), Nat.add_comm (m % 64), Nat.add_comm (n % 64),
    compare_add_left, ← Ordering.then_assoc, ← compare_div_mod]

/-! ### Characters -/

/-- The bytes of a character by its code point: one to four of them. -/
inductive Encodes (code : Nat) : List UInt8 → Prop where
  | one (hmost : code < 128) : Encodes code [UInt8.ofNat code]
  | two (hleast : 128 ≤ code) (hmost : code < 2048) :
    Encodes code [UInt8.ofNat (code / 64 % 32 + 192), UInt8.ofNat (code % 64 + 128)]
  | three (hleast : 2048 ≤ code) (hmost : code < 65536) :
    Encodes code [UInt8.ofNat (code / 4096 % 16 + 224), UInt8.ofNat (code / 64 % 64 + 128),
      UInt8.ofNat (code % 64 + 128)]
  | four (hleast : 65536 ≤ code) (hmost : code < 2097152) :
    Encodes code [UInt8.ofNat (code / 262144 % 8 + 240), UInt8.ofNat (code / 4096 % 64 + 128),
      UInt8.ofNat (code / 64 % 64 + 128), UInt8.ofNat (code % 64 + 128)]

theorem encodes_utf8EncodeChar (c : Char) : Encodes c.toNat (utf8EncodeChar c) := by
  have hmost : c.val.toNat < 2097152 := by
    have hvalid := c.valid
    simp only [UInt32.isValidChar, Nat.isValidChar] at hvalid
    omega
  fun_cases utf8EncodeChar c with
  | case1 code hone => exact .one (Nat.lt_succ_of_le hone)
  | case2 code hone htwo => exact .two (Nat.lt_of_not_le hone) (Nat.lt_succ_of_le htwo)
  | case3 code _ htwo hthree => exact .three (Nat.lt_of_not_le htwo) (Nat.lt_succ_of_le hthree)
  | case4 code _ _ hthree => exact .four (Nat.lt_of_not_le hthree) hmost

namespace Encodes

variable {code other : Nat} {bytes others : List UInt8}

/-- A character of fewer bytes comes first, and its first byte alone tells so. -/
theorem compare_of_shorter (hbytes : Encodes code bytes) (hothers : Encodes other others)
    (hshorter : bytes.length < others.length) (xs ys : List UInt8) :
    compare (bytes ++ xs) (others ++ ys) = (compare code other).then (compare xs ys) := by
  have hcode : code < other := by
    cases hbytes <;> cases hothers <;> simp at hshorter <;> omega
  have hlead : compare (bytes ++ xs) (others ++ ys) = .lt := by
    cases hbytes <;> cases hothers <;> simp at hshorter <;>
      (simp only [List.cons_append]
       rw [compare_byte_cons (by omega) (by omega), Nat.compare_eq_lt.2 (by omega),
        Ordering.lt_then])
  rw [hlead, Nat.compare_eq_lt.2 hcode, Ordering.lt_then]

theorem compare_of_length_eq (hbytes : Encodes code bytes) (hothers : Encodes other others)
    (hlength : bytes.length = others.length) (xs ys : List UInt8) :
    compare (bytes ++ xs) (others ++ ys) = (compare code other).then (compare xs ys) := by
  -- Taking away one digit after the other leads to the digits in the first byte.
  have htwo : ∀ n, n / 4096 = n / 64 / 64 := fun n => by omega
  have hthree : ∀ n, n / 262144 = n / 4096 / 64 := fun n => by omega
  cases hbytes with
  | one hmost =>
    cases hothers with
    | one hmost => exact compare_byte_cons (by omega) (by omega) xs ys
    | _ => exact absurd hlength (by simp)
  | two _ hmost =>
    cases hothers with
    | two _ hmost =>
      simp only [List.cons_append, List.nil_append]
      rw [compare_lead (by omega) (by omega) (by decide), compare_trail]
    | _ => exact absurd hlength (by simp)
  | three _ hmost =>
    cases hothers with
    | three _ hmost =>
      simp only [List.cons_append, List.nil_append]
      rw [compare_lead (by omega) (by omega) (by decide), htwo, htwo, compare_trail,
        compare_trail]
    | _ => exact absurd hlength (by simp)
  | four _ hmost =>
    cases hothers with
    | four _ hmost =>
      simp only [List.cons_append, List.nil_append]
      rw [compare_lead (by omega) (by omega) (by decide), hthree, hthree, compare_trail, htwo,
        htwo, compare_trail, compare_trail]
    | _ => exact absurd hlength (by simp)

/-- Two characters are compared by their bytes, whatever follows them. -/
theorem compare_append (hbytes : Encodes code bytes) (hothers : Encodes other others)
    (xs ys : List UInt8) :
    compare (bytes ++ xs) (others ++ ys) = (compare code other).then (compare xs ys) := by
  rcases Nat.lt_trichotomy bytes.length others.length with hshorter | hlength | hlonger
  · exact hbytes.compare_of_shorter hothers hshorter xs ys
  · exact hbytes.compare_of_length_eq hothers hlength xs ys
  · rw [OrientedOrd.eq_swap (a := bytes ++ xs), hothers.compare_of_shorter hbytes hlonger ys xs,
      Ordering.swap_then, ← OrientedOrd.eq_swap, ← OrientedOrd.eq_swap]

end Encodes

/-! ### Texts -/

/-- The bytes of a text in UTF-8. -/
def bytes (text : String) : List UInt8 :=
  text.toUTF8.data.toList

theorem bytes_eq_flatMap (text : String) : bytes text = text.toList.flatMap utf8EncodeChar := by
  rw [bytes, String.toUTF8_eq_toByteArray, ← String.utf8Encode_toList, List.utf8Encode,
    List.toList_data_toByteArray]

theorem compareChars_eq_compare_flatMap (s t : List Char) :
    compareChars s t = compare (s.flatMap utf8EncodeChar) (t.flatMap utf8EncodeChar) := by
  induction s generalizing t with
  | nil =>
    cases t with
    | nil => rfl
    | cons d t =>
      obtain ⟨first, rest, hd⟩ := List.exists_cons_of_ne_nil (utf8EncodeChar_ne_nil (c := d))
      rw [List.flatMap_nil, List.flatMap_cons, hd, List.cons_append, List.compare_nil_cons]
      rfl
  | cons c s ih =>
    cases t with
    | nil =>
      obtain ⟨first, rest, hc⟩ := List.exists_cons_of_ne_nil (utf8EncodeChar_ne_nil (c := c))
      rw [List.flatMap_nil, List.flatMap_cons, hc, List.cons_append, List.compare_cons_nil]
      rfl
    | cons d t =>
      rw [compareChars, ih, List.flatMap_cons, List.flatMap_cons,
        (encodes_utf8EncodeChar c).compare_append (encodes_utf8EncodeChar d)]

/-- Texts are compared as the rows of their bytes. -/
theorem compareTexts_eq_compare_bytes (s t : String) :
    compareTexts s t = compare (bytes s) (bytes t) := by
  rw [compareTexts, compareChars_eq_compare_flatMap, bytes_eq_flatMap, bytes_eq_flatMap]

end ZoneSync.Text
