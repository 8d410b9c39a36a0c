import ZoneSync.Delta
import ZoneSync.Proofs.Layout.Writing
import ZoneSync.Proofs.Text.Lines

/-!
# The lines of a listing

The listing of a change has two lines if the settings change, one line for every record to remove,
and one for every record to add. Neither a domain that a layout can declare nor a record holds a line
feed, so the lines can be counted in the text.
-/

namespace ZoneSync

open Text

/-- The text stays on its line. -/
def Text.IsFlat (text : String) : Prop :=
  '\n' ∉ text.toList

instance (text : String) : Decidable (IsFlat text) :=
  inferInstanceAs (Decidable ('\n' ∉ text.toList))

@[simp] theorem Text.isFlat_append_iff {s t : String} :
    IsFlat (s ++ t) ↔ IsFlat s ∧ IsFlat t := by
  rw [IsFlat, String.toList_append, List.mem_append, not_or]
  rfl

theorem Text.isFlat_of_isToken {text : String} (htoken : isToken text.toList = true) :
    IsFlat text :=
  (isToken_iff.1 htoken).2.2.2.2

theorem Text.isFlat_toString (n : Nat) : IsFlat (toString n) := by
  apply isFlat_of_isToken
  rw [Nat.toString_eq_repr, Nat.toList_repr]
  exact isToken_toDigits n

theorem Record.isFlat_display (record : Record) : IsFlat record.display := by
  have hname : IsFlat record.type.name := isFlat_of_isToken (isToken_name _)
  have hpadding : IsFlat (String.ofList (List.replicate (5 - record.type.name.length) ' ')) := by
    simp [IsFlat, List.mem_replicate]
  have hhostname : IsFlat record.hostname := isFlat_of_isToken (isToken_hostname _)
  have hdestination : IsFlat record.destination := isFlat_of_isToken (isToken_destination _)
  have hpriority : ∀ priority, IsFlat (" priority " ++ toString priority) := fun priority =>
    isFlat_append_iff.2 ⟨by decide, isFlat_toString priority⟩
  rw [display, isFlat_append_iff]
  constructor
  · simp only [isFlat_append_iff]
    exact ⟨⟨⟨⟨⟨hname, hpadding⟩, by decide⟩, hhostname⟩, by decide⟩, hdestination⟩
  · cases record.priority with
    | none => decide
    | some priority => exact hpriority priority.toNat

theorem Settings.isFlat_display (settings : Settings) : IsFlat settings.display := by
  rw [Settings.display]
  cases settings.dnssec <;> simp only [isFlat_append_iff, isFlat_toString] <;> decide

namespace Delta

theorem Ink.paint_ne_empty (ink : Ink) (colored : Bool) {line : String} (hline : line ≠ "") :
    ink.paint colored line ≠ "" := by
  cases colored with
  | false => exact hline
  | true =>
    have hcode : ∀ code, "\x1b[" ++ code ++ "m" ++ line ++ "\x1b[39m" ≠ "" := fun code hempty =>
      absurd (String.append_eq_empty_iff.1 hempty).2 (by decide)
    exact hcode _

variable {delta : Delta} {colored : Bool}

def settingsLines (delta : Delta) (colored : Bool) : List String :=
  match delta.settings with
  | none => []
  | some change =>
    [Ink.red.paint colored s!"-zone {delta.domain}: {change.old.display}",
      Ink.green.paint colored s!"+zone {delta.domain}: {change.new.display}"]

def removedLines (delta : Delta) (colored : Bool) : List String :=
  delta.removed.map fun record => Ink.red.paint colored s!"-{delta.domain} {record.display}"

def addedLines (delta : Delta) (colored : Bool) : List String :=
  delta.added.map fun record => Ink.green.paint colored s!"+{delta.domain} {record.display}"

def lines (delta : Delta) (colored : Bool) : List String :=
  delta.settingsLines colored ++ delta.removedLines colored ++ delta.addedLines colored

theorem diff_eq (delta : Delta) (colored : Bool) :
    delta.diff colored = "\n".intercalate (delta.lines colored) := by
  rw [diff, lines, settingsLines]
  cases delta.settings <;> rfl

/-- The domain stands in every line, between a sign and something that is flat. -/
theorem exists_of_mem_lines {line : String} (hline : line ∈ delta.lines colored) :
    ∃ (ink : Ink) (sign middle rest : String),
      line = ink.paint colored (sign ++ delta.domain ++ middle ++ rest) ∧
        sign ≠ "" ∧ IsFlat sign ∧ IsFlat middle ∧ IsFlat rest := by
  rcases List.mem_append.1 hline with hline | hline
  · rcases List.mem_append.1 hline with hline | hline
    · rw [settingsLines] at hline
      split at hline
      · exact absurd hline List.not_mem_nil
      · next change _ =>
        rcases List.mem_cons.1 hline with rfl | hline
        · exact ⟨.red, "-zone ", ": ", change.old.display, rfl, by decide, by decide, by decide,
            change.old.isFlat_display⟩
        · obtain rfl := List.mem_singleton.1 hline
          exact ⟨.green, "+zone ", ": ", change.new.display, rfl, by decide, by decide, by decide,
            change.new.isFlat_display⟩
    · obtain ⟨record, -, rfl⟩ := List.mem_map.1 hline
      exact ⟨.red, "-", " ", record.display, rfl, by decide, by decide, by decide,
        record.isFlat_display⟩
  · obtain ⟨record, -, rfl⟩ := List.mem_map.1 hline
    exact ⟨.green, "+", " ", record.display, rfl, by decide, by decide, by decide,
      record.isFlat_display⟩

theorem ne_empty_of_mem_lines {line : String} (hline : line ∈ delta.lines colored) : line ≠ "" := by
  obtain ⟨ink, sign, middle, rest, rfl, hsign, -⟩ := exists_of_mem_lines hline
  apply Ink.paint_ne_empty
  rw [String.append_assoc, String.append_assoc]
  exact fun hempty => hsign (String.append_eq_empty_iff.1 hempty).1

theorem lines_ne_nil (colored : Bool) (hchanged : delta.isNoop = false) :
    delta.lines colored ≠ [] := by
  intro hnone
  rw [lines, List.append_eq_nil_iff, List.append_eq_nil_iff] at hnone
  obtain ⟨⟨hsettings, hremoved⟩, hadded⟩ := hnone
  have hunchanged : delta.settings = none := by
    rw [settingsLines] at hsettings
    split at hsettings
    · assumption
    · exact absurd hsettings (List.cons_ne_nil _ _)
  rw [isNoop, hunchanged, List.map_eq_nil_iff.1 hremoved, List.map_eq_nil_iff.1 hadded]
    at hchanged
  exact absurd hchanged (by decide)

theorem diff_ne_empty (colored : Bool) (hchanged : delta.isNoop = false) :
    delta.diff colored ≠ "" := by
  rw [diff_eq]
  exact intercalate_ne_empty (fun _ => ne_empty_of_mem_lines) (lines_ne_nil colored hchanged)

end Delta

end ZoneSync
