import ZoneSync.Text.Basic

/-!
# Reading back lines and fields

Cutting a text at a separator undoes joining pieces that do not contain it. A text in which a line
feed ends every line has exactly those lines, as far as they hold no line feed and do not end with
the carriage return that reading drops.
-/

namespace ZoneSync.Text

theorem fields_eq_splitOn (separator : Char) (text : List Char) :
    fields separator text = text.splitOn separator := by
  induction text with
  | nil => rfl
  | cons c rest ih =>
    rw [fields, List.splitOn_cons_eq_if_modifyHead, ← ih]
    by_cases hc : c = separator
    · rw [if_pos hc, if_pos (beq_iff_eq.2 hc)]
    · rw [if_neg hc, if_neg (fun h => hc (beq_iff_eq.1 h))]
      cases hfields : fields separator rest with
      | nil => exact absurd hfields (fields_ne_nil separator rest)
      | cons field others => rfl

theorem fields_intercalate {separator : Char} {pieces : List (List Char)}
    (hpieces : ∀ piece ∈ pieces, separator ∉ piece) (hne : pieces ≠ []) :
    fields separator ([separator].intercalate pieces) = pieces := by
  rw [fields_eq_splitOn]
  exact List.splitOn_intercalate separator hpieces hne

theorem fields_append_cons {separator : Char} {field : List Char} (hfield : separator ∉ field)
    (rest : List Char) :
    fields separator (field ++ separator :: rest) = field :: fields separator rest := by
  rw [fields_eq_splitOn, fields_eq_splitOn]
  exact List.splitOn_append_cons_self_of_not_mem hfield rest

theorem fields_append_separator (separator : Char) (text rest : List Char) :
    fields separator (text ++ separator :: rest) = fields separator text ++ fields separator rest := by
  induction text with
  | nil => exact if_pos rfl
  | cons c text ih =>
    obtain ⟨field, others, hfields⟩ := List.exists_cons_of_ne_nil (fields_ne_nil separator text)
    rw [List.cons_append, fields, fields, ih, hfields]
    split <;> rfl

theorem intercalate_ne_empty {separator : String} {pieces : List String}
    (hpieces : ∀ piece ∈ pieces, piece ≠ "") (hne : pieces ≠ []) :
    separator.intercalate pieces ≠ "" := by
  obtain ⟨first, rest, rfl⟩ := List.exists_cons_of_ne_nil hne
  have hfirst : first ≠ "" := hpieces first List.mem_cons_self
  cases rest with
  | nil => rwa [String.intercalate_singleton]
  | cons next others =>
    rw [String.intercalate_cons_of_ne_nil (List.cons_ne_nil _ _), String.append_assoc]
    exact fun hempty => hfirst (String.append_eq_empty_iff.1 hempty).1

/-! ### Lines -/

/-- The text whose lines are all ended by a line feed. -/
def unlines (lines : List (List Char)) : List Char :=
  lines.flatMap (· ++ ['\n'])

theorem fields_unlines {lines : List (List Char)} (hlines : ∀ line ∈ lines, '\n' ∉ line) :
    fields '\n' (unlines lines) = lines ++ [[]] := by
  induction lines with
  | nil => rfl
  | cons line rest ih =>
    have hrest : ∀ other ∈ rest, '\n' ∉ other := fun other hother =>
      hlines other (List.mem_cons_of_mem _ hother)
    have hsplit : unlines (line :: rest) = line ++ '\n' :: unlines rest := by simp [unlines]
    rw [hsplit, fields_append_cons (hlines line List.mem_cons_self), ih hrest, List.cons_append]

/-- Lines that hold no line feed are determined by their text. -/
theorem unlines_injective {lines others : List (List Char)} (hlines : ∀ line ∈ lines, '\n' ∉ line)
    (hothers : ∀ line ∈ others, '\n' ∉ line) (heq : unlines lines = unlines others) :
    lines = others := by
  have hfields := fields_unlines hlines
  rw [heq, fields_unlines hothers] at hfields
  exact (List.append_cancel_right hfields).symm

/-- Every field that another one follows is a line. -/
theorem linesOfFields_append_nil (fields : List (List Char)) :
    linesOfFields (fields ++ [[]]) = fields.map dropReturn := by
  induction fields with
  | nil => rfl
  | cons field rest ih =>
    cases hrest : rest ++ [[]] with
    | nil => simp at hrest
    | cons next others =>
      rw [List.cons_append, hrest, linesOfFields, ← hrest, ih, List.map_cons]
      simp

theorem dropReturn_of_not_mem {text : List Char} (htext : '\r' ∉ text) :
    dropReturn text = text :=
  if_neg fun hlast => htext (List.mem_of_getLast? hlast)

theorem lines_unlines {lines : List (List Char)}
    (hlines : ∀ line ∈ lines, '\n' ∉ line ∧ '\r' ∉ line) :
    Text.lines (unlines lines) = lines := by
  rw [Text.lines, fields_unlines fun line hline => (hlines line hline).1, linesOfFields_append_nil]
  exact (List.map_congr_left fun line hline =>
    dropReturn_of_not_mem (hlines line hline).2).trans (List.map_id _)

end ZoneSync.Text
