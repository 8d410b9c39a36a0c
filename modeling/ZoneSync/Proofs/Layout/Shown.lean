import ZoneSync.Command.Report
import ZoneSync.Proofs.Layout.RoundTrip
import ZoneSync.Proofs.Text.Words
import ZoneSync.View

/-!
# Showing layout text

What is shown is trimmed at its end and then ended by a line feed. The last line of a layout text is
not blank at its end, so nothing but its line feed is trimmed, and what is shown is the layout text.
-/

namespace ZoneSync

namespace Text

/-- The text has a last character, and that is not blank. -/
structure EndsSolid (text : List Char) : Prop where
  nonempty : text ≠ []
  trimmed : trimEnd text = text

theorem EndsSolid.append {text : List Char} (hends : EndsSolid text) (before : List Char) :
    EndsSolid (before ++ text) := by
  refine ⟨List.append_ne_nil_of_right_ne_nil _ hends.nonempty, ?_⟩
  have hlast := hends.trimmed
  rw [trimEnd_eq_rdropWhile, List.rdropWhile_eq_self_iff] at hlast ⊢
  intro hne
  rw [List.getLast_append_of_right_ne_nil _ _ hends.nonempty]
  exact hlast hends.nonempty

theorem endsSolid_of_isToken {text : List Char} (htoken : isToken text = true) :
    EndsSolid text := by
  obtain ⟨hne, htrim, -⟩ := isToken_iff.1 htoken
  refine ⟨hne, ?_⟩
  rw [← htrim]
  exact List.rdropWhile_idempotent isBlank (trimStart text)

theorem unlines_append_singleton (lines : List (List Char)) (last : List Char) :
    unlines (lines ++ [last]) = unlines lines ++ last ++ ['\n'] := by
  simp [unlines]

/-- Of lines of which the last one is solid at its end only the last line feed is trimmed. -/
theorem trimEnd_unlines (lines : List (List Char)) {last : List Char} (hends : EndsSolid last) :
    trimEnd (unlines (lines ++ [last])) = unlines lines ++ last := by
  have htrim : trimEnd (unlines lines ++ last ++ ['\n']) = trimEnd (unlines lines ++ last) :=
    List.rdropWhile_concat_pos isBlank _ '\n' (by decide)
  rw [unlines_append_singleton, htrim, (hends.append _).trimmed]

end Text

namespace Layout

open Text

variable {zone : Zone} {zones : List Zone} {sorted : Bool}

theorem endsSolid_intercalate {pieces : List (List Char)}
    (hpieces : ∀ piece ∈ pieces, isToken piece = true) (hne : pieces ≠ []) :
    EndsSolid (['\t'].intercalate pieces) := by
  induction pieces with
  | nil => exact absurd rfl hne
  | cons piece others ih =>
    cases others with
    | nil =>
      rw [List.intercalate_singleton]
      exact endsSolid_of_isToken (hpieces piece List.mem_cons_self)
    | cons next others =>
      rw [List.intercalate_cons_cons]
      exact (ih (fun piece hpiece => hpieces piece (List.mem_cons_of_mem _ hpiece))
        (List.cons_ne_nil _ _)).append _

theorem endsSolid_written {indent : Nat} {pieces : List (List Char)}
    (hpieces : ∀ piece ∈ pieces, isToken piece = true) (hne : pieces ≠ []) :
    EndsSolid (Line.written indent pieces) :=
  (endsSolid_intercalate hpieces hne).append _

theorem endsSolid_layoutLine (hprintable : zone.IsPrintable) {line : List Char}
    (hline : line ∈ (zone.layoutLines sorted).map String.toList) : EndsSolid line := by
  rw [Zone.layoutLines, List.cons_append, List.map_cons, List.map_append, List.map_map,
    List.map_map, List.mem_cons, List.mem_append, List.mem_map, List.mem_map] at hline
  rcases hline with rfl | ⟨setting, -, rfl⟩ | ⟨record, -, rfl⟩
  · exact endsSolid_of_isToken hprintable.isToken_domain
  · rw [Function.comp_apply, Settings.toList_layoutLine]
    exact endsSolid_written (zone.settings.isToken_of_mem_pieces setting) (List.cons_ne_nil _ _)
  · rw [Function.comp_apply, Record.toList_layoutLine]
    exact endsSolid_written record.isToken_of_mem_pieces (List.cons_ne_nil _ _)

theorem exists_last_layoutLine (hprintable : zone.IsPrintable) :
    ∃ lines last, (zone.layoutLines sorted).map String.toList = lines ++ [last] ∧
      EndsSolid last := by
  have hne : (zone.layoutLines sorted).map String.toList ≠ [] := by simp [Zone.layoutLines]
  refine ⟨_, _, (List.dropLast_append_getLast hne).symm, ?_⟩
  exact endsSolid_layoutLine hprintable (List.getLast_mem hne)

theorem exists_last_line (hprintable : ∀ zone ∈ zones, zone.IsPrintable) (hne : zones ≠ []) :
    ∃ lines last, linesOfZones sorted zones = lines ++ [last] ∧ EndsSolid last := by
  induction zones with
  | nil => exact absurd rfl hne
  | cons zone rest ih =>
    cases rest with
    | nil =>
      rw [linesOfZones_singleton]
      exact exists_last_layoutLine (hprintable zone List.mem_cons_self)
    | cons other zones =>
      obtain ⟨lines, last, hlines, hends⟩ :=
        ih (fun zone hzone => hprintable zone (List.mem_cons_of_mem _ hzone))
          (List.cons_ne_nil _ _)
      rw [linesOfZones_cons_cons, hlines, ← List.cons_append, ← List.append_assoc]
      exact ⟨_, last, rfl, hends⟩

/-- Layout text is shown as it is. -/
theorem emit_shown {layout : Layout} (hprintable : layout.IsPrintable) :
    Command.emit false (layout.shown .layout sorted) = layout.render sorted := by
  have hshown : (layout.shown .layout sorted).toList = trimEnd (layout.render sorted).toList :=
    String.toList_ofList
  rw [toList_render] at hshown
  by_cases hempty : layout.zones = []
  · have hnothing : layout.shown .layout sorted = "" := by
      rw [hempty] at hshown
      exact String.toList_inj.1 hshown
    rw [hnothing, Layout.render, hempty]
    rfl
  · obtain ⟨lines, last, hlines, hends⟩ := @exists_last_line layout.zones sorted hprintable hempty
    rw [hlines, trimEnd_unlines lines hends] at hshown
    have hnonempty : (layout.shown .layout sorted).isEmpty = false := by
      rw [String.isEmpty_eq_false_iff, ne_eq, ← String.toList_eq_nil_iff, hshown]
      exact List.append_ne_nil_of_right_ne_nil _ hends.nonempty
    rw [Command.emit, hnonempty, ← String.toList_inj, toList_render, hlines,
      unlines_append_singleton, ← hshown]
    exact String.toList_append

end Layout

/-! ### Something to be seen -/

theorem Text.mem_intercalate {separator text : String} {texts : List String} {c : Char}
    (hmem : text ∈ texts) (hc : c ∈ text.toList) : c ∈ (separator.intercalate texts).toList := by
  rw [String.toList_intercalate]
  induction texts with
  | nil => exact absurd hmem List.not_mem_nil
  | cons first rest ih =>
    cases rest with
    | nil => simpa [List.mem_singleton.1 hmem] using hc
    | cons second others =>
      rw [List.map_cons, List.map_cons, List.intercalate_cons_cons, List.mem_append, List.mem_append]
      rcases List.mem_cons.1 hmem with rfl | hrest
      · exact Or.inl (Or.inl hc)
      · exact Or.inr (ih hrest)

theorem Json.pretty_object_ne_empty (members : List (String × Json)) :
    (Json.object members).pretty ≠ "" := by
  rw [Json.pretty, Json.prettyAt, Json.spread]
  split <;> simp

theorem Yaml.document_object_ne_empty (members : List (String × Json)) :
    Yaml.document (.object members) ≠ "" := by
  cases members with
  | nil => decide +kernel
  | cons member rest =>
    obtain ⟨key, value⟩ := member
    obtain ⟨text, htext, hne⟩ : ∃ text ∈ Yaml.blockMembers 0 ((key, value) :: rest), text ≠ "" := by
      unfold Yaml.blockMembers
      refine ⟨_, List.mem_cons_self, ?_⟩
      split <;> simp
    obtain ⟨c, hc⟩ := List.exists_mem_of_ne_nil _ fun hnil => hne (String.toList_eq_nil_iff.1 hnil)
    intro hempty
    have hmem : c ∈ (Yaml.document (.object ((key, value) :: rest))).toList :=
      Text.mem_intercalate htext hc
    rw [hempty] at hmem
    exact absurd hmem List.not_mem_nil

/-- Whether there is something to be seen of the zones: structured data always are, and of layout
text it is enough that one of the zones has a name that is not blank. -/
def Format.HasSight (format : Format) (zones : List Zone) : Prop :=
  format ≠ .layout ∨ ∃ zone ∈ zones, ∃ c ∈ zone.domain.toList, Text.isBlank c = false

theorem Layout.shown_ne_empty {layout : Layout} {format : Format}
    (hsight : format.HasSight layout.zones) (sorted : Bool) : layout.shown format sorted ≠ "" := by
  cases format with
  | layout =>
    obtain ⟨zone, hzone, c, hc, hsolid⟩ := hsight.resolve_left fun hne => hne rfl
    have hrender : c ∈ (layout.render sorted).toList := by
      refine Text.mem_intercalate (List.mem_map_of_mem hzone) ?_
      rw [Layout.toList_render_zone, Text.unlines, Zone.layoutLines]
      simp [hc]
    intro hempty
    have htrimmed : Text.trimEnd (layout.render sorted).toList = [] := by
      rw [Layout.shown, Format.structured] at hempty
      exact String.ofList_eq_empty_iff.1 hempty
    rw [Text.trimEnd_eq_rdropWhile, List.rdropWhile_eq_nil_iff] at htrimmed
    exact absurd (htrimmed c hrender) (by simp [hsolid])
  | json => exact Json.pretty_object_ne_empty _
  | yaml => exact Yaml.document_object_ne_empty _

end ZoneSync
