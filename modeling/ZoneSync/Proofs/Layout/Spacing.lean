import ZoneSync.Proofs.Layout.Line
import ZoneSync.Proofs.Text.Words

/-!
# Space in a line

The pieces of a line are what stands between its tabs, trimmed, as far as anything is left. A blank
next to a tab or at an end of the line belongs to none of them, so a line can be cut there, and its
pieces are those of the two parts. The pieces are the tokens, and beside them only the indent counts,
if there are any. So lines that differ in such blanks are read alike, as far as they begin with the
same tabs.
-/

namespace ZoneSync.Layout

open Text

variable {line other text before after space : List Char}

/-- All characters are blank; tabs are. -/
def IsSpace (text : List Char) : Prop :=
  ∀ c ∈ text, isBlank c = true

instance (text : List Char) : Decidable (IsSpace text) :=
  decidable_of_iff (text.all isBlank = true) List.all_eq_true

/-- The trimmed texts between the tabs, as far as anything is left of them. -/
def pieces (text : List Char) : List (List Char) :=
  ((fields '\t' text).map trim).filter fun piece => !piece.isEmpty

/-! ### Pieces of a line in two parts -/

theorem pieces_append_tab (before after : List Char) :
    pieces (before ++ '\t' :: after) = pieces before ++ pieces after := by
  rw [pieces, fields_append_separator, List.map_append, List.filter_append, ← pieces, ← pieces]

theorem pieces_cons_of_isBlank {c : Char} (hblank : isBlank c = true) (text : List Char) :
    pieces (c :: text) = pieces text := by
  by_cases htab : c = '\t'
  · rw [htab]
    exact pieces_append_tab [] text
  · obtain ⟨field, others, hfields⟩ := List.exists_cons_of_ne_nil (fields_ne_nil '\t' text)
    rw [pieces, pieces, fields, if_neg htab, hfields]
    simp only [List.map_cons, trim_cons_of_isBlank hblank]

theorem pieces_space_append (hspace : IsSpace space) (text : List Char) :
    pieces (space ++ text) = pieces text := by
  induction space with
  | nil => rfl
  | cons c rest ih =>
    obtain ⟨hblank, hrest⟩ := List.forall_mem_cons.1 hspace
    rw [List.cons_append, pieces_cons_of_isBlank hblank, ih hrest]

theorem pieces_of_isSpace (hspace : IsSpace space) : pieces space = [] := by
  rw [← List.append_nil space, pieces_space_append hspace]
  rfl

theorem pieces_of_not_mem (htab : '\t' ∉ text) :
    pieces text = [trim text].filter fun piece => !piece.isEmpty := by
  have hfields : fields '\t' text = [text] := by
    simpa using fields_intercalate (List.forall_mem_singleton.2 htab) (List.cons_ne_nil text [])
  rw [pieces, hfields, List.map_singleton]

theorem pieces_append_space_of_not_mem (htext : '\t' ∉ text) (hspace : IsSpace space) :
    pieces (text ++ space) = pieces text := by
  have hplain : ∀ first : List Char, '\t' ∉ first → IsSpace first →
      pieces (text ++ first) = pieces text := by
    intro first hfirst hblank
    rw [pieces_of_not_mem (by simp [htext, hfirst]), trim_append_blanks text hblank,
      pieces_of_not_mem htext]
  by_cases htab : '\t' ∈ space
  · obtain ⟨first, rest, rfl, hfirst⟩ := List.eq_append_cons_of_mem htab
    obtain ⟨hblank, hrest⟩ := List.forall_mem_append.1 hspace
    rw [← List.append_assoc, pieces_append_tab, hplain first hfirst hblank,
      pieces_of_isSpace (List.forall_mem_cons.1 hrest).2, List.append_nil]
  · exact hplain space htab hspace

/-- The induction goes from tab to tab; only what follows the last one meets the space. -/
theorem pieces_append_space (text : List Char) (hspace : IsSpace space) :
    pieces (text ++ space) = pieces text := by
  induction hlength : text.length using Nat.strong_induction_on generalizing text with
  | h length ih =>
    by_cases htext : '\t' ∈ text
    · obtain ⟨field, rest, rfl, -⟩ := List.eq_append_cons_of_mem htext
      have hshort : rest.length < length := by
        rw [← hlength, List.length_append, List.length_cons]
        omega
      rw [List.append_assoc, List.cons_append, pieces_append_tab, pieces_append_tab,
        ih rest.length hshort rest rfl]
    · exact pieces_append_space_of_not_mem htext hspace

/-- What may stand before a piece: nothing but blanks since the last tab. -/
def Opens (before : List Char) : Prop :=
  IsSpace before ∨ ∃ lead space, before = lead ++ '\t' :: space ∧ IsSpace space

/-- What may stand after a piece: nothing but blanks up to the next tab. -/
def Closes (after : List Char) : Prop :=
  IsSpace after ∨ ∃ space rest, after = space ++ '\t' :: rest ∧ IsSpace space

theorem Opens.pieces_append (hopens : Opens before) (text : List Char) :
    pieces (before ++ text) = pieces before ++ pieces text := by
  rcases hopens with hspace | ⟨lead, space, rfl, hspace⟩
  · rw [pieces_space_append hspace, pieces_of_isSpace hspace, List.nil_append]
  · rw [List.append_assoc, List.cons_append, pieces_append_tab, pieces_append_tab,
      pieces_space_append hspace, pieces_of_isSpace hspace, List.append_nil]

theorem Closes.pieces_append (hcloses : Closes after) (text : List Char) :
    pieces (text ++ after) = pieces text ++ pieces after := by
  rcases hcloses with hspace | ⟨space, rest, rfl, hspace⟩
  · rw [pieces_append_space text hspace, pieces_of_isSpace hspace, List.append_nil]
  · rw [← List.append_assoc, pieces_append_tab, pieces_append_tab, pieces_append_space text hspace,
      pieces_of_isSpace hspace, List.nil_append]

/-! ### Lines that are read alike -/

theorem Line.tokens_eq (line : Line) : line.tokens = (pieces line.content).map String.ofList := by
  have hdrop : ∀ text : List Char, pieces (text.dropWhile isTab) = pieces text := by
    intro text
    induction text with
    | nil => rfl
    | cons c rest ih =>
      cases htab : isTab c with
      | false => rw [List.dropWhile_cons_of_neg (by simp [htab])]
      | true =>
        have heq : c = '\t' := by simpa [isTab] using htab
        rw [List.dropWhile_cons_of_pos htab, ih, heq, pieces_cons_of_isBlank (by decide)]
  rw [← hdrop line.content]
  rfl

/-- The lines have the same pieces, and the same indent unless they have none. -/
structure ReadAlike (line other : List Char) : Prop where
  pieces : pieces line = pieces other
  indent : Layout.pieces line ≠ [] → (Line.mk 0 line).indent = (Line.mk 0 other).indent

theorem ReadAlike.symm (halike : ReadAlike line other) : ReadAlike other line :=
  ⟨halike.pieces.symm, fun hpieces => (halike.indent (halike.pieces ▸ hpieces)).symm⟩

theorem ReadAlike.trans {last : List Char} (hfirst : ReadAlike line other)
    (hsecond : ReadAlike other last) : ReadAlike line last :=
  ⟨hfirst.pieces.trans hsecond.pieces, fun hpieces =>
    (hfirst.indent hpieces).trans (hsecond.indent (hfirst.pieces ▸ hpieces))⟩

theorem ReadAlike.shape?_eq (halike : ReadAlike line other) (number : Nat) :
    (Line.mk number line).shape? = (Line.mk 0 other).shape? := by
  have htokens : (Line.mk number line).tokens = (Line.mk 0 other).tokens := by
    rw [Line.tokens_eq, Line.tokens_eq, halike.pieces]
  have hcomment : (Line.mk number line).isComment = (Line.mk 0 other).isComment := by
    rw [Line.isComment_eq, Line.isComment_eq, htokens]
  rw [Line.shape?, Line.shape?, hcomment, htokens]
  by_cases hpieces : Layout.pieces line = []
  · have hnone : (Line.mk 0 other).tokens.isEmpty = true := by
      rw [Line.tokens_eq, ← halike.pieces, hpieces]
      rfl
    rw [hnone, Bool.or_true, if_pos rfl, if_pos rfl]
  · have hindent : (Line.mk number line).indent = (Line.mk 0 other).indent := halike.indent hpieces
    rw [hindent]

/-- The first character that is no tab ends the indent, whatever follows it. -/
theorem indent_append_cons {c d : Char} (hc : Line.isTab c = false) (hd : Line.isTab d = false)
    (before rest others : List Char) :
    (Line.mk 0 (before ++ c :: rest)).indent = (Line.mk 0 (before ++ d :: others)).indent := by
  have htabs : (before ++ c :: rest).takeWhile Line.isTab =
      (before ++ d :: others).takeWhile Line.isTab := by
    induction before with
    | nil =>
      rw [List.nil_append, List.nil_append,
        List.takeWhile_cons_of_neg (by simp [hc]), List.takeWhile_cons_of_neg (by simp [hd])]
    | cons first before ih => simp only [List.cons_append, List.takeWhile_cons, ih]
  exact congrArg List.length htabs

theorem readAlike_append_space (line : List Char) (hspace : IsSpace space) :
    ReadAlike line (line ++ space) where
  pieces := (pieces_append_space line hspace).symm
  indent hpieces := by
    have hsolid : ¬IsSpace line := fun hline => hpieces (pieces_of_isSpace hline)
    simp only [IsSpace, not_forall, Bool.not_eq_true] at hsolid
    obtain ⟨c, hc, hblank⟩ := hsolid
    obtain ⟨before, rest, rfl⟩ := List.append_of_mem hc
    have htab := Line.isTab_of_isBlank hblank
    rw [List.append_assoc, List.cons_append]
    exact indent_append_cons htab htab before rest _

end ZoneSync.Layout
