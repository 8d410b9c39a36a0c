import ZoneSync.Layout.Line
import ZoneSync.Proofs.Text.Lines
import ZoneSync.Proofs.Text.Token

/-!
# Written lines

A line written as some tabs and then tokens between tabs is read with just that indent and just
those tokens, and it is a comment only if its first token begins with the mark of comments.
-/

namespace ZoneSync.Layout.Line

open Text

/-- The characters of a line with the given indent and tokens. -/
def written (indent : Nat) (pieces : List (List Char)) : List Char :=
  List.replicate indent '\t' ++ ['\t'].intercalate pieces

variable {number indent : Nat} {pieces : List (List Char)}

/-- What follows the tabs of the indent begins with the first character of the first token. -/
theorem exists_head_intercalate (hpieces : ∀ piece ∈ pieces, isToken piece = true)
    (hne : pieces ≠ []) :
    ∃ c rest, ['\t'].intercalate pieces = c :: rest ∧ isBlank c = false ∧
      pieces.head?.bind List.head? = some c := by
  cases pieces with
  | nil => exact absurd rfl hne
  | cons piece others =>
    obtain ⟨c, rest, hpiece, hblank⟩ := exists_head_of_isToken (hpieces _ List.mem_cons_self)
    subst hpiece
    cases others with
    | nil => exact ⟨c, rest, by simp, hblank, rfl⟩
    | cons next others =>
      exact ⟨c, _, by rw [List.intercalate_cons_cons]; rfl, hblank, rfl⟩

theorem isTab_of_isBlank {c : Char} (hblank : isBlank c = false) : isTab c = false := by
  cases htab : isTab c with
  | false => rfl
  | true =>
    have heq : c = '\t' := by simpa [isTab] using htab
    rw [heq] at hblank
    exact absurd hblank (by decide)

theorem indent_written (hpieces : ∀ piece ∈ pieces, isToken piece = true) (hne : pieces ≠ []) :
    (Line.mk number (written indent pieces)).indent = indent := by
  obtain ⟨c, rest, heq, hblank, -⟩ := exists_head_intercalate hpieces hne
  have htabs : ∀ c ∈ List.replicate indent '\t', isTab c = true := fun c hc => by
    rw [List.eq_of_mem_replicate hc]
    decide
  rw [Line.indent, written, List.takeWhile_append_of_pos htabs, heq,
    List.takeWhile_cons_of_neg (by simp [isTab_of_isBlank hblank]), List.append_nil,
    List.length_replicate]

theorem dropWhile_written (hpieces : ∀ piece ∈ pieces, isToken piece = true) (hne : pieces ≠ []) :
    (written indent pieces).dropWhile isTab = ['\t'].intercalate pieces := by
  obtain ⟨c, rest, heq, hblank, -⟩ := exists_head_intercalate hpieces hne
  have htabs : ∀ c ∈ List.replicate indent '\t', isTab c = true := fun c hc => by
    rw [List.eq_of_mem_replicate hc]
    decide
  rw [written, List.dropWhile_append_of_pos htabs, heq,
    List.dropWhile_cons_of_neg (by simp [isTab_of_isBlank hblank])]

theorem tokens_written (hpieces : ∀ piece ∈ pieces, isToken piece = true) (hne : pieces ≠ []) :
    (Line.mk number (written indent pieces)).tokens = pieces.map String.ofList := by
  have htabs : ∀ piece ∈ pieces, '\t' ∉ piece := fun piece hpiece =>
    (isToken_iff.1 (hpieces piece hpiece)).2.2.1
  have htrim : pieces.map trim = pieces :=
    (List.map_congr_left fun piece hpiece =>
      (isToken_iff.1 (hpieces piece hpiece)).2.1).trans (List.map_id _)
  have hkept : pieces.filter (fun piece => !piece.isEmpty) = pieces :=
    List.filter_eq_self.2 fun piece hpiece => by
      simpa using (isToken_iff.1 (hpieces piece hpiece)).1
  rw [Line.tokens, dropWhile_written hpieces hne, fields_intercalate htabs hne, htrim, hkept]

theorem isComment_written (hpieces : ∀ piece ∈ pieces, isToken piece = true) (hne : pieces ≠ []) :
    (Line.mk number (written indent pieces)).isComment =
      (pieces.head?.bind List.head? == some '#') := by
  obtain ⟨c, rest, heq, hblank, hhead⟩ := exists_head_intercalate hpieces hne
  have hblanks : ∀ c ∈ List.replicate indent '\t', isBlank c = true := fun c hc => by
    rw [List.eq_of_mem_replicate hc]
    decide
  rw [Line.isComment, written, trimStart, List.dropWhile_append_of_pos hblanks, heq,
    List.dropWhile_cons_of_neg (by simp [hblank]), List.head?_cons, hhead]

/-- Nothing in a written line ends it early. -/
theorem not_mem_written {c : Char} (htab : c ≠ '\t') (hpieces : ∀ piece ∈ pieces, c ∉ piece) :
    c ∉ written indent pieces := by
  rw [written, List.mem_append, not_or]
  refine ⟨fun hc => htab (List.eq_of_mem_replicate hc), ?_⟩
  induction pieces with
  | nil => simp
  | cons piece others ih =>
    have hpiece : c ∉ piece := hpieces piece List.mem_cons_self
    have hothers := ih fun other hother => hpieces other (List.mem_cons_of_mem _ hother)
    cases others with
    | nil => simpa using hpiece
    | cons next others =>
      rw [List.intercalate_cons_cons, List.mem_append, List.mem_append, List.mem_singleton]
      rintro ((hc | hc) | hc)
      · exact hpiece hc
      · exact htab hc
      · exact hothers hc

theorem not_mem_written_of_isToken (hpieces : ∀ piece ∈ pieces, isToken piece = true) :
    '\n' ∉ written indent pieces ∧ '\r' ∉ written indent pieces := by
  have htoken := fun piece hpiece => (isToken_iff.1 (hpieces piece hpiece)).2.2.2
  exact ⟨not_mem_written (by decide) fun piece hpiece => (htoken piece hpiece).2,
    not_mem_written (by decide) fun piece hpiece => (htoken piece hpiece).1⟩

/-! ### Shapes of written lines -/

/-- Outside of the comments, the indent and the tokens decide about the shape. -/
theorem shape?_written (hpieces : ∀ piece ∈ pieces, isToken piece = true) (hne : pieces ≠ [])
    (hcomment : pieces.head?.bind List.head? ≠ some '#') :
    (Line.mk number (written indent pieces)).shape? =
      match indent with
      | 0 => topShape? (pieces.map String.ofList)
      | 1 => bodyShape? (pieces.map String.ofList)
      | _ => none := by
  have htokens : (pieces.map String.ofList).isEmpty = false := by simpa using hne
  rw [Line.shape?, isComment_written hpieces hne, tokens_written hpieces hne,
    indent_written hpieces hne, htokens, beq_eq_false_iff_ne.2 hcomment]
  rfl

theorem shape?_empty : (Line.mk number []).shape? = some .nothing := rfl

/-- The number of a line has no part in its shape. -/
theorem shape?_mk (content : List Char) :
    (Line.mk number content).shape? = (Line.mk 0 content).shape? := rfl

/-- The shapes of a text whose lines are all ended by a line feed. -/
theorem map_shape?_ofText {text : String} {lines : List (List Char)}
    (htext : text.toList = unlines lines) (hlines : ∀ line ∈ lines, '\n' ∉ line ∧ '\r' ∉ line) :
    (ofText text).map Line.shape? = lines.map fun content => (Line.mk 0 content).shape? := by
  have hshapes : ∀ start, ((lines.zipIdx start).map fun line =>
      (Line.mk line.2 (dropReturn line.1)).shape?) =
        lines.map fun content => (Line.mk 0 content).shape? := by
    clear htext
    induction lines with
    | nil => exact fun _ => rfl
    | cons content rest ih =>
      intro start
      have hcontent := dropReturn_of_not_mem (hlines content List.mem_cons_self).2
      have hrest := ih (fun line hline => hlines line (List.mem_cons_of_mem _ hline)) (start + 1)
      rw [List.zipIdx_cons, List.map_cons, List.map_cons, hrest]
      simp only [hcontent, shape?_mk]
  rw [ofText, htext, lines_unlines hlines, List.map_map]
  exact hshapes 1

/-! ### The first token -/

theorem trimEnd_cons {c : Char} (hblank : isBlank c = false) (rest : List Char) :
    trimEnd (c :: rest) = c :: trimEnd rest := by
  rw [trimEnd, List.reverse_cons, List.dropWhile_append]
  split
  · next hnone =>
    rw [List.isEmpty_iff] at hnone
    rw [List.dropWhile_cons_of_neg (by simp [hblank]), trimEnd, hnone]
    rfl
  · rw [List.reverse_append, trimEnd]
    rfl

/-- The first token begins with the first character that is not blank. -/
theorem head?_pieces (text : List Char) :
    ((((fields '\t' text).map trim).filter fun piece => !piece.isEmpty).head?).bind List.head? =
      (trimStart text).head? := by
  induction text with
  | nil => rfl
  | cons c rest ih =>
    obtain ⟨field, others, hfields⟩ := List.exists_cons_of_ne_nil (fields_ne_nil '\t' rest)
    rw [fields]
    by_cases htab : c = '\t'
    · have hblank : isBlank c = true := by rw [htab]; decide
      rw [if_pos htab, trimStart, List.dropWhile_cons_of_pos hblank, ← trimStart, ← ih]
      rfl
    · rw [if_neg htab, hfields]
      rw [hfields] at ih
      cases hblank : isBlank c with
      | true =>
        rw [trimStart, List.dropWhile_cons_of_pos hblank, ← trimStart, ← ih]
        simp only [List.map_cons, trim_cons_of_isBlank hblank]
      | false =>
        have hkept : trimStart (c :: field) = c :: field :=
          List.dropWhile_cons_of_neg (by simp [hblank])
        have htrim : trim (c :: field) = c :: trimEnd field := by
          rw [trim, hkept, trimEnd_cons hblank]
        rw [trimStart, List.dropWhile_cons_of_neg (by simp [hblank]), List.map_cons, htrim,
          List.filter_cons_of_pos (by rfl)]
        rfl

theorem trimStart_dropWhile_isTab (text : List Char) :
    trimStart (text.dropWhile isTab) = trimStart text := by
  induction text with
  | nil => rfl
  | cons c rest ih =>
    cases htab : isTab c with
    | false => rw [List.dropWhile_cons_of_neg (by simp [htab])]
    | true =>
      have hblank : isBlank c = true := by
        rw [show c = '\t' by simpa [isTab] using htab]
        decide
      rw [List.dropWhile_cons_of_pos htab, ih, trimStart, trimStart,
        List.dropWhile_cons_of_pos hblank]

/-- A line is a comment if its first token begins with the mark of comments. -/
theorem isComment_eq (line : Line) :
    line.isComment = (line.tokens.head?.bind (fun token => token.toList.head?) == some '#') := by
  rw [isComment, tokens, ← trimStart_dropWhile_isTab, ← head?_pieces, List.head?_map,
    Option.bind_map]
  simp only [Function.comp_def, String.toList_ofList]

theorem ne_empty_of_mem_tokens {line : Line} {token : String} (htoken : token ∈ line.tokens) :
    token ≠ "" := by
  obtain ⟨piece, hpiece, rfl⟩ := List.mem_map.1 htoken
  intro hempty
  rw [String.ofList_eq_empty_iff.1 hempty] at hpiece
  exact absurd (List.mem_filter.1 hpiece).2 (by decide)

end ZoneSync.Layout.Line
