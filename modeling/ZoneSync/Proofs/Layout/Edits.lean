import ZoneSync.Proofs.Layout.Reading
import ZoneSync.Proofs.Layout.Spacing

/-!
# Edits that mean nothing

A layout text may be commented and spaced, and its lines may end in another way, without a change of
what it declares. Reading goes by what the lines say and by their numbers; an edit of a line leaves
alone what it says, and a line that says nothing can be put in or left out if those below it are
numbered anew. So the edited text declares the same layout, or the error is found where its line now
stands. All of this is said of the fields between line feeds, of which the last one need not be a
line: if it is empty it says nothing, and what it says otherwise is what the line says.
-/

namespace ZoneSync.Layout

open Text

/-! ### Edits -/

/-- A line of blanks, or a comment. -/
inductive IsIdle : List Char → Prop
  | blank {line : List Char} : IsSpace line → IsIdle line
  | comment {space rest : List Char} : IsSpace space → IsIdle (space ++ '#' :: rest)

/-- What separates two tokens. -/
structure IsSeparator (text : List Char) : Prop where
  space : IsSpace text
  tab : '\t' ∈ text

/-- A token ends before that place, and another one begins after it. -/
structure IsBetween (before after : List Char) : Prop where
  last : ∃ c, before.getLast? = some c ∧ isBlank c = false
  first : ∃ c, after.head? = some c ∧ isBlank c = false

/-- A text that can be a token. -/
structure IsPiece (text : List Char) : Prop where
  nonempty : text ≠ []
  trimmed : trim text = text
  plain : '\t' ∉ text

/-- An edit within a line: another end of line, blanks at the end, another separator, or spaces
around a token. -/
inductive LineEdit : List Char → List Char → Prop
  | withReturn {line : List Char} : LineEdit line (line ++ ['\r'])
  | withoutReturn {line : List Char} : LineEdit (line ++ ['\r']) line
  | trail {line added ending : List Char} :
    (∀ c ∈ added, c ∈ [' ', '\t', '\r']) → (∀ c ∈ ending, c ∈ ['\r']) →
      LineEdit (line ++ ending) (line ++ added ++ ending)
  | separate {before old new after : List Char} :
    IsBetween before after → IsSeparator old → (∀ c ∈ new, c ∈ ['\t', ' ']) → '\t' ∈ new →
      LineEdit (before ++ (old ++ after)) (before ++ (new ++ after))
  | pad {before left token right after : List Char} :
    Opens before → IsPiece token → Closes after →
      (∀ c ∈ left, c ∈ [' ']) → (∀ c ∈ right, c ∈ [' ']) →
        LineEdit (before ++ token ++ after) (before ++ (left ++ token ++ right) ++ after)

/-- An edit of the lines, with the number that a line has afterwards. -/
inductive Edit : List (List Char) → List (List Char) → (Nat → Nat) → Prop
  | line {above below : List (List Char)} {line other : List Char} :
    LineEdit line other → Edit (above ++ line :: below) (above ++ other :: below) id
  | insert {above below : List (List Char)} {idle : List Char} :
    IsIdle idle → Edit (above ++ below) (above ++ idle :: below) fun number =>
      if number ≤ above.length then number else number + 1
  | delete {above below : List (List Char)} {idle : List Char} :
    IsIdle idle → Edit (above ++ idle :: below) (above ++ below) fun number =>
      if number ≤ above.length then number else number - 1

/-- Any number of edits, one after the other. -/
inductive Edits : String → String → (Nat → Nat) → Prop
  | refl {text : String} : Edits text text id
  | step {text next last : String} {move further : Nat → Nat} :
    Edit (fields '\n' text.toList) (fields '\n' next.toList) move → Edits next last further →
      Edits text last (further ∘ move)

variable {line other : List Char} {lines others : List (List Char)} {move : Nat → Nat}
  {number start : Nat}

/-! ### What a line says -/

theorem isSpace_of_mem {text allowed : List Char} (htext : ∀ c ∈ text, c ∈ allowed)
    (hallowed : IsSpace allowed) : IsSpace text :=
  fun c hc => hallowed c (htext c hc)

/-- Any separator does. -/
theorem readAlike_separate {before old new after : List Char} (hbetween : IsBetween before after)
    (hold : IsSeparator old) (hnew : IsSeparator new) :
    ReadAlike (before ++ (old ++ after)) (before ++ (new ++ after)) := by
  have hpieces : ∀ separator, IsSeparator separator →
      pieces (before ++ (separator ++ after)) = pieces before ++ pieces after := by
    intro separator hseparator
    obtain ⟨first, rest, rfl, -⟩ := List.eq_append_cons_of_mem hseparator.tab
    obtain ⟨hfirst, hrest⟩ := List.forall_mem_append.1 hseparator.space
    rw [List.append_assoc, List.cons_append, ← List.append_assoc, pieces_append_tab,
      pieces_append_space before hfirst, pieces_space_append (List.forall_mem_cons.1 hrest).2]
  constructor
  · rw [hpieces old hold, hpieces new hnew]
  · intro _
    obtain ⟨c, hlast, hc⟩ := hbetween.last
    obtain ⟨lead, rfl⟩ := List.getLast?_eq_some_iff.1 hlast
    have htab := Line.isTab_of_isBlank hc
    rw [List.append_assoc, List.append_assoc]
    exact indent_append_cons htab htab lead _ _

/-- A token does not begin with a tab, and neither does one with spaces before it. -/
theorem IsPiece.exists_head {left token : List Char} (hpiece : IsPiece token)
    (hleft : ∀ c ∈ left, c ∈ [' ']) (right : List Char) :
    ∃ c rest, left ++ token ++ right = c :: rest ∧ Line.isTab c = false := by
  cases left with
  | nil =>
    obtain ⟨c, rest, rfl⟩ := List.exists_cons_of_ne_nil hpiece.nonempty
    exact ⟨c, rest ++ right, rfl, Line.isTab_of_isBlank (head_of_trim_eq_self hpiece.trimmed)⟩
  | cons c rest =>
    refine ⟨c, _, rfl, ?_⟩
    rw [List.mem_singleton.1 (hleft c List.mem_cons_self)]
    rfl

theorem readAlike_pad {before left token right after : List Char} (hopens : Opens before)
    (hpiece : IsPiece token) (hcloses : Closes after) (hleft : ∀ c ∈ left, c ∈ [' '])
    (hright : ∀ c ∈ right, c ∈ [' ']) :
    ReadAlike (before ++ token ++ after) (before ++ (left ++ token ++ right) ++ after) := by
  have hspaces : IsSpace left ∧ IsSpace right :=
    ⟨isSpace_of_mem hleft (by decide), isSpace_of_mem hright (by decide)⟩
  constructor
  · rw [hcloses.pieces_append, hcloses.pieces_append, hopens.pieces_append, hopens.pieces_append,
      pieces_append_space _ hspaces.2, pieces_space_append hspaces.1]
  · intro _
    obtain ⟨c, rest, htoken, hc⟩ := hpiece.exists_head (List.forall_mem_nil _) []
    obtain ⟨d, others, hpadded, hd⟩ := hpiece.exists_head hleft right
    rw [List.nil_append, List.append_nil] at htoken
    rw [hpadded, htoken, List.append_assoc, List.append_assoc]
    exact indent_append_cons hc hd before _ _

theorem LineEdit.readAlike (hedit : LineEdit line other) : ReadAlike line other := by
  have hreturn : IsSpace ['\r'] := by decide
  cases hedit with
  | withReturn => exact readAlike_append_space line hreturn
  | withoutReturn => exact (readAlike_append_space other hreturn).symm
  | @trail line added ending hadded hending =>
    have hfirst : IsSpace added := isSpace_of_mem hadded (by decide)
    have hsecond : IsSpace ending := isSpace_of_mem hending hreturn
    rw [List.append_assoc]
    exact (readAlike_append_space line hsecond).symm.trans
      (readAlike_append_space line (List.forall_mem_append.2 ⟨hfirst, hsecond⟩))
  | separate hbetween hold hnew htab =>
    exact readAlike_separate hbetween hold ⟨isSpace_of_mem hnew (by decide), htab⟩
  | pad hopens hpiece hcloses hleft hright =>
    exact readAlike_pad hopens hpiece hcloses hleft hright

/-- What the line says, unless that is nothing; a line of no known shape says that it is one. -/
def says? (line : List Char) : Option (Option Shape) :=
  let shape? := (Line.mk 0 line).shape?
  if shape? = some .nothing then none else some shape?

theorem ReadAlike.says?_eq (halike : ReadAlike line other) : says? line = says? other := by
  rw [says?, says?, halike.shape?_eq 0]

theorem IsIdle.says?_eq (hidle : IsIdle line) : says? line = none := by
  have hshape : (Line.mk 0 line).shape? = some .nothing := by
    rw [Line.shape?, if_pos]
    rw [Bool.or_eq_true]
    cases hidle with
    | blank hspace =>
      right
      rw [Line.tokens_eq, pieces_of_isSpace hspace]
      rfl
    | comment hspace =>
      left
      rw [Line.isComment, trimStart, List.dropWhile_append_of_pos hspace]
      rfl
  exact if_pos hshape

theorem says?_dropReturn (line : List Char) : says? (dropReturn line) = says? line := by
  rw [dropReturn]
  split
  · next hlast =>
    obtain ⟨lead, rfl⟩ := List.getLast?_eq_some_iff.1 hlast
    rw [List.dropLast_concat]
    exact (readAlike_append_space lead (by decide)).says?_eq
  · rfl

/-! ### What all lines say -/

def mark? (line : List Char × Nat) : Option (Nat × Option Shape) :=
  (says? line.1).map (line.2, ·)

/-- What the lines say that are numbered from `start` on. -/
def marks (start : Nat) (lines : List (List Char)) : List (Nat × Option Shape) :=
  (lines.zipIdx start).filterMap mark?

/-- A mark with another number. -/
def renumber {α : Type} (move : Nat → Nat) (mark : Nat × α) : Nat × α :=
  (move mark.1, mark.2)

theorem marks_append (start : Nat) (above below : List (List Char)) :
    marks start (above ++ below) = marks start above ++ marks (start + above.length) below := by
  rw [marks, List.zipIdx_append, List.filterMap_append, ← marks, ← marks]

theorem marks_cons (start : Nat) (line : List Char) (rest : List (List Char)) :
    marks start (line :: rest) = (mark? (line, start)).toList ++ marks (start + 1) rest := by
  rw [marks, List.zipIdx_cons, List.filterMap_cons, ← marks]
  cases mark? (line, start) <;> rfl

theorem marks_succ (start : Nat) (lines : List (List Char)) :
    marks (start + 1) lines = (marks start lines).map (renumber (· + 1)) := by
  rw [marks, List.zipIdx_succ, List.filterMap_map, marks, List.map_filterMap]
  refine List.filterMap_congr fun line _ => ?_
  rw [Function.comp_apply, mark?, mark?, Option.map_map]
  rfl

theorem bounds_of_mem_marks {mark : Nat × Option Shape} (hmark : mark ∈ marks start lines) :
    start ≤ mark.1 ∧ mark.1 < start + lines.length := by
  obtain ⟨⟨line, number⟩, hline, hsays⟩ := List.mem_filterMap.1 hmark
  obtain ⟨said, -, rfl⟩ := Option.map_eq_some_iff.1 hsays
  obtain ⟨hfirst, hlast, -⟩ := List.mem_zipIdx hline
  exact ⟨hfirst, hlast⟩

theorem map_renumber_congr {further : Nat → Nat}
    (hmove : ∀ number, start ≤ number → number < start + lines.length →
      move number = further number) :
    (marks start lines).map (renumber move) = (marks start lines).map (renumber further) := by
  refine List.map_congr_left fun mark hmark => ?_
  obtain ⟨hfirst, hlast⟩ := bounds_of_mem_marks hmark
  rw [renumber, renumber, hmove mark.1 hfirst hlast]

theorem map_renumber_self
    (hmove : ∀ number, start ≤ number → number < start + lines.length → move number = number) :
    (marks start lines).map (renumber move) = marks start lines :=
  (map_renumber_congr hmove).trans (List.map_id _)

theorem marks_cons_idle (start : Nat) (hidle : IsIdle line) (rest : List (List Char)) :
    marks start (line :: rest) = (marks start rest).map (renumber (· + 1)) := by
  rw [marks_cons, mark?, hidle.says?_eq, marks_succ]
  rfl

/-- An edit changes the numbers and nothing else. -/
theorem Edit.marks_eq (hedit : Edit lines others move) :
    marks 1 others = (marks 1 lines).map (renumber move) := by
  cases hedit with
  | @line above below line other hline =>
    have hsame : mark? (line, 1 + above.length) = mark? (other, 1 + above.length) := by
      rw [mark?, mark?, hline.readAlike.says?_eq]
    rw [marks_append, marks_append, marks_cons, marks_cons, hsame]
    exact (List.map_id _).symm
  | @insert above below idle hidle =>
    rw [marks_append, marks_append, marks_cons_idle _ hidle, List.map_append]
    congr 1
    · exact (map_renumber_self fun number _ hlast => if_pos (by omega)).symm
    · exact (map_renumber_congr fun number hfirst _ => if_neg (by omega)).symm
  | @delete above below idle hidle =>
    rw [marks_append, marks_append, marks_cons_idle _ hidle, List.map_append, List.map_map]
    congr 1
    · exact (map_renumber_self fun number _ hlast => if_pos (by omega)).symm
    · have hback : ∀ number, 1 + above.length ≤ number →
          number < 1 + above.length + below.length →
            (if number + 1 ≤ above.length then number + 1 else number + 1 - 1) = number :=
        fun number hfirst _ => if_neg (by omega)
      exact (map_renumber_self hback).symm

/-- Carriage returns at the end say nothing, and neither does an empty text after the last line
feed. -/
theorem marks_linesOfFields (start : Nat) (texts : List (List Char)) :
    marks start (linesOfFields texts) = marks start texts := by
  fun_induction linesOfFields texts generalizing start with
  | case1 => rfl
  | case2 last hempty =>
    rw [List.isEmpty_iff.1 hempty]
    rfl
  | case3 last hsome => rfl
  | case4 field rest hrest ih =>
    have hsame : mark? (dropReturn field, start) = mark? (field, start) := by
      rw [mark?, mark?, says?_dropReturn]
    rw [marks_cons, marks_cons, ih, hsame]

/-- What a line of a text says, with its number. -/
def Line.mark? (line : Line) : Option (Nat × Option Shape) :=
  Layout.mark? (line.content, line.number)

theorem Line.mark?_eq (line : Line) :
    line.mark? = if line.shape? = some .nothing then none else some (line.number, line.shape?) := by
  have hshape : (Line.mk 0 line.content).shape? = line.shape? := rfl
  rw [mark?, Layout.mark?, says?, hshape]
  split <;> rfl

theorem filterMap_mark?_ofText (text : String) :
    (Line.ofText text).filterMap Line.mark? = marks 1 (fields '\n' text.toList) := by
  rw [Line.ofText, List.filterMap_map, ← marks_linesOfFields, ← Text.lines, marks]
  refine List.filterMap_congr fun line _ => ?_
  exact congrArg (Option.map (line.2, ·)) (says?_dropReturn line.1)

/-! ### Reading -/

/-- Where the error is, and what is wrong there; the line is not shown. -/
def finding : LayoutError → Nat × Option String
  | .unknownShape line _ => (line, none)
  | .invalid line _ reason => (line, some reason)

theorem eq_of_finding_none {error : LayoutError} (hfinding : finding error = (number, none)) :
    ∃ content, error = .unknownShape number content := by
  cases error with
  | unknownShape line content =>
    obtain ⟨rfl, -⟩ := Prod.mk.inj hfinding
    exact ⟨content, rfl⟩
  | invalid => exact absurd (Prod.mk.inj hfinding).2 (Option.some_ne_none _)

theorem eq_of_finding_some {error : LayoutError} {reason : String}
    (hfinding : finding error = (number, some reason)) :
    ∃ content, error = .invalid number content reason := by
  cases error with
  | unknownShape => exact absurd (Prod.mk.inj hfinding).2.symm (Option.some_ne_none _)
  | invalid line content cause =>
    obtain ⟨rfl, hcause⟩ := Prod.mk.inj hfinding
    obtain rfl := Option.some.inj hcause
    exact ⟨content, rfl⟩

/-- Reads what a line says. -/
def Reading.heed (reading : Reading) (mark : Nat × Option Shape) :
    Except (Nat × Option String) Reading :=
  match mark.2 with
  | none => .error (mark.1, none)
  | some shape => (reading.apply shape).mapError fun fault => (mark.1, some fault.message)

theorem Reading.mapError_step (reading : Reading) (line : Line) :
    (reading.step line).mapError finding = reading.heed (line.number, line.shape?) := by
  rw [step, heed]
  cases line.shape? with
  | none => rfl
  | some shape => exact mapError_mapError ..

theorem Reading.mapError_foldlM_step (lines : List Line) (reading : Reading) :
    (lines.foldlM Reading.step reading).mapError finding =
      (lines.filterMap Line.mark?).foldlM Reading.heed reading := by
  induction lines generalizing reading with
  | nil => rfl
  | cons line rest ih =>
    rw [List.foldlM_cons, mapError_bind, mapError_step, List.filterMap_cons, funext ih,
      Line.mark?_eq]
    by_cases hnothing : line.shape? = some .nothing
    · rw [if_pos hnothing, hnothing]
      rfl
    · rw [if_neg hnothing]
      rfl

theorem Reading.foldlM_heed_renumber (move : Nat → Nat) (marks : List (Nat × Option Shape))
    (reading : Reading) :
    (marks.map (renumber move)).foldlM Reading.heed reading =
      (marks.foldlM Reading.heed reading).mapError (renumber move) := by
  induction marks generalizing reading with
  | nil => rfl
  | cons mark rest ih =>
    have hmark : reading.heed (renumber move mark) =
        (reading.heed mark).mapError (renumber move) := by
      obtain ⟨number, none | shape⟩ := mark
      · rfl
      · have happly := mapError_mapError (reading.apply shape)
          (fun fault => (number, some fault.message)) (renumber move)
        exact happly.symm
    rw [List.map_cons, List.foldlM_cons, List.foldlM_cons, mapError_bind, hmark, funext ih]

theorem mapError_parse (text : String) :
    (parse text).mapError finding =
      ((marks 1 (fields '\n' text.toList)).foldlM Reading.heed Reading.start).map
        Reading.finish := by
  rw [parse, mapError_bind, Reading.mapError_foldlM_step, filterMap_mark?_ofText]
  cases (marks 1 (fields '\n' text.toList)).foldlM Reading.heed Reading.start <;> rfl

variable {text next : String}

theorem Edits.marks_eq (hedits : Edits text next move) :
    marks 1 (fields '\n' next.toList) =
      (marks 1 (fields '\n' text.toList)).map (renumber move) := by
  induction hedits with
  | refl => exact (List.map_id _).symm
  | step hedit _ ih =>
    rw [ih, hedit.marks_eq, List.map_map]
    rfl

theorem Edits.mapError_parse (hedits : Edits text next move) :
    (parse next).mapError finding =
      (parse text).mapError fun error => renumber move (finding error) := by
  rw [← mapError_mapError (parse text), Layout.mapError_parse, Layout.mapError_parse, hedits.marks_eq,
    Reading.foldlM_heed_renumber]
  cases (marks 1 (fields '\n' text.toList)).foldlM Reading.heed Reading.start <;> rfl

/-- The edited text declares the same layout. If the text has an error, the edited one has the same
error for the same reason, in the line that has become of the erroneous line. -/
theorem parse_edited (hedits : Edits text next move) :
    (∀ layout, parse text = .ok layout → parse next = .ok layout) ∧
      (∀ line content, parse text = .error (.unknownShape line content) →
        ∃ shown, parse next = .error (.unknownShape (move line) shown)) ∧
        ∀ line content reason, parse text = .error (.invalid line content reason) →
          ∃ shown, parse next = .error (.invalid (move line) shown reason) := by
  have hparse := hedits.mapError_parse
  refine ⟨fun layout htext => ?_, fun line content htext => ?_, fun line content reason htext => ?_⟩
  · rw [htext] at hparse
    exact mapError_eq_ok_iff.1 hparse
  · rw [htext] at hparse
    obtain ⟨error, hnext, hfinding⟩ := mapError_eq_error_iff.1 hparse
    obtain ⟨shown, rfl⟩ := eq_of_finding_none hfinding
    exact ⟨shown, hnext⟩
  · rw [htext] at hparse
    obtain ⟨error, hnext, hfinding⟩ := mapError_eq_error_iff.1 hparse
    obtain ⟨shown, rfl⟩ := eq_of_finding_some hfinding
    exact ⟨shown, hnext⟩

/-- A comment is put in above a record without a destination, and the tab in the record is replaced.
The error is found in the third line instead of the second. -/
theorem parse_edited_commented :
    ∃ move, Edits "a.org\n\tA\twww\n" "# zones\r\na.org\n\tA \t www\n" move ∧
      parse "a.org\n\tA\twww\n" = .error (.unknownShape 2 "\tA\twww") ∧
        ∃ content, parse "# zones\r\na.org\n\tA \t www\n" = .error (.unknownShape 3 content) := by
  have hcomment : Edit (fields '\n' "a.org\n\tA\twww\n".toList)
      (fields '\n' "# zones\r\na.org\n\tA\twww\n".toList)
      fun number => if number ≤ 0 then number else number + 1 := by
    have hbefore : fields '\n' "a.org\n\tA\twww\n".toList =
        [] ++ ["a.org".toList, "\tA\twww".toList, []] := by
      decide
    have hafter : fields '\n' "# zones\r\na.org\n\tA\twww\n".toList =
        [] ++ ([] ++ '#' :: " zones\r".toList) :: ["a.org".toList, "\tA\twww".toList, []] := by
      decide
    rw [hbefore, hafter]
    exact .insert (.comment (by decide))
  have hseparate : Edit (fields '\n' "# zones\r\na.org\n\tA\twww\n".toList)
      (fields '\n' "# zones\r\na.org\n\tA \t www\n".toList) id := by
    have hbefore : fields '\n' "# zones\r\na.org\n\tA\twww\n".toList =
        ["# zones\r".toList, "a.org".toList] ++
          ("\tA".toList ++ ("\t".toList ++ "www".toList)) :: [[]] := by
      decide
    have hafter : fields '\n' "# zones\r\na.org\n\tA \t www\n".toList =
        ["# zones\r".toList, "a.org".toList] ++
          ("\tA".toList ++ (" \t ".toList ++ "www".toList)) :: [[]] := by
      decide
    rw [hbefore, hafter]
    exact .line (.separate ⟨⟨'A', by decide⟩, ⟨'w', by decide⟩⟩ ⟨by decide, by decide⟩ (by simp)
      (by decide))
  have hedits := Edits.step hcomment (.step hseparate .refl)
  have hparse : parse "a.org\n\tA\twww\n" = .error (.unknownShape 2 "\tA\twww") := by
    decide +kernel
  exact ⟨_, hedits, hparse, (parse_edited hedits).2.1 2 "\tA\twww" hparse⟩

end ZoneSync.Layout
