import ZoneSync.Proofs.Layout.Grammar
import ZoneSync.Proofs.Layout.Meaning

/-!
# Which texts are accepted

A line fits if its tokens are of one of seven kinds; settings, directives and records of a zone also
need a zone line above them. Reading goes on as long as the lines fit, since what has been read
before decides only whether a zone is open. So a text is accepted if all its lines fit, and
otherwise the first line that does not fit is the one that is reported.
-/

namespace ZoneSync.Layout

/-- One of the lines is a zone line. -/
def InZone (lines : List Line) : Prop :=
  ∃ line ∈ lines, ∃ domain, line.zone? = some domain

/-- What a line may be; `within` says whether it may belong to a zone. -/
inductive Line.Fits (within : Prop) (line : Line) : Prop
  | blank : line.tokens = [] → Fits within line
  | comment : line.isComment = true → Fits within line
  | zone {domain : String} :
    line.indent = 0 → line.tokens = [domain] → domain.toList.head? ≠ some '.' →
      Text.IsSolid domain.toList → Fits within line
  | default {first value : String} {setting : Setting} :
    line.indent = 0 → line.tokens = [first, value] → IsMarked '.' first setting.name →
      setting.Takes value → Fits within line
  | override {first value : String} {setting : Setting} :
    within → line.indent = 1 → line.tokens = [first, value] → IsMarked '.' first setting.name →
      setting.Takes value → Fits within line
  | directive : within → line.indent = 1 → IsDirective line.tokens → Fits within line
  | record : within → line.indent = 1 → IsRecord line.tokens → Fits within line

/-- All lines fit where they stand. -/
def AllFit (lines : List Line) : Prop :=
  ∀ before line after, lines = before ++ line :: after → line.Fits (InZone before)

/-! ### Shapes -/

/-- What the parts of a shape have to be. -/
def Shape.IsSound (within : Prop) : Shape → Prop
  | .nothing => True
  | .default name value => ∃ setting : Setting, name = setting.name ∧ setting.Takes value
  | .zone domain => Text.IsSolid domain.toList
  | .override name value =>
    within ∧ ∃ setting : Setting, name = setting.name ∧ setting.Takes value
  | .directive action tokens => within ∧ ∃ directive, Directive.parse action tokens = .ok directive
  | .record type hostname destination priority =>
    within ∧ ∃ record, Reading.readRecord type hostname destination priority = .ok record

namespace Line

variable {line : Line} {within : Prop} {shape : Shape}

theorem shape?_of_indent_zero (hcomment : line.isComment = false) (htokens : line.tokens ≠ [])
    (hindent : line.indent = 0) : line.shape? = topShape? line.tokens := by
  have hempty : line.tokens.isEmpty = false := by simpa using htokens
  rw [shape?, hcomment, hempty, hindent]
  rfl

theorem shape?_of_indent_one (hcomment : line.isComment = false) (htokens : line.tokens ≠ [])
    (hindent : line.indent = 1) : line.shape? = bodyShape? line.tokens := by
  have hempty : line.tokens.isEmpty = false := by simpa using htokens
  rw [shape?, hcomment, hempty, hindent]
  rfl

theorem shape?_of_nothing (hnothing : line.isComment = true ∨ line.tokens = []) :
    line.shape? = some .nothing := by
  rw [shape?, if_pos]
  simpa using hnothing

theorem head?_name (setting : Setting) : setting.name.toList.head? ≠ some '.' := by
  cases setting <;> decide

/-- A sound shape belongs to a line that fits. -/
theorem fits_of_shape? (hshape : line.shape? = some shape) (hsound : shape.IsSound within) :
    line.Fits within := by
  rcases shape?_cases hshape with ⟨-, hcomment | htokens⟩ | ⟨-, ⟨hindent, htop⟩ | ⟨hindent, hbody⟩⟩
  · exact .comment hcomment
  · exact .blank htokens
  · rcases topShape?_cases htop with ⟨domain, htokens, hmarked, rfl⟩ |
      ⟨first, value, htokens, hmarked, rfl⟩
    · exact .zone hindent htokens (beq_eq_false_iff_ne.1 hmarked) hsound
    · obtain ⟨setting, hname, htakes⟩ := hsound
      exact .default hindent htokens ((isMarked_iff (head?_name setting)).2 ⟨hmarked, hname⟩) htakes
  · rcases bodyShape?_cases hbody with ⟨first, value, htokens, hmarked, rfl⟩ |
      ⟨first, filters, htokens, hmarked, rfl⟩ |
        ⟨name, hostname, destination, priority, htokens, hmarked, rfl⟩
    · obtain ⟨hwithin, setting, hname, htakes⟩ := hsound
      exact .override hwithin hindent htokens
        ((isMarked_iff (head?_name setting)).2 ⟨hmarked, hname⟩) htakes
    · obtain ⟨hwithin, hdirective⟩ := hsound
      obtain ⟨hname, demanded, rfl, hdemanded⟩ := exists_parse_iff.1 hdirective
      refine .directive hwithin hindent ⟨first, demanded, htokens, ?_, hdemanded⟩
      exact (isMarked_iff (by decide)).2 ⟨hmarked, hname⟩
    · obtain ⟨hwithin, hrecord⟩ := hsound
      obtain ⟨type, number, record, hparts⟩ := exists_readRecord_iff.1 hrecord
      exact .record hwithin hindent ⟨name, hostname, destination, priority, type, number, record,
        htokens, beq_eq_false_iff_ne.1 hmarked, hparts⟩

/-- A line that fits has a sound shape. -/
theorem Fits.exists_shape (hfits : line.Fits within) :
    ∃ shape, line.shape? = some shape ∧ shape.IsSound within := by
  by_cases hnothing : line.isComment = true ∨ line.tokens = []
  · exact ⟨.nothing, shape?_of_nothing hnothing, trivial⟩
  rw [not_or, Bool.not_eq_true] at hnothing
  obtain ⟨hcomment, hnonempty⟩ := hnothing
  cases hfits with
  | blank htokens => exact absurd htokens hnonempty
  | comment hmark => exact absurd (hmark.symm.trans hcomment) (by simp)
  | @zone domain hindent htokens hplain hsolid =>
    have hmarked : marked '.' domain = false := beq_eq_false_iff_ne.2 hplain
    refine ⟨.zone domain, ?_, hsolid⟩
    rw [shape?_of_indent_zero hcomment hnonempty hindent, htokens, topShape?, hmarked]
    rfl
  | @default first value setting hindent htokens hfirst htakes =>
    obtain ⟨hmarked, hname⟩ := (isMarked_iff (head?_name setting)).1 hfirst
    refine ⟨.default setting.name value, ?_, setting, rfl, htakes⟩
    rw [shape?_of_indent_zero hcomment hnonempty hindent, htokens, topShape?, hmarked, hname]
    rfl
  | @override first value setting hwithin hindent htokens hfirst htakes =>
    obtain ⟨hmarked, hname⟩ := (isMarked_iff (head?_name setting)).1 hfirst
    have hplain : marked '!' first = false := marked_unique (by decide) hmarked
    refine ⟨.override setting.name value, ?_, hwithin, setting, rfl, htakes⟩
    rw [shape?_of_indent_one hcomment hnonempty hindent, htokens, bodyShape?, hplain, hmarked,
      hname]
    rfl
  | directive hwithin hindent hdirective =>
    obtain ⟨first, filters, htokens, hfirst, hdemanded⟩ := hdirective
    obtain ⟨hmarked, hname⟩ := (isMarked_iff (by decide)).1 hfirst
    refine ⟨.directive "remove-record" (filters.map Filter.text), ?_, hwithin,
      exists_parse_iff.2 ⟨rfl, filters, rfl, hdemanded⟩⟩
    rw [shape?_of_indent_one hcomment hnonempty hindent, htokens, bodyShape?.eq_def]
    simp only [hmarked, if_true, hname]
  | record hwithin hindent hrecord =>
    obtain ⟨name, hostname, destination, written, type, priority, record, htokens, hplain,
      hparts⟩ := hrecord
    have hmarked : marked '!' name = false := beq_eq_false_iff_ne.2 hplain
    refine ⟨.record name hostname destination written, ?_, hwithin,
      exists_readRecord_iff.2 ⟨type, priority, record, hparts⟩⟩
    rw [shape?_of_indent_one hcomment hnonempty hindent, htokens, bodyShape?.eq_def]
    cases written <;> simp [hmarked]

end Line

/-! ### Steps -/

namespace Reading

variable {before lines : List Line} {line : Line} {reading : Reading} {shape : Shape}

/-- A zone is open if a zone line has been read. -/
theorem Means.exists_openDraft?_iff (hmeans : reading.Means before) :
    (∃ draft, reading.openDraft? = some draft) ↔ InZone before := by
  constructor
  · rintro ⟨draft, hopen⟩
    exact List.mem_filterMap.1 (hmeans.seen (mem_of_openDraft? hopen)) |>.imp
      fun line hline => ⟨hline.1, draft.domain, hline.2⟩
  · rintro ⟨line, hline, domain, hzone⟩
    have hne : before.filterMap Line.zone? ≠ [] :=
      List.ne_nil_of_mem (List.mem_filterMap.2 ⟨line, hline, hzone⟩)
    have hcurrent : reading.current = some ((before.filterMap Line.zone?).getLast hne) :=
      hmeans.current.trans (List.getLast?_eq_some_getLast hne)
    obtain ⟨draft, hdraft, hdomain⟩ :=
      List.mem_map.1 (hmeans.domain_mem.2 (List.getLast_mem hne))
    rw [openDraft?, hcurrent, Option.bind_some]
    refine Option.isSome_iff_exists.1 (List.find?_isSome.2 ⟨draft, hdraft, ?_⟩)
    exact decide_eq_true hdomain

theorem exists_entry_directive_iff {action : String} {tokens : List String} :
    (∃ entry, Shape.entry? (.directive action tokens) = some (.ok entry)) ↔
      ∃ directive, Directive.parse action tokens = .ok directive := by
  simp only [Shape.entry?, Option.some.injEq, map_eq_ok_iff, mapError_eq_ok_iff]
  constructor
  · rintro ⟨_, directive, hparse, -⟩
    exact ⟨directive, hparse⟩
  · rintro ⟨directive, hparse⟩
    exact ⟨_, directive, hparse, rfl⟩

theorem exists_entry_record_iff {type hostname destination : String} {priority : Option String} :
    (∃ entry, Shape.entry? (.record type hostname destination priority) = some (.ok entry)) ↔
      ∃ record, readRecord type hostname destination priority = .ok record := by
  simp only [Shape.entry?, Option.some.injEq, map_eq_ok_iff]
  constructor
  · rintro ⟨_, record, hread, -⟩
    exact ⟨record, hread⟩
  · rintro ⟨record, hread⟩
    exact ⟨_, record, hread, rfl⟩

/-- A shape has an effect if it is sound. -/
theorem Means.exists_effect_iff (hmeans : reading.Means before) :
    (∃ next, reading.Effect shape next) ↔ shape.IsSound (InZone before) := by
  have hopen := hmeans.exists_openDraft?_iff
  constructor
  · rintro ⟨next, heffect⟩
    cases heffect with
    | nothing => trivial
    | default hassign => exact exists_assign_iff.1 ⟨_, hassign⟩
    | zone hsolid => exact fun c hc => eq_false_of_ne_true (List.any_eq_false.1 hsolid c hc)
    | override hdraft hassign => exact ⟨hopen.1 ⟨_, hdraft⟩, exists_assign_iff.1 ⟨_, hassign⟩⟩
    | entry hdraft hentry =>
      cases shape with
      | directive => exact ⟨hopen.1 ⟨_, hdraft⟩, exists_entry_directive_iff.1 ⟨_, hentry⟩⟩
      | record => exact ⟨hopen.1 ⟨_, hdraft⟩, exists_entry_record_iff.1 ⟨_, hentry⟩⟩
      | _ => exact absurd hentry (by simp [Shape.entry?])
  · intro hsound
    cases shape with
    | nothing => exact ⟨_, .nothing⟩
    | default name value =>
      obtain ⟨settings, hassign⟩ := exists_assign_iff.2 hsound
      exact ⟨_, .default hassign⟩
    | zone domain =>
      exact ⟨_, .zone (List.any_eq_false.2 fun c hc => by simp [hsound c hc])⟩
    | override name value =>
      obtain ⟨draft, hdraft⟩ := hopen.2 hsound.1
      obtain ⟨settings, hassign⟩ := exists_assign_iff.2 hsound.2
      exact ⟨_, .override hdraft hassign⟩
    | directive action tokens =>
      obtain ⟨draft, hdraft⟩ := hopen.2 hsound.1
      obtain ⟨entry, hentry⟩ := exists_entry_directive_iff.2 hsound.2
      exact ⟨_, .entry hdraft hentry⟩
    | record type hostname destination priority =>
      obtain ⟨draft, hdraft⟩ := hopen.2 hsound.1
      obtain ⟨entry, hentry⟩ := exists_entry_record_iff.2 hsound.2
      exact ⟨_, .entry hdraft hentry⟩

/-- A line is read if it fits below the lines that have been read. -/
theorem Means.exists_step_iff (hmeans : reading.Means before) :
    (∃ next, reading.step line = .ok next) ↔ line.Fits (InZone before) := by
  constructor
  · rintro ⟨next, hstep⟩
    obtain ⟨shape, hshape, heffect⟩ := step_eq_ok_iff.1 hstep
    exact Line.fits_of_shape? hshape (hmeans.exists_effect_iff.1 ⟨next, heffect⟩)
  · intro hfits
    obtain ⟨shape, hshape, hsound⟩ := hfits.exists_shape
    obtain ⟨next, heffect⟩ := hmeans.exists_effect_iff.2 hsound
    exact ⟨next, step_eq_ok_iff.2 ⟨shape, hshape, heffect⟩⟩

/-! ### All lines -/

theorem means_of_foldlM (hread : lines.foldlM step start = .ok reading) : reading.Means lines :=
  foldlM_step_invariant (fun _ _ _ _ _ hmeans hshape heffect => hmeans.effect hshape heffect)
    means_start hread

theorem allFit_append_singleton :
    AllFit (lines ++ [line]) ↔ AllFit lines ∧ line.Fits (InZone lines) := by
  constructor
  · intro hfit
    refine ⟨fun before other after hlines => ?_, hfit lines line [] rfl⟩
    exact hfit before other (after ++ [line]) (by rw [hlines, List.append_assoc, List.cons_append])
  · rintro ⟨hfit, hline⟩ before other after hlines
    rcases List.eq_nil_or_concat after with rfl | ⟨rest, last, rfl⟩
    · obtain ⟨rfl, hlast⟩ := List.append_inj' hlines rfl
      obtain rfl := List.singleton_inj.1 hlast
      exact hline
    · rw [List.concat_eq_append, ← List.cons_append, ← List.append_assoc] at hlines
      exact hfit before other rest (List.append_inj' hlines rfl).1

theorem exists_foldlM_iff : (∃ reading, lines.foldlM step start = .ok reading) ↔ AllFit lines := by
  induction lines using List.reverseRecOn with
  | nil =>
    refine ⟨fun _ before line after hlines => ?_, fun _ => ⟨start, rfl⟩⟩
    exact absurd hlines.symm (by simp)
  | append_singleton lines line ih =>
    rw [allFit_append_singleton, ← ih]
    simp only [List.foldlM_append, bind_eq_ok_iff, List.foldlM_cons, List.foldlM_nil]
    constructor
    · rintro ⟨_, middle, hmiddle, next, hstep, -⟩
      exact ⟨⟨middle, hmiddle⟩, (means_of_foldlM hmiddle).exists_step_iff.1 ⟨next, hstep⟩⟩
    · rintro ⟨⟨middle, hmiddle⟩, hfits⟩
      obtain ⟨next, hstep⟩ := (means_of_foldlM hmiddle).exists_step_iff.2 hfits
      exact ⟨next, middle, hmiddle, next, hstep, rfl⟩

/-- Reading fails at a line after it has read all lines above. -/
theorem exists_step_of_foldlM {error : LayoutError}
    (hread : lines.foldlM step reading = .error error) :
    ∃ before line after middle, lines = before ++ line :: after ∧
      before.foldlM step reading = .ok middle ∧ middle.step line = .error error := by
  induction lines generalizing reading with
  | nil => exact absurd hread (by simp [pure, Except.pure])
  | cons line rest ih =>
    rw [List.foldlM_cons] at hread
    cases hstep : reading.step line with
    | error other =>
      rw [hstep] at hread
      exact ⟨[], line, rest, reading, rfl, rfl, hstep.trans (congrArg _ (Except.error.inj hread))⟩
    | ok next =>
      rw [hstep] at hread
      obtain ⟨before, last, after, middle, rfl, hbefore, hlast⟩ := ih hread
      refine ⟨line :: before, last, after, middle, rfl, ?_, hlast⟩
      rw [List.foldlM_cons, hstep]
      exact hbefore

end Reading

/-- The error names the line and says what is wrong with it after what has been read above: it has no
shape, or there is a fault in its parts. -/
inductive LayoutError.Reports (reading : Reading) (line : Line) : LayoutError → Prop
  | unknownShape :
    line.shape? = none →
      Reports reading line (.unknownShape line.number (String.ofList line.content))
  | invalid {shape : Shape} {fault : Fault} :
    line.shape? = some shape → reading.apply shape = .error fault →
      Reports reading line (.invalid line.number (String.ofList line.content) fault.message)

theorem Reading.reports_of_step {reading : Reading} {line : Line} {error : LayoutError}
    (hstep : reading.step line = .error error) : LayoutError.Reports reading line error := by
  rw [step] at hstep
  split at hstep
  · next hshape =>
    rw [← Except.error.inj hstep]
    exact .unknownShape hshape
  · next shape hshape =>
    cases happly : reading.apply shape with
    | ok next =>
      rw [happly] at hstep
      exact absurd hstep (by simp [Except.mapError])
    | error fault =>
      rw [happly] at hstep
      rw [← Except.error.inj hstep]
      exact .invalid hshape happly

/-- Lines are numbered from one. -/
theorem Line.number_of_ofText {text : String} {before after : List Line} {line : Line}
    (hlines : Line.ofText text = before ++ line :: after) : line.number = before.length + 1 := by
  have hget : (Line.ofText text)[before.length]? = some line := by
    rw [hlines, List.getElem?_append_right (Nat.le_refl _), Nat.sub_self]
    rfl
  rw [Line.ofText, List.getElem?_map, List.getElem?_zipIdx] at hget
  obtain ⟨⟨content, number⟩, hzip, rfl⟩ := Option.map_eq_some_iff.1 hget
  obtain ⟨_, -, heq⟩ := Option.map_eq_some_iff.1 hzip
  rw [← (Prod.mk.inj heq).2]
  exact Nat.add_comm _ _

/-- A text is accepted if every line fits below the lines above it. Otherwise the first line that
does not is reported. -/
theorem parse_accepts (text : String) :
    ((∃ layout, parse text = .ok layout) ↔ AllFit (Line.ofText text)) ∧
      ∀ error, parse text = .error error → ∃ before line after reading,
        Line.ofText text = before ++ line :: after ∧ line.number = before.length + 1 ∧
          AllFit before ∧ ¬line.Fits (InZone before) ∧
            before.foldlM Reading.step Reading.start = .ok reading ∧
              LayoutError.Reports reading line error := by
  constructor
  · rw [← Reading.exists_foldlM_iff]
    constructor
    · rintro ⟨layout, hparse⟩
      obtain ⟨reading, hread, -⟩ := bind_eq_ok_iff.1 hparse
      exact ⟨reading, hread⟩
    · rintro ⟨reading, hread⟩
      exact ⟨reading.finish, bind_eq_ok_iff.2 ⟨reading, hread, rfl⟩⟩
  · intro error hparse
    have hread : (Line.ofText text).foldlM Reading.step Reading.start = .error error := by
      rw [parse] at hparse
      cases hlines : (Line.ofText text).foldlM Reading.step Reading.start with
      | ok reading =>
        rw [hlines] at hparse
        exact absurd hparse (by simp [bind, Except.bind, pure, Except.pure])
      | error other =>
        rw [hlines] at hparse
        exact congrArg _ (Except.error.inj hparse)
    obtain ⟨before, line, after, middle, hlines, hbefore, hstep⟩ :=
      Reading.exists_step_of_foldlM hread
    have hmeans := Reading.means_of_foldlM hbefore
    refine ⟨before, line, after, middle, hlines, Line.number_of_ofText hlines,
      Reading.exists_foldlM_iff.1 ⟨middle, hbefore⟩, fun hfits => ?_, hbefore,
      Reading.reports_of_step hstep⟩
    obtain ⟨next, hnext⟩ := hmeans.exists_step_iff.2 hfits
    exact absurd (hnext.symm.trans hstep) (by simp)

end ZoneSync.Layout
