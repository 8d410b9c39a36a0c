import ZoneSync.Proofs.Layout.Reading

/-!
# What the lines say about a domain

A zone line names a domain, and the lines from there to the next zone line belong to that domain,
wherever the blocks of the domain stand. About its settings speak the defaults above its first zone
line and the settings in its own lines. All of this is said of a text as a whole; one more line adds
at most one thing to it, for at most one domain.
-/

namespace ZoneSync.Layout

/-! ### The parts that a line can play -/

namespace Line

/-- The domain that a zone line names. -/
def zone? (line : Line) : Option String :=
  if line.isComment || line.indent != 0 then none
  else
    match line.tokens with
    | [domain] => if marked '.' domain then none else some domain
    | _ => none

/-- The name and the value in a line that gives a setting, at some indent. -/
def setting? (indent : Nat) (line : Line) : Option (String × String) :=
  if line.isComment || line.indent != indent then none
  else
    match line.tokens with
    | [name, value] => if marked '.' name then some (unmarked '.' name, value) else none
    | _ => none

/-- A default for the zones named below. -/
def default? : Line → Option (String × String) :=
  setting? 0

/-- A setting of the zone that the line stands in. -/
def override? : Line → Option (String × String) :=
  setting? 1

/-- The record or directive that the line declares in its zone. -/
def entry? (line : Line) : Option (Except Fault Entry) :=
  line.shape?.bind Shape.entry?

end Line

/-- The domain that the last zone line of these lines names. -/
def openAfter (lines : List Line) : Option String :=
  (lines.filterMap Line.zone?).getLast?

/-- The lines whose nearest zone line above names the domain. -/
def linesOf (lines : List Line) (domain : String) : List Line :=
  (lines.zipIdx.filter fun (_, place) => openAfter (lines.take place) = some domain).map Prod.fst

/-- The lines above the first zone line of the domain. -/
def aboveFirst (lines : List Line) (domain : String) : List Line :=
  lines.takeWhile fun line => line.zone? ≠ some domain

/-- What is written about the settings of the domain, defaults before overrides. -/
def settingsOf (lines : List Line) (domain : String) : List (String × String) :=
  (aboveFirst lines domain).filterMap Line.default? ++
    (linesOf lines domain).filterMap Line.override?

/-- The records and directives of the domain. -/
def entriesOf (lines : List Line) (domain : String) : List (Except Fault Entry) :=
  (linesOf lines domain).filterMap Line.entry?

/-- The settings after all that is written, where the later counts. -/
def overwrite (settings : Settings) (written : List (String × String)) : Except Fault Settings :=
  written.foldlM (fun settings (name, value) => Reading.assign settings name value) settings

/-! ### Shapes and parts -/

namespace Shape

def zone? : Shape → Option String
  | .zone domain => some domain
  | _ => none

def default? : Shape → Option (String × String)
  | .default name value => some (name, value)
  | _ => none

def override? : Shape → Option (String × String)
  | .override name value => some (name, value)
  | _ => none

/-- Only directives and records are declared in a zone. -/
theorem parts_of_entry? {shape : Shape} {entry : Except Fault Entry}
    (hentry : shape.entry? = some entry) :
    shape.zone? = none ∧ shape.default? = none ∧ shape.override? = none := by
  cases shape with
  | directive => exact ⟨rfl, rfl, rfl⟩
  | record => exact ⟨rfl, rfl, rfl⟩
  | _ => exact absurd hentry (by simp [Shape.entry?])

end Shape

namespace Line

variable {line : Line} {shape : Shape} {tokens : List String}

theorem marked_unique {token : String} {mark other : Char} (hne : mark ≠ other)
    (hmarked : marked mark token = true) : marked other token = false := by
  rw [marked, beq_iff_eq] at hmarked
  rw [marked, hmarked, beq_eq_false_iff_ne]
  exact fun heq => hne (Option.some.inj heq)

theorem topShape?_cases (hshape : topShape? tokens = some shape) :
    (∃ domain, tokens = [domain] ∧ marked '.' domain = false ∧ shape = .zone domain) ∨
      ∃ name value, tokens = [name, value] ∧ marked '.' name = true ∧
        shape = .default (unmarked '.' name) value := by
  rw [topShape?.eq_def] at hshape
  split at hshape
  · next domain =>
    split at hshape
    · exact absurd hshape (by simp)
    · next hmarked =>
      exact Or.inl ⟨domain, rfl, eq_false_of_ne_true hmarked, (Option.some.inj hshape).symm⟩
  · next name value =>
    split at hshape
    · next hmarked =>
      exact Or.inr ⟨name, value, rfl, hmarked, (Option.some.inj hshape).symm⟩
    · exact absurd hshape (by simp)
  · exact absurd hshape (by simp)

theorem bodyShape?_cases (hshape : bodyShape? tokens = some shape) :
    (∃ first value, tokens = [first, value] ∧ marked '.' first = true ∧
        shape = .override (unmarked '.' first) value) ∨
      (∃ first filters, tokens = first :: filters ∧ marked '!' first = true ∧
        shape = .directive (unmarked '!' first) filters) ∨
        ∃ name hostname destination priority,
          tokens = name :: hostname :: destination :: priority.toList ∧ marked '!' name = false ∧
            shape = .record name hostname destination priority := by
  rw [bodyShape?.eq_def] at hshape
  split at hshape
  · exact absurd hshape (by simp)
  · next first rest =>
    split at hshape
    · next hmarked =>
      exact Or.inr (Or.inl ⟨first, rest, rfl, hmarked, (Option.some.inj hshape).symm⟩)
    · next hplain =>
      have hname := eq_false_of_ne_true hplain
      split at hshape
      · split at hshape
        · next hmarked =>
          exact Or.inl ⟨first, _, rfl, hmarked, (Option.some.inj hshape).symm⟩
        · exact absurd hshape (by simp)
      · exact Or.inr (Or.inr ⟨first, _, _, none, rfl, hname, (Option.some.inj hshape).symm⟩)
      · exact Or.inr (Or.inr ⟨first, _, _, some _, rfl, hname, (Option.some.inj hshape).symm⟩)
      · exact absurd hshape (by simp)

theorem shape?_cases (hshape : line.shape? = some shape) :
    shape = .nothing ∧ (line.isComment = true ∨ line.tokens = []) ∨
      line.isComment = false ∧ (line.indent = 0 ∧ topShape? line.tokens = some shape ∨
        line.indent = 1 ∧ bodyShape? line.tokens = some shape) := by
  rw [shape?] at hshape
  split at hshape
  · next hnothing =>
    rw [Bool.or_eq_true, List.isEmpty_iff] at hnothing
    exact Or.inl ⟨(Option.some.inj hshape).symm, hnothing⟩
  · next hnothing =>
    rw [Bool.or_eq_true, not_or, Bool.not_eq_true] at hnothing
    refine Or.inr ⟨hnothing.1, ?_⟩
    split at hshape
    · next hindent => exact Or.inl ⟨hindent, hshape⟩
    · next hindent => exact Or.inr ⟨hindent, hshape⟩
    · exact absurd hshape (by simp)

/-- A line plays the parts of its shape. -/
theorem parts_of_shape? (hshape : line.shape? = some shape) :
    line.zone? = shape.zone? ∧ line.default? = shape.default? ∧
      line.override? = shape.override? := by
  simp only [zone?, default?, override?, setting?]
  rcases shape?_cases hshape with ⟨rfl, hnothing⟩ | ⟨hcomment, ⟨hindent, htop⟩ | ⟨hindent, hbody⟩⟩
  · rcases hnothing with hcomment | htokens
    · simp [hcomment, Shape.zone?, Shape.default?, Shape.override?]
    · simp [htokens, Shape.zone?, Shape.default?, Shape.override?]
  · rcases topShape?_cases htop with ⟨domain, htokens, hmarked, rfl⟩ |
      ⟨name, value, htokens, hmarked, rfl⟩
    · simp [hcomment, hindent, htokens, hmarked, Shape.zone?, Shape.default?, Shape.override?]
    · simp [hcomment, hindent, htokens, hmarked, Shape.zone?, Shape.default?, Shape.override?]
  · rcases bodyShape?_cases hbody with ⟨name, value, htokens, hmarked, rfl⟩ |
      ⟨first, filters, htokens, hmarked, rfl⟩ |
        ⟨name, hostname, destination, priority, htokens, hmarked, rfl⟩
    · simp [hcomment, hindent, htokens, hmarked, Shape.zone?, Shape.default?, Shape.override?]
    · have hplain : marked '.' first = false := marked_unique (by decide) hmarked
      refine ⟨by simp [hindent, Shape.zone?], by simp [hindent, Shape.default?], ?_⟩
      cases filters with
      | nil => simp [htokens, Shape.override?]
      | cons value rest => cases rest <;> simp [htokens, hplain, Shape.override?]
    · refine ⟨by simp [hindent, Shape.zone?], by simp [hindent, Shape.default?], ?_⟩
      simp [htokens, Shape.override?]

end Line

/-! ### One more line -/

variable {before : List Line} {line : Line} {domain : String} {written : List (String × String)}

theorem mem_of_openAfter {lines : List Line} (hopen : openAfter lines = some domain) :
    domain ∈ lines.filterMap Line.zone? :=
  List.mem_of_getLast? hopen

theorem filterMap_append_singleton {α : Type} (part : Line → Option α) (before : List Line)
    (line : Line) :
    (before ++ [line]).filterMap part = before.filterMap part ++ (part line).toList := by
  rw [List.filterMap_append]
  cases hpart : part line <;> simp [hpart]

theorem openAfter_append (before : List Line) (line : Line) :
    openAfter (before ++ [line]) = line.zone?.or (openAfter before) := by
  rw [openAfter, filterMap_append_singleton]
  cases line.zone? with
  | none => rw [Option.toList_none, List.append_nil, Option.none_or, openAfter]
  | some domain => rw [Option.toList_some, List.getLast?_concat, Option.some_or]

theorem linesOf_append (before : List Line) (line : Line) (domain : String) :
    linesOf (before ++ [line]) domain =
      linesOf before domain ++ if openAfter before = some domain then [line] else [] := by
  rw [linesOf, List.zipIdx_append, List.filter_append, List.map_append]
  congr 1
  · refine congrArg (List.map Prod.fst) (List.filter_congr fun (other, place) hmem => ?_)
    have hplace : place < 0 + before.length := (List.mem_zipIdx hmem).2.1
    have htake : (before ++ [line]).take place = before.take place :=
      List.take_append_of_le_length (by omega)
    simp only [htake]
  · have htake : (before ++ [line]).take (0 + before.length) = before := by simp
    rw [List.zipIdx_singleton]
    by_cases hopen : openAfter before = some domain
    · rw [if_pos hopen, List.filter_cons_of_pos (by simp only [htake, hopen, decide_true])]
      rfl
    · rw [if_neg hopen, List.filter_cons_of_neg (by simp only [htake, hopen, decide_false]; decide)]
      rfl

/-- Nothing belongs to a domain that is not named yet. -/
theorem linesOf_eq_nil (hnew : domain ∉ before.filterMap Line.zone?) :
    linesOf before domain = [] := by
  rw [linesOf, List.map_eq_nil_iff, List.filter_eq_nil_iff]
  rintro ⟨line, place⟩ - hopen
  have hmem := mem_of_openAfter (of_decide_eq_true hopen)
  exact hnew (((List.take_sublist place before).filterMap _).subset hmem)

theorem aboveFirst_append_of_mem (hseen : domain ∈ before.filterMap Line.zone?) :
    aboveFirst (before ++ [line]) domain = aboveFirst before domain := by
  obtain ⟨other, hother, hzone⟩ := List.mem_filterMap.1 hseen
  have hshorter : (aboveFirst before domain).length ≠ before.length := fun hlength => by
    have hall : aboveFirst before domain = before :=
      (List.takeWhile_sublist _).eq_of_length hlength
    rw [← hall] at hother
    exact absurd hzone (of_decide_eq_true (List.all_eq_true.1 List.all_takeWhile other hother))
  exact List.takeWhile_append.trans (if_neg hshorter)

theorem aboveFirst_of_not_mem (hnew : domain ∉ before.filterMap Line.zone?)
    (hzone : line.zone? = some domain) : aboveFirst (before ++ [line]) domain = before := by
  have hall : ∀ other ∈ before, decide (other.zone? ≠ some domain) = true := fun other hother =>
    decide_eq_true fun heq => hnew (List.mem_filterMap.2 ⟨other, hother, heq⟩)
  rw [aboveFirst, List.takeWhile_append_of_pos hall, List.takeWhile_cons_of_neg (by simp [hzone]),
    List.append_nil]

theorem settingsOf_append (hseen : domain ∈ before.filterMap Line.zone?) :
    settingsOf (before ++ [line]) domain =
      settingsOf before domain ++
        if openAfter before = some domain then line.override?.toList else [] := by
  rw [settingsOf, aboveFirst_append_of_mem hseen, linesOf_append, List.filterMap_append,
    ← List.append_assoc, ← settingsOf]
  congr 1
  split
  · exact filterMap_append_singleton Line.override? [] line
  · rfl

theorem settingsOf_of_not_mem (hnew : domain ∉ before.filterMap Line.zone?)
    (hzone : line.zone? = some domain) :
    settingsOf (before ++ [line]) domain = before.filterMap Line.default? := by
  have hopen : openAfter before ≠ some domain := fun hopen => hnew (mem_of_openAfter hopen)
  rw [settingsOf, aboveFirst_of_not_mem hnew hzone, linesOf_append, linesOf_eq_nil hnew,
    if_neg hopen]
  exact List.append_nil _

theorem entriesOf_append (before : List Line) (line : Line) (domain : String) :
    entriesOf (before ++ [line]) domain =
      entriesOf before domain ++
        if openAfter before = some domain then line.entry?.toList else [] := by
  rw [entriesOf, linesOf_append, List.filterMap_append, ← entriesOf]
  congr 1
  split
  · exact filterMap_append_singleton Line.entry? [] line
  · rfl

theorem entriesOf_of_not_mem (hnew : domain ∉ before.filterMap Line.zone?) :
    entriesOf (before ++ [line]) domain = [] := by
  have hopen : openAfter before ≠ some domain := fun hopen => hnew (mem_of_openAfter hopen)
  rw [entriesOf, linesOf_append, linesOf_eq_nil hnew, if_neg hopen]
  rfl

theorem overwrite_append {settings next : Settings} {name value : String}
    (hwritten : overwrite settings written = .ok next) :
    overwrite settings (written ++ [(name, value)]) = Reading.assign next name value := by
  rw [overwrite, List.foldlM_append, ← overwrite, hwritten]
  exact bind_pure (Reading.assign next name value)

end ZoneSync.Layout
