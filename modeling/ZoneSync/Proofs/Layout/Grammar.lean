import ZoneSync.Proofs.Layout.Blocks
import ZoneSync.Proofs.Settings

/-!
# The grammar of lines

What a line may say, told by its tokens: a setting and a value that it takes, a directive with
filters of different keys, or a record that is sound. The readers of these parts accept just what
the grammar allows, whatever has been read before.
-/

namespace ZoneSync

/-! ### Numerals and names -/

namespace Text

/-- The text is a numeral of that value: decimal digits, and perhaps a plus sign before them. -/
def IsNumeral (text : List Char) (n : Nat) : Prop :=
  ∃ digits, (text = digits ∨ text = '+' :: digits) ∧ digits ≠ [] ∧
    (∀ c ∈ digits, c.isDigit = true) ∧ Nat.ofDigitChars 10 digits 0 = n

theorem digits?_eq_some_iff {text : List Char} {n : Nat} :
    digits? text = some n ↔
      text ≠ [] ∧ (∀ c ∈ text, c.isDigit = true) ∧ Nat.ofDigitChars 10 text 0 = n := by
  rw [digits?, ← List.all_eq_true, ← List.isEmpty_eq_false_iff]
  cases text.isEmpty with
  | true => simp
  | false =>
    cases text.all Char.isDigit with
    | false => simp
    | true => simp [digitsValue, Nat.ofDigitChars]

theorem numeral?_eq_some_iff {bound n : Nat} {text : List Char} :
    numeral? bound text = some n ↔ IsNumeral text n ∧ n < bound := by
  by_cases hplus : ∃ rest, text = '+' :: rest
  · obtain ⟨rest, rfl⟩ := hplus
    rw [numeral?, Option.filter_eq_some_iff, decide_eq_true_eq, digits?_eq_some_iff]
    refine and_congr_left fun _ => ⟨fun h => ⟨rest, Or.inr rfl, h⟩, ?_⟩
    rintro ⟨digits, rfl | heq, hne, hdigits, hvalue⟩
    · exact absurd (hdigits '+' List.mem_cons_self) (by decide)
    · rw [(List.cons.inj heq).2]
      exact ⟨hne, hdigits, hvalue⟩
  · rw [numeral?.eq_2 _ _ fun rest heq => hplus ⟨rest, heq⟩, Option.filter_eq_some_iff,
      decide_eq_true_eq, digits?_eq_some_iff]
    refine and_congr_left fun _ => ⟨fun h => ⟨text, Or.inl rfl, h⟩, ?_⟩
    rintro ⟨digits, rfl | heq, hdigits⟩
    · exact hdigits
    · exact absurd ⟨digits, heq⟩ hplus

end Text

/-- Looking up a name finds what bears it, if each name finds its bearer. -/
theorem find?_name_eq_some_iff {α β : Type} [BEq β] [LawfulBEq β] {all : List α} {name : α → β}
    (hself : ∀ a, all.find? (name a == name ·) = some a) {text : β} {a : α} :
    all.find? (text == name ·) = some a ↔ text = name a := by
  constructor
  · intro hfound
    have hsame := List.find?_some hfound
    exact beq_iff_eq.1 hsame
  · rintro rfl
    exact hself a

theorem Setting.ofName?_eq_some_iff {name : String} {setting : Setting} :
    ofName? name = some setting ↔ name = setting.name :=
  find?_name_eq_some_iff fun setting => by cases setting <;> decide

theorem Layout.Action.ofName?_eq_some_iff {name : String} {action : Action} :
    ofName? name = some action ↔ name = action.name :=
  find?_name_eq_some_iff fun action => by cases action; decide

/-- The name of a record type, in letters of either case. -/
def RecordType.IsName (name : String) (type : RecordType) : Prop :=
  name.toList.map Char.toUpper = type.name.toList

theorem RecordType.ofName?_eq_some_iff {name : String} {type : RecordType} :
    ofName? name = some type ↔ IsName name type :=
  find?_name_eq_some_iff fun type => by cases type <;> decide

/-! ### Settings -/

/-- The value is one that the setting takes: a positive number of 32 bits, or a word for a switch in
letters of either case. -/
def Setting.Takes (value : String) : Setting → Prop
  | .dnssec =>
    String.ofList (value.toList.map Char.toLower) ∈ Settings.yesWords ++ Settings.noWords
  | _ => ∃ seconds, Text.IsNumeral value.toList seconds ∧ 0 < seconds ∧ seconds < UInt32.size

namespace Settings

theorem exists_timer?_iff {value : String} :
    (∃ seconds, timer? value = some seconds) ↔
      ∃ n, Text.IsNumeral value.toList n ∧ 0 < n ∧ n < UInt32.size := by
  simp only [timer?, Option.map_eq_some_iff, Option.filter_eq_some_iff, decide_eq_true_eq,
    Text.numeral?_eq_some_iff]
  constructor
  · rintro ⟨_, n, ⟨⟨hnumeral, hsize⟩, hpositive⟩, -⟩
    exact ⟨n, hnumeral, hpositive, hsize⟩
  · rintro ⟨n, hnumeral, hpositive, hsize⟩
    exact ⟨_, n, ⟨⟨hnumeral, hsize⟩, hpositive⟩, rfl⟩

theorem exists_switch?_iff {value : String} :
    (∃ on, switch? value = some on) ↔ Setting.dnssec.Takes value := by
  simp only [switch?, Setting.Takes, List.mem_append]
  split
  · next hyes => simp [hyes]
  · next hyes =>
    split
    · next hno => simp [hno]
    · next hno => simp [hyes, hno]

/-- A setting can be read from just the values that it takes. -/
theorem exists_set_iff {settings : Settings} {setting : Setting} {value : String} :
    (∃ next, settings.set setting value = .ok next) ↔ setting.Takes value := by
  simp only [set_eq_ok_iff]
  constructor
  · rintro ⟨next, hspelled, -⟩
    cases setting with
    | dnssec => exact exists_switch?_iff.1 ⟨_, hspelled⟩
    | _ => exact exists_timer?_iff.1 ⟨_, hspelled⟩
  · intro htakes
    rcases store_cases settings setting value with ⟨next, -, hnext⟩ | ⟨error, -, hnone⟩
    · exact ⟨next, hnext⟩
    · cases setting with
      | dnssec =>
        obtain ⟨on, hon⟩ := exists_switch?_iff.2 htakes
        exact absurd hon (hnone ⟨0, 0, 0, 0, on⟩)
      | _ =>
        obtain ⟨seconds, hseconds⟩ := exists_timer?_iff.2 htakes
        exact absurd hseconds (hnone ⟨seconds, seconds, seconds, seconds, false⟩)

end Settings

/-- An assignment needs a setting of that name and a value of it, and changes nothing else. -/
theorem Layout.Reading.assign_eq_ok_iff {settings next : Settings} {name value : String} :
    assign settings name value = .ok next ↔
      ∃ setting : Setting, name = setting.name ∧
        next.IsSpelledBy value setting ∧ next = next.adopt settings setting := by
  rw [assign]
  cases hname : Setting.ofName? name with
  | none =>
    simp only [reduceCtorEq, false_iff, not_exists, not_and]
    intro setting heq
    rw [Setting.ofName?_eq_some_iff.2 heq] at hname
    exact absurd hname (by simp)
  | some setting =>
    simp only [mapError_eq_ok_iff, Settings.set_eq_ok_iff]
    constructor
    · exact fun hset => ⟨setting, Setting.ofName?_eq_some_iff.1 hname, hset⟩
    · rintro ⟨other, heq, hset⟩
      rw [Setting.ofName?_eq_some_iff.2 heq] at hname
      rwa [← Option.some.inj hname]

theorem Layout.Reading.exists_assign_iff {settings : Settings} {name value : String} :
    (∃ next, assign settings name value = .ok next) ↔
      ∃ setting : Setting, name = setting.name ∧ setting.Takes value := by
  simp only [assign_eq_ok_iff, ← @Settings.exists_set_iff settings, Settings.set_eq_ok_iff]
  rw [exists_comm]
  simp only [exists_and_left]

namespace Layout

/-! ### Marks -/

/-- The token is the word after one or more of the marks. -/
def IsMarked (mark : Char) (token word : String) : Prop :=
  ∃ more, token.toList = List.replicate (more + 1) mark ++ word.toList

theorem isMarked_iff {mark : Char} {token word : String} (hword : word.toList.head? ≠ some mark) :
    IsMarked mark token word ↔
      Line.marked mark token = true ∧ Line.unmarked mark token = word := by
  have hkept : word.toList.dropWhile (fun c => decide (c = mark)) = word.toList := by
    cases hlist : word.toList with
    | nil => rfl
    | cons c rest =>
      refine List.dropWhile_cons_of_neg fun heq => hword ?_
      rw [hlist, List.head?_cons, of_decide_eq_true heq]
  constructor
  · rintro ⟨more, htoken⟩
    refine ⟨?_, ?_⟩
    · rw [Line.marked, htoken, List.replicate_succ, List.cons_append, List.head?_cons,
        beq_self_eq_true]
    · have hmarks : ∀ c ∈ List.replicate (more + 1) mark, decide (c = mark) = true :=
        fun c hc => decide_eq_true (List.eq_of_mem_replicate hc)
      rw [Line.unmarked, htoken, List.dropWhile_append_of_pos hmarks, hkept, String.ofList_toList]
  · rintro ⟨hmarked, rfl⟩
    rw [Line.marked, beq_iff_eq] at hmarked
    obtain ⟨rest, htoken⟩ := List.head?_eq_some_iff.1 hmarked
    have hmarks : mark :: rest.takeWhile (fun c => decide (c = mark)) =
        List.replicate ((rest.takeWhile fun c => decide (c = mark)).length + 1) mark := by
      refine List.eq_replicate_iff.2 ⟨rfl, fun c hc => ?_⟩
      rcases List.mem_cons.1 hc with rfl | hc
      · rfl
      · exact of_decide_eq_true (List.all_eq_true.1 List.all_takeWhile c hc)
    have hdrop : (mark :: rest).dropWhile (fun c => decide (c = mark)) =
        rest.dropWhile fun c => decide (c = mark) :=
      List.dropWhile_cons_of_pos (decide_eq_true rfl)
    refine ⟨(rest.takeWhile fun c => decide (c = mark)).length, ?_⟩
    rw [← hmarks, Line.unmarked, String.toList_ofList, htoken, hdrop, List.cons_append,
      List.takeWhile_append_dropWhile]

/-! ### Directives -/

/-- The keys of filters. -/
inductive Filter.Key where
  | type | hostname | destination
  deriving DecidableEq, Repr

def Filter.Key.name : Filter.Key → String
  | .type => "type"
  | .hostname => "hostname"
  | .destination => "destination"

/-- What one filter demands. -/
structure Filter where
  key : Filter.Key
  value : String
  deriving DecidableEq, Repr

namespace Filter

def text (filter : Filter) : String :=
  filter.key.name ++ "=" ++ filter.value

/-- A filter by type names a type. -/
def IsKnown (filter : Filter) : Prop :=
  filter.key = .type → ∃ type, RecordType.IsName filter.value type

end Filter

namespace Pattern

/-- Whether the pattern demands something of that part. -/
def has (pattern : Pattern) : Filter.Key → Bool
  | .type => pattern.type.isSome
  | .hostname => pattern.hostname.isSome
  | .destination => pattern.destination.isSome

theorem eq_of_cutAtEquals? {text key value : List Char}
    (hcut : cutAtEquals? text = some (key, value)) : text = key ++ '=' :: value := by
  induction text generalizing key with
  | nil => exact absurd hcut (by simp [cutAtEquals?])
  | cons c rest ih =>
    rw [cutAtEquals?] at hcut
    split at hcut
    · next hequals =>
      obtain ⟨rfl, rfl⟩ := Prod.mk.inj (Option.some.inj hcut)
      rw [hequals]
      rfl
    · obtain ⟨⟨before, after⟩, hrest, heq⟩ := Option.map_eq_some_iff.1 hcut
      obtain ⟨rfl, rfl⟩ := Prod.mk.inj heq
      rw [ih hrest]
      rfl

theorem cutAtEquals?_append {key : List Char} (hkey : '=' ∉ key) (value : List Char) :
    cutAtEquals? (key ++ '=' :: value) = some (key, value) := by
  induction key with
  | nil => simp [cutAtEquals?]
  | cons c rest ih =>
    rw [List.mem_cons, not_or] at hkey
    rw [List.cons_append, cutAtEquals?, if_neg (Ne.symm hkey.1), ih hkey.2]
    rfl

theorem keyValue?_text (filter : Filter) :
    keyValue? filter.text = some (filter.key.name, filter.value) := by
  have hkey : '=' ∉ filter.key.name.toList := by
    cases filter.key <;> decide
  have htext : filter.text.toList = filter.key.name.toList ++ '=' :: filter.value.toList := by
    simp [Filter.text]
  rw [keyValue?, htext, cutAtEquals?_append hkey]
  simp

theorem eq_text_of_keyValue? {token value : String} {key : Filter.Key}
    (hkey : keyValue? token = some (key.name, value)) : token = Filter.text ⟨key, value⟩ := by
  obtain ⟨⟨before, after⟩, hcut, heq⟩ := Option.map_eq_some_iff.1 hkey
  obtain ⟨hbefore, rfl⟩ := Prod.mk.inj heq
  have htoken := eq_of_cutAtEquals? hcut
  rw [← String.toList_inj, htoken, Filter.text, ← hbefore]
  simp

/-- Adding a filter succeeds if its key is new and its value is known. -/
theorem exists_addFilter_text {pattern : Pattern} {filter : Filter} (hknown : filter.IsKnown)
    (hnew : pattern.has filter.key = false) :
    ∃ next, pattern.addFilter filter.text = .ok next ∧
      ∀ key, next.has key = (pattern.has key || key == filter.key) := by
  obtain ⟨key, value⟩ := filter
  rw [addFilter, keyValue?_text]
  cases key with
  | type =>
    obtain ⟨type, htype⟩ := hknown rfl
    have hnone : pattern.type.isSome = false := hnew
    simp only [Filter.Key.name, hnone, RecordType.ofName?_eq_some_iff.2 htype]
    refine ⟨_, rfl, fun key => ?_⟩
    cases key <;> simp [has]
  | hostname =>
    have hnone : pattern.hostname.isSome = false := hnew
    simp only [Filter.Key.name, hnone]
    refine ⟨_, rfl, fun key => ?_⟩
    cases key <;> simp [has]
  | destination =>
    have hnone : pattern.destination.isSome = false := hnew
    simp only [Filter.Key.name, hnone]
    refine ⟨_, rfl, fun key => ?_⟩
    cases key <;> simp [has]

theorem exists_filter_of_addFilter {pattern next : Pattern} {token : String}
    (hadd : pattern.addFilter token = .ok next) :
    ∃ filter : Filter, token = filter.text ∧ filter.IsKnown ∧ pattern.has filter.key = false := by
  rw [addFilter] at hadd
  split at hadd
  · exact absurd hadd (by simp)
  · next key value hkey =>
    split at hadd
    · split at hadd
      · exact absurd hadd (by simp)
      · next hnew =>
        split at hadd
        · next type htype =>
          refine ⟨⟨.type, value⟩, eq_text_of_keyValue? hkey,
            fun _ => ⟨type, RecordType.ofName?_eq_some_iff.1 htype⟩, eq_false_of_ne_true hnew⟩
        · exact absurd hadd (by simp)
    · split at hadd
      · exact absurd hadd (by simp)
      · next hnew =>
        exact ⟨⟨.hostname, value⟩, eq_text_of_keyValue? hkey, nofun, eq_false_of_ne_true hnew⟩
    · split at hadd
      · exact absurd hadd (by simp)
      · next hnew =>
        exact ⟨⟨.destination, value⟩, eq_text_of_keyValue? hkey, nofun, eq_false_of_ne_true hnew⟩
    · exact absurd hadd (by simp)

/-- Filters can be added to a pattern if their keys are new to it and to each other. -/
theorem exists_foldlM_addFilter_iff {pattern : Pattern} {tokens : List String} :
    (∃ next, tokens.foldlM addFilter pattern = .ok next) ↔
      ∃ filters : List Filter, tokens = filters.map Filter.text ∧
        (∀ filter ∈ filters, filter.IsKnown ∧ pattern.has filter.key = false) ∧
          (filters.map Filter.key).Nodup := by
  induction tokens generalizing pattern with
  | nil =>
    refine ⟨fun _ => ⟨[], rfl, ?_, List.nodup_nil⟩, fun _ => ⟨pattern, rfl⟩⟩
    exact fun filter hfilter => absurd hfilter List.not_mem_nil
  | cons token rest ih =>
    simp only [List.foldlM_cons, bind_eq_ok_iff]
    constructor
    · rintro ⟨next, middle, hadd, hrest⟩
      obtain ⟨filter, rfl, hknown, hnew⟩ := exists_filter_of_addFilter hadd
      obtain ⟨added, hadded, hhas⟩ := exists_addFilter_text hknown hnew
      obtain rfl := Except.ok.inj (hadd.symm.trans hadded)
      obtain ⟨filters, rfl, hfilters, hnodup⟩ := ih.1 ⟨next, hrest⟩
      have hothers : ∀ other ∈ filters, pattern.has other.key = false ∧ other.key ≠ filter.key := by
        intro other hother
        have hboth := (hfilters other hother).2
        rw [hhas, Bool.or_eq_false_iff, beq_eq_false_iff_ne] at hboth
        exact hboth
      refine ⟨filter :: filters, rfl, List.forall_mem_cons.2 ⟨⟨hknown, hnew⟩, ?_⟩, ?_⟩
      · exact fun other hother => ⟨(hfilters other hother).1, (hothers other hother).1⟩
      · refine List.nodup_cons.2 ⟨fun hmem => ?_, hnodup⟩
        obtain ⟨other, hother, hsame⟩ := List.mem_map.1 hmem
        exact (hothers other hother).2 hsame
    · rintro ⟨filters, htokens, hfilters, hnodup⟩
      obtain ⟨filter, others, rfl⟩ : ∃ filter others, filters = filter :: others :=
        List.exists_cons_of_ne_nil fun hnil => by simp [hnil] at htokens
      obtain ⟨rfl, rfl⟩ := List.cons.inj htokens
      obtain ⟨⟨hknown, hnew⟩, hothers⟩ := List.forall_mem_cons.1 hfilters
      obtain ⟨hfresh, hnodup⟩ := List.nodup_cons.1 hnodup
      obtain ⟨middle, hadd, hhas⟩ := exists_addFilter_text hknown hnew
      have hrest : ∀ other ∈ others, other.IsKnown ∧ middle.has other.key = false := by
        intro other hother
        refine ⟨(hothers other hother).1, ?_⟩
        rw [hhas, (hothers other hother).2, Bool.false_or, beq_eq_false_iff_ne]
        exact fun hsame => hfresh (hsame ▸ List.mem_map_of_mem hother)
      obtain ⟨next, hnext⟩ := ih.2 ⟨others, rfl, hrest, hnodup⟩
      exact ⟨next, middle, hadd, hnext⟩

end Pattern

/-- The tokens of a directive: the marked action, and filters of different keys. -/
def IsDirective (tokens : List String) : Prop :=
  ∃ (first : String) (filters : List Filter), tokens = first :: filters.map Filter.text ∧
    IsMarked '!' first "remove-record" ∧ (∀ filter ∈ filters, filter.IsKnown) ∧
      (filters.map Filter.key).Nodup

theorem exists_parse_iff {action : String} {tokens : List String} :
    (∃ directive, Directive.parse action tokens = .ok directive) ↔
      action = "remove-record" ∧ ∃ filters : List Filter, tokens = filters.map Filter.text ∧
        (∀ filter ∈ filters, filter.IsKnown) ∧ (filters.map Filter.key).Nodup := by
  have hnone : ∀ key, Pattern.any.has key = false := fun key => by cases key <;> rfl
  have hfilters : (∃ pattern, Pattern.ofFilters tokens = .ok pattern) ↔
      ∃ filters : List Filter, tokens = filters.map Filter.text ∧
        (∀ filter ∈ filters, filter.IsKnown) ∧ (filters.map Filter.key).Nodup := by
    rw [Pattern.ofFilters, Pattern.exists_foldlM_addFilter_iff]
    simp only [hnone, and_true]
  rw [← hfilters, Directive.parse]
  cases haction : Action.ofName? action with
  | none =>
    have hother : action ≠ "remove-record" := fun heq => by
      have hnamed : Action.ofName? action = some .removeRecord :=
        Action.ofName?_eq_some_iff.2 heq
      exact absurd (haction.symm.trans hnamed) (by simp)
    simp [hother]
  | some named =>
    have hsame : action = "remove-record" := by
      rw [Action.ofName?_eq_some_iff.1 haction]
      cases named
      rfl
    simp only [bind_eq_ok_iff, hsame, true_and]
    constructor
    · rintro ⟨_, pattern, hpattern, -⟩
      exact ⟨pattern, hpattern⟩
    · rintro ⟨pattern, hpattern⟩
      exact ⟨_, pattern, hpattern, rfl⟩

/-! ### Records -/

/-- The tokens of a record: a type that is no directive, a hostname, a destination, and perhaps a
priority, which together are a sound record. -/
def IsRecord (tokens : List String) : Prop :=
  ∃ (name hostname destination : String) (written : Option String) (type : RecordType)
    (priority : Option UInt16) (record : Record),
    tokens = name :: hostname :: destination :: written.toList ∧ name.toList.head? ≠ some '!' ∧
      RecordType.IsName name type ∧
        Option.Rel (fun text priority => Text.IsNumeral text.toList priority.toNat)
          written priority ∧
          Record.new type hostname destination priority = .ok record

theorem readPriority_eq_ok_iff {text : String} {priority : UInt16} :
    Reading.readPriority text = .ok priority ↔ Text.IsNumeral text.toList priority.toNat := by
  have hsize : priority.toNat < UInt16.size := priority.toNat_lt_size
  rw [Reading.readPriority]
  constructor
  · intro hread
    split at hread
    · next n hnumeral =>
      obtain ⟨hnumeral, hbound⟩ := Text.numeral?_eq_some_iff.1 hnumeral
      rw [← Except.ok.inj hread, UInt16.toNat_ofNat_of_lt' hbound]
      exact hnumeral
    · exact absurd hread (by simp)
  · intro hnumeral
    rw [Text.numeral?_eq_some_iff.2 ⟨hnumeral, hsize⟩]
    simp only [UInt16.ofNat_toNat]

theorem exists_readRecord_iff {name hostname destination : String} {written : Option String} :
    (∃ record, Reading.readRecord name hostname destination written = .ok record) ↔
      ∃ (type : RecordType) (priority : Option UInt16) (record : Record),
        RecordType.IsName name type ∧
          Option.Rel (fun text priority => Text.IsNumeral text.toList priority.toNat)
            written priority ∧
            Record.new type hostname destination priority = .ok record := by
  have hpriority : ∀ priority, written.mapM Reading.readPriority = .ok priority ↔
      Option.Rel (fun text priority => Text.IsNumeral text.toList priority.toNat)
        written priority := by
    intro priority
    cases written with
    | none =>
      constructor
      · exact fun hnone => Except.ok.inj hnone ▸ .none
      · rintro ⟨⟩
        rfl
    | some text =>
      have hmap : (some text).mapM Reading.readPriority =
          (Reading.readPriority text).map some := Option.mapM_some ..
      rw [hmap, map_eq_ok_iff]
      constructor
      · rintro ⟨number, hread, rfl⟩
        exact .some (readPriority_eq_ok_iff.1 hread)
      · rintro ⟨hnumeral⟩
        exact ⟨_, readPriority_eq_ok_iff.2 hnumeral, rfl⟩
  rw [Reading.readRecord]
  cases hname : RecordType.ofName? name with
  | none =>
    simp only [reduceCtorEq, exists_false, false_iff, not_exists, not_and]
    intro type _ _ htype
    rw [RecordType.ofName?_eq_some_iff.2 htype] at hname
    exact absurd hname (by simp)
  | some type =>
    have htype := RecordType.ofName?_eq_some_iff.1 hname
    simp only [bind_eq_ok_iff, mapError_eq_ok_iff, hpriority]
    constructor
    · rintro ⟨record, priority, hwritten, hnew⟩
      exact ⟨type, priority, record, htype, hwritten, hnew⟩
    · rintro ⟨other, priority, record, hother, hwritten, hnew⟩
      rw [RecordType.ofName?_eq_some_iff.2 hother] at hname
      rw [← Option.some.inj hname]
      exact ⟨record, priority, hwritten, hnew⟩

end Layout

end ZoneSync
