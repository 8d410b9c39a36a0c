import ZoneSync.Layout.Printer
import ZoneSync.Proofs.Layout.Line
import ZoneSync.Proofs.Layout.Reading
import ZoneSync.Proofs.Settings

/-!
# Reading written lines

A layout is written as lines of tokens. Each kind of line is read with the shape that it was written
for, and its effect is the one meant: the zone is opened, the setting gets its value, the record is
added without its identifier.
-/

namespace ZoneSync

open Text

namespace Record

/-- The record without an identifier. -/
def bare (record : Record) : Record :=
  { record with id := none }

/-- The tokens of the line that declares the record. -/
def pieces (record : Record) : List (List Char) :=
  [record.type.name.toList, record.hostname.toList, record.destination.toList] ++
    (record.priority.map fun priority => Nat.toDigits 10 priority.toNat).toList

/-- The shape of that line. -/
def shape (record : Record) : Layout.Shape :=
  .record record.type.name record.hostname record.destination
    (record.priority.map fun priority => toString priority.toNat)

theorem toList_layoutLine (record : Record) :
    record.layoutLine.toList = Layout.Line.written 1 record.pieces := by
  rw [layoutLine, Layout.Line.written, pieces]
  cases record.priority with
  | none => simp [List.intercalate_cons_cons]
  | some priority =>
    simp [List.intercalate_cons_cons, Nat.toList_repr]
    rfl

theorem isToken_name (type : RecordType) : isToken type.name.toList = true := by
  cases type <;> decide

theorem isToken_hostname (content : Content) : isToken content.hostname.toList = true := by
  have hsound := content.sound
  rw [Content.fault?] at hsound
  split at hsound
  · exact absurd hsound (by simp)
  · next htoken => simpa using htoken

theorem isToken_destination (content : Content) : isToken content.destination.toList = true := by
  have hsound := content.sound
  rw [Content.fault?, isToken_hostname] at hsound
  split at hsound
  · exact absurd hsound (by simp)
  · split at hsound
    · exact absurd hsound (by simp)
    · next htoken => simpa using htoken

theorem isToken_of_mem_pieces (record : Record) :
    ∀ piece ∈ record.pieces, isToken piece = true := by
  intro piece hpiece
  rcases List.mem_append.1 hpiece with hpiece | hpiece
  · simp only [List.mem_cons, List.not_mem_nil, or_false] at hpiece
    rcases hpiece with rfl | rfl | rfl
    · exact isToken_name _
    · exact isToken_hostname _
    · exact isToken_destination _
  · obtain ⟨priority, -, rfl⟩ := Option.map_eq_some_iff.1 (Option.mem_toList.1 hpiece)
    exact isToken_toDigits _

theorem not_mem_layoutLine (record : Record) :
    '\n' ∉ record.layoutLine.toList ∧ '\r' ∉ record.layoutLine.toList := by
  rw [toList_layoutLine]
  exact Layout.Line.not_mem_written_of_isToken record.isToken_of_mem_pieces

theorem shape?_pieces (record : Record) :
    (Layout.Line.mk 0 (Layout.Line.written 1 record.pieces)).shape? = some record.shape := by
  have hcomment : record.type.name.toList.head? ≠ some '#' := by
    cases record.type <;> decide
  have hdirective : Layout.Line.marked '!' record.type.name = false := by
    cases record.type <;> decide
  rw [Layout.Line.shape?_written record.isToken_of_mem_pieces (by simp [pieces]) hcomment, pieces,
    shape]
  cases record.priority with
  | none =>
    simp only [Option.map_none, Option.toList_none, List.append_nil, List.map_cons, List.map_nil,
      String.ofList_toList, Layout.Line.bodyShape?, hdirective]
    rfl
  | some priority =>
    simp only [Option.map_some, Option.toList_some, List.cons_append, List.nil_append,
      List.map_cons, List.map_nil, String.ofList_toList, Layout.Line.bodyShape?, hdirective]
    rfl

theorem ofName?_name (type : RecordType) : RecordType.ofName? type.name = some type := by
  cases type <;> decide

/-- A record whose rules are met is accepted. -/
theorem new_content (record : Record) :
    Record.new record.type record.hostname record.destination record.priority =
      .ok record.bare := by
  have hcontent : Content.new record.type record.hostname record.destination record.priority =
      .ok record.content := by
    rw [Content.new]
    split
    · rfl
    · next fault hfault =>
      rw [record.sound] at hfault
      exact absurd hfault (by simp)
  rw [Record.new, hcontent]
  rfl

theorem readPriority_toString (priority : UInt16) :
    Layout.Reading.readPriority (toString priority.toNat) = .ok priority := by
  rw [Layout.Reading.readPriority, Nat.toString_eq_repr, Nat.toList_repr,
    numeral?_toDigits priority.toNat_lt_size]
  simp only [UInt16.ofNat_toNat]

theorem entry?_shape (record : Record) :
    record.shape.entry? = some (.ok (.record record.bare)) := by
  have hpriority : (record.priority.map fun priority => toString priority.toNat).mapM
      Layout.Reading.readPriority = .ok record.priority := by
    cases record.priority with
    | none => rfl
    | some priority =>
      rw [Option.map_some, Option.mapM_some, readPriority_toString]
      rfl
  have hread : Layout.Reading.readRecord record.type.name record.hostname record.destination
      (record.priority.map fun priority => toString priority.toNat) = .ok record.bare := by
    rw [Layout.Reading.readRecord, ofName?_name]
    exact bind_eq_ok_iff.2 ⟨_, hpriority, mapError_eq_ok_iff.2 record.new_content⟩
  rw [shape, Layout.Shape.entry?, hread]
  rfl

end Record

namespace Settings

/-- The tokens of the line that declares a setting. -/
def pieces (settings : Settings) (setting : Setting) : List (List Char) :=
  ['.' :: setting.name.toList, (settings.value setting).toList]

theorem toList_layoutLine (settings : Settings) (setting : Setting) :
    (settings.layoutLine setting).toList = Layout.Line.written 1 (settings.pieces setting) := by
  simp [layoutLine, Layout.Line.written, pieces, List.intercalate_cons_cons]

theorem isToken_value (settings : Settings) (setting : Setting) :
    isToken (settings.value setting).toList = true := by
  cases setting with
  | dnssec =>
    rw [value]
    split <;> decide
  | _ =>
    rw [value, toList_timer]
    exact isToken_toDigits _

theorem isToken_of_mem_pieces (settings : Settings) (setting : Setting) :
    ∀ piece ∈ settings.pieces setting, isToken piece = true := by
  have hname : isToken ('.' :: setting.name.toList) = true := by cases setting <;> decide
  intro piece hpiece
  simp only [pieces, List.mem_cons, List.not_mem_nil, or_false] at hpiece
  rcases hpiece with rfl | rfl
  · exact hname
  · exact settings.isToken_value setting

theorem not_mem_layoutLine (settings : Settings) (setting : Setting) :
    '\n' ∉ (settings.layoutLine setting).toList ∧
      '\r' ∉ (settings.layoutLine setting).toList := by
  rw [toList_layoutLine]
  exact Layout.Line.not_mem_written_of_isToken (settings.isToken_of_mem_pieces setting)

theorem shape?_pieces (settings : Settings) (setting : Setting) :
    (Layout.Line.mk 0 (Layout.Line.written 1 (settings.pieces setting))).shape? =
      some (.override setting.name (settings.value setting)) := by
  have hname : Layout.Line.unmarked '.' (String.ofList ('.' :: setting.name.toList)) =
      setting.name := by cases setting <;> decide
  have hmarked : ∀ mark, Layout.Line.marked mark (String.ofList ('.' :: setting.name.toList)) =
      (some '.' == some mark) := fun mark => by rw [Layout.Line.marked, String.toList_ofList]; rfl
  rw [Layout.Line.shape?_written (settings.isToken_of_mem_pieces setting) (by simp [pieces])
    (by simp [pieces]), pieces]
  simp only [List.map_cons, List.map_nil, Layout.Line.bodyShape?, hmarked, hname,
    String.ofList_toList]
  rfl

theorem assign_value {source : Settings} (hpositive : source.Positive) (settings : Settings)
    (setting : Setting) :
    Layout.Reading.assign settings setting.name (source.value setting) =
      .ok (source.adopt settings setting) := by
  have hname : Setting.ofName? setting.name = some setting := by cases setting <;> decide
  rw [Layout.Reading.assign, hname]
  exact mapError_eq_ok_iff.2 (set_value hpositive settings setting)

end Settings

namespace Zone

/-- What has to hold of a zone for its lines to be read as they are meant. The rules for records
are part of their type. -/
structure IsPrintable (zone : Zone) : Prop where
  nonempty : zone.domain ≠ ""
  solid : IsSolid zone.domain.toList
  unmarked : zone.domain.toList.head? ≠ some '.'
  uncommented : zone.domain.toList.head? ≠ some '#'
  positive : zone.settings.Positive

instance (zone : Zone) : Decidable zone.IsPrintable :=
  decidable_of_iff
    (zone.domain ≠ "" ∧ IsSolid zone.domain.toList ∧ zone.domain.toList.head? ≠ some '.' ∧
      zone.domain.toList.head? ≠ some '#' ∧ zone.settings.Positive)
    ⟨fun ⟨hnonempty, hsolid, hunmarked, huncommented, hpositive⟩ =>
        ⟨hnonempty, hsolid, hunmarked, huncommented, hpositive⟩,
      fun ⟨hnonempty, hsolid, hunmarked, huncommented, hpositive⟩ =>
        ⟨hnonempty, hsolid, hunmarked, huncommented, hpositive⟩⟩

variable {zone : Zone}

theorem IsPrintable.isToken_domain (hprintable : zone.IsPrintable) :
    isToken zone.domain.toList = true :=
  isToken_of_isSolid (fun hnil => hprintable.nonempty (String.toList_eq_nil_iff.1 hnil))
    hprintable.solid

theorem toList_domain (zone : Zone) :
    zone.domain.toList = Layout.Line.written 0 [zone.domain.toList] := by
  rw [Layout.Line.written, List.intercalate_singleton]
  rfl

theorem IsPrintable.shape?_domain (hprintable : zone.IsPrintable) :
    (Layout.Line.mk 0 zone.domain.toList).shape? = some (.zone zone.domain) := by
  have htoken : ∀ piece ∈ [zone.domain.toList], isToken piece = true := fun piece hpiece =>
    List.mem_singleton.1 hpiece ▸ hprintable.isToken_domain
  have hmarked : Layout.Line.marked '.' zone.domain = false :=
    beq_eq_false_iff_ne.2 hprintable.unmarked
  rw [toList_domain, Layout.Line.shape?_written htoken (List.cons_ne_nil _ _)
    hprintable.uncommented]
  simp only [List.map_cons, List.map_nil, String.ofList_toList, Layout.Line.topShape?, hmarked]
  rfl

end Zone

end ZoneSync
