import ZoneSync.Command.Sources
import ZoneSync.Proofs.Layout.Merging
import ZoneSync.Proofs.Layout.Reading

/-!
# Loading several files

The layout of a file is that of its text, which is read without regard to the other files; only the
standard input can be read just once, and a second reading finds nothing in it. So loading succeeds
if every file could be loaded alone, and otherwise it fails as the first file does that could not.
What is loaded is the merge of the layouts, filtered, and the operator is warned of every domain in
a file that an earlier file has declared.
-/

namespace ZoneSync.Command

variable {surroundings : Surroundings} {inputRead : Bool} {path : String} {files : List String}
  {failure : Failure}

/-- The file can be read, and its text declares a layout. -/
def Loads (surroundings : Surroundings) (path : String) : Prop :=
  ∃ text layout, readSource surroundings false path = .ok text ∧ Layout.parse text = .ok layout

/-- The standard input declares a layout. -/
def LoadsInput (surroundings : Surroundings) : Prop :=
  ∃ text layout, Surroundings.decodeText surroundings.input = .ok text ∧
    Layout.parse text = .ok layout

/-- Why a file cannot be loaded; the failure names it. -/
inductive Fails (surroundings : Surroundings) (path : String) : Failure → Prop
  | unreadable {fault : ReadFault} :
    readSource surroundings false path = .error fault →
      Fails surroundings path (.unreadable (.file path) fault)
  | layout {text : String} {error : LayoutError} :
    readSource surroundings false path = .ok text → Layout.parse text = .error error →
      Fails surroundings path (.layout path error)

/-- A file with what it declares. -/
structure Declaration where
  path : String
  layout : Layout

/-- The files are read in turn. After the standard input has been read once, there is nothing left
in it. -/
inductive Declares (surroundings : Surroundings) : Bool → List String → List Declaration → Prop
  | nil {inputRead : Bool} : Declares surroundings inputRead [] []
  | cons {inputRead : Bool} {path text : String} {layout : Layout} {rest : List String}
    {others : List Declaration} :
    readSource surroundings inputRead path = .ok text → Layout.parse text = .ok layout →
      Declares surroundings (inputRead || isInput path) rest others →
        Declares surroundings inputRead (path :: rest) (⟨path, layout⟩ :: others)

/-- The domains of a file that earlier files declare, as warnings. -/
def again (earlier : List Declaration) (file : Declaration) : List Warning :=
  (file.layout.domains.filter fun domain => ∃ other ∈ earlier, domain ∈ other.layout.domains).map
    (.declaredAgain · file.path)

/-- All warnings, file by file. -/
def redeclarations (files : List Declaration) : List Warning :=
  files.zipIdx.flatMap fun (file, place) => again (files.take place) file

/-- The layout has the domains in the order of their first declaration, as far as they are to be
kept, and under each of them the zone of the last file that declares it. -/
structure IsMerged (keep : List String) (files : List Declaration) (layout : Layout) : Prop where
  domains : layout.domains =
    (files.flatMap fun file => file.layout.domains).eraseDups.filter (Layout.Keeps keep ·)
  zones : ∀ domain zone, layout.get? domain = some zone ↔
    Layout.Keeps keep domain ∧ ∃ before file after, files = before ++ file :: after ∧
      file.layout.get? domain = some zone ∧ ∀ later ∈ after, domain ∉ later.layout.domains

/-! ### One file -/

theorem loadFile_eq_ok_iff {layout : Layout} :
    loadFile surroundings inputRead path = .ok layout ↔
      ∃ text, readSource surroundings inputRead path = .ok text ∧
        Layout.parse text = .ok layout := by
  rw [loadFile, bind_eq_ok_iff]
  simp only [mapError_eq_ok_iff]

theorem loads_iff :
    Loads surroundings path ↔ ∃ layout, loadFile surroundings false path = .ok layout := by
  simp only [loadFile_eq_ok_iff]
  exact exists_comm

theorem fails_iff :
    Fails surroundings path failure ↔ loadFile surroundings false path = .error failure := by
  rw [loadFile, bind_eq_error_iff]
  simp only [mapError_eq_error_iff, mapError_eq_ok_iff]
  constructor
  · rintro (hread | ⟨hread, hparse⟩)
    · exact Or.inl ⟨_, hread, rfl⟩
    · exact Or.inr ⟨_, hread, _, hparse, rfl⟩
  · rintro (⟨fault, hread, rfl⟩ | ⟨text, hread, error, hparse, rfl⟩)
    · exact .unreadable hread
    · exact .layout hread hparse

theorem loads_iff_loadsInput (hinput : isInput path = true) :
    Loads surroundings path ↔ LoadsInput surroundings := by
  rw [Loads, readSource, if_pos hinput]
  rfl

/-- Only the standard input is read otherwise the second time, and then nothing is wrong with it. -/
theorem loadFile_true (surroundings : Surroundings) (path : String) :
    loadFile surroundings true path = loadFile surroundings false path ∨
      isInput path = true ∧ loadFile surroundings true path = .ok Layout.empty := by
  by_cases hinput : isInput path = true
  · have hempty : readSource surroundings true path = .ok "" := if_pos hinput
    rw [loadFile, hempty]
    exact Or.inr ⟨hinput, rfl⟩
  · left
    rw [loadFile, loadFile, readSource, readSource, if_neg hinput, if_neg hinput]

section Again

variable (hinput : inputRead = true → LoadsInput surroundings)

include hinput

/-- If the standard input could be loaded the first time, it does not matter which time it is. -/
theorem exists_loadFile_iff :
    (∃ layout, loadFile surroundings inputRead path = .ok layout) ↔ Loads surroundings path := by
  cases inputRead with
  | false => exact loads_iff.symm
  | true =>
    rcases loadFile_true surroundings path with hsame | ⟨hpath, hempty⟩
    · rw [hsame, loads_iff]
    · exact ⟨fun _ => (loads_iff_loadsInput hpath).2 (hinput rfl), fun _ => ⟨_, hempty⟩⟩

theorem loadFile_eq_error_iff :
    loadFile surroundings inputRead path = .error failure ↔ Fails surroundings path failure := by
  cases inputRead with
  | false => exact fails_iff.symm
  | true =>
    rcases loadFile_true surroundings path with hsame | ⟨hpath, hempty⟩
    · rw [hsame, fails_iff]
    · obtain ⟨layout, hload⟩ := loads_iff.1 ((loads_iff_loadsInput hpath).2 (hinput rfl))
      rw [hempty, fails_iff, hload]
      exact ⟨nofun, nofun⟩

theorem loads_input (hpath : Loads surroundings path) :
    (inputRead || isInput path) = true → LoadsInput surroundings := by
  rw [Bool.or_eq_true]
  rintro (hread | hthis)
  · exact hinput hread
  · exact (loads_iff_loadsInput hthis).1 hpath

/-! ### One file after the other -/

theorem exists_declares_iff :
    (∃ declared, Declares surroundings inputRead files declared) ↔
      ∀ path ∈ files, Loads surroundings path := by
  induction files generalizing inputRead with
  | nil => exact ⟨fun _ => nofun, fun _ => ⟨[], .nil⟩⟩
  | cons path rest ih =>
    rw [List.forall_mem_cons]
    constructor
    · rintro ⟨_, hdeclares⟩
      cases hdeclares with
      | cons hread hparse hrest =>
        have hpath := (exists_loadFile_iff hinput).1 ⟨_, loadFile_eq_ok_iff.2 ⟨_, hread, hparse⟩⟩
        exact ⟨hpath, (ih (loads_input hinput hpath)).1 ⟨_, hrest⟩⟩
    · rintro ⟨hpath, hrest⟩
      obtain ⟨layout, hload⟩ := (exists_loadFile_iff hinput).2 hpath
      obtain ⟨text, hread, hparse⟩ := loadFile_eq_ok_iff.1 hload
      obtain ⟨others, hothers⟩ := (ih (loads_input hinput hpath)).2 hrest
      exact ⟨_, .cons hread hparse hothers⟩

/-- The first file that cannot be loaded alone is where loading ends. -/
theorem loadInto_eq_error_iff {layout : Layout} :
    (loadInto surroundings inputRead layout files).2 = .error failure ↔
      ∃ above path below, files = above ++ path :: below ∧
        (∀ earlier ∈ above, Loads surroundings earlier) ∧ Fails surroundings path failure := by
  induction files generalizing inputRead layout with
  | nil =>
    refine ⟨nofun, ?_⟩
    rintro ⟨above, path, below, hfiles, -⟩
    exact absurd hfiles (by simp)
  | cons path rest ih =>
    rw [loadInto]
    cases hload : loadFile surroundings inputRead path with
    | error fault =>
      constructor
      · intro hfault
        rw [Except.error.inj hfault] at hload
        exact ⟨[], path, rest, rfl, nofun, (loadFile_eq_error_iff hinput).1 hload⟩
      · rintro ⟨_ | ⟨first, above⟩, other, below, hfiles, habove, hfails⟩
        · obtain ⟨rfl, -⟩ := List.cons.inj hfiles
          exact hload.symm.trans ((loadFile_eq_error_iff hinput).2 hfails)
        · obtain ⟨rfl, -⟩ := List.cons.inj hfiles
          obtain ⟨next, hnext⟩ :=
            (exists_loadFile_iff hinput).2 (habove path List.mem_cons_self)
          exact absurd (hload.symm.trans hnext) (by simp)
    | ok next =>
      have hpath := (exists_loadFile_iff hinput).1 ⟨next, hload⟩
      refine (ih (loads_input hinput hpath)).trans ?_
      constructor
      · rintro ⟨above, other, below, rfl, habove, hfails⟩
        exact ⟨path :: above, other, below, rfl, List.forall_mem_cons.2 ⟨hpath, habove⟩, hfails⟩
      · rintro ⟨_ | ⟨first, above⟩, other, below, hfiles, habove, hfails⟩
        · obtain ⟨rfl, -⟩ := List.cons.inj hfiles
          exact absurd (hload.symm.trans ((loadFile_eq_error_iff hinput).2 hfails)) (by simp)
        · obtain ⟨rfl, rfl⟩ := List.cons.inj hfiles
          exact ⟨above, other, below, rfl, (List.forall_mem_cons.1 habove).2, hfails⟩

end Again

theorem declares_of_loadInto {layout merged : Layout}
    (hloaded : (loadInto surroundings inputRead layout files).2 = .ok merged) :
    ∃ declared, Declares surroundings inputRead files declared := by
  induction files generalizing inputRead layout with
  | nil => exact ⟨[], .nil⟩
  | cons path rest ih =>
    rw [loadInto] at hloaded
    cases hload : loadFile surroundings inputRead path with
    | error fault =>
      rw [hload] at hloaded
      exact absurd hloaded (by simp)
    | ok next =>
      rw [hload] at hloaded
      obtain ⟨text, hread, hparse⟩ := loadFile_eq_ok_iff.1 hload
      obtain ⟨others, hothers⟩ := ih hloaded
      exact ⟨_, .cons hread hparse hothers⟩

/-- Whether a domain has been declared can be told from the merge. -/
theorem declaredAgain_eq (above : List Declaration) (file : Declaration) :
    declaredAgain (Layout.merge (above.map Declaration.layout)) file.path file.layout =
      again above file := by
  rw [declaredAgain, again]
  refine congrArg _ (List.filter_congr fun domain _ => ?_)
  rw [Bool.eq_iff_iff, Option.isSome_iff_exists, Layout.exists_get?_iff, Layout.domains_merge,
    List.mem_eraseDups, decide_eq_true_eq]
  simp

/-- The induction is on the files to come; those above have been merged, and whether a domain is
declared again depends on all of them. -/
theorem loadInto_of_declares (above : List Declaration)
    (hdeclares : Declares surroundings inputRead files declared) :
    loadInto surroundings inputRead (Layout.merge (above.map Declaration.layout)) files =
      ((declared.zipIdx above.length).flatMap fun (file, place) =>
          again ((above ++ declared).take place) file,
        .ok (Layout.merge ((above ++ declared).map Declaration.layout))) := by
  induction hdeclares generalizing above with
  | nil =>
    rw [List.append_nil]
    rfl
  | @cons inputRead path text layout rest others hread hparse _ ih =>
    let file : Declaration := ⟨path, layout⟩
    have hmerge : (Layout.merge (above.map Declaration.layout)).extend layout =
        Layout.merge ((above ++ [file]).map Declaration.layout) := by
      rw [List.map_append, List.map_singleton, Layout.merge_concat]
    have hagain : declaredAgain (Layout.merge (above.map Declaration.layout)) path layout =
        again ((above ++ file :: others).take above.length) file := by
      rw [List.take_left]
      exact declaredAgain_eq above file
    rw [loadInto, loadFile_eq_ok_iff.2 ⟨text, hread, hparse⟩]
    simp only
    rw [hmerge, ih, List.append_assoc, List.singleton_append, List.length_append,
      List.length_singleton, List.zipIdx_cons, List.flatMap_cons, hagain]

/-! ### All files -/

theorem load_of_declares {sources : Sources}
    (hdeclares : Declares surroundings false sources.files declared) :
    sources.load surroundings =
      (redeclarations declared,
        .ok ((Layout.merge (declared.map Declaration.layout)).filter sources.domains)) := by
  have hload := loadInto_of_declares [] hdeclares
  rw [Sources.load]
  exact congrArg (fun loaded => (loaded.1, loaded.2.map (·.filter sources.domains))) hload

theorem get?_merge_eq_some_iff {declared : List Declaration} {domain : String} {zone : Zone} :
    (Layout.merge (declared.map Declaration.layout)).get? domain = some zone ↔
      ∃ before file after, declared = before ++ file :: after ∧
        file.layout.get? domain = some zone ∧ ∀ later ∈ after, domain ∉ later.layout.domains := by
  rw [Layout.get?_merge_eq_some_iff]
  constructor
  · rintro ⟨_, layout, _, hdeclared, hzone, hafter⟩
    obtain ⟨before, rest, rfl, rfl, hrest⟩ := List.map_eq_append_iff.1 hdeclared
    obtain ⟨file, after, rfl, rfl, rfl⟩ := List.map_eq_cons_iff.1 hrest
    exact ⟨before, file, after, rfl, hzone, fun later hlater =>
      hafter later.layout (List.mem_map_of_mem hlater)⟩
  · rintro ⟨before, file, after, rfl, hzone, hafter⟩
    exact ⟨_, file.layout, _, by rw [List.map_append, List.map_cons], hzone,
      List.forall_mem_map.2 hafter⟩

theorem isMerged_filter (keep : List String) (declared : List Declaration) :
    IsMerged keep declared
      ((Layout.merge (declared.map Declaration.layout)).filter keep) where
  domains := by
    rw [Layout.domains_filter, Layout.domains_merge, List.flatMap_map]
  zones domain zone := by
    rw [Layout.get?_filter, ← get?_merge_eq_some_iff]
    split
    · next hkept => exact (and_iff_right hkept).symm
    · next hdropped => exact ⟨nofun, fun hkept => absurd hkept.1 hdropped⟩

/-- Loading succeeds if every file can be loaded alone, and otherwise fails as the first that cannot.
It gives the merge of the files, filtered before or after, and a warning for every domain of a file
that an earlier one declares. Layouts can be put together in any grouping, and know their zones by
distinct domains. -/
theorem load_isMerged (surroundings : Surroundings) (sources : Sources) :
    ((∃ layout, (sources.load surroundings).2 = .ok layout) ↔
        ∀ path ∈ sources.files, Loads surroundings path) ∧
      (∀ failure, (sources.load surroundings).2 = .error failure ↔
        ∃ above path below, sources.files = above ++ path :: below ∧
          (∀ earlier ∈ above, Loads surroundings earlier) ∧ Fails surroundings path failure) ∧
      (∀ layout, (sources.load surroundings).2 = .ok layout →
        ∃ declared, Declares surroundings false sources.files declared ∧
          IsMerged sources.domains declared layout ∧
          (sources.load surroundings).1 = redeclarations declared ∧
          layout = Layout.merge (declared.map (·.layout.filter sources.domains))) ∧
      (∀ layouts keep, (Layout.merge layouts).filter keep =
        Layout.merge (layouts.map (·.filter keep))) ∧
      (∀ first second third : Layout,
        (first.extend second).extend third = first.extend (second.extend third)) ∧
      ∀ layout : Layout, layout.domains.Nodup ∧ ∀ domain zone,
        layout.get? domain = some zone ↔ zone ∈ layout.zones ∧ zone.domain = domain := by
  have hinput : false = true → LoadsInput surroundings := nofun
  have hloads : (∃ declared, Declares surroundings false sources.files declared) ↔ _ :=
    exists_declares_iff hinput
  refine ⟨⟨?_, fun hall => ?_⟩, fun failure => map_eq_error_iff.trans (loadInto_eq_error_iff hinput),
    fun layout hlayout => ?_, Layout.filter_merge, Layout.extend_assoc,
    fun layout => ⟨layout.nodup_domains, fun domain zone => Layout.get?_eq_some_iff⟩⟩
  · rintro ⟨layout, hlayout⟩
    obtain ⟨merged, hmerged, -⟩ := map_eq_ok_iff.1 hlayout
    exact hloads.1 (declares_of_loadInto hmerged)
  · obtain ⟨declared, hdeclares⟩ := hloads.2 hall
    rw [load_of_declares hdeclares]
    exact ⟨_, rfl⟩
  · obtain ⟨merged, hmerged, -⟩ := map_eq_ok_iff.1 hlayout
    obtain ⟨declared, hdeclares⟩ := declares_of_loadInto hmerged
    rw [load_of_declares hdeclares] at hlayout ⊢
    rw [← Except.ok.inj hlayout]
    refine ⟨declared, hdeclares, isMerged_filter sources.domains declared, rfl, ?_⟩
    rw [Layout.filter_merge, List.map_map]
    rfl

end ZoneSync.Command
