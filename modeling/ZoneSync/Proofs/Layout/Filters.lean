import Mathlib.Data.List.Nodup
import Mathlib.Data.Set.List
import ZoneSync.Proofs.Layout.Grammar

/-!
# Filters in any order

A pattern is read from its filters one after the other, and each of them is checked against what has
been read before. All the same the order does not matter: filters can stand together if every one
has a key and no key is used twice, and what they demand together is what each of them says. Both
can be told from which filters there are. In particular the filters of a pattern give it back
however they are shuffled.
-/

namespace ZoneSync.Layout.Pattern

variable {tokens before : List String} {token : String} {pattern next : Pattern}

/-- What stands before the first equals sign. -/
def keyOf (token : String) : String :=
  String.ofList (token.toList.takeWhile (· ≠ '='))

/-- All that stands after the first equals sign, with any others. -/
def valueOf (token : String) : String :=
  String.ofList (token.toList.dropWhile (· ≠ '=')).tail

/-- The tokens can be the filters of one pattern. -/
structure AreFilters (tokens : List String) : Prop where
  cut : ∀ token ∈ tokens, '=' ∈ token.toList
  nodup : (tokens.map keyOf).Nodup
  known : ∀ token ∈ tokens, keyOf token ∈ ["type", "hostname", "destination"]
  types : ∀ token ∈ tokens, keyOf token = "type" → ∃ type, RecordType.IsName (valueOf token) type

/-- The pattern demands what the tokens say, and nothing else. -/
structure IsDemanded (tokens : List String) (pattern : Pattern) : Prop where
  type : ∀ type, pattern.type = some type ↔
    ∃ token ∈ tokens, keyOf token = "type" ∧ RecordType.IsName (valueOf token) type
  hostname : ∀ value, pattern.hostname = some value ↔
    ∃ token ∈ tokens, keyOf token = "hostname" ∧ valueOf token = value
  destination : ∀ value, pattern.destination = some value ↔
    ∃ token ∈ tokens, keyOf token = "destination" ∧ valueOf token = value

/-! ### Tokens as filters -/

theorem key_name_injective : Function.Injective Filter.Key.name := by
  intro key other
  cases key <;> cases other <;> decide

theorem exists_key_iff {name : String} :
    (∃ key : Filter.Key, key.name = name) ↔ name ∈ ["type", "hostname", "destination"] := by
  constructor
  · rintro ⟨key, rfl⟩
    cases key <;> decide
  · intro hname
    simp only [List.mem_cons, List.not_mem_nil, or_false] at hname
    rcases hname with rfl | rfl | rfl
    · exact ⟨.type, rfl⟩
    · exact ⟨.hostname, rfl⟩
    · exact ⟨.destination, rfl⟩

/-- A token is cut at the first equals sign, whatever comes after it. -/
theorem parts_of_split {key value : List Char} (htoken : token.toList = key ++ '=' :: value)
    (hkey : '=' ∉ key) : keyOf token = String.ofList key ∧ valueOf token = String.ofList value := by
  have hall : ∀ c ∈ key, decide (c ≠ '=') = true :=
    fun c hc => decide_eq_true fun heq => hkey (heq ▸ hc)
  rw [keyOf, valueOf, htoken, List.takeWhile_append_of_pos hall, List.dropWhile_append_of_pos hall]
  simp

theorem toList_text (filter : Filter) :
    filter.text.toList = filter.key.name.toList ++ '=' :: filter.value.toList := by
  simp [Filter.text]

theorem parts_text (filter : Filter) :
    keyOf filter.text = filter.key.name ∧ valueOf filter.text = filter.value := by
  have hkey : '=' ∉ filter.key.name.toList := by
    cases filter.key <;> decide
  have hparts := parts_of_split (toList_text filter) hkey
  rwa [String.ofList_toList, String.ofList_toList] at hparts

theorem exists_text_iff :
    (∃ filter : Filter, filter.text = token) ↔
      '=' ∈ token.toList ∧ keyOf token ∈ ["type", "hostname", "destination"] := by
  constructor
  · rintro ⟨filter, rfl⟩
    rw [(parts_text filter).1, toList_text]
    exact ⟨by simp, exists_key_iff.1 ⟨filter.key, rfl⟩⟩
  · rintro ⟨hcut, hknown⟩
    obtain ⟨above, below, htoken, habove⟩ := List.eq_append_cons_of_mem hcut
    obtain ⟨key, hkey⟩ := exists_key_iff.2 hknown
    have hparts := parts_of_split htoken habove
    refine ⟨⟨key, valueOf token⟩, String.toList_inj.1 ?_⟩
    rw [toList_text, htoken, hparts.2, hkey, hparts.1, String.toList_ofList, String.toList_ofList]

theorem areFilters_iff :
    AreFilters tokens ↔ ∃ filters : List Filter, tokens = filters.map Filter.text ∧
      (∀ filter ∈ filters, filter.IsKnown) ∧ (filters.map Filter.key).Nodup := by
  have hknown : ∀ filter : Filter, filter.IsKnown ↔
      (keyOf filter.text = "type" → ∃ type, RecordType.IsName (valueOf filter.text) type) := by
    intro filter
    rw [(parts_text filter).1, (parts_text filter).2, Filter.IsKnown]
    exact imp_congr_left key_name_injective.eq_iff.symm
  have hkeys : ∀ filters : List Filter, (filters.map Filter.text).map keyOf =
      (filters.map Filter.key).map Filter.Key.name := by
    intro filters
    rw [List.map_map, List.map_map]
    exact List.map_congr_left fun filter _ => (parts_text filter).1
  constructor
  · rintro ⟨hcut, hnodup, hnames, htypes⟩
    have hfilters : tokens ∈ Set.range (List.map Filter.text) := by
      rw [Set.range_list_map]
      exact fun token htoken => exists_text_iff.2 ⟨hcut token htoken, hnames token htoken⟩
    obtain ⟨filters, rfl⟩ := hfilters
    rw [hkeys] at hnodup
    refine ⟨filters, rfl, fun filter hfilter => (hknown filter).2 ?_, List.Nodup.of_map _ hnodup⟩
    exact htypes _ (List.mem_map_of_mem hfilter)
  · rintro ⟨filters, rfl, hall, hnodup⟩
    refine ⟨?_, ?_, ?_, ?_⟩
    · exact List.forall_mem_map.2 fun filter _ => (exists_text_iff.1 ⟨filter, rfl⟩).1
    · rw [hkeys]
      exact List.Nodup.map key_name_injective hnodup
    · exact List.forall_mem_map.2 fun filter _ => (exists_text_iff.1 ⟨filter, rfl⟩).2
    · exact List.forall_mem_map.2 fun filter hfilter => (hknown filter).1 (hall filter hfilter)

/-! ### What the filters demand -/

/-- The pattern with one more demand. -/
def demand (pattern : Pattern) (filter : Filter) : Pattern :=
  match filter.key with
  | .type => { pattern with type := RecordType.ofName? filter.value }
  | .hostname => { pattern with hostname := some filter.value }
  | .destination => { pattern with destination := some filter.value }

theorem eq_demand_of_addFilter {filter : Filter}
    (hadd : pattern.addFilter filter.text = .ok next) : next = pattern.demand filter := by
  obtain ⟨key, value⟩ := filter
  rw [addFilter, keyValue?_text] at hadd
  cases key with
  | type =>
    simp only [Filter.Key.name] at hadd
    rw [demand]
    split at hadd
    · exact absurd hadd (by simp)
    · split at hadd
      · next type htype => rw [← Except.ok.inj hadd, htype]
      · exact absurd hadd (by simp)
  | hostname =>
    simp only [Filter.Key.name] at hadd
    split at hadd
    · exact absurd hadd (by simp)
    · exact (Except.ok.inj hadd).symm
  | destination =>
    simp only [Filter.Key.name] at hadd
    split at hadd
    · exact absurd hadd (by simp)
    · exact (Except.ok.inj hadd).symm

/-- A filter of a new key adds what it says to what the filters before it say. -/
theorem IsDemanded.addFilter (hdemanded : IsDemanded before pattern)
    (hadd : pattern.addFilter token = .ok next) : IsDemanded (before ++ [token]) next := by
  obtain ⟨⟨key, value⟩, rfl, -, hnew⟩ := exists_filter_of_addFilter hadd
  obtain rfl := eq_demand_of_addFilter hadd
  have hlast : ∀ (name : String) (holds : String → Prop),
      (∃ token ∈ before ++ [Filter.text ⟨key, value⟩], keyOf token = name ∧ holds (valueOf token)) ↔
        (∃ token ∈ before, keyOf token = name ∧ holds (valueOf token)) ∨
          key.name = name ∧ holds value := by
    intro name holds
    simp only [List.mem_append, List.mem_singleton, or_and_right, exists_or, exists_eq_left,
      parts_text]
  obtain ⟨htype, hhostname, hdestination⟩ := hdemanded
  -- Only the part of that key changes, and it was empty.
  refine ⟨fun type => ?_, fun text => ?_, fun text => ?_⟩
  · rw [hlast "type" (RecordType.IsName · type), ← htype]
    cases key <;>
      simp_all [has, demand, Filter.Key.name, RecordType.ofName?_eq_some_iff]
  · rw [hlast "hostname" (· = text), ← hhostname]
    cases key <;> simp_all [has, demand, Filter.Key.name]
  · rw [hlast "destination" (· = text), ← hdestination]
    cases key <;> simp_all [has, demand, Filter.Key.name]

/-- The induction is on the tokens to come; those before have been demanded. -/
theorem isDemanded_of_foldlM (hdemanded : IsDemanded before pattern)
    (hfold : tokens.foldlM addFilter pattern = .ok next) : IsDemanded (before ++ tokens) next := by
  induction tokens generalizing before pattern with
  | nil =>
    rw [List.append_nil, ← Except.ok.inj hfold]
    exact hdemanded
  | cons token rest ih =>
    obtain ⟨middle, hadd, hrest⟩ := bind_eq_ok_iff.1 hfold
    have hall := ih (hdemanded.addFilter hadd) hrest
    rwa [List.append_assoc, List.singleton_append] at hall

theorem isDemanded_nil : IsDemanded [] any := by
  constructor <;> simp [any]

theorem IsDemanded.unique {other : Pattern} (hpattern : IsDemanded tokens pattern)
    (hother : IsDemanded tokens other) : pattern = other := by
  obtain ⟨type, hostname, destination⟩ := pattern
  obtain ⟨otherType, otherHostname, otherDestination⟩ := other
  simp only [mk.injEq]
  refine ⟨Option.ext fun type => ?_, Option.ext fun text => ?_, Option.ext fun text => ?_⟩
  · exact (hpattern.type type).trans (hother.type type).symm
  · exact (hpattern.hostname text).trans (hother.hostname text).symm
  · exact (hpattern.destination text).trans (hother.destination text).symm

/-! ### Reading the filters -/

theorem exists_ofFilters_iff : (∃ pattern, ofFilters tokens = .ok pattern) ↔ AreFilters tokens := by
  have hnone : ∀ key, any.has key = false := fun key => by cases key <;> rfl
  rw [ofFilters, exists_foldlM_addFilter_iff, areFilters_iff]
  simp only [hnone, and_true]

theorem ofFilters_eq_ok_iff :
    ofFilters tokens = .ok pattern ↔ AreFilters tokens ∧ IsDemanded tokens pattern := by
  constructor
  · intro hpattern
    exact ⟨exists_ofFilters_iff.1 ⟨pattern, hpattern⟩, isDemanded_of_foldlM isDemanded_nil hpattern⟩
  · rintro ⟨hfilters, hdemanded⟩
    obtain ⟨other, hother⟩ := exists_ofFilters_iff.2 hfilters
    rw [hdemanded.unique (isDemanded_of_foldlM isDemanded_nil hother)]
    exact hother

theorem AreFilters.perm {others : List String} (hfilters : AreFilters tokens)
    (hperm : tokens.Perm others) : AreFilters others where
  cut token htoken := hfilters.cut token (hperm.mem_iff.2 htoken)
  nodup := (hperm.map keyOf).nodup_iff.1 hfilters.nodup
  known token htoken := hfilters.known token (hperm.mem_iff.2 htoken)
  types token htoken := hfilters.types token (hperm.mem_iff.2 htoken)

theorem IsDemanded.perm {others : List String} (hdemanded : IsDemanded tokens pattern)
    (hperm : tokens.Perm others) : IsDemanded others pattern := by
  obtain ⟨htype, hhostname, hdestination⟩ := hdemanded
  simp only [hperm.mem_iff] at htype hhostname hdestination
  exact ⟨htype, hhostname, hdestination⟩

theorem ofFilters_eq_ok_of_perm {others : List String} (hperm : tokens.Perm others)
    (hpattern : ofFilters tokens = .ok pattern) : ofFilters others = .ok pattern := by
  obtain ⟨hfilters, hdemanded⟩ := ofFilters_eq_ok_iff.1 hpattern
  exact ofFilters_eq_ok_iff.2 ⟨hfilters.perm hperm, hdemanded.perm hperm⟩

/-! ### Writing the filters -/

/-- The filters that a pattern is written as. -/
def demands (pattern : Pattern) : List Filter :=
  (pattern.type.map fun type => ⟨.type, type.name⟩).toList ++
    (pattern.hostname.map fun hostname => ⟨.hostname, hostname⟩).toList ++
    (pattern.destination.map fun destination => ⟨.destination, destination⟩).toList

theorem filters_eq_map (pattern : Pattern) : pattern.filters = pattern.demands.map Filter.text := by
  obtain ⟨type, hostname, destination⟩ := pattern
  rw [filters, demands, List.map_append, List.map_append]
  cases type <;> cases hostname <;> cases destination <;> rfl

theorem mem_demands {filter : Filter} :
    filter ∈ pattern.demands ↔
      (∃ type, pattern.type = some type ∧ filter = ⟨.type, type.name⟩) ∨
        (∃ hostname, pattern.hostname = some hostname ∧ filter = ⟨.hostname, hostname⟩) ∨
          ∃ destination, pattern.destination = some destination ∧
            filter = ⟨.destination, destination⟩ := by
  simp [demands, eq_comm]

theorem isName_name (type : RecordType) : RecordType.IsName type.name type :=
  RecordType.ofName?_eq_some_iff.1 (by cases type <;> decide)

theorem isName_name_iff {type other : RecordType} :
    RecordType.IsName type.name other ↔ type = other := by
  rw [← RecordType.ofName?_eq_some_iff, RecordType.ofName?_eq_some_iff.2 (isName_name type),
    Option.some.injEq]

theorem areFilters_filters (pattern : Pattern) : AreFilters pattern.filters := by
  rw [filters_eq_map, areFilters_iff]
  refine ⟨pattern.demands, rfl, fun filter hfilter hkey => ?_, ?_⟩
  · rcases mem_demands.1 hfilter with ⟨type, -, rfl⟩ | ⟨_, -, rfl⟩ | ⟨_, -, rfl⟩
    · exact ⟨type, isName_name type⟩
    · exact absurd hkey nofun
    · exact absurd hkey nofun
  · obtain ⟨type, hostname, destination⟩ := pattern
    cases type <;> cases hostname <;> cases destination <;> simp [demands]

theorem isDemanded_filters (pattern : Pattern) : IsDemanded pattern.filters pattern := by
  have hparts : ∀ (name : String) (holds : String → Prop),
      (∃ token ∈ pattern.filters, keyOf token = name ∧ holds (valueOf token)) ↔
        ∃ filter ∈ pattern.demands, filter.key.name = name ∧ holds filter.value := by
    intro name holds
    rw [filters_eq_map]
    simp only [List.mem_map, exists_exists_and_eq_and, parts_text]
  refine ⟨fun type => ?_, fun text => ?_, fun text => ?_⟩
  · rw [hparts "type" (RecordType.IsName · type)]
    simp [mem_demands, or_and_right, exists_or, Filter.Key.name, isName_name_iff]
  · rw [hparts "hostname" (· = text)]
    simp [mem_demands, or_and_right, exists_or, Filter.Key.name]
  · rw [hparts "destination" (· = text)]
    simp [mem_demands, or_and_right, exists_or, Filter.Key.name]

/-- A list of filters comes to the same in every order. It can be read if and only if every filter
has a known key of its own and a filter by type names a type, and then demands what the filters say.
The filters that a pattern is written as give it back. -/
theorem ofFilters_anyOrder :
    (∀ tokens others : List String, tokens.Perm others →
      (∃ pattern, ofFilters tokens = .ok pattern ∧ ofFilters others = .ok pattern) ∨
        ∃ error other, ofFilters tokens = .error error ∧ ofFilters others = .error other) ∧
      (∀ tokens : List String,
        (∃ pattern, ofFilters tokens = .ok pattern) ↔ AreFilters tokens) ∧
      (∀ tokens pattern, ofFilters tokens = .ok pattern → IsDemanded tokens pattern) ∧
      ∀ pattern : Pattern,
        pattern.display = (if pattern = any then "*" else " ".intercalate pattern.filters) ∧
          (pattern = any → pattern.filters = []) ∧
          ∀ tokens, pattern.filters.Perm tokens → ofFilters tokens = .ok pattern := by
  refine ⟨fun tokens others hperm => ?_, fun tokens => exists_ofFilters_iff,
    fun tokens pattern hpattern => (ofFilters_eq_ok_iff.1 hpattern).2, fun pattern => ⟨?_, ?_, ?_⟩⟩
  · cases htokens : ofFilters tokens with
    | ok pattern => exact Or.inl ⟨pattern, rfl, ofFilters_eq_ok_of_perm hperm htokens⟩
    | error error =>
      cases hothers : ofFilters others with
      | ok pattern =>
        have hback := ofFilters_eq_ok_of_perm hperm.symm hothers
        exact absurd (htokens.symm.trans hback) (by simp)
      | error other => exact Or.inr ⟨error, other, rfl, rfl⟩
  · rw [display]
    split
    · next hnone =>
      rw [if_pos]
      exact (isDemanded_filters pattern).unique (hnone ▸ isDemanded_nil)
    · next hsome =>
      rw [if_neg]
      rintro rfl
      exact hsome rfl
  · rintro rfl
    rfl
  · intro tokens hperm
    exact ofFilters_eq_ok_iff.2
      ⟨(areFilters_filters pattern).perm hperm, (isDemanded_filters pattern).perm hperm⟩

/-- Two filters the other way round, with equals signs and nothing in their values. -/
example : ofFilters ["destination=v=spf1", "hostname="] =
    ofFilters ["hostname=", "destination=v=spf1"] := by
  decide +kernel

end ZoneSync.Layout.Pattern
