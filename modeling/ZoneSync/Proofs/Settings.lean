import Mathlib.Data.List.Basic
import ZoneSync.Proofs.Text.Token
import ZoneSync.Zone

/-!
# Settings and their written values

Settings are determined by their written values. Reading the written value of a setting puts just
that setting in place, so the settings that differ from the defaults are enough to get all of them
back from the defaults.
-/

namespace ZoneSync

theorem Setting.name_injective : Function.Injective Setting.name := by
  intro first second
  cases first <;> cases second <;> decide

namespace Settings

open Text

/-- The four timers are at least one second. -/
structure Positive (settings : Settings) : Prop where
  ttl : 0 < settings.ttl.toNat
  refresh : 0 < settings.refresh.toNat
  retry : 0 < settings.retry.toNat
  expire : 0 < settings.expire.toNat

instance (settings : Settings) : Decidable settings.Positive :=
  decidable_of_iff
    (0 < settings.ttl.toNat ∧ 0 < settings.refresh.toNat ∧ 0 < settings.retry.toNat ∧
      0 < settings.expire.toNat)
    ⟨fun ⟨httl, hrefresh, hretry, hexpire⟩ => ⟨httl, hrefresh, hretry, hexpire⟩,
      fun ⟨httl, hrefresh, hretry, hexpire⟩ => ⟨httl, hrefresh, hretry, hexpire⟩⟩

theorem default_positive : default.Positive := by decide

/-! ### Written values -/

theorem toList_timer (seconds : UInt32) :
    (toString seconds.toNat).toList = Nat.toDigits 10 seconds.toNat := by
  rw [Nat.toString_eq_repr, Nat.toList_repr]

theorem timer?_toString {seconds : UInt32} (hpositive : 0 < seconds.toNat) :
    timer? (toString seconds.toNat) = some seconds := by
  rw [timer?, toList_timer, numeral?_toDigits seconds.toNat_lt_size, Option.filter_some,
    decide_eq_true hpositive, if_pos rfl, Option.map_some, UInt32.ofNat_toNat]

theorem timer_injective {s t : UInt32} (heq : toString s.toNat = toString t.toNat) : s = t := by
  have hdigits := congrArg String.toList heq
  rw [toList_timer, toList_timer] at hdigits
  have hnat : s.toNat = t.toNat := by
    simpa using congrArg (fun digits => Nat.ofDigitChars 10 digits 0) hdigits
  exact UInt32.toNat_inj.1 hnat

/-- No two settings are written alike. -/
theorem eq_of_value_eq {s t : Settings} (hvalue : ∀ setting, s.value setting = t.value setting) :
    s = t := by
  have hdnssec : s.dnssec = t.dnssec := by
    have hword := hvalue .dnssec
    rw [value, value] at hword
    cases hs : s.dnssec <;> cases ht : t.dnssec <;> simp [hs, ht] at hword ⊢
  obtain ⟨_, _, _, _, _⟩ := s
  obtain ⟨_, _, _, _, _⟩ := t
  simp only [mk.injEq]
  exact ⟨timer_injective (hvalue .ttl), timer_injective (hvalue .refresh),
    timer_injective (hvalue .retry), timer_injective (hvalue .expire), hdnssec⟩

/-! ### Putting settings in place -/

/-- The settings with one of them taken from `source`. -/
def adopt (source settings : Settings) : Setting → Settings
  | .ttl => { settings with ttl := source.ttl }
  | .refresh => { settings with refresh := source.refresh }
  | .retry => { settings with retry := source.retry }
  | .expire => { settings with expire := source.expire }
  | .dnssec => { settings with dnssec := source.dnssec }

theorem value_adopt (source settings : Settings) (adopted setting : Setting) :
    (source.adopt settings adopted).value setting =
      if setting = adopted then source.value setting else settings.value setting := by
  cases adopted <;> cases setting <;> rfl

/-- Different settings can be put in place in any order. -/
theorem adopt_comm {first second : Setting} (hne : first ≠ second) (s t settings : Settings) :
    s.adopt (t.adopt settings first) second = t.adopt (s.adopt settings second) first := by
  cases first <;> cases second <;> first | rfl | exact absurd rfl hne

/-- The written value is that of the setting. -/
def IsSpelledBy (settings : Settings) (value : String) : Setting → Prop
  | .ttl => timer? value = some settings.ttl
  | .refresh => timer? value = some settings.refresh
  | .retry => timer? value = some settings.retry
  | .expire => timer? value = some settings.expire
  | .dnssec => switch? value = some settings.dnssec

/-- A value spells one setting only. -/
theorem IsSpelledBy.adopt_eq {s t : Settings} {value : String} {setting : Setting}
    (hs : s.IsSpelledBy value setting) (ht : t.IsSpelledBy value setting) (settings : Settings) :
    s.adopt settings setting = t.adopt settings setting := by
  cases setting with
  | _ => rw [adopt, adopt, Option.some.inj (hs.symm.trans ht)]

theorem isSpelledBy_adopt_iff {source settings : Settings} {value : String}
    {adopted setting : Setting} (hne : setting ≠ adopted) :
    (source.adopt settings adopted).IsSpelledBy value setting ↔
      settings.IsSpelledBy value setting := by
  cases adopted <;> cases setting <;> first | rfl | exact absurd rfl hne

/-- Either the value is one of the setting, and nothing but that setting is changed, or nothing is
stored at all. -/
theorem store_cases (settings : Settings) (setting : Setting) (value : String) :
    (∃ next : Settings, (store setting value).run settings = (.ok (), next) ∧
        next.IsSpelledBy value setting ∧ next = next.adopt settings setting) ∨
      ∃ error, (store setting value).run settings = (.error error, settings) ∧
        ∀ other : Settings, ¬other.IsSpelledBy value setting := by
  cases setting with
  | dnssec =>
    rw [store]
    cases hswitch : switch? value with
    | none => exact Or.inr ⟨_, rfl, fun _ hspelled => by simp [IsSpelledBy, hswitch] at hspelled⟩
    | some on => exact Or.inl ⟨_, rfl, hswitch, rfl⟩
  | _ =>
    rw [store.eq_def]
    cases htimer : timer? value with
    | none => exact Or.inr ⟨_, rfl, fun _ hspelled => by simp [IsSpelledBy, htimer] at hspelled⟩
    | some seconds => exact Or.inl ⟨_, rfl, htimer, rfl⟩

/-- The settings with a value read into one of them have that value, and differ in nothing else. -/
theorem set_eq_ok_iff {settings next : Settings} {setting : Setting} {value : String} :
    settings.set setting value = .ok next ↔
      next.IsSpelledBy value setting ∧ next = next.adopt settings setting := by
  rcases store_cases settings setting value with ⟨stored, hrun, hspelled, hadopt⟩ |
    ⟨error, hrun, hnone⟩
  · have hset : settings.set setting value = .ok stored := by rw [set, hrun]
    rw [hset, Except.ok.injEq]
    constructor
    · rintro rfl
      exact ⟨hspelled, hadopt⟩
    · rintro ⟨hnext, hsame⟩
      rw [hadopt, hsame, hspelled.adopt_eq hnext settings]
  · have hset : settings.set setting value = .error error := by rw [set, hrun]
    rw [hset]
    exact iff_of_false (by simp) fun h => hnone next h.1

theorem set_value {source : Settings} (hpositive : source.Positive) (settings : Settings)
    (setting : Setting) :
    settings.set setting (source.value setting) = .ok (source.adopt settings setting) := by
  refine set_eq_ok_iff.2 ⟨?_, by cases setting <;> rfl⟩
  cases setting with
  | ttl => exact timer?_toString hpositive.ttl
  | refresh => exact timer?_toString hpositive.refresh
  | retry => exact timer?_toString hpositive.retry
  | expire => exact timer?_toString hpositive.expire
  | dnssec =>
    change switch? (if source.dnssec then "yes" else "no") = some source.dnssec
    cases source.dnssec <;> decide

theorem value_foldl_adopt (source settings : Settings) (adopted : List Setting)
    (setting : Setting) :
    (adopted.foldl source.adopt settings).value setting =
      if setting ∈ adopted then source.value setting else settings.value setting := by
  induction adopted generalizing settings with
  | nil => rfl
  | cons first rest ih =>
    rw [List.foldl_cons, ih, value_adopt]
    by_cases hrest : setting ∈ rest
    · rw [if_pos hrest, if_pos (List.mem_cons_of_mem _ hrest)]
    · rw [if_neg hrest]
      exact if_congr (by simp [hrest]) rfl rfl

theorem mem_nonDefault {settings : Settings} {setting : Setting} :
    setting ∈ settings.nonDefault ↔ settings.value setting ≠ default.value setting := by
  have hall : setting ∈ Setting.all := by cases setting <;> decide
  rw [nonDefault, List.mem_filter, bne_iff_ne]
  exact and_iff_right hall

/-- The settings that are not the default ones make all the difference, in whichever order they are
put in place. -/
theorem foldl_adopt_of_perm {settings : Settings} {order : List Setting}
    (hperm : order.Perm settings.nonDefault) :
    order.foldl settings.adopt default = settings := by
  refine eq_of_value_eq fun setting => ?_
  rw [value_foldl_adopt]
  split
  · rfl
  · next hmem => exact (not_not.1 fun hne => hmem (hperm.mem_iff.2 (mem_nonDefault.2 hne))).symm

theorem foldl_adopt_nonDefault (settings : Settings) :
    settings.nonDefault.foldl settings.adopt default = settings :=
  foldl_adopt_of_perm (List.Perm.refl _)

/-- The settings that are not the default ones determine all of them. -/
theorem eq_of_map_nonDefault_eq {s t : Settings}
    (heq : s.nonDefault.map (fun setting => (setting.name, s.value setting)) =
      t.nonDefault.map fun setting => (setting.name, t.value setting)) : s = t := by
  have hnames := congrArg (List.map Prod.fst) heq
  rw [List.map_map, List.map_map] at hnames
  have hlisted : s.nonDefault = t.nonDefault := List.map_injective_iff.2 Setting.name_injective hnames
  rw [hlisted] at heq
  apply eq_of_value_eq
  intro setting
  by_cases hmem : setting ∈ t.nonDefault
  · exact congrArg Prod.snd (List.map_inj_left.1 heq setting hmem)
  · have hs : s.value setting = default.value setting :=
      not_not.1 fun hne => hmem (hlisted ▸ mem_nonDefault.2 hne)
    have ht : t.value setting = default.value setting :=
      not_not.1 fun hne => hmem (mem_nonDefault.2 hne)
    exact hs.trans ht.symm

/-! ### What reading keeps -/

theorem timer?_positive {value : String} {seconds : UInt32} (htimer : timer? value = some seconds) :
    0 < seconds.toNat := by
  obtain ⟨number, hnumber, rfl⟩ := Option.map_eq_some_iff.1 htimer
  obtain ⟨hnumeral, hpositive⟩ := Option.filter_eq_some_iff.1 hnumber
  have hbound : number < UInt32.size := by
    have := (Option.filter_eq_some_iff.1 hnumeral).2
    exact of_decide_eq_true this
  rw [UInt32.toNat_ofNat_of_lt' hbound]
  exact of_decide_eq_true hpositive

/-- A setting that is read leaves the timers positive. -/
theorem Positive.set {settings next : Settings} {setting : Setting} {value : String}
    (hpositive : settings.Positive) (hset : settings.set setting value = .ok next) :
    next.Positive := by
  obtain ⟨hspelled, hadopt⟩ := set_eq_ok_iff.1 hset
  obtain ⟨httl, hrefresh, hretry, hexpire⟩ := hpositive
  rw [hadopt]
  cases setting with
  | ttl => exact ⟨timer?_positive hspelled, hrefresh, hretry, hexpire⟩
  | refresh => exact ⟨httl, timer?_positive hspelled, hretry, hexpire⟩
  | retry => exact ⟨httl, hrefresh, timer?_positive hspelled, hexpire⟩
  | expire => exact ⟨httl, hrefresh, hretry, timer?_positive hspelled⟩
  | dnssec => exact ⟨httl, hrefresh, hretry, hexpire⟩

end Settings

end ZoneSync
