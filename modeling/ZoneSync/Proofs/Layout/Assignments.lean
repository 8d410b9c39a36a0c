import ZoneSync.Proofs.Layout.Grammar
import ZoneSync.Proofs.Layout.RoundTrip

/-!
# Settings by assignment

Settings are assigned by their names, from written values. However many assignments there are and
whichever of them fail, the timers stay positive: a value that cannot be read changes nothing, and
one that can be read changes the named setting only. In the other direction, the written values of
the settings that are not the default ones are enough to get all settings back, since putting one
setting in place leaves the others alone.
-/

namespace ZoneSync.Settings

open Layout (overwrite)
open Layout.Reading (assign)

variable {settings next : Settings} {setting : Setting} {name value : String}

/-! ### Settings that differ -/

/-- The two have different values of the setting. -/
def Differs (settings other : Settings) : Setting → Prop
  | .ttl => settings.ttl ≠ other.ttl
  | .refresh => settings.refresh ≠ other.refresh
  | .retry => settings.retry ≠ other.retry
  | .expire => settings.expire ≠ other.expire
  | .dnssec => settings.dnssec ≠ other.dnssec

theorem value_ne_iff_differs {other : Settings} :
    settings.value setting ≠ other.value setting ↔ settings.Differs other setting := by
  have htimer : ∀ s t : UInt32, toString s.toNat = toString t.toNat ↔ s = t :=
    fun s t => ⟨timer_injective, fun heq => heq ▸ rfl⟩
  cases setting with
  | dnssec =>
    rw [value, value, Differs]
    cases settings.dnssec <;> cases other.dnssec <;> decide
  | _ => exact not_congr (htimer _ _)

theorem nodup_nonDefault (settings : Settings) : settings.nonDefault.Nodup :=
  List.filter_sublist.nodup (by decide)

/-! ### Assignments -/

/-- The settings after one assignment, whether it fails or not. A name that is unknown leads to no
setting in which something could be stored. -/
def afterOne (settings : Settings) (assignment : String × String) : Settings :=
  match Setting.ofName? assignment.1 with
  | none => settings
  | some setting => ((store setting assignment.2).run settings).2

/-- An assignment that fails has stored nothing, and one that succeeds has stored what it gives. -/
theorem afterOne_eq (settings : Settings) (name value : String) :
    settings.afterOne (name, value) = (assign settings name value).toOption.getD settings := by
  rw [afterOne, assign]
  cases Setting.ofName? name with
  | none => rfl
  | some setting =>
    rcases store_cases settings setting value with ⟨next, hrun, -⟩ | ⟨error, hrun, -⟩
    · simp only [set, hrun]
      rfl
    · simp only [set, hrun]
      rfl

/-- The settings after some assignments, of which any may fail. -/
def after (settings : Settings) (assignments : List (String × String)) : Settings :=
  assignments.foldl afterOne settings

theorem after_append_singleton (assignments : List (String × String)) :
    settings.after (assignments ++ [(name, value)]) =
      (settings.after assignments).afterOne (name, value) :=
  List.foldl_append

theorem Positive.afterOne (hpositive : settings.Positive) (assignment : String × String) :
    (settings.afterOne assignment).Positive := by
  rw [afterOne_eq]
  cases hassign : assign settings assignment.1 assignment.2 with
  | error fault => exact hpositive
  | ok next => exact Layout.positive_of_assign hpositive hassign

theorem Positive.after (hpositive : settings.Positive) (assignments : List (String × String)) :
    (settings.after assignments).Positive := by
  induction assignments generalizing settings with
  | nil => exact hpositive
  | cons first rest ih => exact ih (hpositive.afterOne first)

/-- Assigning what is written for some settings puts these settings in place. -/
theorem overwrite_values {source : Settings} (hpositive : source.Positive) (settings : Settings)
    (order : List Setting) :
    overwrite settings (order.map fun setting => (setting.name, source.value setting)) =
      .ok (order.foldl source.adopt settings) := by
  induction order generalizing settings with
  | nil => rfl
  | cons first rest ih =>
    have hfirst := source.assign_value hpositive settings first
    exact bind_eq_ok_iff.2 ⟨_, hfirst, ih (source.adopt settings first)⟩

/-- Whatever has been assigned to the default settings, the timers are positive numbers of 32 bits, an
assignment that fails leaves all settings as they were, and one that succeeds changes the named
setting only. The settings that are not the default ones are listed once each, by what they are and
not by how they are written; assigning what is written for them to the default settings, in any
order, gives all settings back. -/
theorem assign_rebuilds :
    (∀ assignments : List (String × String),
      let settings := default.after assignments
      (∀ seconds ∈ [settings.ttl, settings.refresh, settings.retry, settings.expire],
        1 ≤ seconds.toNat ∧ seconds.toNat ≤ 4294967295) ∧
      ∀ name value : String,
        (∀ fault, assign settings name value = .error fault →
          default.after (assignments ++ [(name, value)]) = settings) ∧
        ∀ next, assign settings name value = .ok next →
          default.after (assignments ++ [(name, value)]) = next ∧
            ∃ setting : Setting, name = setting.name ∧ next = next.adopt settings setting) ∧
    ∀ settings : Settings, settings.Positive →
      settings.nonDefault.Nodup ∧
      (∀ setting, setting ∈ settings.nonDefault ↔ settings.Differs default setting) ∧
      ∀ order : List Setting, order.Perm settings.nonDefault →
        overwrite default (order.map fun setting => (setting.name, settings.value setting)) =
          .ok settings := by
  refine ⟨fun assignments => ⟨fun seconds hmem => ?_, fun name value => ⟨?_, ?_⟩⟩,
    fun settings hpositive => ⟨nodup_nonDefault settings, fun setting => ?_, fun order hperm => ?_⟩⟩
  · have hpositive := default_positive.after assignments
    have hmost := seconds.toNat_lt
    refine ⟨?_, by omega⟩
    simp only [List.mem_cons, List.not_mem_nil, or_false] at hmem
    rcases hmem with rfl | rfl | rfl | rfl
    · exact hpositive.ttl
    · exact hpositive.refresh
    · exact hpositive.retry
    · exact hpositive.expire
  · intro fault hassign
    rw [after_append_singleton, afterOne_eq, hassign]
    rfl
  · intro next hassign
    obtain ⟨setting, hname, -, hsame⟩ := Layout.Reading.assign_eq_ok_iff.1 hassign
    refine ⟨?_, setting, hname, hsame⟩
    rw [after_append_singleton, afterOne_eq, hassign]
    rfl
  · rw [mem_nonDefault, value_ne_iff_differs]
  · rw [overwrite_values hpositive, foldl_adopt_of_perm hperm]

/-- The greatest timer and the switch, put in place in reverse; and a switch that cannot be read,
after other assignments of which some fail. -/
theorem assign_rebuilds_reversed :
    let settings : Settings := ⟨600, 28800, 7200, 4294967295, true⟩
    let order := [Setting.dnssec, .expire, .ttl]
    let written := order.map fun setting => (setting.name, settings.value setting)
    let assignments := [("ttl", "0"), ("TTL", "60"), ("retry", "+60"), ("expire", "4294967296")]
    settings.Positive ∧ order.Perm settings.nonDefault ∧
      written = [("dnssec", "yes"), ("expire", "4294967295"), ("ttl", "600")] ∧
      overwrite default written = .ok settings ∧
      default.after assignments = { default with retry := 60 } ∧
      default.after (assignments ++ [("dnssec", "maybe")]) = default.after assignments := by
  intro settings order written assignments
  have hpositive : settings.Positive := by decide
  have hperm : order.Perm settings.nonDefault := by decide +kernel
  have hfault : assign (default.after assignments) "dnssec" "maybe" =
      .error (.setting (.notASwitch .dnssec "maybe")) := by decide +kernel
  exact ⟨hpositive, hperm, by decide +kernel, (assign_rebuilds.2 settings hpositive).2.2 order hperm,
    by decide +kernel, ((assign_rebuilds.1 assignments).2 "dnssec" "maybe").1 _ hfault⟩

end ZoneSync.Settings
