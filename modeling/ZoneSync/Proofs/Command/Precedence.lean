import ZoneSync.Command.Invocation
import ZoneSync.Command.Run
import ZoneSync.Proofs.Command.Print
import ZoneSync.Proofs.Layout.Reading

/-!
# Which layer decides

The options are the highest layer, then come the variables of the environment, the configuration
file and the defaults. Every key has the value of the highest layer that says something of it, and
what no key names does not matter. One thing is not decided by the highest layer: the timeout is
looked at twice, once in the three lower layers and once more under the options, so a timeout of
zero in a lower layer lets the command fail although an option says otherwise.
-/

namespace ZoneSync

namespace Config

/-! ### Layers of values -/

inductive Kind where
  | text | number | switch
  deriving DecidableEq

/-- The kind of the values that the key wants. -/
def Key.kind : Key → Kind
  | .credentials | .caCert | .color => .text
  | .timeout => .number
  | .sortRecords => .switch

def Value.kind? : Value → Option Kind
  | text _ => some .text
  | number _ => some .number
  | switch _ => some .switch
  | other => none

/-- Every value is of the kind that its key wants. -/
def Layer.IsTyped (layer : Layer) : Prop :=
  ∀ key, ∀ value ∈ layer key, value.kind? = some key.kind

/-- What a configuration says of the keys. -/
def layer (config : Config) : Layer
  | .credentials => some (.text config.credentials)
  | .timeout => some (.number config.timeout)
  | .caCert => config.caCert.map .text
  | .color => some (.text config.color)
  | .sortRecords => some (.switch config.sortRecords)

/-- Each key with its value in the first layer that has one. -/
def highest (layers : List Layer) : Layer :=
  fun key => layers.findSome? fun layer => layer key

/-- The layers below the options, the highest first. -/
def layers (surroundings : Surroundings) (members : Toml.Members) : List Layer :=
  [variableLayer surroundings.bindings, fileLayer members,
    (default surroundings.environment).layer]

section

variable {layer other : Layer} {config byDefault : Config} {given : Option Value}

theorem highest_cons (first : Layer) (rest : List Layer) :
    highest (first :: rest) = first.over (highest rest) := by
  funext key
  rw [highest, List.findSome?_cons, Layer.over]
  cases first key <;> rfl

theorem highest_layers (surroundings : Surroundings) (members : Toml.Members) :
    highest (layers surroundings members) =
      ((variableLayer surroundings.bindings).over (fileLayer members)).over
        (default surroundings.environment).layer := by
  funext key
  rw [layers, highest_cons, highest_cons, highest_cons]
  simp only [Layer.over, highest, List.findSome?_nil, Option.or_none, Option.or_assoc]

theorem Layer.IsTyped.over (hlayer : layer.IsTyped) (hother : other.IsTyped) :
    (layer.over other).IsTyped := by
  intro key value hvalue
  rcases Option.or_eq_some_iff.1 hvalue with hfirst | ⟨-, hsecond⟩
  · exact hlayer key value hfirst
  · exact hother key value hsecond

/-! ### Configurations as layers -/

theorem textValue_eq_ok_iff {byDefault value : String} :
    textValue byDefault given = .ok value ↔
      some (.text value) = given.or (some (.text byDefault)) := by
  rcases given with _ | _ | _ | _ | _ <;> simp [textValue, eq_comm]

theorem numberValue_eq_ok_iff {byDefault value : UInt64} :
    numberValue byDefault given = .ok value ↔
      some (.number value) = given.or (some (.number byDefault)) := by
  rcases given with _ | _ | _ | _ | _ <;> simp [numberValue, eq_comm]

theorem switchValue_eq_ok_iff {byDefault value : Bool} :
    switchValue byDefault given = .ok value ↔
      some (.switch value) = given.or (some (.switch byDefault)) := by
  rcases given with _ | _ | _ | _ | _ <;> simp [switchValue, eq_comm]

/-- A path that may be missing. -/
def pathValue (byDefault : Option String) : Option Value → Except ConfigError (Option String)
  | none => .ok byDefault
  | some value => some <$> textValue "" (some value)

theorem pathValue_eq_ok_iff {byDefault path : Option String} :
    pathValue byDefault given = .ok path ↔
      path.map .text = given.or (byDefault.map .text) := by
  have htext : Function.Injective Value.text := fun _ _ => Value.text.inj
  rcases given with _ | value | _ | _ | _
  · rw [Option.none_or, (Option.map_injective htext).eq_iff]
    exact ⟨fun heq => (Except.ok.inj heq).symm, fun heq => heq ▸ rfl⟩
  all_goals cases path <;> simp [pathValue, textValue, eq_comm, Functor.map, Except.map]

theorem ofLayer_eq (byDefault : Config) (layer : Layer) :
    ofLayer byDefault layer = do
      let credentials ← textValue byDefault.credentials (layer .credentials)
      let timeout ← numberValue byDefault.timeout (layer .timeout)
      let caCert ← pathValue byDefault.caCert (layer .caCert)
      let color ← textValue byDefault.color (layer .color)
      let sortRecords ← switchValue byDefault.sortRecords (layer .sortRecords)
      return ⟨credentials, timeout, caCert, color, sortRecords⟩ := by
  rw [ofLayer]
  cases layer .caCert <;> rfl

theorem ofLayer_eq_ok_iff :
    ofLayer byDefault layer = .ok config ↔ config.layer = layer.over byDefault.layer := by
  simp only [ofLayer_eq, bind_eq_ok_iff, textValue_eq_ok_iff, numberValue_eq_ok_iff,
    pathValue_eq_ok_iff, switchValue_eq_ok_iff]
  constructor
  · rintro ⟨credentials, hcredentials, timeout, htimeout, caCert, hcaCert, color, hcolor,
      sortRecords, hsortRecords, hconfig⟩
    obtain rfl := Except.ok.inj hconfig
    funext key
    cases key with
    | credentials => exact hcredentials
    | timeout => exact htimeout
    | caCert => exact hcaCert
    | color => exact hcolor
    | sortRecords => exact hsortRecords
  · intro hlayer
    exact ⟨_, congrFun hlayer .credentials, _, congrFun hlayer .timeout, _,
      congrFun hlayer .caCert, _, congrFun hlayer .color, _, congrFun hlayer .sortRecords, rfl⟩

theorem exists_textValue (byDefault : String)
    (hgiven : ∀ value ∈ given, value.kind? = some .text) :
    ∃ value, textValue byDefault given = .ok value := by
  rcases given with _ | value
  · exact ⟨byDefault, rfl⟩
  · cases value with
    | text value => exact ⟨value, rfl⟩
    | _ => simp [Value.kind?] at hgiven

theorem exists_numberValue (byDefault : UInt64)
    (hgiven : ∀ value ∈ given, value.kind? = some .number) :
    ∃ value, numberValue byDefault given = .ok value := by
  rcases given with _ | value
  · exact ⟨byDefault, rfl⟩
  · cases value with
    | number value => exact ⟨value, rfl⟩
    | _ => simp [Value.kind?] at hgiven

theorem exists_switchValue (byDefault : Bool)
    (hgiven : ∀ value ∈ given, value.kind? = some .switch) :
    ∃ value, switchValue byDefault given = .ok value := by
  rcases given with _ | value
  · exact ⟨byDefault, rfl⟩
  · cases value with
    | switch value => exact ⟨value, rfl⟩
    | _ => simp [Value.kind?] at hgiven

theorem exists_ofLayer (hlayer : layer.IsTyped) (byDefault : Config) :
    ∃ config, ofLayer byDefault layer = .ok config ∧
      config.layer = layer.over byDefault.layer := by
  obtain ⟨credentials, hcredentials⟩ :=
    exists_textValue byDefault.credentials (hlayer .credentials)
  obtain ⟨timeout, htimeout⟩ := exists_numberValue byDefault.timeout (hlayer .timeout)
  obtain ⟨caCert, hcaCert⟩ : ∃ path, pathValue byDefault.caCert (layer .caCert) = .ok path := by
    cases hgiven : layer .caCert with
    | none => exact ⟨byDefault.caCert, rfl⟩
    | some value =>
      obtain ⟨path, hpath⟩ := exists_textValue "" (hgiven ▸ hlayer .caCert)
      exact ⟨some path, congrArg (some <$> ·) hpath⟩
  obtain ⟨color, hcolor⟩ := exists_textValue byDefault.color (hlayer .color)
  obtain ⟨sortRecords, hsortRecords⟩ :=
    exists_switchValue byDefault.sortRecords (hlayer .sortRecords)
  have hconfig : ofLayer byDefault layer =
      .ok ⟨credentials, timeout, caCert, color, sortRecords⟩ := by
    rw [ofLayer_eq, hcredentials, htimeout, hcaCert, hcolor, hsortRecords]
    rfl
  exact ⟨_, hconfig, ofLayer_eq_ok_iff.1 hconfig⟩

/-! ### What is loaded without options -/

/-- The timeout of the three layers is looked at before any option is. -/
theorem exists_load {surroundings : Surroundings} {path : String} {members : Toml.Members}
    (hread : readFile surroundings path = .ok members)
    (hvariables : (variableLayer surroundings.bindings).IsTyped)
    (hfile : (fileLayer members).IsTyped) :
    ∃ config, config.layer = highest (layers surroundings members) ∧
      load surroundings path =
        if config.timeout = 0 then .error (.validation Key.timeout.name timeoutReason)
        else .ok config := by
  obtain ⟨config, hconfig, hlayer⟩ :=
    exists_ofLayer (hvariables.over hfile) (default surroundings.environment)
  refine ⟨config, by rw [hlayer, highest_layers], ?_⟩
  rw [load, hread]
  change (ofLayer _ _ >>= _) = _
  rw [hconfig]
  rfl

end

/-! ### What does not matter -/

/-- All keys. -/
def keys : List Key :=
  [.credentials, .timeout, .caCert, .color, .sortRecords]

theorem mem_keys (key : Key) : key ∈ keys := by
  cases key <;> decide

/-- The member of a file is named by a key. -/
def isKnown (member : String × Toml.Node) : Bool :=
  keys.any fun key => member.1 == key.name

/-- The variable says where files are, or it overrides a key. -/
def isRead (binding : String × String) : Bool :=
  ["HOME", "XDG_CONFIG_HOME"].contains binding.1 ||
    keys.any fun key => binding.1.map Char.toUpper = key.variableName

section

variable {α β : Type} {surroundings other : Surroundings} {members others : Toml.Members}

theorem find?_filter_of_imp {items : List α} {wanted kept : α → Bool}
    (himp : ∀ item, wanted item = true → kept item = true) :
    (items.filter kept).find? wanted = items.find? wanted := by
  rw [List.find?_filter]
  congr 1
  funext item
  cases hwanted : wanted item with
  | false => simp
  | true => simp [himp item hwanted]

theorem lookup_filter_of_kept {bindings : List (String × String)}
    {kept : String × String → Bool} {name : String} (hkept : ∀ value, kept (name, value) = true) :
    (bindings.filter kept).lookup name = bindings.lookup name := by
  induction bindings with
  | nil => rfl
  | cons first rest ih =>
    obtain ⟨key, value⟩ := first
    by_cases hname : key = name
    · subst hname
      rw [List.filter_cons_of_pos (hkept value), List.lookup_cons_self, List.lookup_cons_self]
    · have hother : (name == key) = false := beq_false_of_ne (Ne.symm hname)
      rw [List.filter_cons]
      split <;> simp [List.lookup_cons, hother, ih]

theorem fileLayer_eq (hmembers : others.filter isKnown = members.filter isKnown) :
    fileLayer others = fileLayer members := by
  have hfind : ∀ (members : Toml.Members) (key : Key),
      List.find? (fun member => member.1 == key.name) (members.filter isKnown) =
        List.find? (fun member => member.1 == key.name) members :=
    fun members key => find?_filter_of_imp fun member hmember =>
      List.any_eq_true.2 ⟨key, mem_keys key, hmember⟩
  funext key
  rw [fileLayer, fileLayer, Toml.Members.find?, Toml.Members.find?, ← hfind others, hmembers, hfind]

theorem variableLayer_eq {bindings others : List (String × String)}
    (hbindings : others.filter isRead = bindings.filter isRead) :
    variableLayer others = variableLayer bindings := by
  have hfind : ∀ (bindings : List (String × String)) (key : Key),
      ((bindings.filter isRead).reverse.find? fun binding =>
          binding.1.map Char.toUpper = key.variableName) =
        bindings.reverse.find? fun binding => binding.1.map Char.toUpper = key.variableName := by
    intro bindings key
    rw [← List.filter_reverse]
    exact find?_filter_of_imp fun binding hbinding => Bool.or_eq_true_iff.2
      (Or.inr (List.any_eq_true.2 ⟨key, mem_keys key, hbinding⟩))
  have hlayer : ∀ (bindings : List (String × String)) (key : Key), variableLayer bindings key =
      (bindings.reverse.find? fun binding => binding.1.map Char.toUpper = key.variableName).map
        fun binding => Value.ofVariable binding.2 :=
    fun _ _ => rfl
  funext key
  rw [hlayer, hlayer, ← hfind others, hbindings, hfind]

theorem environment_eq {name : String} (hname : name ∈ ["HOME", "XDG_CONFIG_HOME"])
    (hbindings : other.bindings.filter isRead = surroundings.bindings.filter isRead) :
    other.environment name = surroundings.environment name := by
  have hkept : ∀ value, isRead (name, value) = true := fun _ =>
    Bool.or_eq_true_iff.2 (Or.inl (List.contains_iff_mem.2 hname))
  rw [Surroundings.environment, Surroundings.environment, ← lookup_filter_of_kept hkept, hbindings,
    lookup_filter_of_kept hkept]

/-- The places of files are told by the variables that are read. -/
theorem directory_eq
    (hbindings : other.bindings.filter isRead = surroundings.bindings.filter isRead) :
    directory other.environment = directory surroundings.environment := by
  rw [directory, directory, environment_eq (by decide) hbindings,
    environment_eq (by decide) hbindings]

theorem load_eq {path : String}
    (hbindings : other.bindings.filter isRead = surroundings.bindings.filter isRead)
    (hread : readFile surroundings path = .ok members) (hother : readFile other path = .ok others)
    (hmembers : others.filter isKnown = members.filter isKnown) :
    load other path = load surroundings path := by
  have hdefault : default other.environment = default surroundings.environment := by
    rw [default, default, environment_eq (by decide) hbindings]
  rw [load, load, hread, hother, hdefault, variableLayer_eq hbindings]
  change (ofLayer _ (Layer.over _ (fileLayer others)) >>= _) = _
  rw [fileLayer_eq hmembers]
  rfl

end

end Config

namespace Command

open Config (highest layers Layer)

/-! ### Options over a configuration -/

/-- What the options say of the keys. -/
def Options.layer (options : Options) : Layer
  | .credentials => options.credentials.map .text
  | .timeout => options.timeout.map .number
  | _ => none

/-- The configuration, with what the options say instead. -/
def Options.override (options : Options) (config : Config) : Config :=
  { config with
    timeout := options.timeout.getD config.timeout
    credentials := options.credentials.getD config.credentials }

variable {surroundings : Surroundings} {options : Options} {config : Config}

theorem Options.layer_override (options : Options) (config : Config) :
    (options.override config).layer = options.layer.over config.layer := by
  funext key
  cases key with
  | credentials =>
    rw [Config.layer, override, Layer.over, layer]
    cases options.credentials <;> rfl
  | timeout =>
    rw [Config.layer, override, Layer.over, layer]
    cases options.timeout <;> rfl
  | _ => rfl

theorem load_of_config
    (hload : Config.load surroundings (configPath surroundings options) = .ok config) :
    Preferences.load surroundings options =
      if (options.override config).timeout = 0 then
        .error (.validation Config.Key.timeout.name Config.timeoutReason)
      else .ok ⟨options.override config, configPath surroundings options⟩ := by
  rw [Preferences.load]
  simp only [hload]
  rfl

theorem load_of_configError {error : ConfigError}
    (hload : Config.load surroundings (configPath surroundings options) = .error error) :
    Preferences.load surroundings options = .error (.config error) := by
  rw [Preferences.load]
  simp only [hload]
  rfl

/-- The timeout is looked at below the options and again under them. -/
theorem exists_load {members : Toml.Members}
    (hread : Config.readFile surroundings (configPath surroundings options) = .ok members)
    (hvariables : (Config.variableLayer surroundings.bindings).IsTyped)
    (hfile : (Config.fileLayer members).IsTyped) :
    ∃ config, config.layer = highest (layers surroundings members) ∧
      Preferences.load surroundings options =
        if config.timeout = 0 then
          .error (.config (.validation Config.Key.timeout.name Config.timeoutReason))
        else if (options.override config).timeout = 0 then
          .error (.validation Config.Key.timeout.name Config.timeoutReason)
        else .ok ⟨options.override config, configPath surroundings options⟩ := by
  obtain ⟨config, hlower, hload⟩ := Config.exists_load hread hvariables hfile
  refine ⟨config, hlower, ?_⟩
  split at hload
  · next hzero => rw [if_pos hzero, load_of_configError hload]
  · next hpositive => rw [if_neg hpositive, load_of_config hload]

/-- Files and variables that differ only in what no key names are the same to the command. -/
theorem load_congr {other : Surroundings} {members others : Toml.Members}
    (hread : Config.readFile surroundings (configPath surroundings options) = .ok members)
    (hother : Config.readFile other (configPath other options) = .ok others)
    (hbindings : other.bindings.filter Config.isRead =
      surroundings.bindings.filter Config.isRead)
    (hmembers : others.filter Config.isKnown = members.filter Config.isKnown) :
    Preferences.load other options = Preferences.load surroundings options := by
  have hpath : configPath other options = configPath surroundings options := by
    rw [configPath, configPath, Config.defaultPath, Config.defaultPath,
      Config.directory_eq hbindings]
  have hload := Config.load_eq hbindings hread (hpath ▸ hother) hmembers
  simp only [Preferences.load, hpath, hload]

theorem one_le_iff_ne_zero {seconds : UInt64} : 1 ≤ seconds ↔ seconds ≠ 0 := by
  rw [UInt64.le_iff_toNat_le, ne_eq, ← UInt64.toNat_inj]
  exact Nat.one_le_iff_ne_zero

/-- What comes after both looks at the timeout comes only if both find a second at least. -/
theorem eq_ok_iff_of_looks {loaded : Except Failure Preferences} {configured effective : UInt64}
    {below above : Failure} {found preferences : Preferences}
    (hloaded : loaded =
      if configured = 0 then .error below else if effective = 0 then .error above else .ok found) :
    loaded = .ok preferences ↔ (1 ≤ configured ∧ 1 ≤ effective) ∧ preferences = found := by
  rw [hloaded, one_le_iff_ne_zero, one_le_iff_ne_zero]
  split
  · next hzero => simp [hzero]
  · next hconfigured =>
    split
    · next hzero => simp [hzero]
    · next heffective => simp [hconfigured, heffective, eq_comm]

/-- Every key has the value of the highest layer that says something of it, and what no key names
does not matter. The command needs a timeout of at least a second from the highest of all layers,
and also from the highest below the options; these are the same unless an option gives the timeout.
-/
theorem load_isHighest {members : Toml.Members}
    (hread : Config.readFile surroundings (configPath surroundings options) = .ok members)
    (hvariables : (Config.variableLayer surroundings.bindings).IsTyped)
    (hfile : (Config.fileLayer members).IsTyped) :
    let lower := layers surroundings members
    let loaded := Preferences.load surroundings options
    (∃ configured effective : UInt64,
      highest lower .timeout = some (.number configured) ∧
      highest (options.layer :: lower) .timeout = some (.number effective) ∧
      ((∃ preferences, loaded = .ok preferences) ↔ 1 ≤ configured ∧ 1 ≤ effective) ∧
      (options.timeout = none ∨ 1 ≤ configured →
        ((∃ preferences, loaded = .ok preferences) ↔ 1 ≤ effective)) ∧
      (configured = 0 → loaded =
        .error (.config (.validation Config.Key.timeout.name Config.timeoutReason))) ∧
      (1 ≤ configured → effective = 0 → loaded =
        .error (.validation Config.Key.timeout.name Config.timeoutReason))) ∧
    (∀ preferences, loaded = .ok preferences →
      preferences.path = configPath surroundings options ∧
        ∀ key, preferences.config.layer key = highest (options.layer :: lower) key) ∧
    ∀ (other : Surroundings) (others : Toml.Members),
      Config.readFile other (configPath other options) = .ok others →
      others.filter Config.isKnown = members.filter Config.isKnown →
      other.bindings.filter Config.isRead = surroundings.bindings.filter Config.isRead →
        Preferences.load other options = loaded := by
  intro lower loaded
  obtain ⟨config, hlower, hloaded⟩ := exists_load hread hvariables hfile
  have hlayers : (options.override config).layer = highest (options.layer :: lower) := by
    rw [Options.layer_override, Config.highest_cons, hlower]
  have hloads : (∃ preferences, loaded = .ok preferences) ↔
      1 ≤ config.timeout ∧ 1 ≤ (options.override config).timeout :=
    ⟨fun ⟨_, hpreferences⟩ => ((eq_ok_iff_of_looks hloaded).1 hpreferences).1,
      fun htimeouts => ⟨_, (eq_ok_iff_of_looks hloaded).2 ⟨htimeouts, rfl⟩⟩⟩
  refine ⟨⟨config.timeout, (options.override config).timeout, congrFun hlower.symm .timeout,
    congrFun hlayers.symm .timeout, hloads, ?_, ?_, ?_⟩, ?_, ?_⟩
  · rintro (hnone | hconfigured)
    · -- Both looks are at one timeout.
      have hsame : (options.override config).timeout = config.timeout := by
        rw [Options.override, hnone, Option.getD_none]
      rw [hloads, hsame, and_self]
    · rw [hloads, and_iff_right hconfigured]
  · intro hzero
    exact hloaded.trans (if_pos hzero)
  · intro hconfigured hzero
    rw [show loaded = _ from hloaded, if_neg (one_le_iff_ne_zero.1 hconfigured), if_pos hzero]
  · intro preferences hpreferences
    obtain ⟨-, rfl⟩ := (eq_ok_iff_of_looks hloaded).1 hpreferences
    exact ⟨rfl, congrFun hlayers⟩
  · exact fun other others hother hmembers hbindings =>
      load_congr hread hother hbindings hmembers

end Command

/-! ### Layers that disagree -/

namespace Sample

/-- One configuration file, and some variables. -/
def configured (text : String) (bindings : List (String × String)) : Surroundings where
  file path := if path = "c.toml" then .ok text.toUTF8 else .error .missing
  bindings := bindings
  input := .empty
  screen := false
  answer := none

/-- Keys with plain values. -/
def plain (values : List (String × Toml.Scalar)) : Toml.Members :=
  values.map fun entry => (entry.1, .value (.scalar entry.2))

def scalar? : Toml.Node → Option Toml.Scalar
  | .value (.scalar value) => some value
  | _ => none

/-- The values of the keys, if all of them are plain. -/
def plain? (members : Toml.Members) : Option (List (String × Toml.Scalar)) :=
  members.mapM fun member => (scalar? member.2).map fun value => (member.1, value)

theorem scalar?_eq_some_iff {node : Toml.Node} {value : Toml.Scalar} :
    scalar? node = some value ↔ node = .value (.scalar value) := by
  rcases node with ⟨_ | _ | _⟩ | _ | _ <;> simp [scalar?]

theorem eq_plain {members : Toml.Members} {values : List (String × Toml.Scalar)}
    (hmembers : plain? members = some values) : members = plain values := by
  induction members generalizing values with
  | nil =>
    obtain rfl := Option.some.inj hmembers
    rfl
  | cons first rest ih =>
    rw [plain?, List.mapM_cons] at hmembers
    obtain ⟨entry, hentry, hrest⟩ := Option.bind_eq_some_iff.1 hmembers
    obtain ⟨value, hvalue, rfl⟩ := Option.map_eq_some_iff.1 hentry
    obtain ⟨entries, hentries, heq⟩ := Option.bind_eq_some_iff.1 hrest
    obtain rfl := Option.some.inj heq
    rw [plain, List.map_cons, ← plain, ← ih hentries, ← scalar?_eq_some_iff.1 hvalue]

theorem readFile_configured {text : String} {values : List (String × Toml.Scalar)}
    (hparse : (Toml.parse? text).bind plain? = some values) (bindings : List (String × String)) :
    Config.readFile (configured text bindings) "c.toml" = .ok (plain values) := by
  obtain ⟨members, hmembers, hplain⟩ := Option.bind_eq_some_iff.1 hparse
  have htext : (configured text bindings).readText "c.toml" = .ok text := by
    rw [Surroundings.readText]
    simp only [configured, if_true, Surroundings.decodeText, Command.fromUTF8?_toUTF8]
  rw [Config.readFile, htext]
  simp only [hmembers, Option.elim_some, eq_plain hplain]

end Sample

namespace Command

open Sample
open Config (highest layers)

/-- The zero of the file does not count below the variable, and keys that are not known do not count
at all. -/
theorem load_isHighest_mixed :
    let text := "timeout = 0\nsort_records = true\n"
    let bindings := [("HOME", "/home"), ("DNSSYNC_TIMEOUT", "40")]
    let surroundings := configured text bindings
    let further := configured (text ++ "other = 5\n") (("DNSSYNC_OTHER", "0") :: bindings)
    let options : Options := ⟨some "given", some "c.toml", .layout, none, false, none⟩
    ∃ preferences, Preferences.load surroundings options = .ok preferences ∧
      preferences.path = "c.toml" ∧
      Config.keys.map preferences.config.layer =
        [some (.text "given"), some (.number 40), none, some (.text "auto"), some (.switch true)] ∧
      Preferences.load further options = .ok preferences := by
  intro text bindings surroundings further options
  let members := plain [("timeout", .int 0), ("sort_records", .bool true)]
  have hread : Config.readFile surroundings "c.toml" = .ok members :=
    readFile_configured (by decide +kernel) bindings
  have hfurther : Config.readFile further "c.toml" = .ok (plain
      [("timeout", .int 0), ("sort_records", .bool true), ("other", .int 5)]) :=
    readFile_configured (by decide +kernel) _
  have hvariables : (Config.variableLayer bindings).IsTyped := fun key => by
    cases key <;> decide +kernel
  have hfile : (Config.fileLayer members).IsTyped := fun key => by
    cases key <;> decide +kernel
  obtain ⟨⟨_, effective, -, heffective, -, hloads, -⟩, hhighest, hsame⟩ :=
    @load_isHighest surroundings options _ hread hvariables hfile
  have hforty : effective = 40 := by
    have hvalue : highest (options.layer :: layers surroundings members) .timeout =
        some (.number 40) := by decide +kernel
    exact Config.Value.number.inj (Option.some.inj (heffective.symm.trans hvalue))
  obtain ⟨preferences, hpreferences⟩ := (hloads (Or.inl rfl)).2 (by rw [hforty]; decide)
  obtain ⟨hpath, hlayer⟩ := hhighest preferences hpreferences
  refine ⟨preferences, hpreferences, hpath, ?_, ?_⟩
  · rw [List.map_congr_left fun key _ => hlayer key]
    decide +kernel
  · rw [← hpreferences]
    exact hsame further _ hfurther rfl (by decide +kernel)

/-- A timeout of five seconds from the command line does not help where the file says zero. -/
theorem load_zero_below :
    let surroundings := configured "timeout = 0\n" []
    let members := plain [("timeout", .int 0)]
    let options : Options := ⟨none, some "c.toml", .layout, none, false, some 5⟩
    parse surroundings.environment ["--timeout", "5", "--config", "c.toml", "config", "show"] =
        .ok ⟨options, .showConfig⟩ ∧
      Config.readFile surroundings (configPath surroundings options) = .ok members ∧
      (Config.variableLayer surroundings.bindings).IsTyped ∧
      (Config.fileLayer members).IsTyped ∧
      highest (options.layer :: layers surroundings members) .timeout = some (.number 5) ∧
      ¬∃ preferences, Preferences.load surroundings options = .ok preferences := by
  intro surroundings members options
  refine ⟨by decide +kernel, readFile_configured (by decide +kernel) [], nofun, fun key => ?_, rfl,
    ?_⟩
  · cases key <;> decide +kernel
  · have hload : Preferences.load surroundings options =
        .error (.config (.validation "timeout" "must be at least one second")) := by
      decide +kernel
    rw [hload]
    exact nofun

end Command

end ZoneSync
