import ZoneSync.Command.Run
import ZoneSync.Proofs.Listing
import ZoneSync.Proofs.Provider.Conversion
import ZoneSync.Proofs.Sync.Exchanges

/-!
# What a push shows and writes

A push fetches every domain of the layout once and compares. What it shows and what it writes are the
pending changes of these comparisons: nothing is fetched between the two, so nothing else can be
written than what was shown. Writing needs the option and a confirmation. Each domain is written for
itself, so a change that is refused leaves the others as they are.
-/

namespace ZoneSync

variable {id : String} {exchanges : List Exchange}

/-! ### One domain -/

theorem Outcome.pending?_eq_some_iff {outcome : Outcome} {delta : Delta} :
    outcome.pending? = some delta ↔ outcome.result = .ok delta ∧ delta.isNoop = false := by
  rw [pending?]
  cases outcome.result with
  | error error => simp
  | ok found => cases hnoop : found.isNoop <;> grind

namespace Session

variable {session : Session}

/-- Comparing a domain is fetching it, and what is found is held against what is desired. -/
theorem ends_pushOutcome_false {desired : Zone} {outcome : Outcome}
    (hends : (session.pushOutcome false desired).Ends exchanges outcome) :
    ∃ fetched, (session.fetchZone desired.domain).Ends exchanges fetched ∧
      outcome = ⟨desired.domain, fetched.map (reconcile · desired)⟩ := by
  obtain ⟨pushing, told, result, rfl, hpush, htold⟩ := Dialogue.ends_bind_iff.1 hends
  obtain ⟨fetching, rest, fetched, rfl, hfetch, hrest⟩ := Dialogue.ends_bind_iff.1 hpush
  refine ⟨fetched, ?_⟩
  cases fetched with
  | error error =>
    obtain ⟨rfl, rfl⟩ := Dialogue.ends_done_iff.1 hrest
    obtain ⟨rfl, rfl⟩ := Dialogue.ends_done_iff.1 (Dialogue.ends_warn_iff.1 htold)
    rw [List.append_nil, List.append_nil]
    exact ⟨hfetch, rfl⟩
  | ok current =>
    obtain ⟨rfl, rfl⟩ := Dialogue.ends_done_iff.1 hrest
    obtain ⟨rfl, rfl⟩ := Dialogue.ends_done_iff.1 htold
    rw [List.append_nil, List.append_nil]
    exact ⟨hfetch, rfl⟩

/-- What is pending of an outcome is written, and the outcome keeps its change if that went well. -/
theorem ends_applyOutcome {outcome after : Outcome}
    (hends : (session.applyOutcome outcome).Ends exchanges after) :
    outcome.pending? = none ∧ exchanges = [] ∧ after = outcome ∨
      ∃ delta result, outcome.pending? = some delta ∧
        (session.applyDelta delta).Ends exchanges result ∧
          after = ⟨outcome.domain, result.map fun _ => delta⟩ := by
  rw [applyOutcome] at hends
  cases hpending : outcome.pending? with
  | none =>
    rw [hpending] at hends
    obtain ⟨rfl, rfl⟩ := Dialogue.ends_done_iff.1 hends
    exact Or.inl ⟨rfl, rfl, rfl⟩
  | some delta =>
    rw [hpending] at hends
    obtain ⟨writing, told, result, rfl, hwrite, htold⟩ := Dialogue.ends_bind_iff.1 hends
    refine Or.inr ⟨delta, result, rfl, ?_⟩
    cases result with
    | error error =>
      obtain ⟨rfl, rfl⟩ := Dialogue.ends_done_iff.1 (Dialogue.ends_warn_iff.1 htold)
      rw [List.append_nil]
      exact ⟨hwrite, rfl⟩
    | ok =>
      obtain ⟨rfl, rfl⟩ := Dialogue.ends_done_iff.1 htold
      obtain ⟨hfound, -⟩ := Outcome.pending?_eq_some_iff.1 hpending
      rw [List.append_nil, Except.map, ← hfound]
      exact ⟨hwrite, rfl⟩

/-- The exchanges of the comparison of a zone, and its outcome. -/
structure Compares (session : Session) (id : String) (desired : Zone)
    (part : List Exchange × Outcome) : Prop where
  domain : part.2.domain = desired.domain
  result : ∃ fetched, session.Fetches id desired.domain part.1 fetched ∧
    part.2.result = fetched.map (reconcile · desired)

/-- The exchanges that write what is pending of an outcome, and the outcome afterwards. -/
inductive Settles (session : Session) (id : String) (outcome : Outcome) :
    List Exchange × Outcome → Prop
  | nothing : outcome.pending? = none → Settles session id outcome ([], outcome)
  | accepted {delta : Delta} {exchanges : List Exchange} :
    outcome.pending? = some delta → session.Sends id delta exchanges (.ok ()) →
      Settles session id outcome (exchanges, outcome)
  | refused {delta : Delta} {exchanges : List Exchange} {error : SyncError} :
    outcome.pending? = some delta → session.Sends id delta exchanges (.error error) →
      Settles session id outcome (exchanges, { outcome with result := .error error })

theorem compares_of_ends {desired : Zone} {outcome : Outcome} (hopen : session.id = some id)
    (hweb : session.endpoint.isWeb = true)
    (hends : (session.pushOutcome false desired).Ends exchanges outcome) :
    session.Compares id desired (exchanges, outcome) := by
  obtain ⟨fetched, hfetch, rfl⟩ := ends_pushOutcome_false hends
  exact ⟨rfl, fetched, ends_fetchZone hopen hweb hfetch, rfl⟩

theorem settles_of_ends {outcome after : Outcome} (hopen : session.id = some id)
    (hweb : session.endpoint.isWeb = true)
    (hends : (session.applyOutcome outcome).Ends exchanges after) :
    session.Settles id outcome (exchanges, after) := by
  rcases ends_applyOutcome hends with ⟨hnone, rfl, rfl⟩ | ⟨delta, result, hpending, hwrite, rfl⟩
  · exact .nothing hnone
  · have hsends := ends_applyDelta hopen hweb hwrite
    cases result with
    | error error => exact .refused hpending hsends
    | ok =>
      rw [Except.map, ← (Outcome.pending?_eq_some_iff.1 hpending).1]
      exact .accepted hpending hsends

end Session

namespace Command

variable {session : Session} {mode : PushMode} {answer : Option (Except FileFault Bool)}
  {layout : Layout} {report : Report}

/-! ### When something is written -/

/-- Changes shall be written, and no confirmation is needed or one was given. -/
def PushMode.IsApproved (mode : PushMode) (answer : Option (Except FileFault Bool)) : Prop :=
  mode.commit = true ∧ (mode.yes = true ∨ answer = some (.ok true))

/-- Why there is no answer: nobody is there to give it, or it cannot be read. -/
inductive Unanswered : Option (Except FileFault Bool) → Failure → Prop
  | absent : Unanswered none .unconfirmed
  | unreadable {fault : FileFault} :
    Unanswered (some (.error fault)) (.unreadable .operator (.file fault))

/-- The changes that are left to write. -/
def pending (outcomes : List Outcome) : List Delta :=
  outcomes.filterMap Outcome.pending?

theorem length_pending (outcomes : List Outcome) :
    (outcomes.filter Outcome.isPending).length = (pending outcomes).length := by
  have hsome : ∀ outcome : Outcome, outcome.isPending = outcome.pending?.isSome := by
    intro outcome
    rw [Outcome.isPending, Outcome.pending?]
    split
    · next delta _ => cases delta.isNoop <;> rfl
    · rfl
  induction outcomes with
  | nil => rfl
  | cons outcome rest ih =>
    rw [pending, List.filterMap_cons, List.filter_cons, hsome]
    cases outcome.pending? with
    | none => exact ih
    | some delta => exact congrArg Nat.succ ih

theorem decide_cases (mode : PushMode) (answer : Option (Except FileFault Bool)) (count : Nat) :
    (mode.decide answer count = .leave ∧ (mode.commit = false ∨ count = 0)) ∨
      (mode.decide answer count = .write ∧ mode.IsApproved answer ∧ count ≠ 0) ∨
        (mode.decide answer count = .abort ∧
          mode.commit = true ∧ mode.yes = false ∧ answer = some (.ok false)) ∨
          (∃ failure, mode.decide answer count = .refuse failure ∧
            mode.commit = true ∧ mode.yes = false ∧ Unanswered answer failure ∧ count ≠ 0) := by
  obtain ⟨commit, yes, _, _, _⟩ := mode
  cases commit with
  | false => exact Or.inl ⟨rfl, Or.inl rfl⟩
  | true =>
    by_cases hcount : count = 0
    · exact Or.inl ⟨by simp [PushMode.decide, hcount], Or.inr hcount⟩
    · cases yes with
      | true => exact Or.inr (Or.inl ⟨by simp [PushMode.decide, hcount], ⟨rfl, Or.inl rfl⟩, hcount⟩)
      | false =>
        rcases answer with _ | fault | _ | _
        · exact Or.inr (Or.inr (Or.inr
            ⟨_, by simp [PushMode.decide, hcount], rfl, rfl, .absent, hcount⟩))
        · exact Or.inr (Or.inr (Or.inr
            ⟨_, by simp [PushMode.decide, hcount], rfl, rfl, .unreadable, hcount⟩))
        · exact Or.inr (Or.inr (Or.inl ⟨by simp [PushMode.decide, hcount], rfl, rfl, rfl⟩))
        · exact Or.inr (Or.inl ⟨by simp [PushMode.decide, hcount], ⟨rfl, Or.inr rfl⟩, hcount⟩)

/-! ### What is shown -/

/-- The text with which the output of a push begins. In the format of layouts, and unless the push is
to be quiet, it lists the pending changes one below the other. -/
inductive Shows (mode : PushMode) (outcomes : List Outcome) : String → Prop
  | changes : mode.format = .layout → mode.quiet = false → pending outcomes ≠ [] →
    Shows mode outcomes
      ("\n".intercalate ((pending outcomes).map (Delta.diff · mode.colored)) ++ "\n")
  | nothing : mode.format ≠ .layout ∨ mode.quiet = true ∨ pending outcomes = [] →
    Shows mode outcomes ""

theorem isNoop_of_mem_pending {outcomes : List Outcome} {delta : Delta}
    (hmem : delta ∈ pending outcomes) : delta.isNoop = false := by
  obtain ⟨outcome, -, hpending⟩ := List.mem_filterMap.1 hmem
  exact (Outcome.pending?_eq_some_iff.1 hpending).2

theorem shows_listing (mode : PushMode) (outcomes : List Outcome) :
    Shows mode outcomes (listing mode outcomes) := by
  rw [listing, ← pending]
  by_cases hformat : mode.format = .layout
  · rw [if_pos hformat]
    cases hquiet : mode.quiet with
    | true => exact .nothing (Or.inr (Or.inl hquiet))
    | false =>
      by_cases hpending : pending outcomes = []
      · rw [hpending]
        exact .nothing (Or.inr (Or.inr hpending))
      · -- A change that is pending is never listed by the empty text, which would not be shown.
        have hshown : "\n".intercalate ((pending outcomes).map (Delta.diff · mode.colored)) ≠ "" :=
          Text.intercalate_ne_empty (List.forall_mem_map.2 fun delta hdelta =>
            delta.diff_ne_empty mode.colored (isNoop_of_mem_pending hdelta))
            (mt List.map_eq_nil_iff.1 hpending)
        rw [emit, Bool.false_or, if_neg (mt String.isEmpty_iff.1 hshown)]
        exact .changes hformat hquiet hpending
  · rw [if_neg hformat]
    exact .nothing (Or.inl hformat)

/-! ### Within the session -/

/-- The exchanges and the report of a push in a session that is open. All domains are compared, and
the report begins with the listing of what is pending. If that is to be written it is written domain
by domain, and the report goes on with what has become of the outcomes. -/
inductive Course (session : Session) (id : String) (mode : PushMode)
    (answer : Option (Except FileFault Bool)) (layout : Layout) : List Exchange → Report → Prop
  | left {compared : List (List Exchange × Outcome)} {logout : Reply} {report : Report}
    {shown : String} :
    List.Forall₂ (session.Compares id) layout.zones compared →
      mode.commit = false ∨ pending (compared.map Prod.snd) = [] →
        Shows mode (compared.map Prod.snd) shown →
          report.output = shown ++ conclusion mode (compared.map Prod.snd) false →
            report.result = verdict (compared.map Prod.snd) →
              Course session id mode answer layout
                (compared.flatMap Prod.fst ++ [session.exchange id .logout logout]) report
  | declined {compared : List (List Exchange × Outcome)} {logout : Reply} {report : Report}
    {shown : String} :
    List.Forall₂ (session.Compares id) layout.zones compared →
      mode.yes = false → answer = some (.ok false) →
        Shows mode (compared.map Prod.snd) shown →
          report.output = shown ++ conclusion mode (compared.map Prod.snd) false →
            report.result = verdict (compared.map Prod.snd) →
              Course session id mode answer layout
                (compared.flatMap Prod.fst ++ [session.exchange id .logout logout]) report
  | unanswered {compared : List (List Exchange × Outcome)} {logout : Reply} {report : Report}
    {failure : Failure} :
    List.Forall₂ (session.Compares id) layout.zones compared →
      mode.commit = true → mode.yes = false → Unanswered answer failure →
        pending (compared.map Prod.snd) ≠ [] →
          Shows mode (compared.map Prod.snd) report.output →
            report.result = .error failure →
              Course session id mode answer layout
                (compared.flatMap Prod.fst ++ [session.exchange id .logout logout]) report
  | written {compared settled : List (List Exchange × Outcome)} {logout : Reply}
    {report : Report} {shown : String} :
    List.Forall₂ (session.Compares id) layout.zones compared →
      mode.IsApproved answer → pending (compared.map Prod.snd) ≠ [] →
        List.Forall₂ (session.Settles id) (compared.map Prod.snd) settled →
          Shows mode (compared.map Prod.snd) shown →
            report.output = shown ++ conclusion mode (settled.map Prod.snd) true →
              report.result = verdict (settled.map Prod.snd) →
                Course session id mode answer layout
                  (compared.flatMap Prod.fst ++ settled.flatMap Prod.fst ++
                    [session.exchange id .logout logout]) report

theorem ends_concludePush {id : String} {exchanges : List Exchange} {shown note : String}
    {outcomes : List Outcome} {committed : Bool} (hopen : session.id = some id)
    (hweb : session.endpoint.isWeb = true)
    (hends : (concludePush session mode shown note outcomes committed).Ends exchanges report) :
    ∃ logout, exchanges = [session.exchange id .logout logout] ∧
      report = ⟨shown ++ conclusion mode outcomes committed, note, verdict outcomes⟩ := by
  obtain ⟨first, rest, closed, rfl, hlogout, hrest⟩ := Dialogue.ends_bind_iff.1 hends
  obtain ⟨reply, rfl⟩ := Session.ends_disconnect hopen hweb hlogout
  obtain ⟨rfl, rfl⟩ := Dialogue.ends_done_iff.1 hrest
  exact ⟨reply, rfl, rfl⟩

/-- All domains are compared. What is pending is written only with approval, and the report is made
of the outcomes afterwards, unless a confirmation is needed and cannot be had. -/
theorem ends_pushWithin {id : String} {exchanges : List Exchange} (hopen : session.id = some id)
    (hweb : session.endpoint.isWeb = true)
    (hends : (pushWithin session mode answer layout).Ends exchanges report) :
    ∃ (compared : List (List Exchange × Outcome)) (logout : Reply),
      List.Forall₂ (fun desired part => (session.pushOutcome false desired).Ends part.1 part.2)
        layout.zones compared ∧
      let outcomes := compared.map Prod.snd
      let closing := [session.exchange id .logout logout]
      (((mode.commit = false ∨ pending outcomes = []) ∨
            mode.yes = false ∧ answer = some (.ok false)) ∧
          exchanges = compared.flatMap Prod.fst ++ closing ∧ ∃ note, report =
            ⟨listing mode outcomes ++ conclusion mode outcomes false, note, verdict outcomes⟩) ∨
        (mode.IsApproved answer ∧ pending outcomes ≠ [] ∧
          ∃ settled : List (List Exchange × Outcome),
            List.Forall₂ (fun outcome part => (session.applyOutcome outcome).Ends part.1 part.2)
              outcomes settled ∧
            exchanges = compared.flatMap Prod.fst ++ settled.flatMap Prod.fst ++ closing ∧
            report = ⟨listing mode outcomes ++ conclusion mode (settled.map Prod.snd) true, "",
              verdict (settled.map Prod.snd)⟩) ∨
        (∃ failure, mode.commit = true ∧ mode.yes = false ∧ Unanswered answer failure ∧
          pending outcomes ≠ [] ∧ exchanges = compared.flatMap Prod.fst ++ closing ∧
          report = ⟨listing mode outcomes, "", .error failure⟩) := by
  obtain ⟨first, rest, outcomes, rfl, hlayout, hrest⟩ := Dialogue.ends_bind_iff.1 hends
  obtain ⟨compared, rfl, rfl, hcompared⟩ := Dialogue.ends_mapM hlayout
  rw [length_pending] at hrest
  rw [← List.flatMap_def]
  dsimp only at hrest
  rcases decide_cases mode answer (pending (compared.map Prod.snd)).length with
    ⟨hdecide, hleft⟩ | ⟨hdecide, happroved, hnonempty⟩ | ⟨hdecide, -, hyes, hanswer⟩ |
      ⟨failure, hdecide, hcommit, hyes, hanswer, hnonempty⟩
  · rw [hdecide] at hrest
    obtain ⟨logout, rfl, rfl⟩ := ends_concludePush hopen hweb hrest
    exact ⟨compared, logout, hcompared,
      Or.inl ⟨Or.inl (hleft.imp_right List.eq_nil_of_length_eq_zero), rfl, _, rfl⟩⟩
  · rw [hdecide] at hrest
    obtain ⟨sent, last, after, rfl, hwrite, hlast⟩ := Dialogue.ends_bind_iff.1 hrest
    obtain ⟨settled, rfl, rfl, hsettled⟩ := Dialogue.ends_mapM hwrite
    obtain ⟨logout, rfl, rfl⟩ := ends_concludePush hopen hweb hlast
    rw [← List.flatMap_def, ← List.append_assoc]
    exact ⟨compared, logout, hcompared, Or.inr (Or.inl
      ⟨happroved, mt (congrArg List.length) hnonempty, settled, hsettled, rfl, rfl⟩)⟩
  · rw [hdecide] at hrest
    obtain ⟨logout, rfl, rfl⟩ := ends_concludePush hopen hweb hrest
    exact ⟨compared, logout, hcompared, Or.inl ⟨Or.inr ⟨hyes, hanswer⟩, rfl, _, rfl⟩⟩
  · rw [hdecide] at hrest
    obtain ⟨sent, last, closed, rfl, hlogout, hlast⟩ := Dialogue.ends_bind_iff.1 hrest
    obtain ⟨logout, rfl⟩ := Session.ends_disconnect hopen hweb hlogout
    obtain ⟨rfl, rfl⟩ := Dialogue.ends_done_iff.1 hlast
    exact ⟨compared, logout, hcompared, Or.inr (Or.inr
      ⟨failure, hcommit, hyes, hanswer, mt (congrArg List.length) hnonempty, rfl, rfl⟩)⟩

theorem course_of_ends {id : String} {exchanges : List Exchange} (hopen : session.id = some id)
    (hweb : session.endpoint.isWeb = true)
    (hends : (pushWithin session mode answer layout).Ends exchanges report) :
    Course session id mode answer layout exchanges report := by
  obtain ⟨compared, logout, hends, hcases⟩ := ends_pushWithin hopen hweb hends
  have hcompared : List.Forall₂ (session.Compares id) layout.zones compared :=
    hends.imp fun _ _ hpart => Session.compares_of_ends hopen hweb hpart
  have hshown := shows_listing mode (compared.map Prod.snd)
  rcases hcases with ⟨hleft | ⟨hyes, hanswer⟩, rfl, note, rfl⟩ |
    ⟨happroved, hnonempty, settled, hsettled, rfl, rfl⟩ |
      ⟨failure, hcommit, hyes, hanswer, hnonempty, rfl, rfl⟩
  · exact .left hcompared hleft hshown rfl rfl
  · exact .declined hcompared hyes hanswer hshown rfl rfl
  · exact .written hcompared happroved hnonempty
      (hsettled.imp fun _ _ hpart => Session.settles_of_ends hopen hweb hpart) hshown rfl rfl
  · exact .unanswered hcompared hcommit hyes hanswer hnonempty hshown rfl

/-- Only a push that is approved writes. -/
theorem Course.approved {id : String} {exchanges : List Exchange}
    (hcourse : Course session id mode answer layout exchanges report)
    (hwrites : ∃ exchange ∈ exchanges, exchange.isWrite = true) : mode.IsApproved answer := by
  obtain ⟨exchange, hmem, hwrite⟩ := hwrites
  have hread : ∀ {compared : List (List Exchange × Outcome)} {logout : Reply},
      List.Forall₂ (session.Compares id) layout.zones compared →
        exchange ∉ compared.flatMap Prod.fst ++ [session.exchange id .logout logout] := by
    intro compared logout hcompared hmem
    rcases List.mem_append.1 hmem with hmem | hmem
    · obtain ⟨part, hpart, hmem⟩ := List.mem_flatMap.1 hmem
      obtain ⟨desired, -, hcompares⟩ := exists_mem_of_forall₂ hcompared hpart
      obtain ⟨fetched, hfetches, -⟩ := hcompares.result
      exact absurd (hfetches.readOnly exchange hmem) (by simp [hwrite])
    · rw [List.mem_singleton.1 hmem] at hwrite
      exact absurd hwrite (by simp [Session.exchange, Exchange.isWrite, Call.isWrite])
  cases hcourse with
  | left hcompared => exact absurd hmem (hread hcompared)
  | declined hcompared => exact absurd hmem (hread hcompared)
  | unanswered hcompared => exact absurd hmem (hread hcompared)
  | written _ happroved => exact happroved

/-! ### The command -/

/-- The exchanges and the report of the command. Without a configuration, a layout with zones and a
session nothing happens; a session that is opened takes its course. -/
inductive Pushing (surroundings : Surroundings) (options : Options) (sources : Sources)
    (commit yes : Bool) : List Exchange → Report → Prop
  | unconfigured {failure : Failure} :
    Preferences.load surroundings options = .error failure →
      Pushing surroundings options sources commit yes [] (.fail failure)
  | unread {failure : Failure} :
    (sources.load surroundings).2 = .error failure →
      Pushing surroundings options sources commit yes [] (.fail failure)
  | empty {layout : Layout} :
    (sources.load surroundings).2 = .ok layout → layout.zones = [] →
      Pushing surroundings options sources commit yes [] (.ofText options.quiet "")
  | unconnected {preferences : Preferences} {failure : Failure} :
    Preferences.load surroundings options = .ok preferences →
      preferences.session surroundings = .error failure →
        Pushing surroundings options sources commit yes [] (.fail failure)
  | unreachable {preferences : Preferences} {session : Session} {failure : Failure} :
    Preferences.load surroundings options = .ok preferences →
      preferences.session surroundings = .ok session → session.endpoint.isWeb = false →
        Pushing surroundings options sources commit yes [] (.fail failure)
  | refused {preferences : Preferences} {session : Session} {login : Reply} {failure : Failure} :
    Preferences.load surroundings options = .ok preferences →
      preferences.session surroundings = .ok session → login.Fails decodeSession →
        Pushing surroundings options sources commit yes [session.opening login] (.fail failure)
  | opened {preferences : Preferences} {layout : Layout} {session : Session} {login : Reply}
    {id : String} {exchanges : List Exchange} {report : Report} :
    Preferences.load surroundings options = .ok preferences →
      (sources.load surroundings).2 = .ok layout →
        preferences.session surroundings = .ok session → login.Tells decodeSession id →
          Course { session with id := some id } id
            ⟨commit, yes, options.output, preferences.isColored options surroundings, options.quiet⟩
            surroundings.answer layout exchanges report →
            Pushing surroundings options sources commit yes (session.opening login :: exchanges)
              report

section

variable {surroundings : Surroundings} {options : Options} {sources : Sources} {commit yes : Bool}
  {exchanges : List Exchange}

theorem pushing_of_push {preferences : Preferences}
    (hload : Preferences.load surroundings options = .ok preferences)
    (hends : (push surroundings options preferences sources commit yes).Ends exchanges report) :
    Pushing surroundings options sources commit yes exchanges report := by
  obtain ⟨first, rest, told, rfl, htell, hrest⟩ := Dialogue.ends_bind_iff.1 hends
  rw [Dialogue.ends_tell htell, List.nil_append]
  split at hrest
  · next failure hlayout =>
    obtain ⟨rfl, rfl⟩ := Dialogue.ends_done_iff.1 hrest
    exact .unread hlayout
  · next layout hlayout =>
    split at hrest
    · next hempty =>
      obtain ⟨rfl, rfl⟩ := Dialogue.ends_done_iff.1 (Dialogue.ends_warn_iff.1 hrest)
      exact .empty hlayout (List.isEmpty_iff.1 hempty)
    · split at hrest
      · next failure hsession =>
        obtain ⟨rfl, rfl⟩ := Dialogue.ends_done_iff.1 hrest
        exact .unconnected hload hsession
      · next session hsession =>
        obtain ⟨sent, others, result, rfl, hconnect, hothers⟩ := Dialogue.ends_bind_iff.1 hrest
        cases Session.ends_connect hconnect with
        | unreachable hweb =>
          obtain ⟨rfl, rfl⟩ := Dialogue.ends_done_iff.1 hothers
          exact .unreachable hload hsession hweb
        | refused hfails =>
          obtain ⟨rfl, rfl⟩ := Dialogue.ends_done_iff.1 hothers
          exact .refused hload hsession hfails
        | opened hweb htells =>
          exact .opened hload hlayout hsession htells (course_of_ends rfl hweb hothers)

theorem pushing_of_run
    (hends : (run surroundings ⟨options, .push sources commit yes⟩).Ends exchanges report) :
    Pushing surroundings options sources commit yes exchanges report := by
  rw [run] at hends
  cases hload : Preferences.load surroundings options with
  | error failure =>
    rw [hload] at hends
    obtain ⟨rfl, rfl⟩ := Dialogue.ends_done_iff.1 hends
    exact .unconfigured hload
  | ok preferences =>
    rw [hload] at hends
    exact pushing_of_push hload hends

theorem Pushing.approved (hpushing : Pushing surroundings options sources commit yes exchanges report)
    (hwrites : ∃ exchange ∈ exchanges, exchange.isWrite = true) :
    commit = true ∧ (yes = true ∨ surroundings.answer = some (.ok true)) := by
  obtain ⟨exchange, hmem, hwrite⟩ := hwrites
  cases hpushing with
  | refused =>
    rw [List.mem_singleton.1 hmem] at hwrite
    exact absurd hwrite (by simp [Session.opening, Exchange.isWrite])
  | opened _ _ _ _ hcourse =>
    rcases List.mem_cons.1 hmem with rfl | hmem
    · exact absurd hwrite (by simp [Session.opening, Exchange.isWrite])
    · exact hcourse.approved ⟨exchange, hmem, hwrite⟩
  | _ => exact absurd hmem List.not_mem_nil

end

/-- Whatever the replies are, a push writes just the changes that it shows, and only if that is
wanted and confirmed. -/
theorem run_push {σ : Type} (partner : σ → Request → Reply × σ) (state : σ)
    (surroundings : Surroundings) (options : Options) (sources : Sources) (commit yes : Bool) :
    let transcript := ((run surroundings ⟨options, .push sources commit yes⟩).run partner state).1
    Pushing surroundings options sources commit yes transcript.exchanges transcript.result ∧
      ((∃ exchange ∈ transcript.exchanges, exchange.isWrite = true) →
        commit = true ∧ (yes = true ∨ surroundings.answer = some (.ok true))) := by
  intro transcript
  have hends := Dialogue.ends_run partner (run surroundings ⟨options, .push sources commit yes⟩) state
  exact ⟨pushing_of_run hends, (pushing_of_run hends).approved⟩

end Command

end ZoneSync
