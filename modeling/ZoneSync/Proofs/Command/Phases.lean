import ZoneSync.Proofs.Command.Pull
import ZoneSync.Proofs.Sync.Isolation

/-!
# Comparing first and writing later

The command compares all domains before it writes any of them; a push of a layout with `commit`
compares and writes one domain after the other. For a single domain the two are the same dialogue up
to warnings: the command leaves out changes of nothing, and writing those sends nothing either. If
the provider keeps domains apart, it makes no difference what is asked about other domains between
the comparison and the writing. So both send the same about every domain and come to the same
outcomes.
-/

namespace ZoneSync

variable {σ : Type}

namespace Session

variable {session : Session}

/-! ### One domain -/

theorem hushed_pushOutcome (commit : Bool) (desired : Zone) :
    (session.pushOutcome commit desired).hushed =
      (session.pushZone desired commit).hushed >>= fun result => .done ⟨desired.domain, result⟩ := by
  rw [pushOutcome, Dialogue.hushed_bind]
  refine bind_congr fun result => ?_
  cases result <;> rfl

theorem applyDelta_of_isNoop {delta : Delta} (hnoop : delta.isNoop = true) :
    session.applyDelta delta = .done (.ok ()) := by
  obtain ⟨hupdate, hbatch⟩ := nothing_of_isNoop hnoop
  rw [applyDelta, applySettings, hupdate, applyRecords, hbatch]
  rfl

/-- Writing what is pending of an outcome is writing its change. -/
theorem hushed_applyOutcome (domain : String) (delta : Delta) :
    (session.applyOutcome ⟨domain, .ok delta⟩).hushed =
      (session.applyDelta delta).hushed >>= fun answer =>
        .done ⟨domain, answer.map fun _ => delta⟩ := by
  have hpending : Outcome.pending? ⟨domain, .ok delta⟩ =
      if delta.isNoop then none else some delta := rfl
  rw [applyOutcome, hpending]
  cases hnoop : delta.isNoop with
  | true =>
    rw [applyDelta_of_isNoop hnoop]
    rfl
  | false =>
    refine (Dialogue.hushed_bind ..).trans (bind_congr fun answer => ?_)
    cases answer <;> rfl

/-- Pushing a zone is comparing it and writing what is pending, but for the words of a warning. -/
theorem hushed_pushOutcome_true (session : Session) (desired : Zone) :
    (session.pushOutcome true desired).hushed =
      (session.pushOutcome false desired >>= session.applyOutcome).hushed := by
  rw [Dialogue.hushed_bind, hushed_pushOutcome, hushed_pushOutcome, pushZone, pushZone,
    Dialogue.hushed_bind, Dialogue.hushed_bind, bind_assoc, bind_assoc, bind_assoc]
  -- Both fetch once; what follows depends on what was fetched.
  refine bind_congr fun fetched => ?_
  cases fetched with
  | error error => rfl
  | ok current =>
    refine Eq.trans ?_ (hushed_applyOutcome desired.domain (reconcile current desired)).symm
    refine (congrArg (· >>= _) (Dialogue.hushed_bind ..)).trans ((bind_assoc ..).trans ?_)
    refine bind_congr fun answer => ?_
    cases answer <;> rfl

theorem domain_of_ends_pushZone {desired : Zone} {commit : Bool} {exchanges : List Exchange}
    {delta : Delta} (hends : (session.pushZone desired commit).Ends exchanges (.ok delta)) :
    delta.domain = desired.domain := by
  obtain ⟨first, rest, fetched, -, -, hrest⟩ := Dialogue.ends_bind_iff.1 hends
  cases fetched with
  | error error => exact absurd (Dialogue.ends_done_iff.1 hrest).2 (by simp)
  | ok current =>
    cases commit with
    | false =>
      obtain ⟨-, heq⟩ := Dialogue.ends_done_iff.1 hrest
      rw [Except.ok.inj heq]
      rfl
    | true =>
      obtain ⟨sent, last, answer, -, -, hlast⟩ := Dialogue.ends_bind_iff.1 hrest
      cases answer with
      | error error => exact absurd (Dialogue.ends_done_iff.1 hlast).2 (by simp)
      | ok =>
        obtain ⟨-, heq⟩ := Dialogue.ends_done_iff.1 hlast
        rw [Except.ok.inj heq]
        rfl

theorem delta_domain_of_ends_pushOutcome {desired : Zone} {commit : Bool}
    {exchanges : List Exchange} {outcome : Outcome} {delta : Delta}
    (hends : (session.pushOutcome commit desired).Ends exchanges outcome)
    (hresult : outcome.result = .ok delta) : delta.domain = desired.domain := by
  obtain ⟨first, rest, result, -, hpush, hrest⟩ := Dialogue.ends_bind_iff.1 hends
  cases result with
  | ok found =>
    rw [(Dialogue.ends_done_iff.1 hrest).2] at hresult
    rw [← Except.ok.inj hresult]
    exact domain_of_ends_pushZone hpush
  | error error =>
    rw [(Dialogue.ends_done_iff.1 (Dialogue.ends_warn_iff.1 hrest)).2] at hresult
    exact absurd hresult (by simp)

theorem asks_applyOutcome {outcome : Outcome} {domain : String}
    (hdomain : ∀ delta, outcome.result = .ok delta → delta.domain = domain) :
    (session.applyOutcome outcome).Asks fun request => request.domain? = some domain := by
  rw [applyOutcome]
  split
  · trivial
  · next delta hpending =>
    have hdelta : delta.domain = domain :=
      hdomain delta (Outcome.pending?_eq_some_iff.1 hpending).1
    refine Dialogue.Asks.bind ((session.asks_applyDelta delta).mono ?_) fun answer => ?_
    · exact fun request hcalls => hdelta ▸ hcalls.domain?_eq
    · cases answer <;> trivial

variable {partner : σ → Request → Reply × σ} {state : σ}

theorem asks_applyOutcome_run (session : Session) (desired : Zone) :
    (session.applyOutcome ((session.pushOutcome false desired).run partner state).1.result).Asks
      fun request => request.domain? = some desired.domain := by
  apply asks_applyOutcome
  intro delta hdelta
  exact delta_domain_of_ends_pushOutcome (Dialogue.ends_run partner _ state) hdelta

/-- For one domain, comparing and then writing comes to what a push at once comes to. -/
theorem run_pushOutcome_true (session : Session) (desired : Zone) :
    let whole := ((session.pushOutcome true desired).run partner state).1
    let compared := (session.pushOutcome false desired).run partner state
    let settled := ((session.applyOutcome compared.1.result).run partner compared.2).1
    whole.result = settled.result ∧
      whole.exchanges = compared.1.exchanges ++ settled.exchanges := by
  intro whole compared settled
  have hrun := congrArg (fun dialogue => (dialogue.run partner state).1)
    (session.hushed_pushOutcome_true desired)
  simp only [Dialogue.run_hushed, Dialogue.run_bind] at hrun
  have hresult := congrArg Transcript.result hrun
  have hexchanges := congrArg Transcript.exchanges hrun
  exact ⟨hresult, hexchanges⟩

/-! ### All domains -/

/-- What the command does between login and logout, with the outcomes before and after writing. -/
def compareThenWrite (session : Session) (layout : Layout) :
    Dialogue (List Outcome × List Outcome) := do
  let compared ← session.pushLayout layout false
  let settled ← compared.mapM session.applyOutcome
  return (compared, settled)

/-- The two phases of each domain, one phase for all domains after the other. -/
theorem run_compareThenWrite (session : Session) (layout : Layout)
    (hlocal : IsLocal partner state) :
    let whole := ((session.compareThenWrite layout).run partner state).1
    let compared := fun zone => (session.pushOutcome false zone).run partner state
    let settled := fun zone =>
      ((session.applyOutcome (compared zone).1.result).run partner (compared zone).2).1
    whole.result.2 = layout.zones.map (fun zone => (settled zone).result) ∧
      whole.exchanges = layout.zones.flatMap (fun zone => (compared zone).1.exchanges) ++
        layout.zones.flatMap fun zone => (settled zone).exchanges := by
  intro whole compared settled
  let first := (session.pushLayout layout false).run partner state
  let second := (first.1.result.mapM session.applyOutcome).run partner first.2
  have hwhole : whole.result.2 = second.1.result ∧
      whole.exchanges = first.1.exchanges ++ second.1.exchanges := by
    simp only [whole, compareThenWrite, Dialogue.run_bind, Dialogue.pure_eq_done, Dialogue.run,
      List.append_nil]
    exact ⟨rfl, rfl⟩
  obtain ⟨hresult, hexchanges, hstates⟩ := session.run_pushLayout layout false hlocal
  change first.1.result = layout.zones.map fun zone => (compared zone).1.result at hresult
  change first.1.exchanges = _ at hexchanges
  have hsecond : second = (layout.zones.mapM fun zone =>
      session.applyOutcome (compared zone).1.result).run partner first.2 := by
    rw [show second = (first.1.result.mapM session.applyOutcome).run partner first.2 from rfl,
      hresult, List.mapM_map]
    rfl
  obtain ⟨hsettled, hwritten, -⟩ := Dialogue.run_mapM
    (fun zone => session.asks_applyOutcome_run zone) layout.distinct hstates
  rw [hwhole.1, hwhole.2, hexchanges, hsecond]
  exact ⟨hsettled, congrArg _ hwritten⟩

/-- The two phases come to the outcomes of a push at once, and ask the same about each domain. -/
theorem compareThenWrite_agrees (session : Session) (layout : Layout)
    (hlocal : IsLocal partner state) :
    let phases := ((session.compareThenWrite layout).run partner state).1
    let pushed := ((session.pushLayout layout true).run partner state).1
    phases.result.2 = pushed.result ∧
      ∀ domain, about domain phases.exchanges = about domain pushed.exchanges := by
  intro phases pushed
  obtain ⟨hphases, hexchanges⟩ := session.run_compareThenWrite layout hlocal
  obtain ⟨hpushed, hsent, -⟩ := session.run_pushLayout layout true hlocal
  constructor
  · rw [hphases, hpushed]
    exact List.map_congr_left fun zone _ => (session.run_pushOutcome_true zone).1.symm
  · intro domain
    rw [hexchanges, hsent, about_append,
      about_flatMap fun zone => (session.asks_pushOutcome_domain false zone).of_run partner state,
      about_flatMap fun zone => (session.asks_applyOutcome_run zone).of_run partner _,
      about_flatMap fun zone => (session.asks_pushOutcome_domain true zone).of_run partner state]
    -- At most one zone of the layout has the domain.
    rcases layout.filter_domain_cases domain with hnone | ⟨zone, hone⟩
    · rw [hnone]
      rfl
    · rw [hone, List.flatMap_singleton, List.flatMap_singleton, List.flatMap_singleton]
      exact (session.run_pushOutcome_true zone).2.symm

end Session

/-! ### The command -/

namespace Session

variable {session : Session}

theorem asks_connect : session.connect.Asks fun request => request.domain? = none := by
  refine Dialogue.Asks.bind ?_ fun _ => trivial
  refine Dialogue.Asks.bind (asks_post rfl) fun answer => ?_
  split <;> trivial

theorem asks_disconnect : session.disconnect.Asks fun request => request.domain? = none := by
  refine Dialogue.Asks.bind ?_ fun ended => ?_
  · have hlogout : (fun asked : Call => asked.domain? = none) .logout := rfl
    exact ((asks_call hlogout).mono fun _ hcalls => hcalls.domain?_eq).bind fun _ => trivial
  · obtain ⟨result, after⟩ := ended
    cases result <;> trivial

end Session

namespace Command

variable {session : Session} {mode : PushMode} {answer : Option (Except FileFault Bool)}
  {layout : Layout}

theorem mapM_applyOutcome_of_pending_eq_nil {outcomes : List Outcome}
    (hpending : pending outcomes = []) : outcomes.mapM session.applyOutcome = .done outcomes := by
  induction outcomes with
  | nil => rfl
  | cons outcome rest ih =>
    have hnone := List.filterMap_eq_nil_iff.1 hpending
    have hfirst : session.applyOutcome outcome = .done outcome := by
      rw [Session.applyOutcome, hnone outcome List.mem_cons_self]
      rfl
    have hrest : pending rest = [] :=
      List.filterMap_eq_nil_iff.2 fun other hmem => hnone other (List.mem_cons_of_mem outcome hmem)
    rw [List.mapM_cons, hfirst, ih hrest]
    rfl

/-- Where no confirmation is needed the command goes through its two phases and concludes. -/
theorem pushWithin_eq (hcommit : mode.commit = true) (hyes : mode.yes = true) :
    pushWithin session mode answer layout =
      session.compareThenWrite layout >>= fun outcomes =>
        concludePush session mode (listing mode outcomes.1) "" outcomes.2
          !(pending outcomes.1).isEmpty := by
  rw [pushWithin, Session.compareThenWrite, bind_assoc]
  refine bind_congr fun outcomes => ?_
  rw [length_pending]
  dsimp only
  -- With nothing pending the command skips the second phase, which would send nothing.
  by_cases hpending : pending outcomes = []
  · rw [mapM_applyOutcome_of_pending_eq_nil hpending, hpending, List.length_nil, decide_zero]
    simp [hcommit, hpending]
  · have hdecide : mode.decide answer (pending outcomes).length = .write := by
      simp [PushMode.decide, hcommit, hyes, hpending]
    have hwritten : (!(pending outcomes).isEmpty) = true := by simpa using hpending
    rw [hdecide, bind_assoc]
    simp only [pure_bind, hwritten]

theorem run_tells {σ : Type} (partner : σ → Request → Reply × σ) (state : σ)
    (warnings : List Warning) :
    (warnings.forM Dialogue.tell).run partner state = (⟨(), [], warnings⟩, state) := by
  induction warnings with
  | nil => rfl
  | cons warning rest ih =>
    change (Dialogue.warn warning (rest.forM Dialogue.tell)).run partner state = _
    rw [Dialogue.run, ih]

section

variable {σ : Type} {partner : σ → Request → Reply × σ} {state : σ} {surroundings : Surroundings}
  {options : Options} {preferences : Preferences} {sources : Sources} {opened : Session}

theorem push_eq {commit yes : Bool} (hlayout : (sources.load surroundings).2 = .ok layout)
    (hnonempty : layout.zones ≠ []) (hsession : preferences.session surroundings = .ok session) :
    push surroundings options preferences sources commit yes =
      (sources.load surroundings).1.forM Dialogue.tell >>= fun _ =>
        pushLayout session ⟨commit, yes, options.output,
          preferences.isColored options surroundings, options.quiet⟩ surroundings.answer layout := by
  cases hload : sources.load surroundings with
  | mk warnings loaded =>
    rw [hload] at hlayout
    obtain rfl : loaded = .ok layout := hlayout
    have hzones : ¬layout.zones.isEmpty = true := by simpa using hnonempty
    rw [push, hload]
    refine bind_congr fun _ => ?_
    dsimp only
    rw [if_neg hzones, hsession]

/-- The command logs in, goes through its two phases, and logs out. -/
theorem run_push_opened (hload : Preferences.load surroundings options = .ok preferences)
    (hlayout : (sources.load surroundings).2 = .ok layout) (hnonempty : layout.zones ≠ [])
    (hsession : preferences.session surroundings = .ok session)
    (hlogin : (session.connect.run partner state).1.result = (.ok (), opened)) :
    let mode : PushMode := ⟨true, true, options.output,
      preferences.isColored options surroundings, options.quiet⟩
    let command := ((run surroundings ⟨options, .push sources true true⟩).run partner state).1
    let login := session.connect.run partner state
    let phases := (opened.compareThenWrite layout).run partner login.2
    let logout := (opened.disconnect.run partner phases.2).1
    let outcomes := phases.1.result
    command.exchanges = login.1.exchanges ++ (phases.1.exchanges ++ logout.exchanges) ∧
      command.result = ⟨listing mode outcomes.1 ++
        conclusion mode outcomes.2 !(pending outcomes.1).isEmpty, "", verdict outcomes.2⟩ := by
  intro mode command login phases logout outcomes
  have hcommand : command = ((run surroundings ⟨options, .push sources true true⟩).run
    partner state).1 := rfl
  rw [run, hload] at hcommand
  dsimp only [act] at hcommand
  rw [push_eq hlayout hnonempty hsession, pushLayout] at hcommand
  simp only [Dialogue.run_bind, run_tells, hlogin] at hcommand
  rw [pushWithin_eq rfl rfl] at hcommand
  simp only [concludePush, Dialogue.run_bind, Dialogue.run, Dialogue.pure_eq_done, List.append_nil,
    List.nil_append] at hcommand
  rw [hcommand]
  exact ⟨rfl, rfl⟩

/-- If the provider keeps domains apart, a push with `--commit --yes` sends the same about every
domain as a push of the layout within the session that it opens. It leaves the provider alike for
every domain, comes to the same outcomes, and reports on these. -/
theorem run_push_agrees (hload : Preferences.load surroundings options = .ok preferences)
    (hlayout : (sources.load surroundings).2 = .ok layout) (hnonempty : layout.zones ≠ [])
    (hsession : preferences.session surroundings = .ok session)
    (hlogin : (session.connect.run partner state).1.result = (.ok (), opened))
    (hlocal : IsLocal partner state) :
    let mode : PushMode := ⟨true, true, options.output,
      preferences.isColored options surroundings, options.quiet⟩
    let command := (run surroundings ⟨options, .push sources true true⟩).run partner state
    let login := session.connect.run partner state
    let library := (opened.pushLayout layout true).run partner login.2
    let outcomes := ((opened.compareThenWrite layout).run partner login.2).1.result
    (∀ domain, about domain command.1.exchanges = about domain library.1.exchanges) ∧
      (∀ domain, Alike partner domain command.2 library.2) ∧
        outcomes.2 = library.1.result ∧
          command.1.result = ⟨listing mode outcomes.1 ++
            conclusion mode outcomes.2 !(pending outcomes.1).isEmpty, "", verdict outcomes.2⟩ := by
  intro mode command login library outcomes
  obtain ⟨hexchanges, hreport⟩ := run_push_opened hload hlayout hnonempty hsession hlogin
  have hlogged : login.2 = stateAfter partner state (login.1.exchanges.map Exchange.request) :=
    Dialogue.run_snd session.connect state
  have hkept : IsLocal partner login.2 := by
    intro domain
    rw [hlogged]
    exact (hlocal domain).after _ _ rfl
  obtain ⟨hsame, hasked⟩ := opened.compareThenWrite_agrees layout hkept
  have hnone : ∀ domain request, Request.domain? request = none → request.domain? ≠ some domain :=
    fun domain request hdomain => hdomain ▸ Option.some_ne_none domain |>.symm
  have hopening : ∀ domain, about domain login.1.exchanges = [] :=
    fun domain => (Session.asks_connect.mono (hnone domain)).about_eq_nil partner state
  have habout : ∀ domain, about domain command.1.exchanges = about domain library.1.exchanges := by
    intro domain
    rw [hexchanges, about_append, about_append, hopening, hasked,
      (Session.asks_disconnect.mono (hnone domain)).about_eq_nil, List.append_nil, List.nil_append]
  refine ⟨habout, fun domain => ?_, hsame, hreport⟩
  have hcommand : command.2 = stateAfter partner state (command.1.exchanges.map Exchange.request) :=
    Dialogue.run_snd _ state
  have hlibrary : library.2 =
      stateAfter partner state ((login.1.exchanges ++ library.1.exchanges).map Exchange.request) := by
    rw [List.map_append, stateAfter_append, ← hlogged]
    exact Dialogue.run_snd _ login.2
  rw [hcommand, hlibrary]
  refine (hlocal domain).after _ _ ?_
  rw [naming_map_request, naming_map_request, about_append, hopening, habout, List.nil_append]

end

end Command

namespace Sample

open Command

/-- A provider who holds one record in each domain and refuses to change one of them. -/
def stubborn (_ : List Request) (request : Request) : Reply :=
  match request.message with
  | .login _ => loginAnswer
  | .call _ _ (.zoneInfo domain) =>
    answer ("[\"" ++ domain ++ "\",86400,null,28800,7200,1209600]")
  | .call _ _ (.recordInfo _) => recordsAnswer ["1"]
  | .call _ _ (.updateRecords "a.org" _) => recordsAnswer []
  | _ => .answered 500 ""

/-- There is also a layout file. -/
def stocked : Surroundings :=
  { surroundings with
    file := fun path =>
      if path = "layout" then .ok "b.org\na.org\n".toUTF8 else surroundings.file path }

def sources : Sources :=
  ⟨["layout"], []⟩

end Sample

namespace Command

open Sample

/-- Both ask the same about each domain, but not in the same order. -/
theorem run_push_agrees_pair :
    let command := (run stocked ⟨options, .push sources true true⟩).run (recorded stubborn) []
    let login := closed.connect.run (recorded stubborn) []
    let library := (opened.pushLayout pair true).run (recorded stubborn) login.2
    command.1.exchanges.map (fun exchange => exchange.request.domain?) =
        [none, some "b.org", some "b.org", some "a.org", some "a.org", some "b.org", some "a.org",
          none] ∧
      library.1.exchanges.map (fun exchange => exchange.request.domain?) =
          [some "b.org", some "b.org", some "b.org", some "a.org", some "a.org", some "a.org"] ∧
        (∀ domain, about domain command.1.exchanges = about domain library.1.exchanges) ∧
          (∀ domain, Alike (recorded stubborn) domain command.2 library.2) ∧
            ((opened.compareThenWrite pair).run (recorded stubborn) login.2).1.result.2 =
              library.1.result := by
  have hload : Preferences.load stocked options = .ok preferences := by decide +kernel
  have hlayout : (sources.load stocked).2 = .ok pair := by decide +kernel
  have hsession : preferences.session stocked = .ok closed := by decide +kernel
  have hlogin : (closed.connect.run (recorded stubborn) []).1.result = (.ok (), opened) := by
    decide +kernel
  have hagrees := run_push_agrees hload hlayout (by decide) hsession hlogin
    (isLocal_recorded stubborn [])
  exact ⟨by decide +kernel, by decide +kernel, hagrees.1, hagrees.2.1, hagrees.2.2.1⟩

end Command

end ZoneSync
