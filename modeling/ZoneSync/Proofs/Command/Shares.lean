import ZoneSync.Proofs.Command.Push
import ZoneSync.Proofs.Listing

/-!
# What becomes of each domain in a push

A push finds an outcome for every domain and replaces some of them later on, when it writes. So an
outcome may come from either phase. It is an error if the domain could not be fetched or if its
change was not accepted, and in all other cases it is the change that was found: what is written is
what was compared, and it stays the outcome if and only if all of its writes were answered.
-/

namespace ZoneSync

/-! ### The writes of a change -/

/-- The calls that write a change: its settings if they change, and its records if there are any. -/
def Delta.writes (delta : Delta) : List Call :=
  (delta.settings.map fun change => .updateZone delta.domain ⟨delta.domain, change.new⟩).toList ++
    if delta.batch.isEmpty then [] else [.updateRecords delta.domain delta.batch]

namespace Session

variable {session : Session} {id : String} {delta : Delta} {exchanges : List Exchange}

/-- Nothing fails without a request. -/
theorem not_ends_applyDelta_nil {error : SyncError} (hopen : session.id = some id)
    (hweb : session.endpoint.isWeb = true) : ¬(session.applyDelta delta).Ends [] (.error error) := by
  intro hends
  generalize hnone : ([] : List Exchange) = sent at hends
  generalize hresult : (Except.error error : Except SyncError Unit) = result at hends
  cases ends_applyDelta hopen hweb hends with
  | unchanged _ hrecords =>
    subst hnone hresult
    cases hrecords
  | accepted => exact absurd hnone nofun
  | refused => exact absurd hnone nofun

end Session

/-! ### One domain -/

namespace Outcome

variable {outcome : Outcome} {committed : Bool} {delta : Delta} {error : SyncError}

end Outcome

/-- The part of one domain in a push: what was asked about it and how it compares, and then what was
written of it and what has become of it. -/
structure Share where
  fetching : List Exchange
  compared : Outcome
  writing : List Exchange
  outcome : Outcome

namespace Share

variable {session : Session} {id : String} {desired current : Zone} {committed : Bool}
  {share : Share} {error : SyncError} {delta : Delta}

/-- The domain was fetched, and this is its change. -/
def Finds (share : Share) (session : Session) (desired : Zone) (delta : Delta) : Prop :=
  ∃ current, (session.fetchZone desired.domain).Ends share.fetching (.ok current) ∧
    delta = reconcile current desired

/-- Fetching the domain or writing its change has returned this error. -/
def Fails (share : Share) (session : Session) (desired : Zone) (error : SyncError) : Prop :=
  (session.fetchZone desired.domain).Ends share.fetching (.error error) ∨
    ∃ delta, share.Finds session desired delta ∧
      (session.applyDelta delta).Ends share.writing (.error error)

/-- How a domain fares in a run that writes the changes or not: what was fetched is compared, and if
there is something to be written of it, it is written. -/
structure Fares (session : Session) (committed : Bool) (desired : Zone) (share : Share) : Prop where
  compared : ∃ fetched, (session.fetchZone desired.domain).Ends share.fetching fetched ∧
    share.compared = ⟨desired.domain, fetched.map (reconcile · desired)⟩
  settled : (committed = false ∨ share.compared.pending? = none) ∧ share.writing = [] ∧
      share.outcome = share.compared ∨
    committed = true ∧ ∃ delta result, share.compared.pending? = some delta ∧
      (session.applyDelta delta).Ends share.writing result ∧
        share.outcome = ⟨desired.domain, result.map fun _ => delta⟩

theorem Fares.finds_iff (hfares : share.Fares session committed desired) :
    share.Finds session desired delta ↔ share.compared.result = .ok delta := by
  obtain ⟨fetched, hfetch, hcompared⟩ := hfares.compared
  rw [hcompared, map_eq_ok_iff]
  constructor
  · rintro ⟨current, hcurrent, rfl⟩
    exact ⟨current, hfetch.unique hcurrent, rfl⟩
  · rintro ⟨current, rfl, rfl⟩
    exact ⟨current, hfetch, rfl⟩

theorem Fares.unfetched_iff (hfares : share.Fares session committed desired) :
    (session.fetchZone desired.domain).Ends share.fetching (.error error) ↔
      share.compared.result = .error error := by
  obtain ⟨fetched, hfetch, hcompared⟩ := hfares.compared
  rw [hcompared, map_eq_error_iff]
  exact ⟨fun herror => hfetch.unique herror, fun herror => herror ▸ hfetch⟩

theorem Fares.fails_iff (hopen : session.id = some id) (hweb : session.endpoint.isWeb = true)
    (hfares : share.Fares session committed desired) :
    share.Fails session desired error ↔ share.outcome.result = .error error := by
  simp only [Fails, hfares.finds_iff, hfares.unfetched_iff]
  rcases hfares.settled with ⟨-, hwriting, houtcome⟩ |
    ⟨-, delta, result, hpending, hends, houtcome⟩
  · rw [hwriting, houtcome]
    refine or_iff_left ?_
    rintro ⟨delta, -, hends⟩
    exact Session.not_ends_applyDelta_nil hopen hweb hends
  · obtain ⟨hchange, -⟩ := Outcome.pending?_eq_some_iff.1 hpending
    rw [houtcome, hchange, map_eq_error_iff]
    constructor
    · rintro (hnone | ⟨other, hother, hfailed⟩)
      · exact absurd hnone nofun
      · obtain rfl := Except.ok.inj hother
        exact hends.unique hfailed
    · rintro rfl
      exact Or.inr ⟨delta, rfl, hends⟩

end Share

/-! ### All domains -/

namespace Share

variable {session : Session} {zones : List Zone} {compared settled : List (List Exchange × Outcome)}

end Share

end ZoneSync
