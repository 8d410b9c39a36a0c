import ZoneSync.Proofs.Sync.Convergence
import ZoneSync.Proofs.Sync.Mishaps

/-!
# Pushing again after a failure

A push compares with what it has just fetched, so what an earlier push has left half done is what the
next one begins with. Each of its requests is safe, and so is the push. A push that ends well has been
told the truth and has had all its updates accepted, so it leaves what is desired.
-/

namespace ZoneSync

open Record (content)
open Session (Written SettingsWritten RecordsWritten)

variable {domain : String} {held middle after : Held} {current desired : Zone}

/-! ### One push -/

variable {session : Session} {id : String} {exchanges : List Exchange} {moments : List Held}

/-- Fetching changes nothing, and what it is told is what is held. -/
theorem Session.Fetches.weathers {result : Except SyncError Zone} (hclean : held.IsClean)
    (hfetches : session.Fetches id domain exchanges result)
    (hweathers : Weathers domain held exchanges moments after) :
    IsSafe desired held moments after ∧
      ∀ current, result = .ok current → after = held ∧ held.fetched = .ok current := by
  cases hfetches with
  | told hzone hrecords =>
    cases hweathers with
    | cons hfirst hrest =>
      obtain ⟨rfl, htold⟩ := hfirst.eq_of_zoneInfo
      obtain ⟨hsecond, rfl⟩ := hrest.of_exchange
      obtain ⟨rfl, hlisted⟩ := hsecond.eq_of_recordInfo
      refine ⟨(isSafe_singleton hclean hclean (.refl _)).append
        (isSafe_singleton hclean hclean (.refl _)), fun current hcurrent => ⟨rfl, ?_⟩⟩
      rw [Held.fetched, ← htold _ hzone, ← hlisted _ hrecords]
      exact hcurrent
  | withoutRecords =>
    cases hweathers with
    | cons hfirst hrest =>
      obtain ⟨rfl, -⟩ := hfirst.eq_of_zoneInfo
      obtain ⟨hsecond, rfl⟩ := hrest.of_exchange
      obtain ⟨rfl, -⟩ := hsecond.eq_of_recordInfo
      exact ⟨(isSafe_singleton hclean hclean (.refl _)).append
        (isSafe_singleton hclean hclean (.refl _)), fun _ hcurrent => absurd hcurrent (by simp)⟩
  | withoutZone =>
    obtain ⟨hfirst, rfl⟩ := hweathers.of_exchange
    obtain ⟨rfl, -⟩ := hfirst.eq_of_zoneInfo
    exact ⟨isSafe_singleton hclean hclean (.refl _), fun _ hcurrent => absurd hcurrent (by simp)⟩

/-- The records that were fetched are those that are held when the batch is sent. -/
theorem Session.SendsRecords.weathers {zone : Zone} {result : Except SyncError Unit}
    (hfetched : middle.fetched = .ok zone) (hentries : zone.entries = current.entries)
    (hnodup : (current.entries.map content).Nodup)
    (hsends : session.SendsRecords id (reconcile current desired) exchanges result)
    (hweathers : Weathers desired.domain middle exchanges moments after) :
    IsSafe desired middle moments after ∧
      (result = .ok () → RecordsWritten (reconcile current desired) middle after) := by
  have hclean : middle.IsClean := ⟨zone, hfetched, hentries ▸ hnodup⟩
  have hsafe : ∀ {reply : Reply}, middle.MayBecome desired.domain
      (.updateRecords desired.domain (reconcile current desired).batch) reply after →
        IsSafe desired middle [after] after := by
    intro reply hbecome
    rcases hbecome.of_updateRecords with ⟨rfl, -⟩ | ⟨part, hpart, hcarried, -⟩
    · exact isSafe_singleton hclean hclean (.refl _)
    · obtain ⟨hafter, hkeeps⟩ := isClean_and_keeps_of_part hfetched hentries hnodup hpart hcarried
      exact isSafe_singleton hclean hafter hkeeps
  cases hsends with
  | nothing hempty =>
    cases hweathers with
    | nil =>
      refine ⟨isSafe_nil hclean, fun _ => ?_⟩
      rw [RecordsWritten, if_pos (List.isEmpty_iff.2 hempty)]
  | accepted hnonempty htells =>
    obtain ⟨hbecome, rfl⟩ := hweathers.of_exchange
    refine ⟨hsafe hbecome, fun _ => ?_⟩
    rw [RecordsWritten, if_neg fun hempty => hnonempty (List.isEmpty_iff.1 hempty)]
    rcases hbecome.of_updateRecords with ⟨-, hfails⟩ | ⟨part, -, hcarried, rfl | hfails⟩
    · exact absurd htells (hfails _)
    · exact hcarried
    · exact absurd htells (hfails _)
  | refused =>
    obtain ⟨hbecome, rfl⟩ := hweathers.of_exchange
    exact ⟨hsafe hbecome, fun hok => absurd hok (by simp)⟩

/-- However a change is received, it is safe, and if it was accepted then it is written. -/
theorem Session.Sends.weathers {result : Except SyncError Unit} (hfetched : held.fetched = .ok current)
    (hnodup : (current.entries.map content).Nodup) (hpositive : desired.settings.Positive)
    (hsends : session.Sends id (reconcile current desired) exchanges result)
    (hweathers : Weathers desired.domain held exchanges moments after) :
    IsSafe desired held moments after ∧
      (result = .ok () → Written (reconcile current desired) held after) := by
  cases hsends with
  | unchanged hsame hrecords =>
    obtain ⟨hsafe, hwritten⟩ := hrecords.weathers hfetched rfl hnodup hweathers
    refine ⟨hsafe, fun hok => ⟨held, ?_, hwritten hok⟩⟩
    rw [SettingsWritten, Delta.zoneUpdate?, hsame]
    rfl
  | accepted hchange htells hrecords =>
    cases hweathers with
    | cons hfirst hrest =>
      have hnew := hfirst
      rw [settings_of_reconcile hchange] at hnew
      obtain ⟨hsafe, zone, hzone, hentries⟩ := isSafe_of_updateZone hfetched hnodup hpositive hnew
      obtain ⟨hothers, hwritten⟩ := hrecords.weathers hzone hentries hnodup hrest
      refine ⟨hsafe.append hothers, fun hok => ⟨_, ?_, hwritten hok⟩⟩
      rw [SettingsWritten, Delta.zoneUpdate?, hchange]
      rcases hfirst.of_updateZone with ⟨-, hfails⟩ | hcarried
      · exact absurd htells (hfails _)
      · exact hcarried
  | refused hchange =>
    obtain ⟨hbecome, rfl⟩ := hweathers.of_exchange
    rw [settings_of_reconcile hchange] at hbecome
    exact ⟨(isSafe_of_updateZone hfetched hnodup hpositive hbecome).1,
      fun hok => absurd hok (by simp)⟩

/-- The settings and the contents that can be fetched are the desired ones. -/
def Held.Meets (held : Held) (desired : Zone) : Prop :=
  ∃ reached, held.fetched = .ok reached ∧ reached.settings = desired.settings ∧
    contents reached.entries = contents desired.entries

/-- A difference that was written brings what is desired, if no content was held twice. -/
theorem meets_of_written (hfetched : held.fetched = .ok current)
    (hnodup : (current.entries.map content).Nodup) (hpositive : desired.settings.Positive)
    (hwritten : Written (reconcile current desired) held after) : after.Meets desired := by
  obtain ⟨reached, hreached, hsettings, kept, hcurrent, hperm⟩ :=
    exists_fetched_of_written hfetched hpositive hwritten
  have hsurplus : NoSurplus current desired := fun c _ => List.nodup_iff_count_le_one.1 hnodup c
  exact ⟨reached, hreached, hsettings,
    (pushed_of_perm hsettings hcurrent hperm).contents_eq_iff.2 hsurplus⟩

/-- Whatever comes of its requests, a push is safe, and if it ends well it brings what is desired. -/
theorem Session.Pushes.weathers {result : Except SyncError Delta} (hclean : held.IsClean)
    (hpositive : desired.settings.Positive)
    (hpushes : session.Pushes id desired true exchanges result)
    (hweathers : Weathers desired.domain held exchanges moments after) :
    IsSafe desired held moments after ∧ ∀ delta, result = .ok delta → after.Meets desired := by
  cases hpushes with
  | unfetched hfetches =>
    exact ⟨(hfetches.weathers hclean hweathers).1, fun _ hok => absurd hok (by simp)⟩
  | compared _ hcommit => exact absurd hcommit (by simp)
  | written hfetches _ hsends =>
    obtain ⟨first, last, middle, rfl, hread, hwrite⟩ := weathers_append hweathers
    obtain ⟨hsafe, htold⟩ := hfetches.weathers hclean hread
    obtain ⟨rfl, hfetched⟩ := htold _ rfl
    obtain ⟨zone, hzone, hnodup⟩ := hclean
    rw [hzone] at hfetched
    obtain rfl := Except.ok.inj hfetched
    obtain ⟨hothers, hwritten⟩ := hsends.weathers hzone hnodup hpositive hwrite
    refine ⟨hsafe.append hothers, fun delta hok => ?_⟩
    obtain ⟨_, hsent, -⟩ := map_eq_ok_iff.1 hok
    exact meets_of_written hzone hnodup hpositive (hwritten hsent)

/-! ### Pushes one after the other -/

/-- A push that was made: how it ended, what was held after each of its requests, and what was held
in the end. -/
structure Attempt where
  result : Except SyncError Delta
  moments : List Held
  after : Held

/-- Pushes of a zone, one after the other, each in a session of its own and with any replies. -/
inductive Attempts (desired : Zone) : Held → List Attempt → Prop
  | nil {held : Held} : Attempts desired held []
  | cons {held : Held} {session : Session} {σ : Type} {partner : σ → Request → Reply × σ} {state : σ}
    {attempt : Attempt} {rest : List Attempt} :
    Weathers desired.domain held
      ((session.pushZone desired true).run partner state).1.exchanges attempt.moments attempt.after →
    attempt.result = ((session.pushZone desired true).run partner state).1.result →
      Attempts desired attempt.after rest → Attempts desired held (attempt :: rest)

theorem isSafe_of_pushZone {σ : Type} (partner : σ → Request → Reply × σ) (state : σ)
    (hclean : held.IsClean) (hpositive : desired.settings.Positive)
    (hweathers : Weathers desired.domain held
      ((session.pushZone desired true).run partner state).1.exchanges moments after) :
    IsSafe desired held moments after ∧
      ∀ delta, ((session.pushZone desired true).run partner state).1.result = .ok delta →
        after.Meets desired := by
  have hends := Dialogue.ends_run partner (session.pushZone desired true) state
  have hsilent : session.id = none ∨ session.endpoint.isWeb = false →
      IsSafe desired held moments after ∧
        ∀ delta, ((session.pushZone desired true).run partner state).1.result = .ok delta →
          after.Meets desired := by
    intro hclosed
    obtain ⟨hnone, error, herror⟩ := Session.ends_pushZone_unsent hclosed hends
    rw [hnone] at hweathers
    cases hweathers with
    | nil => exact ⟨isSafe_nil hclean, fun _ hok => absurd (herror.symm.trans hok) (by simp)⟩
  cases hopen : session.id with
  | none => exact hsilent (Or.inl hopen)
  | some id =>
    cases hweb : session.endpoint.isWeb with
    | false => exact hsilent (Or.inr hweb)
    | true => exact (Session.ends_pushZone hopen hweb hends).weathers hclean hpositive hweathers

/-- A zone that was read from a layout text is pushed again and again, and any request may fail,
with or without having been carried out. Then no content is ever held twice and no record of a
desired content is ever deleted, and after each push that ended well the domain is as desired. -/
theorem pushZone_again {text : String} {layout : Layout} {attempts : List Attempt}
    (hparse : Layout.parse text = .ok layout) (hdesired : desired ∈ layout.zones)
    (hfetched : held.fetched = .ok current) (hnodup : (current.entries.map content).Nodup)
    (hattempts : Attempts desired held attempts) :
    (∀ moment ∈ held :: attempts.flatMap Attempt.moments, moment.IsClean) ∧
      (held :: attempts.flatMap Attempt.moments).Pairwise (Keeps desired) ∧
        ∀ attempt ∈ attempts, ∀ delta, attempt.result = .ok delta →
          attempt.after.Meets desired := by
  have hpositive : desired.settings.Positive :=
    (Layout.isPrintable_of_parse hparse desired hdesired).positive
  have hclean : held.IsClean := ⟨current, hfetched, hnodup⟩
  clear hfetched hnodup
  have hall : (∃ last, IsSafe desired held (attempts.flatMap Attempt.moments) last) ∧
      ∀ attempt ∈ attempts, ∀ delta, attempt.result = .ok delta →
        attempt.after.Meets desired := by
    induction hattempts with
    | nil => exact ⟨⟨_, isSafe_nil hclean⟩, fun _ hattempt => absurd hattempt (by simp)⟩
    | cons hweathers hresult _ ih =>
      obtain ⟨hsafe, hmeets⟩ := isSafe_of_pushZone _ _ hclean hpositive hweathers
      obtain ⟨⟨last, hrest⟩, hothers⟩ := ih hsafe.reached
      refine ⟨⟨last, ?_⟩, fun attempt hattempt delta hok => ?_⟩
      · rw [List.flatMap_cons]
        exact hsafe.append hrest
      · rcases List.mem_cons.1 hattempt with rfl | hattempt
        · exact hmeets delta (hresult.symm.trans hok)
        · exact hothers attempt hattempt delta hok
  obtain ⟨⟨last, hsafe⟩, hmeets⟩ := hall
  exact ⟨hsafe.clean, hsafe.kept, hmeets⟩

namespace Sample

/-- The push of the domain against these replies, as an attempt. -/
def attempt (replies : List Reply) (moments : List Held) (after : Held) : Attempt :=
  ⟨(push replies).result, moments, after⟩

theorem attempts_cons {replies : List Reply} {rest : List Attempt}
    (hweathers : Weathers "a.org" held (push replies).exchanges moments after)
    (hrest : Attempts (zone []) after rest) :
    Attempts (zone []) held (attempt replies moments after :: rest) :=
  .cons hweathers rfl hrest

/-- The provider with one record, and with none. -/
abbrev before : Held := holding ["1"] (by decide)

abbrev emptied : Held := holding [] (by decide)

end Sample

open Sample

/-- The deletion is carried out but its reply is lost. The next push finds nothing left to do. -/
theorem pushZone_again_once :
    (push [zoneAnswer, recordsAnswer ["1"], .timedOut]).result.isOk = false ∧
      (push [zoneAnswer, recordsAnswer []]).result = .ok (reconcile (zone []) (zone [])) ∧
        before.IsClean ∧ emptied.IsClean ∧ Keeps (zone []) before emptied ∧
          emptied.Meets (zone []) := by
  have hfirst : (push [zoneAnswer, recordsAnswer ["1"], .timedOut]).exchanges =
      [exchange (.zoneInfo "a.org") zoneAnswer,
        exchange (.recordInfo "a.org") (recordsAnswer ["1"]),
        exchange (deletion "1") .timedOut] := by
    decide +kernel
  have hsecond : (push [zoneAnswer, recordsAnswer []]).exchanges =
      [exchange (.zoneInfo "a.org") zoneAnswer,
        exchange (.recordInfo "a.org") (recordsAnswer [])] := by
    decide +kernel
  have hone : (recordsAnswer ["1"]).Tells RemoteRecord.decodeSet [told "1"] :=
    tells_of_parse? (by decide +kernel)
  have hnone : (recordsAnswer []).Tells RemoteRecord.decodeSet [] :=
    tells_of_parse? (by decide +kernel)
  have hlost : Reply.timedOut.Refuses (deletion "1") := by
    rintro data ⟨_, _, _, heq, -⟩
    exact absurd heq (by simp)
  have hdeleted : before.CarriesOut "a.org" (deletion "1") emptied :=
    .updateRecords .nil (by decide) rfl
  have hfailed : Weathers "a.org" before (push [zoneAnswer, recordsAnswer ["1"], .timedOut]).exchanges
      [before, before, emptied] emptied := by
    rw [hfirst]
    exact .cons (.accepted .zoneInfo (tells_zoneAnswer _)) (.cons (.accepted .recordInfo hone)
      (.cons (.lost hlost .whole hdeleted) .nil))
  have hrepeated : Weathers "a.org" emptied (push [zoneAnswer, recordsAnswer []]).exchanges
      [emptied, emptied] emptied := by
    rw [hsecond]
    exact .cons (.accepted .zoneInfo (tells_zoneAnswer _))
      (.cons (.accepted .recordInfo hnone) .nil)
  have hserves : Serves "a.org" emptied (push [zoneAnswer, recordsAnswer []]).exchanges emptied := by
    rw [hsecond]
    exact .cons .zoneInfo (tells_zoneAnswer _) (.cons .recordInfo hnone .nil)
  have hpush := @Session.ensures_pushZone session "session" emptied (zone []) (zone []) rfl
    (by decide) (fetched_holding List.nodup_nil)
  have hresult := (push_of_ensures hpush _ hserves).1
  have hparse : ∃ layout, Layout.parse "a.org\n" = .ok layout ∧ zone [] ∈ layout.zones :=
    ⟨_, rfl, by decide⟩
  obtain ⟨layout, hparse, hdesired⟩ := hparse
  have hnodup : ((zone ["1"]).entries.map content).Nodup := List.nodup_singleton _
  obtain ⟨hclean, hkept, hmeets⟩ := pushZone_again hparse hdesired (fetched_holding (by decide))
    hnodup (attempts_cons hfailed (attempts_cons hrepeated .nil))
  have hmoments : emptied ∈ [attempt [zoneAnswer, recordsAnswer ["1"], .timedOut]
      [before, before, emptied] emptied, attempt [zoneAnswer, recordsAnswer []]
        [emptied, emptied] emptied].flatMap Attempt.moments := by
    simp only [List.flatMap_cons, attempt, List.mem_append, List.mem_cons, true_or, or_true]
  have hagain := hmeets (attempt [zoneAnswer, recordsAnswer []] [emptied, emptied] emptied)
    (List.mem_cons_of_mem _ List.mem_cons_self)
  simp only [attempt] at hagain
  refine ⟨by decide +kernel, hresult, hclean before List.mem_cons_self, ?_, ?_, ?_⟩
  · exact hclean _ (List.mem_cons_of_mem _ hmoments)
  · exact (List.pairwise_cons.1 hkept).1 _ hmoments
  · exact hagain _ hresult

end ZoneSync
