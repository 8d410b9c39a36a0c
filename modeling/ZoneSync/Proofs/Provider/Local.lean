import Mathlib.Data.List.Basic
import ZoneSync.Dialogue

/-!
# Partners who keep domains apart

A partner keeps domains apart if his answers about a domain depend only on what he was asked about
that domain before. Then two of his states are alike for a domain if he answers alike from there on,
and requests about other domains lead to a state that is still alike. A dialogue about one domain
goes the same from alike states. So dialogues about different domains, one after the other, go as
each of them would have gone alone.
-/

namespace ZoneSync

variable {α β γ σ : Type}

/-- The domain that a request names. -/
def Request.domain? (request : Request) : Option String :=
  match request.message with
  | .login _ => none
  | .call _ _ asked => asked.domain?

def naming (domain : String) (requests : List Request) : List Request :=
  requests.filter fun request => request.domain? = some domain

/-- The exchanges whose requests name the domain. -/
def about (domain : String) (exchanges : List Exchange) : List Exchange :=
  exchanges.filter fun exchange => exchange.request.domain? = some domain

theorem naming_append (domain : String) (earlier later : List Request) :
    naming domain (earlier ++ later) = naming domain earlier ++ naming domain later :=
  List.filter_append ..

theorem about_append (domain : String) (earlier later : List Exchange) :
    about domain (earlier ++ later) = about domain earlier ++ about domain later :=
  List.filter_append ..

theorem naming_map_request (domain : String) (exchanges : List Exchange) :
    naming domain (exchanges.map Exchange.request) =
      (about domain exchanges).map Exchange.request :=
  List.filter_map

/-- If each item has exchanges about one domain, those about a domain are those of its items. -/
theorem about_flatMap {key : γ → String} {parts : γ → List Exchange}
    (hparts : ∀ item, ∀ exchange ∈ parts item, exchange.request.domain? = some (key item))
    (domain : String) (items : List γ) :
    about domain (items.flatMap parts) =
      (items.filter fun item => key item = domain).flatMap parts := by
  induction items with
  | nil => rfl
  | cons item rest ih =>
    rw [List.flatMap_cons, about_append, ih, List.filter_cons]
    split
    · next heq =>
      have hown : about domain (parts item) = parts item := by
        apply List.filter_eq_self.2
        intro exchange hmem
        simpa [hparts item exchange hmem] using heq
      rw [hown, List.flatMap_cons]
    · next hne =>
      have hother : about domain (parts item) = [] := by
        apply List.filter_eq_nil_iff.2
        intro exchange hmem
        simpa [hparts item exchange hmem] using hne
      rw [hother, List.nil_append]

/-! ### What a dialogue may ask -/

namespace Dialogue

/-- Whatever the replies are, only such requests are sent. -/
def Asks (allowed : Request → Prop) : Dialogue α → Prop
  | done _ => True
  | ask request next => allowed request ∧ ∀ reply, (next reply).Asks allowed
  | warn _ next => next.Asks allowed

variable {allowed : Request → Prop} {dialogue : Dialogue α}

theorem Asks.mono {other : Request → Prop} (hasks : dialogue.Asks allowed)
    (himp : ∀ request, allowed request → other request) : dialogue.Asks other := by
  induction dialogue with
  | done => trivial
  | ask request next ih => exact ⟨himp request hasks.1, fun reply => ih reply (hasks.2 reply)⟩
  | warn warning next ih => exact ih hasks

theorem Asks.bind {f : α → Dialogue β} (hasks : dialogue.Asks allowed)
    (hf : ∀ a, (f a).Asks allowed) : (dialogue >>= f).Asks allowed := by
  induction dialogue with
  | done a => exact hf a
  | ask request next ih => exact ⟨hasks.1, fun reply => ih reply (hasks.2 reply)⟩
  | warn warning next ih => exact ih hasks

theorem asks_mapM {f : γ → Dialogue α} {items : List γ}
    (hitems : ∀ item ∈ items, (f item).Asks allowed) : (items.mapM f).Asks allowed := by
  induction items with
  | nil => trivial
  | cons item rest ih =>
    rw [List.mapM_cons]
    obtain ⟨hitem, hrest⟩ := List.forall_mem_cons.1 hitems
    exact hitem.bind fun _ => (ih hrest).bind fun _ => trivial

/-- Two partners who reply alike to what is asked. -/
theorem Asks.run_congr {partner other : σ → Request → Reply × σ} (hasks : dialogue.Asks allowed)
    (hagree : ∀ state request, allowed request → other state request = partner state request)
    (state : σ) : dialogue.run other state = dialogue.run partner state := by
  induction dialogue generalizing state with
  | done => rfl
  | ask request next ih =>
    simp only [run, hagree state request hasks.1, ih _ (hasks.2 _)]
  | warn warning next ih => simp only [run, ih hasks]

theorem Asks.of_run (hasks : dialogue.Asks allowed) (partner : σ → Request → Reply × σ)
    (state : σ) :
    ∀ exchange ∈ (dialogue.run partner state).1.exchanges, allowed exchange.request := by
  induction dialogue generalizing state with
  | done => exact fun exchange hmem => absurd hmem List.not_mem_nil
  | ask request next ih =>
    exact List.forall_mem_cons.2 ⟨hasks.1, ih _ (hasks.2 _) _⟩
  | warn warning next ih => exact ih hasks state

end Dialogue

/-! ### States of a partner -/

/-- The state of a partner after some requests. -/
def stateAfter (partner : σ → Request → Reply × σ) (state : σ) (requests : List Request) : σ :=
  requests.foldl (fun state request => (partner state request).2) state

/-- From both states, what is answered about the domain is the same, whatever is asked about other
domains in between. -/
def Alike (partner : σ → Request → Reply × σ) (domain : String) (state other : σ) : Prop :=
  ∀ earlier others request, naming domain earlier = naming domain others →
    request.domain? = some domain →
      (partner (stateAfter partner state earlier) request).1 =
        (partner (stateAfter partner other others) request).1

/-- The answers about a domain depend only on the earlier requests about it. -/
def IsLocal (partner : σ → Request → Reply × σ) (state : σ) : Prop :=
  ∀ domain, Alike partner domain state state

variable {partner : σ → Request → Reply × σ} {domain : String} {state other : σ}

theorem stateAfter_append (state : σ) (earlier later : List Request) :
    stateAfter partner state (earlier ++ later) = stateAfter partner (stateAfter partner state earlier) later :=
  List.foldl_append ..

theorem Alike.after (halike : Alike partner domain state other) (requests others : List Request)
    (hnaming : naming domain requests = naming domain others) :
    Alike partner domain (stateAfter partner state requests)
      (stateAfter partner other others) := by
  intro earlier later request hlater hdomain
  rw [← stateAfter_append, ← stateAfter_append]
  refine halike _ _ request ?_ hdomain
  rw [naming_append, naming_append, hnaming, hlater]

namespace Dialogue

variable {dialogue : Dialogue α}

theorem run_snd (dialogue : Dialogue α) (state : σ) :
    (dialogue.run partner state).2 =
      stateAfter partner state ((dialogue.run partner state).1.exchanges.map Exchange.request) := by
  induction dialogue generalizing state with
  | done => rfl
  | ask request next ih => exact ih _ _
  | warn warning next ih => exact ih state

/-- A dialogue about the domain goes the same from states that are alike. -/
theorem Asks.run_eq (hasks : dialogue.Asks fun request => request.domain? = some domain)
    (halike : Alike partner domain state other) :
    (dialogue.run partner state).1 = (dialogue.run partner other).1 := by
  induction dialogue generalizing state other with
  | done => rfl
  | ask request next ih =>
    have hreply : (partner state request).1 = (partner other request).1 :=
      halike [] [] request rfl hasks.1
    have hstates : Alike partner domain (partner state request).2 (partner other request).2 :=
      halike.after [request] [request] rfl
    have hrest := ih (partner state request).1 (hasks.2 _) hstates
    simp only [run, ← hreply]
    rw [hrest]
  | warn warning next ih =>
    simp only [run]
    rw [ih hasks halike]

theorem Asks.alike (hasks : dialogue.Asks fun request => request.domain? = some domain)
    (halike : Alike partner domain state other) :
    Alike partner domain (dialogue.run partner state).2 (dialogue.run partner other).2 := by
  rw [run_snd, run_snd, hasks.run_eq halike]
  exact halike.after _ _ rfl

theorem Asks.about_eq_nil (hasks : dialogue.Asks fun request => request.domain? ≠ some domain)
    (partner : σ → Request → Reply × σ) (state : σ) :
    about domain (dialogue.run partner state).1.exchanges = [] := by
  apply List.filter_eq_nil_iff.2
  intro exchange hmem
  simpa using hasks.of_run partner state exchange hmem

/-- A dialogue that never names the domain leaves the state alike for it. -/
theorem Asks.alike_left (hasks : dialogue.Asks fun request => request.domain? ≠ some domain)
    (halike : Alike partner domain state other) :
    Alike partner domain (dialogue.run partner state).2 other := by
  rw [run_snd]
  refine halike.after _ [] ?_
  rw [naming_map_request, hasks.about_eq_nil]
  rfl

/-- Dialogues about different domains, one after the other, go as each goes from a state that was
alike for its domain before all of them. -/
theorem run_mapM {key : γ → String} {f : γ → Dialogue α} {start : γ → σ} {items : List γ}
    (hasks : ∀ item, (f item).Asks fun request => request.domain? = some (key item))
    (hdistinct : (items.map key).Nodup)
    (hstart : ∀ item ∈ items, Alike partner (key item) state (start item)) :
    let whole := (items.mapM f).run partner state
    whole.1.result = items.map (fun item => ((f item).run partner (start item)).1.result) ∧
      whole.1.exchanges =
          items.flatMap (fun item => ((f item).run partner (start item)).1.exchanges) ∧
        ∀ item ∈ items, Alike partner (key item) whole.2 ((f item).run partner (start item)).2 := by
  induction items generalizing state with
  | nil => exact ⟨rfl, rfl, fun item hmem => absurd hmem List.not_mem_nil⟩
  | cons item rest ih =>
    rw [List.map_cons, List.nodup_cons] at hdistinct
    obtain ⟨hfirst, hothers⟩ := List.forall_mem_cons.1 hstart
    have hne : ∀ other ∈ rest, key other ≠ key item :=
      fun other hmem heq => hdistinct.1 (heq ▸ List.mem_map_of_mem hmem)
    have hspare : ∀ other ∈ rest,
        Alike partner (key other) ((f item).run partner state).2 (start other) := by
      intro other hmem
      refine Asks.alike_left ((hasks item).mono ?_) (hothers other hmem)
      intro request hdomain heq
      exact hne other hmem (Option.some.inj (heq.symm.trans hdomain))
    obtain ⟨hresult, hexchanges, hstates⟩ := ih hdistinct.2 hspare
    have hsame := (hasks item).run_eq hfirst
    rw [List.mapM_cons, run_bind]
    simp only [run_bind, run, pure_eq_done]
    refine ⟨?_, ?_, List.forall_mem_cons.2 ⟨?_, hstates⟩⟩
    · rw [List.map_cons, hresult, hsame]
    · rw [List.flatMap_cons, List.append_nil, hexchanges, hsame]
    -- What the other items ask afterwards leaves the end of this one as it was.
    · refine Asks.alike_left ?_ ((hasks item).alike hfirst)
      refine asks_mapM fun other hmem => (hasks other).mono ?_
      intro request hdomain heq
      exact hne other hmem (Option.some.inj (hdomain.symm.trans heq))

end Dialogue

/-! ### A partner who remembers -/

/-- Answers from the earlier requests about the same domain. -/
def recorded (answer : List Request → Request → Reply) (history : List Request)
    (request : Request) : Reply × List Request :=
  let known := match request.domain? with
    | some domain => naming domain history
    | none => []
  (answer known request, history ++ [request])

theorem stateAfter_recorded (answer : List Request → Request → Reply) (history requests : List Request) :
    stateAfter (recorded answer) history requests = history ++ requests := by
  induction requests generalizing history with
  | nil => exact (List.append_nil history).symm
  | cons request rest ih =>
    rw [List.append_cons]
    exact ih (history ++ [request])

theorem isLocal_recorded (answer : List Request → Request → Reply) (history : List Request) :
    IsLocal (recorded answer) history := by
  intro domain earlier others request hnaming hdomain
  simp only [recorded, hdomain, stateAfter_recorded, naming_append, hnaming]

end ZoneSync
