import ZoneSync.Proofs.Dialogue

/-!
# Dialogues side by side

Several dialogues may talk to one partner at a time. Their requests are answered one by one, and
between two requests of a dialogue the others may have had any number of theirs answered. Each
dialogue can still be judged alone. It endures if its requests only ever bring the partner forward,
and if it is content with whatever it finds after the others have brought him forward too. Where all
dialogues endure, all that happens brings the partner forward, in whatever order it happens.
-/

namespace ZoneSync

section

variable {α β σ : Type}

/-- The dialogues go on side by side. The moments are the states of the partner after each answer:
`serves` says which answers he may give, and in which state that leaves him. -/
inductive Interleaves (serves : σ → Request → Reply → σ → Prop) :
    σ → List (Dialogue α) → List σ → σ → List (Dialogue α) → Prop
  | rest {state : σ} {dialogues : List (Dialogue α)} :
    Interleaves serves state dialogues [] state dialogues
  | ask {state middle after : σ} {moments : List σ} {before others left : List (Dialogue α)}
    {request : Request} {next : Reply → Dialogue α} {reply : Reply} :
    serves state request reply middle →
      Interleaves serves middle (before ++ next reply :: others) moments after left →
        Interleaves serves state (before ++ .ask request next :: others) (middle :: moments) after
          left
  | warn {state after : σ} {moments : List σ} {before others left : List (Dialogue α)}
    {warning : Warning} {next : Dialogue α} :
    Interleaves serves state (before ++ next :: others) moments after left →
      Interleaves serves state (before ++ .warn warning next :: others) moments after left

namespace Interleaves

variable {serves : σ → Request → Reply → σ → Prop} {state middle after : σ} {moments : List σ}
  {others left : List (Dialogue α)} {dialogue : Dialogue α} {result : α}

/-- A dialogue goes on with the first exchange of one of the ways in which it can go. -/
theorem ask_of_ends {request : Request} {reply : Reply} {exchanges : List Exchange}
    (hends : dialogue.Ends (⟨request, reply⟩ :: exchanges) result)
    (hserved : serves state request reply middle) (before : List (Dialogue α))
    (hrest : ∀ next : Dialogue α, next.Ends exchanges result →
      Interleaves serves middle (before ++ next :: others) moments after left) :
    Interleaves serves state (before ++ dialogue :: others) (middle :: moments) after left := by
  induction dialogue with
  | done => exact absurd (Dialogue.ends_done_iff.1 hends).1 (List.cons_ne_nil _ _)
  | ask asked next =>
    obtain ⟨told, rest, heq, hnext⟩ := Dialogue.ends_ask_iff.1 hends
    obtain ⟨⟨rfl, rfl⟩, rfl⟩ : (request = asked ∧ reply = told) ∧ exchanges = rest := by
      simpa using heq
    exact .ask hserved (hrest _ hnext)
  | warn warning next ih => exact .warn (ih (Dialogue.ends_warn_iff.1 hends))

/-- Where no exchange is left a dialogue is done. -/
theorem done_of_ends (hends : dialogue.Ends [] result) (before : List (Dialogue α))
    (hrest : Interleaves serves state (before ++ .done result :: others) moments after left) :
    Interleaves serves state (before ++ dialogue :: others) moments after left := by
  induction dialogue with
  | done => exact (Dialogue.ends_done_iff.1 hends).2 ▸ hrest
  | ask asked next =>
    obtain ⟨told, rest, heq, -⟩ := Dialogue.ends_ask_iff.1 hends
    exact absurd heq (by simp)
  | warn warning next ih => exact .warn (ih (Dialogue.ends_warn_iff.1 hends))

end Interleaves

/-- From the state on, whatever others do between its requests as long as they bring the partner
forward, the dialogue brings him forward, and its result is right from its end on. -/
def Dialogue.Endures (serves : σ → Request → Reply → σ → Prop) (forward : σ → σ → Prop)
    (post : σ → α → Prop) : Dialogue α → σ → Prop
  | .done result, state => ∀ later, forward state later → post later result
  | .ask request next, state => ∀ later reply after, forward state later →
    serves later request reply after →
      forward later after ∧ (next reply).Endures serves forward post after
  | .warn _ next, state => next.Endures serves forward post state

variable {serves : σ → Request → Reply → σ → Prop} {forward : σ → σ → Prop}
  {post : σ → α → Prop} {goal : σ → β → Prop} {state later after : σ} {dialogue : Dialogue α}
  {f : α → Dialogue β}

namespace Dialogue.Endures

theorem advance (htrans : ∀ {x y z}, forward x y → forward y z → forward x z)
    (hforward : forward state later) (hendures : dialogue.Endures serves forward post state) :
    dialogue.Endures serves forward post later := by
  induction dialogue with
  | done result => exact fun last hlast => hendures last (htrans hforward hlast)
  | ask request next _ =>
    exact fun last reply after hlast => hendures last reply after (htrans hforward hlast)
  | warn warning next ih => exact ih hendures

theorem bind (hrefl : ∀ x, forward x x) (hfirst : dialogue.Endures serves forward post state)
    (hrest : ∀ result state, post state result → (f result).Endures serves forward goal state) :
    (dialogue >>= f).Endures serves forward goal state := by
  induction dialogue generalizing state with
  | done result => exact hrest result state (hfirst state (hrefl state))
  | ask request next ih =>
    intro later reply after hlater hserved
    obtain ⟨hforward, hnext⟩ := hfirst later reply after hlater hserved
    exact ⟨hforward, ih reply hnext⟩
  | warn warning next ih => exact ih hfirst

end Dialogue.Endures

theorem forall_mem_append_cons {p : Dialogue α → Prop} {before others : List (Dialogue α)}
    {dialogue next : Dialogue α} (hall : ∀ other ∈ before ++ dialogue :: others, p other)
    (hnext : p next) : ∀ other ∈ before ++ next :: others, p other := by
  simp only [List.mem_append, List.mem_cons] at hall ⊢
  rintro other (hother | rfl | hother)
  · exact hall other (.inl hother)
  · exact hnext
  · exact hall other (.inr (.inr hother))

/-- Dialogues that endure alone endure side by side, and the partner only moves forward. -/
theorem Interleaves.endures (hrefl : ∀ x, forward x x)
    (htrans : ∀ {x y z}, forward x y → forward y z → forward x z) {moments : List σ}
    {dialogues left : List (Dialogue α)}
    (hruns : Interleaves serves state dialogues moments after left)
    (hall : ∀ dialogue ∈ dialogues, dialogue.Endures serves forward post state) :
    (state :: moments).Pairwise forward ∧
      ∀ dialogue ∈ left, dialogue.Endures serves forward post after := by
  induction hruns with
  | rest => exact ⟨List.pairwise_singleton _ _, hall⟩
  | @ask state middle after moments before others left request next reply hserved _ ih =>
    obtain ⟨hforward, hnext⟩ := hall (.ask request next) (by simp) state reply middle (hrefl state)
      hserved
    have hlater : ∀ other ∈ before ++ .ask request next :: others,
        other.Endures serves forward post middle := fun other hother =>
      (hall other hother).advance htrans hforward
    obtain ⟨hchain, hleft⟩ := ih (forall_mem_append_cons hlater hnext)
    refine ⟨List.pairwise_cons.2 ⟨fun moment hmoment => ?_, hchain⟩, hleft⟩
    rcases List.mem_cons.1 hmoment with rfl | hmoment
    · exact hforward
    · exact htrans hforward ((List.pairwise_cons.1 hchain).1 moment hmoment)
  | @warn state after moments before others left warning next _ ih =>
    have hnext : next.Endures serves forward post state := hall (.warn warning next) (by simp)
    exact ih (forall_mem_append_cons hall hnext)

end

end ZoneSync
