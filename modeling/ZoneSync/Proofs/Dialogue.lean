import Mathlib.Data.List.Forall2
import ZoneSync.Dialogue

/-!
# How a dialogue can go

A dialogue goes differently for different replies. `Ends` lists the exchanges and the result for all
of them, so what holds of each of its cases holds of every run, whoever replies. A dialogue that is
put together from others goes as the parts go, one after the other.
-/

namespace ZoneSync.Dialogue

variable {α β σ : Type} {dialogue : Dialogue α} {exchanges : List Exchange} {result : α}

/-- For some replies these are the exchanges and the result. -/
inductive Ends : Dialogue α → List Exchange → α → Prop
  | done {result : α} : Ends (.done result) [] result
  | ask {request : Request} {next : Reply → Dialogue α} {reply : Reply}
    {exchanges : List Exchange} {result : α} :
    Ends (next reply) exchanges result →
      Ends (.ask request next) (⟨request, reply⟩ :: exchanges) result
  | warn {warning : Warning} {next : Dialogue α} {exchanges : List Exchange} {result : α} :
    Ends next exchanges result → Ends (.warn warning next) exchanges result

/-- A run is one of the ways in which the dialogue can go. -/
theorem ends_run (partner : σ → Request → Reply × σ) (dialogue : Dialogue α) (state : σ) :
    dialogue.Ends (dialogue.run partner state).1.exchanges (dialogue.run partner state).1.result := by
  induction dialogue generalizing state with
  | done result => exact .done
  | ask request next ih => exact .ask (ih _ _)
  | warn warning next ih => exact .warn (ih _)

@[simp] theorem ends_done_iff {a : α} :
    (Dialogue.done a).Ends exchanges result ↔ exchanges = [] ∧ result = a := by
  constructor
  · rintro ⟨⟩
    exact ⟨rfl, rfl⟩
  · rintro ⟨rfl, rfl⟩
    exact .done

@[simp] theorem ends_ask_iff {request : Request} {next : Reply → Dialogue α} :
    (Dialogue.ask request next).Ends exchanges result ↔
      ∃ reply rest, exchanges = ⟨request, reply⟩ :: rest ∧ (next reply).Ends rest result := by
  constructor
  · rintro ⟨⟩
    exact ⟨_, _, rfl, ‹_›⟩
  · rintro ⟨reply, rest, rfl, hrest⟩
    exact .ask hrest

@[simp] theorem ends_warn_iff {warning : Warning} {next : Dialogue α} :
    (Dialogue.warn warning next).Ends exchanges result ↔ next.Ends exchanges result := by
  constructor
  · rintro ⟨⟩
    assumption
  · exact .warn

theorem ends_bind_iff {f : α → Dialogue β} {result : β} :
    (dialogue >>= f).Ends exchanges result ↔
      ∃ first rest a, exchanges = first ++ rest ∧ dialogue.Ends first a ∧ (f a).Ends rest result := by
  induction dialogue generalizing exchanges with
  | done a =>
    rw [done_bind]
    constructor
    · exact fun hends => ⟨[], exchanges, a, rfl, .done, hends⟩
    · rintro ⟨first, rest, b, rfl, hfirst, hrest⟩
      obtain ⟨rfl, rfl⟩ := ends_done_iff.1 hfirst
      exact hrest
  | ask request next ih =>
    simp only [ask_bind, ends_ask_iff, ih]
    constructor
    · rintro ⟨reply, _, rfl, first, rest, a, rfl, hfirst, hrest⟩
      exact ⟨⟨request, reply⟩ :: first, rest, a, rfl, ⟨reply, first, rfl, hfirst⟩, hrest⟩
    · rintro ⟨_, rest, a, rfl, ⟨reply, first, rfl, hfirst⟩, hrest⟩
      exact ⟨reply, first ++ rest, rfl, first, rest, a, rfl, hfirst, hrest⟩
  | warn warning next ih => simp only [warn_bind, ends_warn_iff, ih]

/-- The replies leave no choice. -/
theorem Ends.unique {other : α} (hends : dialogue.Ends exchanges result)
    (hother : dialogue.Ends exchanges other) : result = other := by
  induction hends with
  | done => exact (ends_done_iff.1 hother).2.symm
  | ask _ ih =>
    obtain ⟨reply, rest, hsame, hrest⟩ := ends_ask_iff.1 hother
    obtain ⟨hexchange, rfl⟩ := List.cons.inj hsame
    obtain rfl := (Exchange.mk.inj hexchange).2
    exact ih hrest
  | warn _ ih => exact ih (ends_warn_iff.1 hother)

/-- The same dialogue for each item, one after the other. -/
theorem ends_mapM {γ : Type} {f : γ → Dialogue α} {items : List γ} {results : List α} :
    (items.mapM f).Ends exchanges results →
      ∃ parts : List (List Exchange × α), exchanges = (parts.map Prod.fst).flatten ∧
        results = parts.map Prod.snd ∧
          List.Forall₂ (fun item part => (f item).Ends part.1 part.2) items parts := by
  induction items generalizing exchanges results with
  | nil =>
    rw [List.mapM_nil, pure_eq_done, ends_done_iff]
    rintro ⟨rfl, rfl⟩
    exact ⟨[], rfl, rfl, .nil⟩
  | cons item rest ih =>
    rw [List.mapM_cons, ends_bind_iff]
    rintro ⟨first, others, a, rfl, hfirst, hothers⟩
    obtain ⟨middle, last, as, rfl, hmiddle, hlast⟩ := ends_bind_iff.1 hothers
    obtain ⟨rfl, rfl⟩ := ends_done_iff.1 hlast
    obtain ⟨parts, rfl, rfl, hparts⟩ := ih hmiddle
    refine ⟨(first, a) :: parts, ?_, rfl, .cons hfirst hparts⟩
    simp

/-- Warnings ask for nothing. -/
theorem ends_tell {warnings : List Warning} {result : Unit} :
    (warnings.forM tell).Ends exchanges result → exchanges = [] := by
  induction warnings generalizing exchanges with
  | nil => exact fun hends => (ends_done_iff.1 hends).1
  | cons warning rest ih => exact fun hends => ih (ends_warn_iff.1 hends)

/-- What is made of the result takes no exchange. -/
theorem run_bind_done (partner : σ → Request → Reply × σ) (dialogue : Dialogue α) (f : α → β)
    (state : σ) :
    (dialogue >>= fun a => .done (f a)).run partner state =
      let (told, state) := dialogue.run partner state
      (⟨f told.result, told.exchanges, told.warnings⟩, state) := by
  rw [run_bind]
  simp only [run, List.append_nil]

/-! ### Warnings -/

/-- The dialogue without its warnings. -/
def hushed : Dialogue α → Dialogue α
  | .done result => .done result
  | .ask request next => .ask request fun reply => (next reply).hushed
  | .warn _ next => next.hushed

theorem hushed_bind (dialogue : Dialogue α) (f : α → Dialogue β) :
    (dialogue >>= f).hushed = dialogue.hushed >>= fun a => (f a).hushed := by
  induction dialogue with
  | done => rfl
  | ask request next ih => simp only [ask_bind, hushed, ih]
  | warn warning next ih => exact ih

/-- Warnings change neither what is sent nor what comes of it. -/
theorem run_hushed (partner : σ → Request → Reply × σ) (dialogue : Dialogue α) (state : σ) :
    dialogue.hushed.run partner state =
      let (told, state) := dialogue.run partner state
      ({ told with warnings := [] }, state) := by
  induction dialogue generalizing state with
  | done => rfl
  | ask request next ih => simp only [hushed, run, ih]
  | warn warning next ih => exact ih state

end ZoneSync.Dialogue
