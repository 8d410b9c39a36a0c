import ZoneSync.Provider.Request
import ZoneSync.SyncError

/-!
# Dialogues

A dialogue is a computation that asks the provider and goes on with its replies. It says what is
sent in every case and does not say who replies, so it can be run against a fixed list of replies,
against a model of the provider, or against the network. Warnings are told on the way.
-/

namespace ZoneSync

/-- What an operator is warned of. -/
inductive Warning where
  | logoutFailed (error : ApiError)
  | pushFailed (domain : String) (error : SyncError)
  | applyFailed (domain : String) (error : SyncError)
  | declaredAgain (domain file : String)
  | nothingToPush
  deriving DecidableEq, Repr

def Warning.message : Warning → String
  | logoutFailed _ => "logout failed"
  | pushFailed _ _ => "zone push failed"
  | applyFailed _ _ => "applying delta failed"
  | declaredAgain _ _ => "zone declared again, replaces the earlier declaration"
  | nothingToPush => "layout declares no zones, nothing to push"

/-- What a warning tells beside its message. -/
def Warning.details : Warning → List (String × String)
  | logoutFailed error => [("error", error.message)]
  | pushFailed domain error | applyFailed domain error =>
    [("domain", domain), ("error", error.message)]
  | declaredAgain domain file => [("domain", domain), ("file", file)]
  | nothingToPush => []

inductive Dialogue (α : Type) where
  | done (result : α)
  | ask (request : Request) (next : Reply → Dialogue α)
  | warn (warning : Warning) (next : Dialogue α)

namespace Dialogue

variable {α β γ σ : Type}

def bind : Dialogue α → (α → Dialogue β) → Dialogue β
  | done result, f => f result
  | ask request next, f => ask request fun reply => bind (next reply) f
  | warn warning next, f => warn warning (bind next f)

instance : Monad Dialogue where
  pure := done
  bind := bind

@[simp] theorem pure_eq_done (a : α) : (pure a : Dialogue α) = done a := rfl

@[simp] theorem done_bind (a : α) (f : α → Dialogue β) : done a >>= f = f a := rfl

@[simp] theorem ask_bind (request : Request) (next : Reply → Dialogue α) (f : α → Dialogue β) :
    ask request next >>= f = ask request fun reply => next reply >>= f := rfl

@[simp] theorem warn_bind (warning : Warning) (next : Dialogue α) (f : α → Dialogue β) :
    warn warning next >>= f = warn warning (next >>= f) := rfl

theorem bind_done (dialogue : Dialogue α) : dialogue >>= done = dialogue := by
  induction dialogue with
  | done => rfl
  | ask request next ih => simp [ih]
  | warn warning next ih => simp [ih]

theorem bind_assoc (dialogue : Dialogue α) (f : α → Dialogue β) (g : β → Dialogue γ) :
    dialogue >>= f >>= g = dialogue >>= fun a => f a >>= g := by
  induction dialogue with
  | done => rfl
  | ask request next ih => simp [ih]
  | warn warning next ih => simp [ih]

instance : LawfulMonad Dialogue :=
  LawfulMonad.mk' Dialogue bind_done (fun _ _ => rfl) bind_assoc

/-- Sends one request and goes on with its reply. -/
def send (request : Request) : Dialogue Reply :=
  ask request done

def tell (warning : Warning) : Dialogue Unit :=
  warn warning (done ())

end Dialogue

/-- What was sent, and what came back. -/
structure Exchange where
  request : Request
  reply : Reply
  deriving DecidableEq, Repr

/-- What happened in a dialogue, in order, and how it ended. -/
structure Transcript (α : Type) where
  result : α
  exchanges : List Exchange
  warnings : List Warning

namespace Dialogue

variable {α β σ : Type}

/-- Runs a dialogue with a partner who replies from a state of his own. -/
def run (partner : σ → Request → Reply × σ) : Dialogue α → σ → Transcript α × σ
  | done result, state => (⟨result, [], []⟩, state)
  | ask request next, state =>
    let (reply, state) := partner state request
    let (rest, state) := run partner (next reply) state
    ({ rest with exchanges := ⟨request, reply⟩ :: rest.exchanges }, state)
  | warn warning next, state =>
    let (rest, state) := run partner next state
    ({ rest with warnings := warning :: rest.warnings }, state)

/-- A partner who has the replies written down; after the last one the service is unavailable. -/
def script : List Reply → Request → Reply × List Reply
  | [], _ => (.answered 503 "", [])
  | reply :: rest, _ => (reply, rest)

/-- Runs a dialogue against a list of replies. -/
def replay (dialogue : Dialogue α) (replies : List Reply) : Transcript α :=
  (dialogue.run script replies).1

/-- Runs one dialogue after the other, the second from the state where the first has ended. -/
theorem run_bind (partner : σ → Request → Reply × σ) (dialogue : Dialogue α) (f : α → Dialogue β)
    (state : σ) :
    (dialogue >>= f).run partner state =
      let (first, state) := dialogue.run partner state
      let (rest, state) := (f first.result).run partner state
      (⟨rest.result, first.exchanges ++ rest.exchanges, first.warnings ++ rest.warnings⟩,
        state) := by
  induction dialogue generalizing state with
  | done => rfl
  | ask request next ih => simp [run, ih]
  | warn warning next ih => simp [run, ih]

end Dialogue

end ZoneSync
