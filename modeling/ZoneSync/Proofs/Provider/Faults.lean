import ZoneSync.Command.Failure
import ZoneSync.Proofs.Provider.Calls
import ZoneSync.Proofs.Provider.Usable

/-!
# The exit code of a lost reply

A question fails for every reply that does not tell what was asked for. Which exit code its failure
has is a matter of the reply alone: whether there is none because of the time or the connection, or
whether it holds an envelope that denies what was asked. Only the code of a denial depends on what
that was. Data that are told and break the rules of a zone end with the same code as an answer that
cannot be read.
-/

namespace ZoneSync

variable {α : Type} {reply : Reply} {denial : Int → Nat} {envelope : Envelope}

namespace Reply

/-- The reply is an answer of success, and this envelope is its body. -/
def Holds (reply : Reply) (envelope : Envelope) : Prop :=
  ∃ status body, reply = .answered status body ∧ isSuccess status = true ∧
    isBodiless status = false ∧ Envelope.parse? body = some envelope

/-- The reply holds an envelope that denies what was asked, with this code of the provider. -/
def Denies (reply : Reply) (code : Int) : Prop :=
  ∃ envelope, reply.Holds envelope ∧ envelope.succeeded = false ∧ envelope.code = code

/-- The exit code for a reply that does not tell what was asked for. An envelope that denies it has
one for its own code. -/
inductive Exits (reply : Reply) (denial : Int → Nat) : Nat → Prop
  | denied {code : Int} : reply.Denies code → Exits reply denial (denial code)
  | timedOut : reply = .timedOut → Exits reply denial 8
  | unreachable : reply = .unreachable → Exits reply denial 7
  | unusable : (∀ code, ¬reply.Denies code) → reply ≠ .timedOut → reply ≠ .unreachable →
    Exits reply denial 1

theorem Holds.unique {other : Envelope} (hholds : reply.Holds envelope)
    (hother : reply.Holds other) : envelope = other := by
  obtain ⟨_, _, rfl, -, -, hparse⟩ := hholds
  obtain ⟨_, _, hanswer, -, -, hagain⟩ := hother
  obtain ⟨rfl, rfl⟩ := Reply.answered.inj hanswer
  exact Option.some.inj (hparse.symm.trans hagain)

theorem Denies.unique {code other : Int} (hdenies : reply.Denies code)
    (hother : reply.Denies other) : code = other := by
  obtain ⟨envelope, hholds, -, rfl⟩ := hdenies
  obtain ⟨_, hagain, -, rfl⟩ := hother
  rw [hholds.unique hagain]

theorem Denies.answered {code : Int} (hdenies : reply.Denies code) :
    reply ≠ .timedOut ∧ reply ≠ .unreachable := by
  obtain ⟨_, ⟨_, _, rfl, -⟩, -⟩ := hdenies
  exact ⟨nofun, nofun⟩

theorem Exits.unique {code other : Nat} (hexits : reply.Exits denial code)
    (hother : reply.Exits denial other) : code = other := by
  cases hexits <;> cases hother <;> grind [Denies.unique, Denies.answered]

/-- An envelope of success that does not tell what was asked for denies nothing. -/
theorem Holds.exits (hholds : reply.Holds envelope) (hsucceeded : envelope.succeeded = true) :
    reply.Exits denial 1 := by
  obtain ⟨status, body, rfl, -⟩ := id hholds
  refine .unusable (fun code hdenies => ?_) nofun nofun
  obtain ⟨other, hother, hrefused, -⟩ := hdenies
  rw [← hholds.unique hother, hsucceeded] at hrefused
  exact absurd hrefused nofun

end Reply

namespace Session

variable {endpoint : Url} {action : String} {account : Account} {error : ApiError}

/-! ### Questions -/

theorem receive_eq_ok_iff_holds :
    receive endpoint action reply = .ok envelope ↔ reply.Holds envelope :=
  receive_eq_ok_iff

theorem exits_of_text {url : String} (hdenies : ∀ code, ¬reply.Denies code)
    (htext : reply.text url action = .error error) :
    error.code? = none ∧ reply.Exits denial (Failure.ofApi error).exitCode := by
  cases reply with
  | answered status body =>
    rw [Reply.text] at htext
    split at htext
    · obtain rfl := Except.error.inj htext
      exact ⟨rfl, .unusable hdenies (by simp) (by simp)⟩
    · exact absurd htext (by simp)
  | cutShort status =>
    rw [Reply.text] at htext
    split at htext
    · obtain rfl := Except.error.inj htext
      exact ⟨rfl, .unusable hdenies (by simp) (by simp)⟩
    · split at htext
      · exact absurd htext (by simp)
      · obtain rfl := Except.error.inj htext
        exact ⟨rfl, .unusable hdenies (by simp) (by simp)⟩
  | closed =>
    obtain rfl := Except.error.inj htext
    exact ⟨rfl, .unusable hdenies (by simp) (by simp)⟩
  | timedOut =>
    obtain rfl := Except.error.inj htext
    exact ⟨rfl, .timedOut rfl⟩
  | unreachable =>
    obtain rfl := Except.error.inj htext
    exact ⟨rfl, .unreachable rfl⟩

/-- Without an envelope there is no code of the provider. -/
theorem exits_of_receive (hreceive : receive endpoint action reply = .error error) :
    error.code? = none ∧ reply.Exits denial (Failure.ofApi error).exitCode := by
  have hdenies : ∀ code, ¬reply.Denies code := by
    rintro code ⟨envelope, hholds, -⟩
    rw [receive_eq_ok_iff_holds.2 hholds] at hreceive
    exact absurd hreceive (by simp)
  rcases bind_eq_error_iff.1 hreceive with htext | ⟨text, htext, hread⟩
  · exact exits_of_text hdenies htext
  · rw [readEnvelope] at hread
    split at hread
    · exact absurd hread (by simp)
    · obtain rfl := Except.error.inj hread
      refine ⟨rfl, .unusable hdenies ?_ ?_⟩
      · rintro rfl
        simp [Reply.text] at htext
      · rintro rfl
        simp [Reply.text] at htext

/-- The exit code for a denial to tell of a domain: one code says that there is no such domain. -/
def questionDenied (code : Int) : Nat :=
  if code = 5029 then 4 else 1

theorem exitCode_denied (domain action message : String) (code : Int) :
    (Failure.ofSync (.ofApiFor domain (.refused action code message))).exitCode =
      questionDenied code := by
  by_cases hcode : code = SyncError.unmanagedDomain
  · subst hcode
    rfl
  · have hmanaged : (ApiError.refused action code message).code? ≠ some SyncError.unmanagedDomain :=
      fun heq => hcode (Option.some.inj heq)
    rw [SyncError.ofApiFor, if_neg hmanaged, questionDenied]
    exact (if_neg hcode).symm

theorem exits_of_read {asked : Call} {decode : Json → Except DecodeError α}
    (hread : read endpoint asked decode reply = .error error) (domain : String) :
    reply.Exits questionDenied (Failure.ofSync (.ofApiFor domain error)).exitCode := by
  rcases bind_eq_error_iff.1 hread with hchecked | ⟨envelope, hchecked, hdata⟩
  · rcases bind_eq_error_iff.1 hchecked with hreceive | ⟨envelope, hreceive, hrefused⟩
    · obtain ⟨hcode, hexits⟩ := exits_of_receive hreceive
      rw [SyncError.ofApiFor, if_neg (by simp [hcode])]
      exact hexits
    · have hholds := receive_eq_ok_iff_holds.1 hreceive
      rw [ensureSuccess] at hrefused
      split at hrefused
      · exact absurd hrefused (by simp)
      · next hsucceeded =>
        obtain rfl := Except.error.inj hrefused
        rw [exitCode_denied]
        exact .denied ⟨envelope, hholds, eq_false_of_ne_true hsucceeded, rfl⟩
  · obtain ⟨held, hreceive, hsucceeded⟩ := bind_eq_ok_iff.1 hchecked
    obtain ⟨hsucceeded, rfl⟩ := ensureSuccess_eq_ok_iff.1 hsucceeded
    rw [decodeData] at hdata
    split at hdata
    · exact absurd hdata (by simp)
    · obtain rfl := Except.error.inj hdata
      exact (receive_eq_ok_iff_holds.1 hreceive).exits hsucceeded

/-! ### Logins -/

/-- A login that is refused has an exit code of its own, whatever the code of the provider is. -/
theorem exits_of_admitted
    (hlogin : (receive endpoint action reply).bind (admitted account) = .error error) :
    reply.Exits (fun _ => 3) (Failure.ofApi error).exitCode := by
  rcases bind_eq_error_iff.1 hlogin with hreceive | ⟨envelope, hreceive, hrefused⟩
  · exact (exits_of_receive hreceive).2
  · have hholds := receive_eq_ok_iff_holds.1 hreceive
    rw [admitted] at hrefused
    split at hrefused
    · next hsucceeded =>
      rw [decodeData] at hrefused
      split at hrefused
      · exact absurd hrefused (by simp)
      · obtain rfl := Except.error.inj hrefused
        exact hholds.exits hsucceeded
    · next hsucceeded =>
      obtain rfl := Except.error.inj hrefused
      have hdenies : reply.Denies envelope.code :=
        ⟨envelope, hholds, eq_false_of_ne_true hsucceeded, rfl⟩
      exact .denied hdenies

end Session

/-! ### Data that break the rules -/

theorem RemoteZone.exitCode_of_toZone {told : RemoteZone} {records : List RemoteRecord}
    {error : SyncError} (herror : told.toZone records = .error error) :
    (Failure.ofSync error).exitCode = 1 := by
  obtain ⟨message, rfl⟩ : ∃ message, error = .conversion told.name message := by
    rcases bind_eq_error_iff.1 herror with hsettings | ⟨settings, hsettings, herror⟩
    · obtain ⟨message, hmessage, -⟩ :=
        @firstBreach_of_checkSettings told records error hsettings
      exact ⟨message, hmessage⟩
    · rcases bind_eq_error_iff.1 herror with hentries | ⟨entries, -, hdone⟩
      · obtain ⟨before, record, after, -, -, hrecord⟩ := exists_of_mapM_eq_error hentries
        obtain ⟨message, -, rfl⟩ := mapError_eq_error_iff.1 hrecord
        exact ⟨_, rfl⟩
      · exact absurd hdone nofun
  rfl

end ZoneSync
