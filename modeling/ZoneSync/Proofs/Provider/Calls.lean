import ZoneSync.Proofs.Dialogue
import ZoneSync.Proofs.Layout.Reading
import ZoneSync.Proofs.Provider.Held

/-!
# What calls send, and what they make of the replies

An open session sends one request for each call and takes exactly those replies for a success that
tell of data: an answer of success with a readable envelope of success around readable data. For all
other replies the call fails, whatever is wrong with them. A login goes the same way and opens the
session only if it was told an identifier.
-/

namespace ZoneSync

variable {α : Type} {reply : Reply} {decode : Json → Except DecodeError α}

/-- The reply tells of no data. -/
def Reply.Fails (reply : Reply) (decode : Json → Except DecodeError α) : Prop :=
  ∀ data, ¬reply.Tells decode data

namespace Session

variable {endpoint : Url} {action : String} {envelope : Envelope} {data : α}

/-! ### Reading replies -/

theorem parse?_empty : Envelope.parse? "" = none := by
  have hform : Json.Form.parse? "" = none := by decide +kernel
  rw [Envelope.parse?, Decode.Shape.parse?, hform]
  rfl

theorem readEnvelope_eq_ok_iff {text : String} :
    readEnvelope text = .ok envelope ↔ Envelope.parse? text = some envelope := by
  rw [readEnvelope]
  cases Envelope.parse? text <;> simp

theorem decodeData_eq_ok_iff :
    decodeData decode action envelope = .ok data ↔ decode envelope.data = .ok data := by
  rw [decodeData]
  cases decode envelope.data <;> simp

theorem ensureSuccess_eq_ok_iff {checked : Envelope} :
    ensureSuccess action envelope = .ok checked ↔
      envelope.succeeded = true ∧ checked = envelope := by
  rw [ensureSuccess]
  cases envelope.succeeded <;> simp [eq_comm]

/-- An answer without a body holds no envelope. -/
theorem receive_eq_ok_iff :
    receive endpoint action reply = .ok envelope ↔
      ∃ status body, reply = .answered status body ∧ Reply.isSuccess status = true ∧
        Reply.isBodiless status = false ∧ Envelope.parse? body = some envelope := by
  rw [receive, bind_eq_ok_iff]
  simp only [readEnvelope_eq_ok_iff]
  constructor
  · rintro ⟨text, htext, hparse⟩
    have hne : text ≠ "" := fun hempty => by
      rw [hempty, parse?_empty] at hparse
      exact absurd hparse (by simp)
    cases reply with
    | answered status body =>
      rw [Reply.text] at htext
      split at htext
      · exact absurd htext (by simp)
      · next hsuccess =>
        split at htext
        · exact absurd (Except.ok.inj htext).symm hne
        · next hbody =>
          rw [← Except.ok.inj htext] at hparse
          exact ⟨status, body, rfl, by simpa using hsuccess, by simpa using hbody, hparse⟩
    | cutShort status =>
      rw [Reply.text] at htext
      split at htext
      · exact absurd htext (by simp)
      · split at htext
        · exact absurd (Except.ok.inj htext).symm hne
        · exact absurd htext (by simp)
    | _ => exact absurd htext (by simp [Reply.text])
  · rintro ⟨status, body, rfl, hsuccess, hbody, hparse⟩
    exact ⟨body, by simp [Reply.text, hsuccess, hbody], hparse⟩

/-- A call succeeds exactly for the replies that tell of data, with these data. -/
theorem read_eq_ok_iff {asked : Call} :
    read endpoint asked decode reply = .ok data ↔ reply.Tells decode data := by
  constructor
  · intro hread
    obtain ⟨checked, hread, hdata⟩ := bind_eq_ok_iff.1 hread
    obtain ⟨envelope, hreceive, hchecked⟩ := bind_eq_ok_iff.1 hread
    obtain ⟨hsucceeded, rfl⟩ := ensureSuccess_eq_ok_iff.1 hchecked
    obtain ⟨status, body, rfl, hsuccess, hbody, hparse⟩ := receive_eq_ok_iff.1 hreceive
    exact ⟨status, body, _, rfl, hsuccess, hbody, hparse, hsucceeded,
      decodeData_eq_ok_iff.1 hdata⟩
  · exact read_of_tells

theorem tells_unique {other : α} (hdata : reply.Tells decode data)
    (hother : reply.Tells decode other) : data = other := by
  obtain ⟨_, _, first, rfl, -, -, hfirst, -, hdecode⟩ := hdata
  obtain ⟨_, _, second, heq, -, -, hsecond, -, hagain⟩ := hother
  obtain ⟨rfl, rfl⟩ := Reply.answered.inj heq
  have hsame : first = second := Option.some.inj (hfirst.symm.trans hsecond)
  rw [← hsame, hdecode] at hagain
  exact Except.ok.inj hagain

/-- A call fails for all other replies. -/
theorem read_cases (endpoint : Url) (asked : Call) (decode : Json → Except DecodeError α)
    (reply : Reply) :
    (∃ data, reply.Tells decode data ∧ read endpoint asked decode reply = .ok data) ∨
      reply.Fails decode ∧ ∃ error, read endpoint asked decode reply = .error error := by
  cases hread : read endpoint asked decode reply with
  | ok data => exact Or.inl ⟨data, read_eq_ok_iff.1 hread, rfl⟩
  | error error =>
    refine Or.inr ⟨fun data htells => ?_, error, rfl⟩
    rw [read_of_tells htells] at hread
    exact absurd hread (by simp)

/-! ### Calls -/

variable {session : Session} {id : String} {exchanges : List Exchange}

/-- A call within the session, and the reply to it. -/
def exchange (session : Session) (id : String) (asked : Call) (reply : Reply) : Exchange :=
  ⟨⟨session.endpoint, .call session.account id asked⟩, reply⟩

theorem ends_query {asked : Call} {result : Except ApiError α} (hopen : session.id = some id)
    (hweb : session.endpoint.isWeb = true) :
    (session.query asked decode).Ends exchanges result →
      ∃ reply, exchanges = [session.exchange id asked reply] ∧
        ((∃ data, reply.Tells decode data ∧ result = .ok data) ∨
          reply.Fails decode ∧ ∃ error, result = .error error) := by
  rw [query_eq_ask hopen hweb, Dialogue.ends_ask_iff]
  rintro ⟨reply, rest, rfl, hrest⟩
  obtain ⟨rfl, rfl⟩ := Dialogue.ends_done_iff.1 hrest
  exact ⟨reply, rfl, read_cases ..⟩

/-! ### Opening and closing -/

theorem admitted_eq_ok_iff {account : Account} :
    (receive endpoint "login" reply).bind (admitted account) = .ok id ↔
      reply.Tells decodeSession id := by
  have hadmitted : ∀ envelope : Envelope, admitted account envelope = .ok id ↔
      envelope.succeeded = true ∧ decodeSession envelope.data = .ok id := by
    intro envelope
    rw [admitted]
    cases envelope.succeeded <;> simp [decodeData_eq_ok_iff]
  constructor
  · intro hlogin
    obtain ⟨envelope, hreceive, hid⟩ := bind_eq_ok_iff.1 hlogin
    obtain ⟨status, body, rfl, hsuccess, hbody, hparse⟩ := receive_eq_ok_iff.1 hreceive
    exact ⟨status, body, envelope, rfl, hsuccess, hbody, hparse, (hadmitted envelope).1 hid⟩
  · rintro ⟨status, body, envelope, rfl, hsuccess, hbody, hparse, hid⟩
    exact bind_eq_ok_iff.2 ⟨envelope, receive_eq_ok_iff.2 ⟨status, body, rfl, hsuccess, hbody,
      hparse⟩, (hadmitted envelope).2 hid⟩

/-- The login of the session, and the reply to it. -/
def opening (session : Session) (reply : Reply) : Exchange :=
  ⟨⟨session.endpoint, .login session.account⟩, reply⟩

theorem ends_post {message : Message} {answer : Except ApiError Envelope}
    (hends : (session.post message).Ends exchanges answer) :
    session.endpoint.isWeb = false ∧ exchanges = [] ∧ (∃ error, answer = .error error) ∨
      session.endpoint.isWeb = true ∧ ∃ reply, exchanges = [⟨⟨session.endpoint, message⟩, reply⟩] ∧
        answer = receive session.endpoint message.action reply := by
  rw [post] at hends
  split at hends
  · next hweb =>
    obtain ⟨reply, rest, rfl, hrest⟩ := Dialogue.ends_ask_iff.1 hends
    obtain ⟨rfl, rfl⟩ := Dialogue.ends_done_iff.1 hrest
    exact Or.inr ⟨hweb, reply, rfl, rfl⟩
  · next hweb =>
    obtain ⟨rfl, rfl⟩ := Dialogue.ends_done_iff.1 hends
    exact Or.inl ⟨eq_false_of_ne_true hweb, rfl, _, rfl⟩

/-- Without an identifier, or with an endpoint off the web, a call sends nothing and fails. -/
theorem ends_query_unsent {asked : Call} {result : Except ApiError α}
    (hclosed : session.id = none ∨ session.endpoint.isWeb = false)
    (hends : (session.query asked decode).Ends exchanges result) :
    exchanges = [] ∧ ∃ error, result = .error error := by
  obtain ⟨first, rest, answer, rfl, hcall, hrest⟩ := Dialogue.ends_bind_iff.1 hends
  obtain ⟨rfl, rfl⟩ := Dialogue.ends_done_iff.1 hrest
  have hunsent : first = [] ∧ ∃ error, answer = .error error := by
    rw [call] at hcall
    cases hid : session.id with
    | none =>
      rw [hid] at hcall
      obtain ⟨rfl, rfl⟩ := Dialogue.ends_done_iff.1 hcall
      exact ⟨rfl, _, rfl⟩
    | some id =>
      rw [hid] at hcall
      obtain ⟨sent, last, reply, rfl, hpost, hlast⟩ := Dialogue.ends_bind_iff.1 hcall
      obtain ⟨rfl, rfl⟩ := Dialogue.ends_done_iff.1 hlast
      rcases ends_post hpost with ⟨-, rfl, error, rfl⟩ | ⟨hweb, -⟩
      · exact ⟨rfl, error, rfl⟩
      · rcases hclosed with hnone | hoff
        · exact absurd (hid.symm.trans hnone) (by simp)
        · exact absurd (hweb.symm.trans hoff) (by simp)
  obtain ⟨rfl, error, rfl⟩ := hunsent
  exact ⟨rfl, error, rfl⟩

/-- A login sends one request, if the endpoint can be asked at all, and one that fails changes
nothing. -/
theorem ends_login {result : Except ApiError Unit × Session}
    (hends : session.login.Ends exchanges result) :
    session.endpoint.isWeb = false ∧ exchanges = [] ∧ (∃ error, result = (.error error, session)) ∨
      session.endpoint.isWeb = true ∧ ∃ reply, exchanges = [session.opening reply] ∧
        ((∃ id, reply.Tells decodeSession id ∧
            result = (.ok (), { session with id := some id })) ∨
          reply.Fails decodeSession ∧ ∃ error, result = (.error error, session)) := by
  obtain ⟨first, rest, answer, rfl, hpost, hrest⟩ := Dialogue.ends_bind_iff.1 hends
  split at hrest
  · next id hanswer =>
    obtain ⟨rfl, rfl⟩ := Dialogue.ends_done_iff.1 hrest
    rcases ends_post hpost with ⟨-, -, error, rfl⟩ | ⟨hweb, reply, rfl, rfl⟩
    · exact absurd hanswer (by simp [Except.bind])
    · exact Or.inr ⟨hweb, reply, rfl, Or.inl ⟨id, admitted_eq_ok_iff.1 hanswer, rfl⟩⟩
  · next error hanswer =>
    obtain ⟨rfl, rfl⟩ := Dialogue.ends_done_iff.1 hrest
    rcases ends_post hpost with ⟨hweb, rfl, -⟩ | ⟨hweb, reply, rfl, rfl⟩
    · exact Or.inl ⟨hweb, rfl, error, rfl⟩
    · refine Or.inr ⟨hweb, reply, rfl, Or.inr ⟨fun id htells => ?_, error, rfl⟩⟩
      rw [show Message.action (.login session.account) = "login" from rfl,
        admitted_eq_ok_iff.2 htells] at hanswer
      exact absurd hanswer (by simp)

theorem ends_logout {result : Except ApiError Unit × Session} (hopen : session.id = some id)
    (hweb : session.endpoint.isWeb = true) (hends : session.logout.Ends exchanges result) :
    ∃ reply, exchanges = [session.exchange id .logout reply] := by
  rw [logout, call, hopen] at hends
  obtain ⟨first, rest, answer, rfl, hcall, hrest⟩ := Dialogue.ends_bind_iff.1 hends
  obtain ⟨rfl, -⟩ := Dialogue.ends_done_iff.1 hrest
  obtain ⟨exchanges, rest, reply, rfl, hpost, hrest⟩ := Dialogue.ends_bind_iff.1 hcall
  obtain ⟨rfl, -⟩ := Dialogue.ends_done_iff.1 hrest
  rcases ends_post hpost with ⟨hoff, -⟩ | ⟨-, reply, rfl, -⟩
  · exact absurd (hweb.symm.trans hoff) (by decide)
  · exact ⟨reply, rfl⟩

end Session

end ZoneSync
